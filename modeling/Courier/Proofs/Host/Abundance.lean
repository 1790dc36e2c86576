import Mathlib
import Courier.Proofs.Host.Completeness
import Courier.Proofs.Peer.Packet
import Courier.Proofs.Pool.Abundance

/-! # Hosts with room for everything

In a host whose pool has room for all envelopes of a stock, an operation loses nothing. What
becomes known of a peer that the network serves was received from it, or is handed over in that
operation, or is expired.
-/

namespace Courier

variable {Secret Public : Type}

/-- Whether a move offers nothing but envelopes of a stock and takes nothing out of the pool. -/
def Move.FromStock (stock : Finset Envelope) : Move → Prop
  | .offer envelope _ => envelope ∈ stock
  | .note .. | .sweep => False
  | _ => True

namespace Host

variable {policy : PoolPolicy} {stock : Finset Envelope} {host : Host} {network : Network}
  {now finish : UInt64} {clock : Move → UInt64} {m : Move} {peer : PeerId}

theorem move_stocked (ample : policy.Ample stock) (h : host.pool.Stocked policy stock now)
    (network : Network) (fromStock : m.FromStock stock) :
    (host.move network now m).pool.Stocked policy stock now ∧
      ∀ envelope ∈ host.pool.envelopes, envelope ∈ (host.move network now m).pool.envelopes := by
  rw [move_pool]
  cases m with
  | offer envelope =>
      obtain ⟨stocked, keeps, -⟩ := h.insert ample fromStock
      exact ⟨stocked, keeps⟩
  | note | sweep => exact fromStock.elim
  | attach | detach | announce | fill | hear | flush | rewatch => exact ⟨h, fun _ held => held⟩

/-- After moves that lose nothing, everything offered that the policy accepts is held, unless it is
expired. -/
theorem moveAll_stocked (ample : policy.Ample stock) (h : host.pool.Stocked policy stock now)
    (network : Network) {moves : List Move} (fromStock : ∀ m ∈ moves, m.FromStock stock)
    (orderly : (now :: (moves.map clock ++ [finish])).Pairwise (· ≤ ·)) :
    (host.moveAll network clock moves).pool.Stocked policy stock finish ∧
      (∀ envelope ∈ host.pool.envelopes,
        envelope ∈ (host.moveAll network clock moves).pool.envelopes) ∧
      ∀ envelope source, .offer envelope source ∈ moves →
        policy.Accepts (clock (.offer envelope source)) envelope →
        envelope.isExpired finish = true ∨
          envelope ∈ (host.moveAll network clock moves).pool.envelopes := by
  induction moves generalizing host now with
  | nil =>
      exact ⟨h.later (List.rel_of_pairwise_cons orderly List.mem_cons_self), fun _ held => held,
        nofun⟩
  | cons m rest ih =>
      obtain ⟨le, orderly⟩ := List.pairwise_cons.1 orderly
      have here := fromStock m List.mem_cons_self
      have ticked := h.later (le (clock m) List.mem_cons_self)
      obtain ⟨stocked, keeps⟩ := move_stocked ample ticked network here
      obtain ⟨stocked', keeps', taken⟩ :=
        ih stocked (fun m member => fromStock m (List.mem_cons_of_mem _ member)) orderly
      refine ⟨stocked', fun envelope held => keeps' envelope (keeps envelope held), ?_⟩
      intro envelope source member accepts
      rcases List.mem_cons.1 member with rfl | later
      · refine ((ticked.insert ample here).2.2 accepts).imp (Envelope.isExpired_mono ?_) fun held =>
          keeps' envelope ?_
        · exact List.rel_of_pairwise_cons orderly (by simp)
        · rw [move_pool]
          exact held
      · exact taken envelope source later accepts

end Host

namespace Session

variable {policy : PoolPolicy} {stock : Finset Envelope} {host : Host} {session : Session}
  {network : Network} {now : UInt64} {m : Move} {peer : PeerId} {heard : List Hash}

/-- What holds while an operation is made of moves that lose nothing. Only what was `heard` counts
as received from the peer. -/
structure Thriving (policy : PoolPolicy) (stock : Finset Envelope) (network : Network)
    (now : UInt64) (peer : PeerId) (heard : List Hash) (session : Session) (host : Host) :
    Prop where
  stocked : host.pool.Stocked policy stock now
  /-- Everything that waits for the peer is held. -/
  backed : ∀ hash ∈ host.queueFor peer, hash ∈ host.pool.hashes
  gone : session.gone = []
  stale : ∀ envelope ∈ session.stale, envelope ∈ stock
  received : ∀ hash ∈ session.received, hash ∈ heard
  verdict : ∀ handover ∈ host.outbox,
    ∃ earlier, handover.taken = network earlier handover.peer handover.packet
  sent : ∀ handover ∈ host.outbox, ∀ envelope ∈ handover.packet.contents,
    envelope ∈ host.pool.envelopes

namespace Thriving

theorem later {later : UInt64} (h : session.Thriving policy stock network now peer heard host)
    (le : now ≤ later) : session.Thriving policy stock network later peer heard host :=
  { h with stocked := h.stocked.later le }

theorem backed_of_move (h : session.Thriving policy stock network now peer heard host)
    (ample : policy.Ample stock) (fromStock : m.FromStock stock) :
    ∀ hash ∈ (host.move network now m).queueFor peer,
      hash ∈ (host.move network now m).pool.hashes := by
  obtain ⟨stocked, keeps⟩ := Host.move_stocked ample h.stocked network fromStock
  have stays : ∀ hash ∈ host.pool.hashes, hash ∈ (host.move network now m).pool.hashes := by
    intro hash held
    rw [h.stocked.wellFormed.hashes_eq] at held
    rw [stocked.wellFormed.hashes_eq]
    exact List.map_subset _ keeps held
  intro hash queued
  by_cases flushed : m = .flush peer
  · subst flushed
    rw [Host.move_flush_idle] at queued
    cases queued
  · by_cases detached : m = .detach peer
    · subst detached
      rw [Host.queueFor_of_absent (Host.move_detach_peer? network now host peer)] at queued
      cases queued
    · cases connected : host.peer? peer with
      | none =>
          rcases Host.move_peer?_none connected network now m with absent | ⟨-, new⟩
          · rw [Host.queueFor_of_absent absent] at queued
            cases queued
          · rw [Host.queueFor_of_peer? new] at queued
            cases queued
      | some state =>
          obtain ⟨after, added, connected', grows, held⟩ :=
            Host.move_grows connected network now flushed detached
          rw [Host.queueFor_of_peer? connected', grows.queue] at queued
          rcases List.mem_append.1 queued with old | new
          · exact stays hash (h.backed hash (Host.queueFor_of_peer? connected ▸ old))
          · refine (held hash new).2.resolve_left ?_
            rintro ⟨source, rfl⟩
            exact fromStock

theorem move (h : session.Thriving policy stock network now peer heard host)
    (ample : policy.Ample stock) (fromStock : m.FromStock stock)
    (hears : ∀ hash ∈ m.receivedFrom peer, hash ∈ heard) :
    (session.next peer now host m (host.move network now m)).Thriving policy stock network now
      peer heard (host.move network now m) := by
  obtain ⟨stocked, keeps⟩ := Host.move_stocked ample h.stocked network fromStock
  have backed := h.backed_of_move ample fromStock
  have outbox := Host.move_outbox network now host m
  have verdict : ∀ handover ∈ (host.move network now m).outbox,
      ∃ earlier, handover.taken = network earlier handover.peer handover.packet := by
    intro handover member
    rw [outbox] at member
    rcases List.mem_append.1 member with old | new
    · exact h.verdict handover old
    · exact (Host.mem_handedBy h.stocked.wellFormed new).1
  have sent : ∀ handover ∈ (host.move network now m).outbox,
      ∀ envelope ∈ handover.packet.contents,
        envelope ∈ (host.move network now m).pool.envelopes := by
    intro handover member envelope part
    rw [outbox] at member
    rcases List.mem_append.1 member with old | new
    · exact keeps envelope (h.sent handover old envelope part)
    · exact keeps envelope ((Host.mem_handedBy h.stocked.wellFormed new).2 envelope part)
  by_cases connected : host.peer? peer = none ∨ (host.move network now m).peer? peer = none
  · rw [next_of_not_connected connected]
    exact ⟨stocked, backed, rfl, by simp [blank], by simp [blank], verdict, sent⟩
  · rw [not_or, ← ne_eq, ← ne_eq, Option.ne_none_iff_exists', Option.ne_none_iff_exists']
      at connected
    obtain ⟨⟨state, connected⟩, after, connected'⟩ := connected
    by_cases flushed : m = .flush peer
    · subst flushed
      rw [next_flush connected]
      have held := h.backed
      rw [Host.queueFor_of_peer? connected] at held
      have none : (state.queue.filter fun hash => (host.pool.lookup hash).isNone) = [] := by
        rw [List.filter_eq_nil_iff]
        intro hash queued
        have contains := Pool.contains_iff.2 (held hash queued)
        simp only [Pool.lookup, Option.isNone_map, Option.isNone_iff_eq_none]
        exact fun missing => by simp [Pool.contains, missing] at contains
      refine ⟨stocked, backed, ?_, ?_, h.received, verdict, sent⟩
      · simp only [h.gone, none, List.append_nil]
      · intro envelope member
        rcases List.mem_append.1 member with old | new
        · exact h.stale envelope old
        · obtain ⟨-, hash, found⟩ := Host.mem_staleQueued new
          exact h.stocked.within envelope (h.stocked.wellFormed.lookup_eq_some.1 found).2
    · have notDetach : m ≠ .detach peer := by
        rintro rfl
        cases (Host.move_detach_peer? network now host peer).symm.trans connected'
      obtain ⟨grown, added, same, grows, -⟩ :=
        Host.move_grows connected network now flushed notDetach
      rw [next_of_grows connected same grows flushed]
      refine ⟨stocked, backed, h.gone, h.stale, ?_, verdict, sent⟩
      intro hash member
      rcases List.mem_append.1 member with old | new
      · exact h.received hash old
      · exact hears hash new

end Thriving

/-- The session that counts everything that is known of a peer as received from it. -/
def resume (host : Host) (peer : PeerId) : Session :=
  { blank with received := ((host.peer? peer).map (·.known)).getD [] }

theorem Ordered.resume (idle : host.queueFor peer = []) :
    (Session.resume host peer).Ordered peer host where
  known := fun _ _ hash member => by cases member
  distinct := List.nodup_nil
  order := by
    rw [idle]
    exact List.Sublist.refl _
  sound := fun delivery member => by cases member
  logged := List.nil_suffix

theorem Accounted.resume (idle : host.queueFor peer = []) (now : UInt64) :
    (Session.resume host peer).Accounted peer now host where
  known := by
    intro state connected hash known
    left
    rw [Session.resume, connected]
    exact known
  settled := by
    rw [idle]
    exact .refl _
  expired := fun envelope member => by cases member

theorem Thriving.resume (stocked : host.pool.Stocked policy stock now)
    (idle : host.queueFor peer = []) (quiet : host.outbox = [])
    (hears : ∀ hash ∈ (Session.resume host peer).received, hash ∈ heard) :
    (Session.resume host peer).Thriving policy stock network now peer heard host where
  stocked := stocked
  backed := by simp [idle]
  gone := rfl
  stale := fun envelope member => by cases member
  received := hears
  verdict := by simp [quiet]
  sent := by simp [quiet]

end Session

namespace Host

variable {policy : PoolPolicy} {stock : Finset Envelope} {host : Host} {network : Network}
  {now : UInt64} {peer : PeerId} {suite : Suite Secret Public}
  {operation : HostOperation Secret Public}

theorem perform_resumed (ample : policy.Ample stock) (stocked : host.pool.Stocked policy stock now)
    (idle : host.queueFor peer = []) (quiet : host.outbox = []) (network : Network)
    (prompt : operation.Prompt) (orderly : (operation.readings now).Pairwise (· ≤ ·))
    (fromStock : ∀ m ∈ host.movesOf suite now operation, m.FromStock stock) :
    ∃ session : Session, session.Ordered peer (host.perform suite network now operation) ∧
      session.Thriving policy stock network (operation.finish now) peer
        ((Session.resume host peer).received ++
          (host.movesOf suite now operation).flatMap (·.receivedFrom peer))
        (host.perform suite network now operation) ∧
      (network.Serves peer → session.Accounted peer (operation.finish now)
        (host.perform suite network now operation)) := by
  let moves := host.movesOf suite now operation
  let heard := (Session.resume host peer).received ++ moves.flatMap (·.receivedFrom peer)
  have performed : (followMoves network (operation.clock now) peer host (.resume host peer)
      moves).1 = host.perform suite network now operation := by
    rw [followMoves_fst, ← perform_eq]
  have kept := followMoves_timed network peer moves (movesOf_inOrder orderly suite host)
    (fun now host session => session.Ordered peer host ∧
      session.Thriving policy stock network now peer heard host ∧
      (network.Serves peer → session.Accounted peer now host))
    (fun now later host session le ⟨ordered, thriving, accounted⟩ =>
      ⟨ordered, thriving.later le, fun serves => (accounted serves).later le⟩)
    (fun now host session m member ⟨ordered, thriving, accounted⟩ =>
      ⟨ordered.move thriving.stocked.wellFormed network now m,
        thriving.move ample (fromStock m member) fun hash received =>
          List.mem_append_right _ (List.mem_flatMap_of_mem member received),
        fun serves => (accounted serves).move thriving.stocked.wellFormed serves
          (Session.Complete.marksFor_of_mem_movesOf prompt member)⟩)
    ⟨.resume idle, .resume stocked idle quiet fun hash => List.mem_append_left _,
      fun _ => .resume idle now⟩
  rw [performed] at kept
  exact ⟨_, kept⟩

/-- What is known of a peer after an operation that loses nothing was known before, comes from the
peer, is handed over and taken, or is expired. -/
theorem perform_known (ample : policy.Ample stock) (stocked : host.pool.Stocked policy stock now)
    (idle : host.queueFor peer = []) (quiet : host.outbox = []) (serves : network.Serves peer)
    (prompt : operation.Prompt) (orderly : (operation.readings now).Pairwise (· ≤ ·))
    (fromStock : ∀ m ∈ host.movesOf suite now operation, m.FromStock stock) {state : PeerState}
    (connected : (host.perform suite network now operation).peer? peer = some state)
    {envelope : Envelope} (inStock : envelope ∈ stock) (known : envelope.hash ∈ state.known) :
    (∃ before, host.peer? peer = some before ∧ envelope.hash ∈ before.known) ∨
    (∃ m ∈ host.movesOf suite now operation, envelope.hash ∈ m.receivedFrom peer) ∨
    (∃ handover ∈ (host.perform suite network now operation).outbox, handover.peer = peer ∧
      handover.taken = true ∧ envelope ∈ handover.packet.contents) ∨
    envelope.isExpired (operation.finish now) = true := by
  obtain ⟨session, ordered, thriving, accounted⟩ :=
    perform_resumed ample stocked idle quiet network prompt orderly fromStock
  have accounted := accounted serves
  have settled := accounted.settled
  rw [perform_idle prompt suite network now idle, List.append_nil, thriving.gone,
    List.nil_append] at settled
  rcases accounted.known state connected _ known with received | queued
  · rcases List.mem_append.1 (thriving.received _ received) with before | here
    · left
      cases found : host.peer? peer with
      | none => simp [Session.resume, found] at before
      | some earlier => exact ⟨earlier, rfl, by simpa [Session.resume, found] using before⟩
    · exact .inr (.inl (List.mem_flatMap.1 here))
  · rcases List.mem_append.1 (settled.mem_iff.2 queued) with handed | stale
    · right; right; left
      obtain ⟨delivery, made, part⟩ := List.mem_flatMap.1 handed
      obtain ⟨other, inside, same⟩ := List.mem_map.1 part
      have logged := ordered.logged.subset (List.mem_map_of_mem made)
      obtain ⟨handover, member, addressee, packet⟩ := mem_messagesTo.1 logged
      have carried : other ∈ handover.packet.contents := by rwa [packet]
      have held := thriving.sent handover member other carried
      obtain ⟨earlier, verdict⟩ := thriving.verdict handover member
      refine ⟨handover, member, addressee, ?_, ?_⟩
      · rw [verdict, addressee]
        exact serves earlier _
      · rwa [← ample.distinct other (thriving.stocked.within other held) envelope inStock same]
    · right; right; right
      obtain ⟨other, member, same⟩ := List.mem_map.1 stale
      rw [← ample.distinct other (thriving.stale other member) envelope inStock same]
      exact accounted.expired other member

/-- What holds of a host between operations. -/
structure AtRest (policy : PoolPolicy) (stock : Finset Envelope) (now : UInt64) (host : Host) :
    Prop where
  stocked : host.pool.Stocked policy stock now
  sync : host.settings.syncOnConnect = true
  idle : ∀ peer, host.queueFor peer = []
  informed : ∀ peer, host.Informed peer

/-- What an operation does to a host at rest that has room for everything, when the given
envelopes come from a peer. -/
structure Advances (policy : PoolPolicy) (stock : Finset Envelope) (network : Network)
    (now : UInt64) (source : PeerId) (incoming : List Envelope) (before after : Host) : Prop where
  rest : after.AtRest policy stock now
  keeps : ∀ envelope ∈ before.pool.envelopes,
    envelope.isExpired now = true ∨ envelope ∈ after.pool.envelopes
  takes : before.isConnected source = true → ∀ envelope ∈ incoming,
    policy.Accepts now envelope →
      envelope.isExpired now = true ∨ envelope ∈ after.pool.envelopes
  sent : ∀ handover ∈ after.outbox, ∀ envelope ∈ handover.packet.contents,
    envelope ∈ after.pool.envelopes
  known : ∀ peer state, network.Serves peer → after.peer? peer = some state →
    ∀ envelope ∈ stock, envelope.hash ∈ state.known →
      (∃ state, before.peer? peer = some state ∧ envelope.hash ∈ state.known) ∨
      (peer = source ∧ envelope ∈ incoming) ∨
      (∃ handover ∈ after.outbox, handover.peer = peer ∧ handover.taken = true ∧
        envelope ∈ handover.packet.contents) ∨
      envelope.isExpired now = true

theorem AtRest.fresh {settings : HostSettings} (sync : settings.syncOnConnect = true)
    (rule : EvictionRule) : (Host.fresh settings policy rule).AtRest policy stock now where
  stocked := .empty policy rule stock now
  sync := sync
  idle := fun _ => rfl
  informed := fun _ => nofun

theorem AtRest.later {later : UInt64} (h : host.AtRest policy stock now) (le : now ≤ later) :
    host.AtRest policy stock later := { h with stocked := h.stocked.later le }

theorem AtRest.emptied (h : host.AtRest policy stock now) :
    ({ host with outbox := [] } : Host).AtRest policy stock now :=
  ⟨h.stocked, h.sync, h.idle, h.informed⟩

theorem perform_advances (ample : policy.Ample stock) (h : host.AtRest policy stock now)
    (quiet : host.outbox = []) (network : Network) (operation : HostOperation Secret Public)
    (prompt : operation.Prompt) (orderly : (operation.readings now).Pairwise (· ≤ ·))
    (fromStock : ∀ m ∈ host.movesOf suite now operation, m.FromStock stock) {source : PeerId}
    {incoming : List Envelope}
    (origin : ∀ envelope sender, .offer envelope (some sender) ∈ host.movesOf suite now operation →
      sender = source ∧ envelope ∈ incoming)
    (offered : host.isConnected source = true → ∀ envelope ∈ incoming,
      ∃ sender, .offer envelope sender ∈ host.movesOf suite now operation ∧
        operation.clock now (.offer envelope sender) = operation.finish now) :
    Advances policy stock network (operation.finish now) source incoming host
      (host.perform suite network now operation) := by
  obtain ⟨stocked, keeps, takes⟩ :=
    moveAll_stocked ample h.stocked network fromStock (movesOf_inOrder orderly suite host)
  rw [← perform_eq] at stocked keeps takes
  refine ⟨⟨stocked, ?_, fun peer => perform_idle prompt suite network now (h.idle peer),
    fun peer => perform_informed h.sync (h.informed peer) h.stocked.wellFormed suite network now
      operation⟩, fun envelope held => .inr (keeps envelope held), ?_, ?_, ?_⟩
  · rw [perform_settings]
    exact h.sync
  · intro connected envelope member accepts
    obtain ⟨sender, offer, last⟩ := offered connected envelope member
    exact takes envelope sender offer (last ▸ accepts)
  · obtain ⟨_, -, thriving, -⟩ :=
      perform_resumed ample h.stocked (h.idle source) quiet network prompt orderly fromStock
    exact thriving.sent
  · intro peer state serves connected envelope inStock known
    refine (perform_known ample h.stocked (h.idle peer) quiet serves prompt orderly fromStock
      connected inStock known).imp_right (Or.imp_left ?_)
    rintro ⟨m, member, received⟩
    obtain ⟨other, rfl, same⟩ := Move.mem_receivedFrom.1 received
    obtain ⟨rfl, incoming⟩ := origin other peer member
    exact ⟨rfl, ample.distinct other (fromStock _ member) envelope inStock same ▸ incoming⟩

namespace AtRest

theorem connect (ample : policy.Ample stock) (h : host.AtRest policy stock now)
    (quiet : host.outbox = []) (suite : Suite Secret Public) (network : Network)
    (peer source : PeerId) :
    Advances policy stock network now source [] host
      (host.perform suite network now (.connect peer)) := by
  have only : ∀ m ∈ host.movesOf suite now (.connect peer),
      m = .attach peer ∨ m = .announce peer ∨ m = .fill peer ∨ m = .flush peer :=
    fun m member => mem_movesOf member
  refine perform_advances ample h quiet network (.connect peer) trivial
    (List.pairwise_singleton ..) ?_ ?_ (by simp)
  · intro m member
    rcases only m member with rfl | rfl | rfl | rfl <;> trivial
  · intro envelope sender member
    simpa using only _ member

theorem disconnect (ample : policy.Ample stock) (h : host.AtRest policy stock now)
    (quiet : host.outbox = []) (suite : Suite Secret Public) (network : Network)
    (peer source : PeerId) :
    Advances policy stock network now source [] host
      (host.perform suite network now (.disconnect peer)) := by
  have only : ∀ m ∈ host.movesOf suite now (.disconnect peer), m = .detach peer :=
    fun m member => mem_movesOf member
  refine perform_advances ample h quiet network (.disconnect peer) trivial
    (List.pairwise_singleton ..) ?_ ?_ (by simp)
  · intro m member
    rw [only m member]
    trivial
  · intro envelope sender member
    cases only _ member

theorem post (ample : policy.Ample stock) (h : host.AtRest policy stock now)
    (quiet : host.outbox = []) (suite : Suite Secret Public) (network : Network)
    {request : PostRequest Secret Public} {chance : Chance Secret}
    (admitted : now ≤ chance.admission) (flushed : chance.admission ≤ chance.flush)
    (composed : ∀ envelope, compose suite now request chance = .ok envelope → envelope ∈ stock)
    (source : PeerId) :
    Advances policy stock network chance.flush source [] host
      (host.perform suite network now (.post request chance)) := by
  have only : ∀ m ∈ host.movesOf suite now (.post request chance),
      (∃ envelope, m = .offer envelope none ∧ compose suite now request chance = .ok envelope) ∨
        ∃ peer, m = .flush peer := fun m member => mem_movesOf member
  have orderly : [now, chance.admission, chance.flush].Pairwise (· ≤ ·) := by
    simp [admitted, flushed, UInt64.le_trans admitted flushed]
  refine perform_advances ample h quiet network (.post request chance) trivial orderly ?_ ?_
    (by simp)
  · intro m member
    rcases only m member with ⟨envelope, rfl, made⟩ | ⟨peer, rfl⟩
    · exact composed envelope made
    · trivial
  · intro envelope sender member
    simpa using only _ member

theorem receive (ample : policy.Ample stock) (h : host.AtRest policy stock now)
    (quiet : host.outbox = []) (suite : Suite Secret Public) (network : Network) (source : PeerId)
    {bytes : Bytes} {packet : Packet} (read : Packet.decode bytes = .ok packet.received)
    (inStock : ∀ envelope ∈ packet.contents, envelope ∈ stock) :
    Advances policy stock network now source packet.contents host
      (host.perform suite network now (.receive source bytes)) := by
  have only : ∀ m ∈ host.movesOf suite now (.receive source bytes),
      (∃ version, m = .hear source version) ∨
      (∃ envelope ∈ packet.contents, m = .offer envelope (some source)) ∨
        ∃ peer, m = .flush peer := by
    intro m member
    rcases mem_movesOf member with heard | ⟨envelope, items, offered, same, part⟩ | flushed
    · exact .inl heard
    · cases packet with
      | status version => cases read.symm.trans same
      | messages envelopes =>
          cases read.symm.trans same
          obtain ⟨sent, inPacket, wrapped⟩ := List.mem_map.1 part
          cases wrapped
          exact .inr (.inl ⟨envelope, inPacket, offered⟩)
    · exact .inr (.inr flushed)
  refine perform_advances ample h quiet network (.receive source bytes) trivial
    (List.pairwise_singleton ..) ?_ ?_ ?_
  · intro m member
    rcases only m member with ⟨version, rfl⟩ | ⟨envelope, part, rfl⟩ | ⟨peer, rfl⟩
    · trivial
    · exact inStock envelope part
    · trivial
  · intro envelope sender member
    rcases only _ member with ⟨version, heard⟩ | ⟨other, part, offered⟩ | ⟨peer, flushed⟩
    · cases heard
    · cases offered
      exact ⟨rfl, part⟩
    · cases flushed
  · intro connected envelope part
    refine ⟨some source, ?_, rfl⟩
    rw [movesOf, if_pos connected, read]
    cases packet with
    | status version => cases part
    | messages envelopes =>
        exact List.mem_append_left _
          (List.mem_filterMap.2 ⟨.ok envelope, List.mem_map_of_mem part, rfl⟩)

theorem housekeeping (h : host.AtRest policy stock now) (quiet : host.outbox = [])
    (suite : Suite Secret Public) (network : Network) (source : PeerId) :
    Advances policy stock network now source [] host
      (host.perform suite network now .housekeeping) := by
  obtain ⟨stocked, keeps⟩ := h.stocked.purgeExpired now
  have silent : (host.perform suite network now .housekeeping).outbox = [] := quiet
  refine ⟨⟨stocked, h.sync, h.idle, fun peer => perform_informed h.sync (h.informed peer)
    h.stocked.wellFormed suite network now .housekeeping⟩, keeps, fun _ => nofun, ?_, ?_⟩
  · rw [silent]
    exact nofun
  · exact fun peer state _ connected envelope _ known => .inl ⟨state, connected, known⟩

end AtRest

end Host

end Courier

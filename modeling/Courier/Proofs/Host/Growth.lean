import Mathlib
import Courier.Proofs.Host.Session

/-! # What a move does to one connection

While a peer stays connected its queue grows at the end by hashes that were not known of it, or
is emptied by a flush. Everything that is known of it was known before, is queued by the move or
is noted by it.
-/

namespace Courier

/-- A peer's state grows: hashes that it did not know are added to the queue, and others are
marked as known. -/
structure PeerState.Grows (before after : PeerState) (added marked : List Hash) : Prop where
  queue : after.queue = before.queue ++ added
  distinct : added.Nodup
  fresh : ∀ hash ∈ added, hash ∉ before.known
  known : ∀ hash, hash ∈ after.known ↔ hash ∈ before.known ∨ hash ∈ added ∨ hash ∈ marked

namespace PeerState.Grows

variable {state : PeerState}

theorem refl (state : PeerState) : state.Grows state [] [] where
  queue := (List.append_nil _).symm
  distinct := List.nodup_nil
  fresh := by simp
  known := by simp

theorem trans {middle after : PeerState} {added added' marked marked' : List Hash}
    (h : state.Grows middle added marked) (h' : middle.Grows after added' marked') :
    state.Grows after (added ++ added') (marked ++ marked') where
  queue := by rw [h'.queue, h.queue, List.append_assoc]
  distinct := by
    refine List.nodup_append.2 ⟨h.distinct, h'.distinct, ?_⟩
    rintro hash member _ member' rfl
    exact h'.fresh hash member' ((h.known hash).2 (.inr (.inl member)))
  fresh := by
    intro hash member
    rcases List.mem_append.1 member with member | member
    · exact h.fresh hash member
    · exact fun known => h'.fresh hash member ((h.known hash).2 (.inl known))
  known := by
    intro hash
    rw [h'.known, h.known, List.mem_append, List.mem_append]
    tauto

theorem markKnown (state : PeerState) (hash : Hash) :
    state.Grows (state.markKnown hash) [] [hash] := by
  unfold PeerState.markKnown
  split
  · rename_i known
    exact ⟨(List.append_nil _).symm, List.nodup_nil, by simp, by simp_all⟩
  · exact ⟨(List.append_nil _).symm, List.nodup_nil, by simp, by simp⟩

theorem enqueue (state : PeerState) (hash : Hash) :
    ∃ added, state.Grows (state.enqueue hash).1 added [] ∧
      hash ∈ (state.enqueue hash).1.known ∧ ∀ other ∈ added, other = hash := by
  unfold PeerState.enqueue
  split
  · rename_i known
    exact ⟨[], refl state, known, by simp⟩
  · rename_i unknown
    exact ⟨[hash], ⟨rfl, List.nodup_singleton hash, by simpa using unknown, by simp⟩, by simp,
      by simp⟩

theorem enqueueAll (state : PeerState) (hashes : List Hash) :
    ∃ added, state.Grows (hashes.foldl (fun state hash => (state.enqueue hash).1) state) added [] ∧
      (∀ hash ∈ hashes,
        hash ∈ (hashes.foldl (fun state hash => (state.enqueue hash).1) state).known) ∧
      ∀ hash ∈ added, hash ∈ hashes := by
  induction hashes generalizing state with
  | nil => exact ⟨[], refl state, by simp, by simp⟩
  | cons first rest ih =>
      obtain ⟨added, grows, known, only⟩ := enqueue state first
      obtain ⟨added', grows', known', among⟩ := ih (state.enqueue first).1
      refine ⟨added ++ added', grows.trans grows', ?_, ?_⟩
      · intro hash member
        rcases List.mem_cons.1 member with rfl | later
        · exact (grows'.known hash).2 (.inl known)
        · exact known' hash later
      · intro hash member
        rcases List.mem_append.1 member with here | there
        · exact only hash here ▸ List.mem_cons_self
        · exact List.mem_cons_of_mem _ (among hash there)

end PeerState.Grows

/-- Whether a move may put something into the queue of a peer. -/
def Move.QueuesFor (peer : PeerId) : Move → Prop
  | .fill other => peer = other
  | .offer .. | .note .. => True
  | _ => False

namespace Host

variable {host : Host} {peer : PeerId} {state : PeerState} {network : Network} {now : UInt64}
  {m : Move}

theorem move_peer?_none (absent : host.peer? peer = none) (network : Network) (now : UInt64)
    (m : Move) :
    (host.move network now m).peer? peer = none ∨
      m = .attach peer ∧ (host.move network now m).peer? peer = some .initial := by
  cases m with
  | announce | sweep | rewatch => exact .inl absent
  | hear other version =>
      left
      rw [move, updatePeer_peer?, absent, Option.map_none]
  | fill other =>
      left
      rw [move, enqueueAll_peer?, absent, Option.map_none]
  | note hash source =>
      left
      rw [move, noteAccepted_peer?, absent, Option.map_none]
  | offer envelope source =>
      left
      rw [move, inject_peer?, absent, Option.map_none]
  | flush other =>
      left
      rw [move, flush_peer?, absent, Option.map_none]
  | detach other =>
      left
      rw [move, disconnect_peer?, absent, ite_self]
  | attach other =>
      rw [move]
      split
      · exact .inl absent
      · rw [peer?] at absent ⊢
        simp only [notePeers, List.lookup_append, absent, Option.none_or, List.lookup_cons,
          List.lookup_nil]
        by_cases same : peer = other
        · subst same
          exact .inr ⟨rfl, by rw [beq_self_eq_true]⟩
        · exact .inl (by rw [beq_false_of_ne same])

/-- Only a flush and a detachment do not let a connection grow. What is queued is held, unless it
is noted from outside. -/
theorem move_grows (connected : host.peer? peer = some state) (network : Network) (now : UInt64)
    (notFlush : m ≠ .flush peer) (notDetach : m ≠ .detach peer) :
    ∃ after added, (host.move network now m).peer? peer = some after ∧
      state.Grows after added (m.marksFor peer) ∧
      ∀ hash ∈ added, m.QueuesFor peer ∧
        ((∃ source, m = .note hash source) ∨ hash ∈ (host.move network now m).pool.hashes) := by
  cases m with
  | announce | sweep | rewatch => exact ⟨state, [], connected, .refl state, by simp⟩
  | attach other =>
      refine ⟨state, [], ?_, .refl state, by simp⟩
      rw [move]
      split
      · exact connected
      · rw [peer?] at connected ⊢
        simp only [notePeers, List.lookup_append, connected, Option.some_or]
  | detach other =>
      have ne : peer ≠ other := fun same => notDetach (same ▸ rfl)
      refine ⟨state, [], ?_, .refl state, by simp⟩
      rw [move, disconnect_peer?, if_neg ne, connected]
  | flush other =>
      have ne : peer ≠ other := fun same => notFlush (same ▸ rfl)
      refine ⟨state, [], ?_, .refl state, by simp⟩
      rw [move, flush_peer?, connected, Option.map_some, if_neg ne]
  | hear other version =>
      rw [move, updatePeer_peer?, connected, Option.map_some]
      refine ⟨_, [], rfl, ?_, by simp⟩
      split
      · exact ⟨(List.append_nil _).symm, List.nodup_nil, by simp, by simp [PeerState.setVersion,
          Move.marksFor]⟩
      · exact .refl state
  | fill other =>
      rw [move, enqueueAll_peer?, connected, Option.map_some]
      by_cases same : peer = other
      · obtain ⟨added, grows, -, among⟩ := PeerState.Grows.enqueueAll state host.pool.hashes
        refine ⟨_, added, rfl, ?_, fun hash member => ⟨same, .inr (among hash member)⟩⟩
        simpa only [if_pos same, Move.marksFor] using grows
      · refine ⟨_, [], rfl, ?_, by simp⟩
        simpa only [if_neg same, Move.marksFor] using .refl state
  | note hash source =>
      rw [move, noteAccepted_peer?, connected, Option.map_some]
      by_cases same : some peer = source
      · subst same
        refine ⟨_, [], rfl, ?_, by simp⟩
        simpa only [if_true, Move.marksFor] using .markKnown state hash
      · obtain ⟨added, grows, -, only⟩ := PeerState.Grows.enqueue state hash
        have unmarked : (Move.note hash source).marksFor peer = [] := by
          cases source with
          | none => rfl
          | some sender => exact if_neg fun equal => same (congrArg some equal.symm)
        refine ⟨_, added, rfl, ?_, fun other member => ⟨trivial, .inl ⟨source, ?_⟩⟩⟩
        · simpa only [if_neg same, unmarked] using grows
        · rw [only other member]
  | offer envelope source =>
      rw [move_pool, move, inject_peer?, connected, Option.map_some]
      by_cases same : some peer = source
      · subst same
        refine ⟨_, [], rfl, ?_, by simp⟩
        cases outcome : (host.pool.insert now envelope).2 with
        | rejected reason => simpa only [if_true, Move.marksFor] using .markKnown state _
        | accepted hash =>
            have accepted := Pool.insert_accepted outcome
            subst accepted
            simpa only [if_true, Move.marksFor] using .markKnown state _
      · have unmarked : (Move.offer envelope source).marksFor peer = [] := by
          cases source with
          | none => rfl
          | some sender => exact if_neg fun equal => same (congrArg some equal.symm)
        cases outcome : (host.pool.insert now envelope).2 with
        | rejected reason =>
            refine ⟨_, [], rfl, ?_, by simp⟩
            simpa only [if_neg same, unmarked] using .refl state
        | accepted hash =>
            obtain ⟨added, grows, -, only⟩ := PeerState.Grows.enqueue state hash
            refine ⟨_, added, rfl, ?_, fun other member => ⟨trivial, .inr ?_⟩⟩
            · simpa only [if_neg same, unmarked] using grows
            · rw [only other member]
              exact Pool.mem_hashes_of_accepted outcome

/-- After an offer that is accepted every peer is known to have the envelope, or to be about to
get it. -/
theorem move_offer_known {envelope : Envelope} {source : Option PeerId} {hash : Hash}
    (accepted : (host.pool.insert now envelope).2 = .accepted hash) (network : Network)
    (connected : (host.move network now (.offer envelope source)).peer? peer = some state) :
    hash ∈ state.known := by
  rw [move, inject_peer?, accepted] at connected
  obtain ⟨before, -, rfl⟩ := Option.map_eq_some_iff.1 connected
  simp only
  split
  · exact ((PeerState.Grows.markKnown before hash).known hash).2 (by simp)
  · exact (PeerState.Grows.enqueue before hash).choose_spec.2.1

theorem move_fill_known (network : Network)
    (connected : (host.move network now (.fill peer)).peer? peer = some state) {hash : Hash}
    (held : hash ∈ host.pool.hashes) : hash ∈ state.known := by
  rw [move, enqueueAll_peer?] at connected
  obtain ⟨before, -, rfl⟩ := Option.map_eq_some_iff.1 connected
  rw [if_pos rfl]
  exact (PeerState.Grows.enqueueAll before host.pool.hashes).choose_spec.2.1 hash held

theorem messagesTo_append (peer : PeerId) (first rest : List Handover) :
    messagesTo peer (first ++ rest) = messagesTo peer first ++ messagesTo peer rest :=
  List.filterMap_append

theorem mem_messagesTo {handed : List Handover} {envelopes : List Envelope} :
    envelopes ∈ messagesTo peer handed ↔
      ∃ handover ∈ handed, handover.peer = peer ∧ handover.packet = .messages envelopes := by
  rw [messagesTo, List.mem_filterMap]
  refine exists_congr fun handover => and_congr_right fun _ => ?_
  cases handover.packet with
  | status version => simp
  | messages batch => by_cases same : handover.peer = peer <;> simp [same]

theorem messagesTo_of_forall {handed : List Handover}
    (all : ∀ handover ∈ handed, handover.peer = peer) {envelopes : List (List Envelope)}
    (packets : handed.map (·.packet) = envelopes.map Packet.messages) :
    messagesTo peer handed = envelopes := by
  induction handed generalizing envelopes with
  | nil => exact (List.map_eq_nil_iff.1 packets.symm).symm
  | cons handover rest ih =>
      cases envelopes with
      | nil => cases packets
      | cons batch batches =>
          obtain ⟨same, later⟩ := List.cons.inj packets
          have here := all handover List.mem_cons_self
          have there := ih (fun other member => all other (List.mem_cons_of_mem _ member)) later
          rw [← there]
          refine List.filterMap_cons_some ?_
          simp only [same, if_pos here]

theorem messagesTo_handovers (network : Network) (peer : PeerId) (outbox : List Handover)
    (envelopes : List (List Envelope)) :
    messagesTo peer (handovers network peer outbox envelopes) <+: envelopes := by
  have packets := handovers_packets network peer outbox envelopes
  have taken := List.prefix_iff_eq_take.1 packets
  rw [← List.map_take] at taken
  rw [messagesTo_of_forall (fun handover => handovers_peer) taken]
  exact List.take_prefix _ _

theorem messagesTo_handovers_of_serves (serves : network.Serves peer) (outbox : List Handover)
    (envelopes : List (List Envelope)) :
    messagesTo peer (handovers network peer outbox envelopes) = envelopes := by
  refine messagesTo_of_forall (fun handover => handovers_peer) ?_
  rw [handovers_of_serves serves, List.map_map]
  rfl

/-- What a move hands over to the network. -/
def handedBy (network : Network) (now : UInt64) (host : Host) : Move → List Handover
  | .announce peer =>
    let packet : Packet := .status host.settings.protocolVersion
    [⟨peer, packet, network host.outbox peer packet⟩]
  | .flush peer => handovers network peer host.outbox (host.packing now (host.queueFor peer))
  | _ => []

theorem queueFor_of_peer? (connected : host.peer? peer = some state) :
    host.queueFor peer = state.queue := by
  rw [queueFor, connected]
  rfl

theorem queueFor_of_absent (absent : host.peer? peer = none) : host.queueFor peer = [] := by
  rw [queueFor, absent]
  rfl

theorem queueFor_of_new (new : host.peer? peer = none ∨ host.peer? peer = some .initial) :
    host.queueFor peer = [] := by
  rcases new with absent | attached
  · exact queueFor_of_absent absent
  · exact queueFor_of_peer? attached

theorem packing_nil (host : Host) (now : UInt64) : host.packing now [] = [] := by
  simp [packing, liveQueued, batches]

theorem move_outbox (network : Network) (now : UInt64) (host : Host) (m : Move) :
    (host.move network now m).outbox = host.outbox ++ host.handedBy network now m := by
  cases m with
  | hear | fill | note | sweep | rewatch => exact (List.append_nil _).symm
  | announce other => rfl
  | detach other => exact (disconnect_outbox host other).trans (List.append_nil _).symm
  | offer envelope source =>
      exact (inject_outbox host now envelope source).trans (List.append_nil _).symm
  | attach other =>
      rw [move]
      split <;> exact (List.append_nil _).symm
  | flush other =>
      cases found : host.peer? other with
      | none =>
          rw [move, flush_absent found, handedBy, queueFor_of_absent found, packing_nil, handovers,
            List.append_nil]
      | some state =>
          obtain ⟨metrics, flushed⟩ := flush_fst found network now
          rw [move, handedBy, queueFor_of_peer? found]
          exact congrArg Host.outbox flushed

/-- Only a flush of its queue hands over envelopes for a peer. -/
theorem messagesTo_handedBy (network : Network) (now : UInt64) (host : Host)
    (notFlush : m ≠ .flush peer) : messagesTo peer (host.handedBy network now m) = [] := by
  cases m with
  | attach | detach | announce | fill | hear | offer | note | sweep | rewatch => rfl
  | flush other =>
      have ne : other ≠ peer := fun same => notFlush (same ▸ rfl)
      rw [messagesTo, handedBy, List.filterMap_eq_nil_iff]
      intro handover member
      rw [handovers_peer member]
      split
      · exact if_neg ne
      · rfl

theorem mem_handedBy (wellFormed : host.pool.WellFormed) {handover : Handover}
    (member : handover ∈ host.handedBy network now m) :
    (∃ earlier, handover.taken = network earlier handover.peer handover.packet) ∧
      ∀ envelope ∈ handover.packet.contents, envelope ∈ host.pool.residents.map (·.envelope) := by
  cases m with
  | attach | detach | fill | hear | offer | note | sweep | rewatch => cases member
  | announce other =>
      rw [handedBy, List.mem_singleton] at member
      subst member
      exact ⟨⟨_, rfl⟩, nofun⟩
  | flush other =>
      refine ⟨handovers_verdict member, ?_⟩
      intro envelope part
      have packed := (handovers_packets network other host.outbox
        (host.packing now (host.queueFor other))).subset (List.mem_map_of_mem member)
      obtain ⟨batch, inPacking, same⟩ := List.mem_map.1 packed
      rw [← same] at part
      have whole := List.mem_flatten_of_mem inPacking part
      rw [packing, flatten_batches] at whole
      obtain ⟨hash, -, found, -⟩ := mem_liveQueued.1 whole
      exact (wellFormed.lookup_eq_some.1 found).2

theorem not_connected_both {after : Host}
    (absent : host.peer? peer = none ∨ after.peer? peer = none) :
    ¬ (host.isConnected peer && after.isConnected peer) = true := by
  rw [Bool.and_eq_true, isConnected, isConnected]
  rintro ⟨before, behind⟩
  rcases absent with absent | absent <;> simp_all

theorem move_detach_peer? (network : Network) (now : UInt64) (host : Host) (peer : PeerId) :
    (host.move network now (.detach peer)).peer? peer = none := by
  rw [move, disconnect_peer?, if_pos rfl]

theorem move_flush_peer? (connected : host.peer? peer = some state) (network : Network)
    (now : UInt64) :
    (host.move network now (.flush peer)).peer? peer = some state.takeQueue.1 := by
  rw [move, flush_peer?, connected, Option.map_some, if_pos rfl]

end Host

namespace Session

variable {host after : Host} {session : Session} {peer : PeerId} {state : PeerState}
  {network : Network} {now : UInt64} {m : Move}

theorem next_of_not_connected (absent : host.peer? peer = none ∨ after.peer? peer = none) :
    session.next peer now host m after = blank := if_neg (Host.not_connected_both absent)

theorem next_of_grows {grown : PeerState} {added marked : List Hash}
    (connected : host.peer? peer = some state)
    (connected' : (host.move network now m).peer? peer = some grown)
    (grows : state.Grows grown added marked) (notFlush : m ≠ .flush peer) :
    session.next peer now host m (host.move network now m) = { session with
      queued := session.queued ++ added
      received := session.received ++ m.receivedFrom peer } := by
  have kept : (state.queue.filter fun hash => hash ∉ state.queue ++ added) = [] := by
    rw [List.filter_eq_nil_iff]
    intro hash member
    simp [member]
  rw [next, if_pos (by simp [Host.isConnected, connected, connected'])]
  simp only [Host.queueFor_of_peer? connected, Host.queueFor_of_peer? connected', grows.queue,
    Host.move_outbox, List.drop_left, Host.messagesTo_handedBy network now host notFlush, kept,
    List.map_nil, List.filter_nil, List.append_nil, Host.staleQueued, List.filterMap_nil]

theorem next_flush (connected : host.peer? peer = some state) :
    session.next peer now host (.flush peer) (host.move network now (.flush peer)) =
      { session with
        deliveries := session.deliveries ++
          (messagesTo peer
            (Host.handovers network peer host.outbox (host.packing now state.queue))).map
              fun envelopes => ⟨host.pool, now, envelopes⟩
        gone := session.gone ++ state.queue.filter fun hash => (host.pool.lookup hash).isNone
        stale := session.stale ++ host.staleQueued now state.queue } := by
  have emptied := Host.move_flush_peer? connected network now
  rw [next, if_pos (by simp [Host.isConnected, connected, emptied])]
  simp only [Host.queueFor_of_peer? connected, Host.queueFor_of_peer? emptied,
    PeerState.takeQueue, Host.move_outbox, Host.handedBy, List.drop_left, List.drop_nil,
    List.append_nil, Move.receivedFrom, List.not_mem_nil, not_false_eq_true, decide_true,
    List.filter_true]

/-- A session ends or has not begun, its queue is flushed, or its connection grows. -/
theorem next_cases (session : Session) (peer : PeerId) (host : Host) (network : Network)
    (now : UInt64) (m : Move) :
    (session.next peer now host m (host.move network now m) = blank ∧
      ((host.move network now m).peer? peer = none ∨
        (host.move network now m).peer? peer = some .initial)) ∨
    (m = .flush peer ∧ ∃ state, host.peer? peer = some state) ∨
    (m ≠ .flush peer ∧ ∃ state grown added, host.peer? peer = some state ∧
      (host.move network now m).peer? peer = some grown ∧
      state.Grows grown added (m.marksFor peer) ∧
      (∀ hash ∈ added, (∃ source, m = .note hash source) ∨
        hash ∈ (host.move network now m).pool.hashes) ∧
      session.next peer now host m (host.move network now m) = { session with
        queued := session.queued ++ added
        received := session.received ++ m.receivedFrom peer }) := by
  cases connected : host.peer? peer with
  | none =>
      refine .inl ⟨next_of_not_connected (.inl connected), ?_⟩
      exact (Host.move_peer?_none connected network now m).imp_right And.right
  | some state =>
      by_cases detached : m = .detach peer
      · have absent : (host.move network now m).peer? peer = none := by
          rw [detached, Host.move_detach_peer?]
        exact .inl ⟨next_of_not_connected (.inr absent), .inl absent⟩
      · by_cases flushed : m = .flush peer
        · exact .inr (.inl ⟨flushed, state, rfl⟩)
        · obtain ⟨grown, added, connected', grows, held⟩ :=
            Host.move_grows connected network now flushed detached
          exact .inr (.inr ⟨flushed, state, grown, added, rfl, connected', grows,
            fun hash member => (held hash member).2,
            next_of_grows connected connected' grows flushed⟩)

end Session

end Courier

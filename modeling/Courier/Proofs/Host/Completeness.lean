import Mathlib
import Courier.Proofs.Host.Eviction
import Courier.Proofs.Host.Flooding

/-! # What a peer misses

Over a network that takes everything, each hash queued for a peer is handed over, unless the pool
has lost its envelope before the queue is flushed or the envelope is expired by then. Such a
hash stays known, so that the envelope is not queued for the peer again when it comes back.
-/

namespace Courier

variable {Secret Public : Type}

namespace Host

variable {host : Host} {now : UInt64}

/-- A flush settles every hash of the queue in one of three ways. -/
theorem queue_perm (wellFormed : host.pool.WellFormed) (now : UInt64) (queue : List Hash) :
    ((host.liveQueued now queue).map (·.hash) ++
      ((queue.filter fun hash => (host.pool.lookup hash).isNone) ++
        (host.staleQueued now queue).map (·.hash))).Perm queue := by
  induction queue with
  | nil => exact .refl _
  | cons hash rest ih =>
      unfold liveQueued staleQueued at ih ⊢
      cases found : host.pool.lookup hash with
      | none =>
          rw [List.filterMap_cons_none found, List.filter_cons_of_pos (by simp [found])]
          exact List.perm_middle.trans (ih.cons hash)
      | some envelope =>
          have same : envelope.hash = hash := (wellFormed.lookup_eq_some.1 found).1
          rw [List.filterMap_cons_some found]
          cases expired : envelope.isExpired now with
          | true =>
              simp only [List.filter_cons, found, expired, Option.isNone_some, Bool.not_true,
                Bool.false_eq_true, if_false, if_true, List.map_cons, same]
              rw [← List.append_assoc]
              refine List.perm_middle.trans (.cons hash ?_)
              rw [List.append_assoc]
              exact ih
          | false =>
              simp only [List.filter_cons, found, expired, Option.isNone_some, Bool.not_false,
                Bool.false_eq_true, if_false, if_true, List.map_cons, same]
              exact ih.cons hash

theorem mem_staleQueued {queue : List Hash} {envelope : Envelope}
    (member : envelope ∈ host.staleQueued now queue) :
    envelope.isExpired now = true ∧ ∃ hash, host.pool.lookup hash = some envelope := by
  obtain ⟨found, expired⟩ := List.mem_filter.1 member
  obtain ⟨hash, -, held⟩ := List.mem_filterMap.1 found
  exact ⟨expired, hash, held⟩

end Host

namespace Session

variable {host : Host} {session : Session} {peer : PeerId} {state : PeerState}
  {network : Network} {now : UInt64} {m : Move}

/-- Where everything that is known of a peer comes from, and where everything that was queued for
it went. -/
structure Accounted (session : Session) (peer : PeerId) (now : UInt64) (host : Host) : Prop where
  known : ∀ state, host.peer? peer = some state → ∀ hash,
    hash ∈ state.known → hash ∈ session.received ∨ hash ∈ session.queued
  settled : (session.handed ++ (session.gone ++
    (session.stale.map (·.hash) ++ host.queueFor peer))).Perm session.queued
  expired : ∀ envelope ∈ session.stale, envelope.isExpired now = true

namespace Accounted

theorem start (h : host.peer? peer = none ∨ host.peer? peer = some .initial) (now : UInt64) :
    Session.blank.Accounted peer now host where
  known := by
    intro state connected hash known
    rcases h with h | h
    · cases h.symm.trans connected
    · cases h.symm.trans connected
      cases known
  settled := by
    rw [Host.queueFor_of_new h]
    exact .refl _
  expired := by simp [blank]

theorem later {now' : UInt64} (h : session.Accounted peer now host) (le : now ≤ now') :
    session.Accounted peer now' host where
  known := h.known
  settled := h.settled
  expired := fun envelope member => Envelope.isExpired_mono le (h.expired envelope member)

theorem flush (h : session.Accounted peer now host) (wellFormed : host.pool.WellFormed)
    (serves : network.Serves peer) (connected : host.peer? peer = some state) :
    (session.next peer now host (.flush peer) (host.move network now (.flush peer))).Accounted
      peer now (host.move network now (.flush peer)) := by
  rw [next_flush connected, Host.messagesTo_handovers_of_serves serves]
  have emptied := Host.move_flush_peer? connected network now
  refine ⟨?_, ?_, ?_⟩
  · intro after connected' hash known
    cases emptied.symm.trans connected'
    exact h.known state connected hash known
  · have split := Host.queue_perm wellFormed now state.queue
    have settled := h.settled
    rw [Host.queueFor_of_peer? connected] at settled
    rw [Host.queueFor_of_peer? emptied, handed_append, Host.packing, Host.flatten_batches]
    rw [List.perm_iff_count] at split settled ⊢
    intro hash
    have here := split hash
    have there := settled hash
    simp only [List.count_append, List.map_append, PeerState.takeQueue, List.count_nil,
      handed] at here there ⊢
    omega
  · intro envelope member
    rcases List.mem_append.1 member with old | new
    · exact h.expired envelope old
    · exact (Host.mem_staleQueued new).1

theorem move (h : session.Accounted peer now host) (wellFormed : host.pool.WellFormed)
    (serves : network.Serves peer) (open_ : m.marksFor peer = m.receivedFrom peer) :
    (session.next peer now host m (host.move network now m)).Accounted peer now
      (host.move network now m) := by
  rcases session.next_cases peer host network now m with
    ⟨ended, new⟩ | ⟨rfl, state, connected⟩ |
      ⟨-, state, after, added, connected, connected', grows, -, next⟩
  · rw [ended]
    exact start new now
  · exact h.flush wellFormed serves connected
  · rw [next]
    have settled := h.settled
    rw [Host.queueFor_of_peer? connected] at settled
    refine ⟨?_, ?_, h.expired⟩
    · intro other same hash known
      cases connected'.symm.trans same
      rcases (grows.known hash).1 known with old | new | marked
      · exact (h.known state connected hash old).imp (List.mem_append_left _)
          (List.mem_append_left _)
      · exact .inr (List.mem_append_right _ new)
      · exact .inl (List.mem_append_right _ (open_ ▸ marked))
    · rw [Host.queueFor_of_peer? connected', grows.queue]
      rw [List.perm_iff_count] at settled ⊢
      intro hash
      have here := settled hash
      simp only [List.count_append, handed] at here ⊢
      omega

end Accounted

/-- What holds of a session between operations that flush at once what they queue. -/
structure Complete (session : Session) (peer : PeerId) (now : UInt64) (host : Host) : Prop where
  wellFormed : host.pool.WellFormed
  idle : host.queueFor peer = []
  informed : host.Informed peer
  ordered : session.Ordered peer host
  accounted : session.Accounted peer now host

namespace Complete

theorem fresh (settings : HostSettings) (policy : PoolPolicy) (rule : EvictionRule)
    (peer : PeerId) (now : UInt64) :
    Session.blank.Complete peer now (Host.fresh settings policy rule) where
  wellFormed := .empty policy rule
  idle := rfl
  informed := nofun
  ordered := .start (.inl rfl)
  accounted := .start (.inl rfl) now

variable {suite : Suite Secret Public} {operation : HostOperation Secret Public}

theorem marksFor_of_mem_movesOf (prompt : operation.Prompt)
    (member : m ∈ host.movesOf suite now operation) : m.marksFor peer = m.receivedFrom peer := by
  cases m with
  | note hash source => exact absurd rfl (Host.ne_note_of_mem_movesOf prompt member hash source)
  | offer envelope source => cases source <;> rfl
  | attach | detach | announce | fill | hear | flush | sweep | rewatch => rfl

theorem perform (h : session.Complete peer now host)
    (sync : host.settings.syncOnConnect = true) (prompt : operation.Prompt)
    (serves : network.Serves peer) (suite : Suite Secret Public)
    (orderly : (operation.readings now).Pairwise (· ≤ ·)) :
    let followed := Host.followMoves network (operation.clock now) peer host session
      (host.movesOf suite now operation)
    followed.2.Complete peer (operation.finish now) followed.1 := by
  intro followed
  have performed : followed.1 = host.perform suite network now operation := by
    rw [Host.followMoves_fst, ← Host.perform_eq]
  obtain ⟨wellFormed, ordered, accounted⟩ := Host.followMoves_timed network peer
    (host.movesOf suite now operation) (Host.movesOf_inOrder orderly suite host)
    (fun now host session => host.pool.WellFormed ∧ session.Ordered peer host ∧
      session.Accounted peer now host)
    (fun now later host session le kept => ⟨kept.1, kept.2.1, kept.2.2.later le⟩)
    (fun now host session m member kept =>
      ⟨Host.move_wellFormed kept.1 network now m, kept.2.1.move kept.1 network now m,
        kept.2.2.move kept.1 serves (marksFor_of_mem_movesOf prompt member)⟩)
    ⟨h.wellFormed, h.ordered, h.accounted⟩
  refine ⟨wellFormed, ?_, ?_, ordered, accounted⟩
  · rw [performed]
    exact Host.perform_idle prompt suite network now h.idle
  · rw [performed]
    exact Host.perform_informed sync h.informed h.wellFormed suite network now operation

theorem later {now' : UInt64} (h : session.Complete peer now host) (le : now ≤ now') :
    session.Complete peer now' host :=
  { h with accounted := h.accounted.later le }

theorem follow (h : session.Complete peer now host) (sync : host.settings.syncOnConnect = true)
    (serves : network.Serves peer) (suite : Suite Secret Public)
    {operations : List (UInt64 × HostOperation Secret Public)}
    (prompt : ∀ operation ∈ operations.map (·.2), operation.Prompt)
    (orderly : (now :: Host.readings operations).Pairwise (· ≤ ·)) {last : UInt64}
    (past : ∀ reading ∈ now :: Host.readings operations, reading ≤ last) :
    (Host.follow suite network peer host session operations).2.Complete peer last
      (Host.follow suite network peer host session operations).1 := by
  induction operations generalizing host session now with
  | nil => exact h.later (past now List.mem_cons_self)
  | cons first rest ih =>
      obtain ⟨began, operation⟩ := first
      obtain ⟨le, orderly⟩ := List.pairwise_cons.1 orderly
      obtain ⟨here, there, across⟩ := List.pairwise_append.1 orderly
      have starts := le began (List.mem_append_left _ (operation.mem_readings began))
      have ends := operation.finish_mem began
      have step := (h.later starts).perform sync (prompt operation List.mem_cons_self) serves suite
        here
      refine ih step ?_ ?_ ?_ ?_
      · rw [Host.followMoves_fst, Host.moveAll_settings]
        exact sync
      · exact fun operation member => prompt operation (List.mem_cons_of_mem _ member)
      · exact List.pairwise_cons.2 ⟨across _ ends, there⟩
      · refine List.forall_mem_cons.2 ⟨?_, fun reading member => ?_⟩
        · exact past _ (List.mem_cons_of_mem _ (List.mem_append_left _ ends))
        · exact past _ (List.mem_cons_of_mem _ (List.mem_append_right _ member))

/-- A peer misses what was queued for it and lost before it could be sent, and nothing else that
is held and alive. -/
theorem missed_iff (h : session.Complete peer now host) (connected : host.peer? peer = some state)
    {resident : Resident} (held : resident ∈ host.pool.residents) :
    ¬ (resident.hash ∈ session.received ∨ resident.hash ∈ session.handed) ↔
      resident.hash ∉ session.received ∧
        (resident.hash ∈ session.gone ∨ resident.hash ∈ session.stale.map (·.hash)) := by
  have settled := h.accounted.settled
  rw [h.idle, List.append_nil] at settled
  have distinct := settled.nodup_iff.2 h.ordered.distinct
  have known := h.informed state connected resident.hash (List.mem_map_of_mem held)
  have origin := h.accounted.known state connected resident.hash known
  rw [← settled.mem_iff, List.mem_append, List.mem_append] at origin
  constructor
  · rintro missed
    rw [not_or] at missed
    refine ⟨missed.1, ?_⟩
    exact (origin.resolve_left missed.1).resolve_left missed.2
  · rintro ⟨notReceived, lost⟩ (received | handed)
    · exact notReceived received
    · exact (List.nodup_append.1 distinct).2.2 _ handed _ (List.mem_append.2 lost) rfl

end Complete

end Session

namespace Host

/-- Over a network that takes everything, under a clock that does not go back, a connected peer
misses exactly what was queued for it and could not be sent: live envelopes that a full pool evicted
before, unless different envelopes have the same hash. -/
theorem run_misses (suite : Suite Secret Public) (settings : HostSettings) (policy : PoolPolicy)
    (rule : EvictionRule) (operations : List (UInt64 × HostOperation Secret Public))
    (peer : PeerId) (now : UInt64) (sync : settings.syncOnConnect = true)
    (prompt : ∀ operation ∈ operations.map (·.2), operation.Prompt)
    (orderly : (readings operations).Pairwise (· ≤ ·))
    (past : ∀ reading ∈ readings operations, reading ≤ now) :
    let host := (fresh settings policy rule).run suite .reliable operations
    let session := (follow suite .reliable peer (fresh settings policy rule) .blank operations).2
    let record := (HostRecord.fresh settings policy rule).run suite .reliable operations
    HostEvent.Crowded policy.maxMessages record.past ∧
    (host.isConnected peer = true → ∀ resident ∈ host.pool.residents,
      resident.envelope.isExpired now = false →
      host.peerKnows peer resident.hash = true ∧
      (¬ (resident.hash ∈ session.received ∨ resident.hash ∈ session.handed) ↔
        resident.hash ∉ session.received ∧
          (resident.hash ∈ session.gone ∨ resident.hash ∈ session.stale.map (·.hash))) ∧
      (resident.hash ∈ session.gone → .evicted resident.envelope ∈ record.past ∨
        ∃ other : Envelope, other ≠ resident.envelope ∧ other.hash = resident.hash) ∧
      (resident.hash ∈ session.stale.map (·.hash) →
        ∃ other : Envelope, other ≠ resident.envelope ∧ other.hash = resident.hash)) := by
  intro host session record
  refine ⟨HostRecord.run_crowded suite .reliable settings policy rule operations, ?_⟩
  intro connected resident held live
  have same : (follow suite .reliable peer (fresh settings policy rule) .blank operations).1 =
      host := follow_fst ..
  have complete : session.Complete peer now host := by
    rw [← same]
    refine (Session.Complete.fresh settings policy rule peer 0).follow sync
      (Network.reliable_serves peer) suite prompt ?_ ?_
    · exact List.pairwise_cons.2 ⟨fun reading _ => UInt64.zero_le, orderly⟩
    · exact List.forall_mem_cons.2 ⟨UInt64.zero_le, past⟩
  -- an envelope that is expired is another one than the resident
  have differs : ∀ envelope : Envelope, envelope.isExpired now = true →
      envelope ≠ resident.envelope := by
    rintro envelope expired rfl
    cases expired.symm.trans live
  obtain ⟨state, found⟩ := isConnected_iff.1 connected
  refine ⟨?_, complete.missed_iff found held, ?_, ?_⟩
  · rw [peerKnows, found]
    exact decide_eq_true
      (complete.informed state found resident.hash (List.mem_map_of_mem held))
  · intro gone
    have start : Session.blank.Explained peer (HostRecord.fresh settings policy rule) :=
      .blank (.empty policy rule) rfl
    obtain ⟨envelope, hash, lost⟩ := (start.run suite .reliable prompt).gone _ gone
    rcases lost with evicted | purged
    · by_cases itself : envelope = resident.envelope
      · exact .inl (itself ▸ evicted)
      · exact .inr ⟨envelope, itself, hash⟩
    · have expired := HostRecord.run_purged suite .reliable settings policy rule past purged
      exact .inr ⟨envelope, differs envelope expired, hash⟩
  · intro stale
    obtain ⟨other, member, hash⟩ := List.mem_map.1 stale
    exact ⟨other, differs other (complete.accounted.expired _ member), hash⟩

section Evicting

/-- An envelope that proves little work and lives on after the other one. -/
def lasting : Envelope := ⟨130, 10, .empty, [], 0⟩

/-- An envelope that proves more work and expires first. -/
def fleeting : Envelope := ⟨120, 20, .empty, [], 0⟩

/-- One peer sends both envelopes in one packet to a host that has room for one, and the first of
them again when the other one is expired. -/
def evictingRun : List (UInt64 × HostOperation Secp256k1.SecretKey Secp256k1.PublicKey) :=
  [(100, .connect (Octets.ofNat 1)), (100, .connect (Octets.ofNat 2)),
    (100, .receive (Octets.ofNat 2) (Packet.messages [lasting, fleeting]).encode),
    (125, .receive (Octets.ofNat 2) (Packet.messages [lasting]).encode)]

/-- An envelope that was evicted before it could be sent and came back is held and alive, but the
other peer, which is known to have it, neither sent nor was sent it. -/
theorem evicted_misses :
    let start := fresh .standard ⟨1, 0, 30⟩ .leastHash
    let host := start.run .standard .reliable evictingRun
    let session := (follow .standard .reliable (Octets.ofNat 1) start .blank evictingRun).2
    host.isConnected (Octets.ofNat 1) = true ∧
    lasting ∈ host.pool.residents.map (·.envelope) ∧
    lasting.isExpired 125 = false ∧
    host.peerKnows (Octets.ofNat 1) lasting.hash = true ∧
    lasting.hash ∉ session.received ∧ lasting.hash ∉ session.handed := by
  decide +kernel

theorem run_misses_evicting :
    let host := (fresh .standard ⟨1, 0, 30⟩ .leastHash).run .standard .reliable evictingRun
    let session := (follow .standard .reliable (Octets.ofNat 1)
      (fresh .standard ⟨1, 0, 30⟩ .leastHash) .blank evictingRun).2
    HostSettings.standard.syncOnConnect = true ∧
    (∀ operation ∈ evictingRun.map (·.2), operation.Prompt) ∧
    (readings evictingRun).Pairwise (· ≤ ·) ∧
    (∀ reading ∈ readings evictingRun, reading ≤ 125) ∧
    host.isConnected (Octets.ofNat 1) = true ∧
    ∃ resident ∈ host.pool.residents, resident.envelope = lasting ∧
      resident.envelope.isExpired 125 = false ∧
      host.peerKnows (Octets.ofNat 1) resident.hash = true ∧
      (¬ (resident.hash ∈ session.received ∨ resident.hash ∈ session.handed) ↔
        resident.hash ∉ session.received ∧
          (resident.hash ∈ session.gone ∨ resident.hash ∈ session.stale.map (·.hash))) := by
  have prompt : ∀ operation ∈ evictingRun.map (·.2), operation.Prompt := by
    simp [evictingRun, HostOperation.Prompt]
  have orderly : (readings evictingRun).Pairwise (· ≤ ·) := by decide +kernel
  have past : ∀ reading ∈ readings evictingRun, reading ≤ 125 := by
    simp [evictingRun, readings, HostOperation.readings]
  have missed := run_misses .standard .standard ⟨1, 0, 30⟩ .leastHash evictingRun (Octets.ofNat 1)
    125 rfl prompt orderly past
  have reached :
      let host := (fresh .standard ⟨1, 0, 30⟩ .leastHash).run .standard .reliable evictingRun
      host.isConnected (Octets.ofNat 1) = true ∧
        lasting ∈ host.pool.residents.map (·.envelope) := by
    decide +kernel
  -- neither the run nor the session is to be computed again when the two are compared
  generalize (fresh .standard ⟨1, 0, 30⟩ .leastHash).run .standard .reliable evictingRun = host
    at missed reached ⊢
  generalize (follow .standard .reliable (Octets.ofNat 1)
    (fresh .standard ⟨1, 0, 30⟩ .leastHash) .blank evictingRun).2 = session at missed ⊢
  obtain ⟨connected, member⟩ := reached
  obtain ⟨resident, held, same⟩ := List.mem_map.1 member
  have live : resident.envelope.isExpired 125 = false := by
    rw [same]
    rfl
  obtain ⟨known, missing, -⟩ := missed.2 connected resident held live
  exact ⟨rfl, prompt, orderly, past, connected, resident, held, same, live, known, missing⟩

end Evicting

end Host

end Courier

import Mathlib
import Courier.Proofs.Host.Growth

/-! # Flooding without duplicates

On one connection no hash is queued twice, and what was handed over and what still waits stands
in the order of queueing. So no envelope is handed over twice, whatever the network takes, the
clock shows and the pool has lost between queueing and flushing.
-/

namespace Courier

variable {Secret Public : Type}

/-- A packet of limited size whose envelopes are held and alive when it is handed over. -/
structure Delivery.Sound (limit : Nat) (delivery : Delivery) : Prop where
  nonempty : 1 ≤ delivery.envelopes.length
  limited : delivery.envelopes.length ≤ max limit 1
  held : ∀ envelope ∈ delivery.envelopes, delivery.pool.lookup envelope.hash = some envelope
  live : ∀ envelope ∈ delivery.envelopes, envelope.isExpired delivery.now = false

theorem Delivery.sound_of_mem_packing {host : Host} (wellFormed : host.pool.WellFormed)
    {now : UInt64} {queue : List Hash} {envelopes : List Envelope}
    (packed : envelopes ∈ host.packing now queue) :
    Delivery.Sound host.settings.maxBatch ⟨host.pool, now, envelopes⟩ := by
  have size := Host.mem_batches (Nat.le_max_right _ 1) packed
  have queued : ∀ envelope ∈ envelopes, ∃ hash ∈ queue,
      host.pool.lookup hash = some envelope ∧ envelope.isExpired now = false := by
    intro envelope part
    have whole := List.mem_flatten_of_mem packed part
    rw [Host.packing, Host.flatten_batches] at whole
    exact Host.mem_liveQueued.1 whole
  refine ⟨size.1, size.2, ?_, ?_⟩
  · intro envelope part
    obtain ⟨hash, -, found, -⟩ := queued envelope part
    exact (wellFormed.lookup_eq_some.1 found).1 ▸ found
  · intro envelope part
    obtain ⟨hash, -, -, live⟩ := queued envelope part
    exact live

namespace Session

variable {host : Host} {session : Session} {peer : PeerId} {state : PeerState}
  {network : Network} {now : UInt64}

theorem handed_append (deliveries : List Delivery) (pool : Pool) (now : UInt64)
    (sent : List (List Envelope)) (queued received gone : List Hash) (stale : List Envelope) :
    handed ⟨queued, deliveries ++ sent.map fun envelopes => ⟨pool, now, envelopes⟩, received, gone,
      stale⟩ =
      (deliveries.flatMap fun delivery => delivery.envelopes.map (·.hash)) ++
        sent.flatten.map (·.hash) := by
  rw [handed, List.flatMap_append, List.flatMap_map, List.map_flatten, List.flatMap_def]
  rfl

/-- What a session has to do with the state of its peer. -/
structure Ordered (session : Session) (peer : PeerId) (host : Host) : Prop where
  known : ∀ state, host.peer? peer = some state → ∀ hash ∈ session.queued, hash ∈ state.known
  distinct : session.queued.Nodup
  /-- What was handed over and what still waits, in the order of queueing. -/
  order : (session.handed ++ host.queueFor peer).Sublist session.queued
  sound : ∀ delivery ∈ session.deliveries, delivery.Sound host.settings.maxBatch
  /-- The packets of the session are the last ones that were handed over for the peer. -/
  logged : session.deliveries.map (·.envelopes) <:+ messagesTo peer host.outbox

namespace Ordered

theorem start (h : host.peer? peer = none ∨ host.peer? peer = some .initial) :
    Session.blank.Ordered peer host where
  known := by simp [Session.blank]
  distinct := List.nodup_nil
  order := by
    rw [Host.queueFor_of_new h]
    exact List.nil_sublist _
  sound := by simp [Session.blank]
  logged := List.nil_suffix

/-- A flush hands over what is held and alive, in the order of the queue. -/
theorem flush (h : session.Ordered peer host) (wellFormed : host.pool.WellFormed)
    (connected : host.peer? peer = some state) :
    (session.next peer now host (.flush peer) (host.move network now (.flush peer))).Ordered peer
      (host.move network now (.flush peer)) := by
  rw [next_flush connected]
  have emptied := Host.move_flush_peer? connected network now
  let sent :=
    messagesTo peer (Host.handovers network peer host.outbox (host.packing now state.queue))
  have front : sent <+: host.packing now state.queue := Host.messagesTo_handovers ..
  have flat : (sent.flatten.map (·.hash)).Sublist state.queue := by
    have part := front.sublist.flatten
    rw [Host.packing, Host.flatten_batches] at part
    exact (part.map _).trans (Host.liveQueued_sublist wellFormed state.queue)
  refine ⟨?_, h.distinct, ?_, ?_, ?_⟩
  · intro after connected'
    cases emptied.symm.trans connected'
    exact h.known state connected
  · rw [Host.queueFor_of_peer? emptied]
    have order := h.order
    rw [Host.queueFor_of_peer? connected] at order
    simp only [PeerState.takeQueue, List.append_nil, handed_append]
    exact (flat.append_left _).trans order
  · intro delivery member
    rw [Host.move_settings]
    rcases List.mem_append.1 member with old | new
    · exact h.sound delivery old
    · obtain ⟨envelopes, inSent, rfl⟩ := List.mem_map.1 new
      exact Delivery.sound_of_mem_packing wellFormed (front.subset inSent)
  · have same : (sent.map fun envelopes => Delivery.mk host.pool now envelopes).map
        (·.envelopes) = sent := by
      rw [List.map_map]
      exact List.map_id _
    rw [Host.move_outbox, Host.handedBy, Host.queueFor_of_peer? connected, Host.messagesTo_append,
      List.map_append, same]
    obtain ⟨earlier, split⟩ := h.logged
    exact ⟨earlier, by rw [← List.append_assoc, split]⟩

theorem move (h : session.Ordered peer host) (wellFormed : host.pool.WellFormed)
    (network : Network) (now : UInt64) (m : Move) :
    (session.next peer now host m (host.move network now m)).Ordered peer
      (host.move network now m) := by
  rcases session.next_cases peer host network now m with
    ⟨ended, new⟩ | ⟨rfl, state, connected⟩ |
      ⟨flushed, state, after, added, connected, connected', grows, -, next⟩
  · rw [ended]
    exact start new
  · exact h.flush wellFormed connected
  · rw [next]
    have order := h.order
    rw [Host.queueFor_of_peer? connected] at order
    refine ⟨?_, ?_, ?_, ?_, ?_⟩
    · intro other same hash member
      cases connected'.symm.trans same
      rw [grows.known]
      rcases List.mem_append.1 member with old | new
      · exact .inl (h.known state connected hash old)
      · exact .inr (.inl new)
    · refine List.nodup_append.2 ⟨h.distinct, grows.distinct, ?_⟩
      rintro hash old _ new rfl
      exact grows.fresh hash new (h.known state connected hash old)
    · rw [Host.queueFor_of_peer? connected', grows.queue, ← List.append_assoc]
      exact order.append_right added
    · rw [Host.move_settings]
      exact h.sound
    · rw [Host.move_outbox, Host.messagesTo_append,
        Host.messagesTo_handedBy network now host flushed, List.append_nil]
      exact h.logged

theorem follow (h : session.Ordered peer host) (wellFormed : host.pool.WellFormed)
    (suite : Suite Secret Public) (network : Network)
    (operations : List (UInt64 × HostOperation Secret Public)) :
    (Host.follow suite network peer host session operations).2.Ordered peer
      (Host.follow suite network peer host session operations).1 := by
  induction operations generalizing host session with
  | nil => exact h
  | cons first rest ih =>
      obtain ⟨wellFormed', h'⟩ := Host.followMoves_induction network (first.2.clock first.1) peer
        (host.movesOf suite first.1 first.2)
        (fun host session => host.pool.WellFormed ∧ session.Ordered peer host)
        (fun now host session m _ kept =>
          ⟨Host.move_wellFormed kept.1 network now m, kept.2.move kept.1 network now m⟩)
        ⟨wellFormed, h⟩
      exact ih h' wellFormed'

end Ordered

end Session

namespace Host

theorem moveAll_settings (network : Network) (clock : Move → UInt64) (host : Host)
    (moves : List Move) : (host.moveAll network clock moves).settings = host.settings := by
  induction moves generalizing host with
  | nil => rfl
  | cons m rest ih => exact (ih _).trans (move_settings network (clock m) host m)

theorem perform_settings (suite : Suite Secret Public) (network : Network) (now : UInt64)
    (host : Host) (operation : HostOperation Secret Public) :
    (host.perform suite network now operation).settings = host.settings := by
  rw [perform_eq, moveAll_settings]

theorem run_settings (suite : Suite Secret Public) (network : Network) (host : Host)
    (operations : List (UInt64 × HostOperation Secret Public)) :
    (host.run suite network operations).settings = host.settings := by
  induction operations generalizing host with
  | nil => rfl
  | cons first rest ih =>
      exact (ih _).trans (perform_settings suite network first.1 host first.2)

/-- In every session of every run, whatever the network takes: no hash is handed over twice, the
hashes stand in the order in which they were queued, and every packet of envelopes has between one
and the most allowed of them, each held and alive in that moment. -/
theorem run_floods (suite : Suite Secret Public) (settings : HostSettings) (policy : PoolPolicy)
    (rule : EvictionRule) (network : Network)
    (operations : List (UInt64 × HostOperation Secret Public)) (peer : PeerId) :
    let host := (fresh settings policy rule).run suite network operations
    let followed := follow suite network peer (fresh settings policy rule) .blank operations
    followed.1 = host ∧
    followed.2.deliveries.map (·.envelopes) <:+ messagesTo peer host.outbox ∧
    followed.2.handed.Nodup ∧
    followed.2.handed.Sublist followed.2.queued ∧
    ∀ delivery ∈ followed.2.deliveries, delivery.Sound settings.maxBatch := by
  intro host followed
  have same : followed.1 = host := follow_fst ..
  have ordered : followed.2.Ordered peer host := same ▸
    (Session.Ordered.start (.inl rfl)).follow (Pool.WellFormed.empty policy rule) suite network
      operations
  have handed : followed.2.handed.Sublist followed.2.queued :=
    (List.sublist_append_left _ _).trans ordered.order
  have limit : host.settings = settings := run_settings ..
  exact ⟨same, ordered.logged, ordered.distinct.sublist handed, handed, limit ▸ ordered.sound⟩

end Host

end Courier

import Mathlib
import Courier.Proofs.Host.Chronicle
import Courier.Proofs.Host.Session

/-! # The counts of a host

The counts that a host keeps agree with what it holds and with what has happened there: nothing
comes or goes, waits or is sent without being counted once.
-/

namespace Courier

variable {Secret Public : Type}

/-- The envelopes in the packets that the network took, in order. -/
def carried (handed : List Handover) : List Envelope :=
  (handed.filter (·.taken)).flatMap (·.packet.contents)

theorem carried_append (earlier later : List Handover) :
    carried (earlier ++ later) = carried earlier ++ carried later := by
  simp [carried]

theorem carried_status (peer : PeerId) (version : UInt32) (taken : Bool) :
    carried [⟨peer, .status version, taken⟩] = [] := by
  cases taken <;> rfl

namespace Host

variable {host : Host} {peer : PeerId} {state : PeerState} {network : Network} {now : UInt64}

/-! ## What the parts of an operation count -/

theorem inject_metrics (host : Host) (now : UInt64) (envelope : Envelope)
    (source : Option PeerId) :
    (host.inject now envelope source).1.metrics =
      match (host.pool.insert now envelope).2 with
      | .accepted hash => { host.metrics with
          accepted := host.metrics.accepted + 1
          poolSize := (host.pool.insert now envelope).1.size
          notified := host.metrics.notified + (host.watches.notify hash envelope.topics).2 }
      | .rejected reason => host.metrics.countRefusal reason.toRefusal := by
  rw [inject_eq]
  rcases host.pool.insert now envelope with ⟨pool, hash | reason⟩ <;> rfl

theorem inject_peers_length (host : Host) (now : UInt64) (envelope : Envelope)
    (source : Option PeerId) :
    (host.inject now envelope source).1.peers.length = host.peers.length := by
  simpa only [List.length_map] using
    congrArg List.length (inject_names host now envelope source)

theorem sendBatches_snd (host : Host) (network : Network) (peer : PeerId)
    (batches : List (List Envelope)) :
    (host.sendBatches network peer batches).2 =
      (carried (handovers network peer host.outbox batches)).length := by
  induction batches generalizing host with
  | nil => rfl
  | cons batch rest ih =>
      rw [sendBatches, handovers, send]
      cases taken : network host.outbox peer (.messages batch) with
      | true =>
          have later := ih { host with
            outbox := host.outbox ++ [⟨peer, .messages batch, true⟩] }
          simp [carried, Packet.contents] at later ⊢
          exact later
      | false => rfl

theorem flush_peers_length (host : Host) (network : Network) (now : UInt64) (peer : PeerId) :
    (host.flush network now peer).1.peers.length = host.peers.length := by
  simpa only [List.length_map] using
    congrArg List.length (flush_names host network now peer)

theorem flush_metrics (host : Host) (network : Network) (now : UInt64) (peer : PeerId) :
    ∃ sent, (host.flush network now peer).1.outbox = host.outbox ++ sent ∧
      (host.flush network now peer).1.metrics =
        { host.metrics with relayed := host.metrics.relayed + (carried sent).length } := by
  cases connected : host.peer? peer with
  | none =>
      rw [flush_absent connected]
      exact ⟨[], (List.append_nil _).symm, rfl⟩
  | some state =>
      refine ⟨handovers network peer host.outbox (host.packing now state.queue), ?_, ?_⟩
      · simp only [flush, connected, sendBatches_fst]
        rfl
      · simp only [flush, connected, sendBatches_fst, sendBatches_snd]
        rfl

end Host

namespace HostRecord

open HostEvent

variable {suite : Suite Secret Public} {network : Network} {now : UInt64}
  {record after : HostRecord}

/-- The counts of a host agree with its state and with its past. -/
structure Balanced (record : HostRecord) : Prop where
  pool : record.host.pool.WellFormed
  watches : record.host.watches.WellFormed
  poolSize : record.host.metrics.poolSize = record.host.pool.size
  peersConnected : record.host.metrics.peersConnected = record.host.peers.length
  accepted : record.host.metrics.accepted = (told acceptance record.past).length
  stock : (told acceptance record.past).length = record.host.pool.size +
    (told eviction record.past).length + (told purge record.past).length
  refused : ∀ cause, record.host.metrics.refused cause = (told refusal record.past).count cause
  notified : record.host.metrics.notified = (told collection record.past).length +
    record.host.watches.waiting.length + (told abandonment record.past).length
  relayed : record.host.metrics.relayed = (carried record.host.outbox).length

namespace Balanced

theorem fresh (settings : HostSettings) (policy : PoolPolicy) (rule : EvictionRule) :
    (fresh settings policy rule).Balanced where
  pool := .empty policy rule
  watches := .empty
  poolSize := rfl
  peersConnected := rfl
  accepted := rfl
  stock := rfl
  refused := fun _ => rfl
  notified := rfl
  relayed := rfl

theorem elsewhere (h : record.Balanced) {host : Host} (pool : host.pool = record.host.pool)
    (watches : host.watches = record.host.watches)
    (metrics : host.metrics = { record.host.metrics with
      peersConnected := host.peers.length
      relayed := (carried host.outbox).length }) : Balanced ⟨host, record.past⟩ := by
  refine ⟨?_, ?_, ?_, ?_, ?_, ?_, ?_, ?_, ?_⟩
  all_goals simp only [pool, watches, metrics]
  · exact h.pool
  · exact h.watches
  · exact h.poolSize
  · exact h.accepted
  · exact h.stock
  · exact h.refused
  · exact h.notified

/-- A sweep purges what it takes out of the pool, so the stock comes out even. -/
theorem sweep (h : record.Balanced) : (record.move network now .sweep).Balanced := by
  have fewer : (record.host.pool.purgeExpired now).1.residents.Sublist
      record.host.pool.residents := by
    rw [h.pool.purgeExpired_residents]
    exact List.filter_sublist
  have gone := h.pool.lost_length fewer
  have parted := told_losses_length now record.host.pool (record.host.pool.purgeExpired now).1
  have stock := h.stock
  refine ⟨h.pool.purgeExpired now, h.watches, rfl, h.peersConnected, ?_, ?_, ?_, ?_, h.relayed⟩
  all_goals simp only [HostRecord.move, ofMove, Host.move, Host.housekeeping, Pool.sweepCounted,
    Metrics.noteSweep, told_append, acceptance_losses, refusal_losses, collection_losses,
    abandonment_losses, List.append_nil, List.length_append]
  · exact h.accepted
  · omega
  · exact h.refused
  · exact h.notified

theorem refuse (h : record.Balanced) {envelope : Envelope} {reason : Rejection}
    (outcome : (record.host.pool.insert now envelope).2 = .rejected reason)
    (source : Option PeerId) : (record.move network now (.offer envelope source)).Balanced := by
  -- a refusal loses nothing, even if it comes after a sweep
  have unchanged := h.pool.insert_rejected outcome
  rw [HostRecord.move, ofMove_offer, Host.move]
  refine ⟨?_, ?_, ?_, ?_, ?_, ?_, ?_, ?_, ?_⟩
  all_goals simp only [Host.inject_pool, Host.inject_watches, Host.inject_metrics,
    Host.inject_peers_length, Host.inject_outbox, outcome, unchanged, losses_self, answer,
    List.cons_append, List.nil_append, told_cons, acceptance, refusal, collection, abandonment,
    eviction, purge, List.append_nil, Metrics.countRefusal]
  · exact h.pool
  · exact h.watches
  · exact h.poolSize
  · exact h.peersConnected
  · exact h.accepted
  · exact h.stock
  · intro cause
    rw [List.count_append, ← h.refused]
    by_cases same : cause = reason.toRefusal
    · rw [if_pos same, same, List.count_singleton_self]
    · rw [if_neg same, List.count_singleton, if_neg (by simpa using Ne.symm same)]
      rfl
  · exact h.notified
  · exact h.relayed

theorem accept (h : record.Balanced) {envelope : Envelope} {hash : Hash}
    (outcome : (record.host.pool.insert now envelope).2 = .accepted hash)
    (source : Option PeerId) : (record.move network now (.offer envelope source)).Balanced := by
  -- what comes in, what goes out, and what comes to wait
  have came := h.pool.insert_lost outcome
  have parted := told_losses_length now record.host.pool (record.host.pool.insert now envelope).1
  have waits := WatchRegistry.waiting_notify record.host.watches hash envelope.topics
  have stock := h.stock
  have notified := h.notified
  rw [HostRecord.move, ofMove_offer, Host.move]
  refine ⟨?_, ?_, ?_, ?_, ?_, ?_, ?_, ?_, ?_⟩
  all_goals simp only [Host.inject_pool, Host.inject_watches, Host.inject_metrics,
    Host.inject_peers_length, Host.inject_outbox, outcome, answer, List.cons_append, told_cons,
    told_append, acceptance_losses, refusal_losses, collection_losses, abandonment_losses,
    acceptance, refusal, collection, abandonment, eviction, purge, List.append_nil,
    List.length_append, List.length_singleton]
  · exact h.pool.insert now envelope
  · exact h.watches.notify hash envelope.topics
  · exact h.peersConnected
  · rw [h.accepted]
  · omega
  · exact h.refused
  · omega
  · exact h.relayed

theorem move (h : record.Balanced) (network : Network) (now : UInt64) {m : Move}
    (plain : ∀ watches, m ≠ .rewatch watches) : (record.move network now m).Balanced := by
  have pool := Host.move_pool network now record.host m
  have watches := Host.move_watches network now record.host m
  have unmoved : record.host.metrics = { record.host.metrics with
      peersConnected := record.host.peers.length
      relayed := (carried record.host.outbox).length } := by
    rw [← h.peersConnected, ← h.relayed]
  cases m with
  | offer envelope source =>
      cases outcome : (record.host.pool.insert now envelope).2 with
      | accepted hash => exact h.accept outcome source
      | rejected reason => exact h.refuse outcome source
  | sweep => exact h.sweep
  | rewatch given => exact absurd rfl (plain given)
  | fill | hear | note =>
      refine h.elsewhere pool watches ?_
      simpa [Host.move, Host.enqueueAll, Host.updatePeer, Host.noteAccepted] using unmoved
  | attach peer =>
      refine h.elsewhere pool watches ?_
      rw [Host.move]
      split
      · exact unmoved
      · rw [Host.notePeers, ← h.relayed]
  | detach peer =>
      refine h.elsewhere pool watches ?_
      rw [Host.move, Host.disconnect]
      split
      · rw [Host.notePeers, ← h.relayed]
      · exact unmoved
  | announce peer =>
      refine h.elsewhere pool watches ?_
      simpa [Host.move, Host.send, carried_append, carried_status] using unmoved
  | flush peer =>
      obtain ⟨sent, outbox, metrics⟩ := Host.flush_metrics record.host network now peer
      refine h.elsewhere pool watches ?_
      rw [Host.move, outbox, metrics, Host.flush_peers_length, carried_append, List.length_append,
        ← h.relayed, ← h.peersConnected]

/-- A call on a watch leaves everything else alone, and what waited is collected or abandoned. -/
theorem rewatch (h : record.Balanced) {watches : WatchRegistry} {event : HostEvent}
    (wellFormed : watches.WellFormed)
    (elsewhere : event.acceptance = [] ∧ event.refusal = [] ∧ event.eviction = [] ∧
      event.purge = [])
    (even : event.collection.length + watches.waiting.length + event.abandonment.length =
      record.host.watches.waiting.length) :
    Balanced ⟨{ record.host with watches }, event :: record.past⟩ := by
  obtain ⟨acceptance, refusal, eviction, purge⟩ := elsewhere
  have notified := h.notified
  refine ⟨h.pool, wellFormed, h.poolSize, h.peersConnected, ?_, ?_, ?_, ?_, h.relayed⟩
  all_goals simp only [told_cons, acceptance, refusal, eviction, purge, List.append_nil,
    List.length_append]
  · exact h.accepted
  · exact h.stock
  · exact h.refused
  · omega

theorem turn (h : record.Balanced) (turn : Turn network now record after) : after.Balanced := by
  cases turn with
  | move m plain => exact h.move network now plain
  | install mask =>
      refine h.rewatch (h.watches.install mask) ⟨rfl, rfl, rfl, rfl⟩ ?_
      simp [collection, abandonment, WatchRegistry.waiting_install]
  | uninstall id watches removed =>
      have fewer := h.watches.waiting_uninstall removed
      refine h.rewatch (h.watches.uninstall removed) ⟨rfl, rfl, rfl, rfl⟩ ?_
      simpa [collection, abandonment] using fewer
  | collect id watches drained =>
      have fewer := h.watches.waiting_drain drained
      refine h.rewatch (h.watches.drain drained) ⟨rfl, rfl, rfl, rfl⟩ ?_
      simpa [collection, abandonment, Nat.add_comm] using fewer

theorem course (h : record.Balanced) {times : List UInt64}
    (course : Course network record times after) : after.Balanced := by
  induction course with
  | rest => exact h
  | turn first _ ih => exact ih (h.turn first)

end Balanced

/-- In every run of a host whose counts begin at zero, under any clock and over any network, the
counts and gauges agree with the state of the host and with what has happened. -/
theorem run_balances (suite : Suite Secret Public) (network : Network) (settings : HostSettings)
    (policy : PoolPolicy) (rule : EvictionRule)
    (operations : List (UInt64 × HostOperation Secret Public)) :
    let record := (HostRecord.fresh settings policy rule).run suite network operations
    let host := (Host.fresh settings policy rule).run suite network operations
    let metrics := host.metrics
    record.host = host ∧
    metrics.poolSize = host.pool.size ∧
    metrics.peersConnected = host.peers.length ∧
    metrics.accepted = (told acceptance record.past).length ∧
    (told acceptance record.past).length = host.pool.size +
      (told eviction record.past).length + (told purge record.past).length ∧
    (∀ cause, metrics.refused cause = (told refusal record.past).count cause) ∧
    metrics.notified = (told collection record.past).length + host.watches.waiting.length +
      (told abandonment record.past).length ∧
    metrics.relayed = (carried host.outbox).length := by
  intro record host metrics
  have same : record.host = host := run_host suite network _ operations
  obtain ⟨times, course, -⟩ :=
    run_course suite network (HostRecord.fresh settings policy rule) operations
  have balanced : record.Balanced := (Balanced.fresh settings policy rule).course course
  refine ⟨same, ?_⟩
  simp only [metrics, ← same]
  exact ⟨balanced.poolSize, balanced.peersConnected, balanced.accepted, balanced.stock,
    balanced.refused, balanced.notified, balanced.relayed⟩

end HostRecord

end Courier

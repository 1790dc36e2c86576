import Mathlib
import Courier.Proofs.Host.Moves
import Courier.Proofs.Watch.Registry

/-! # The watches of a host

Only an accepted offer lets anything wait at the watches of a host. What a user does to them goes
through the registry, so that it stays well formed in every run.
-/

namespace Courier.Host

variable {Secret Public : Type} {host : Host} {network : Network} {now : UInt64} {m : Move}

@[simp] theorem disconnect_watches (host : Host) (peer : PeerId) :
    (host.disconnect peer).watches = host.watches := by
  unfold disconnect
  split <;> rfl

@[simp] theorem flush_watches (host : Host) (network : Network) (now : UInt64) (peer : PeerId) :
    (host.flush network now peer).1.watches = host.watches := by
  obtain ⟨_, _, _, flushed⟩ := flush_rest host network now peer
  rw [flushed]

theorem inject_watches (host : Host) (now : UInt64) (envelope : Envelope)
    (source : Option PeerId) :
    (host.inject now envelope source).1.watches =
      match (host.pool.insert now envelope).2 with
      | .accepted hash => (host.watches.notify hash envelope.topics).1
      | .rejected _ => host.watches := by
  rw [inject_eq]
  rcases host.pool.insert now envelope with ⟨pool, hash | reason⟩ <;> rfl

theorem move_watches (network : Network) (now : UInt64) (host : Host) (m : Move) :
    (host.move network now m).watches =
      match m with
      | .offer envelope _ =>
        match (host.pool.insert now envelope).2 with
        | .accepted hash => (host.watches.notify hash envelope.topics).1
        | .rejected _ => host.watches
      | .rewatch watches => watches
      | _ => host.watches := by
  cases m with
  | announce | fill | hear | note | sweep | rewatch => rfl
  | attach peer =>
      simp only [move]
      split <;> rfl
  | detach peer => exact disconnect_watches host peer
  | offer envelope source => exact inject_watches host now envelope source
  | flush peer => exact flush_watches host network now peer

theorem move_watches_wellFormed (h : host.watches.WellFormed)
    (given : ∀ watches, m = .rewatch watches → watches.WellFormed) (network : Network)
    (now : UInt64) : (host.move network now m).watches.WellFormed := by
  rw [move_watches]
  cases m with
  | offer envelope source =>
      simp only
      split
      · exact h.notify _ envelope.topics
      · exact h
  | rewatch watches => exact given watches rfl
  | attach | detach | announce | fill | hear | note | flush | sweep => exact h

theorem rewatch_wellFormed (h : host.watches.WellFormed) {suite : Suite Secret Public}
    {operation : HostOperation Secret Public} {watches : WatchRegistry}
    (member : .rewatch watches ∈ host.movesOf suite now operation) : watches.WellFormed := by
  have possible := mem_movesOf member
  cases operation with
  | connect | disconnect | receive | post | inject | noteAccepted | flush | flushAll |
    housekeeping => simp at possible
  | installWatch mask =>
      rw [movesOf, List.mem_singleton] at member
      cases member
      exact h.install mask
  | uninstallWatch id =>
      rw [movesOf] at member
      split at member
      · rename_i removed
        cases List.mem_singleton.1 member
        exact h.uninstall removed
      · cases member
  | checkWatch id =>
      rw [movesOf] at member
      split at member
      · rename_i drained
        cases List.mem_singleton.1 member
        exact h.drain drained
      · cases member

theorem flushEach_pool_watches (host : Host) (network : Network) (now : UInt64)
    (peers : List PeerId) :
    (host.flushEach network now peers).1.pool = host.pool ∧
      (host.flushEach network now peers).1.watches = host.watches := by
  induction peers generalizing host with
  | nil => exact ⟨rfl, rfl⟩
  | cons peer rest ih =>
      obtain ⟨pool, watches⟩ := ih (host.flush network now peer).1
      exact ⟨pool.trans (flush_pool host network now peer),
        watches.trans (flush_watches host network now peer)⟩

end Courier.Host

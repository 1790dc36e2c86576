import Mathlib
import Courier.Proofs.Host.Posting

/-! # Posts that fail

A post fails before it has an envelope, or because the pool refuses the envelope. Either way the
host is as before, but for the count of the refusal: nothing is held, told to a watch, queued for
a peer or sent.
-/

namespace Courier

variable {Secret Public : Type}

/-- What a host counts of its own failure: only what its pool refuses. -/
def HostError.count (metrics : Metrics) : HostError → Metrics
  | .rejected reason => metrics.countRefusal reason.toRefusal
  | .topics _ | .sealing _ | .notFound _ | .noSuchWatch _ | .workTargetTooHigh _ => metrics

namespace Host

variable {suite : Suite Secret Public} {network : Network} {now : UInt64} {host : Host}
  {request : PostRequest Secret Public} {chance : Chance Secret} {envelope : Envelope}
  {hash : Hash} {reason : Rejection} {fault : HostError}

/-- What the host offers to its own pool leaves no trace if it is refused. -/
theorem inject_rejected (wellFormed : host.pool.WellFormed)
    (rejected : (host.pool.insert now envelope).2 = .rejected reason) :
    host.inject now envelope none =
      ({ host with metrics := host.metrics.countRefusal reason.toRefusal }, .rejected reason) := by
  have same := wellFormed.insert_rejected rejected
  rw [inject_eq]
  cases inserted : host.pool.insert now envelope with
  | mk pool outcome =>
      rw [inserted] at same rejected
      cases same
      cases rejected
      rfl

theorem post_rejected (wellFormed : host.pool.WellFormed)
    (composed : compose suite now request chance = .ok envelope)
    (rejected : (host.pool.insert chance.admission envelope).2 = .rejected reason) :
    host.post suite network now request chance =
      ({ host with metrics := host.metrics.countRefusal reason.toRefusal },
        .error (.rejected reason)) := by
  rw [post_eq composed, rejected]
  simp only [inject_rejected wellFormed rejected]

theorem count_of_compose_eq_error (failed : compose suite now request chance = .error fault)
    (metrics : Metrics) : fault.count metrics = metrics := by
  rcases compose_eq_error failed with ⟨target, rfl⟩ | ⟨error, rfl⟩ | ⟨error, rfl⟩ <;> rfl

theorem post_error (wellFormed : host.pool.WellFormed)
    (failed : (host.post suite network now request chance).2 = .error fault) :
    (host.post suite network now request chance).1 =
      { host with metrics := fault.count host.metrics } := by
  cases composed : compose suite now request chance with
  | error cause =>
      rw [post, composed] at failed ⊢
      cases failed
      rw [count_of_compose_eq_error composed]
  | ok envelope =>
      cases outcome : (host.pool.insert chance.admission envelope).2 with
      | accepted hash =>
          rw [post_eq_ok.2 ⟨envelope, composed, outcome⟩] at failed
          cases failed
      | rejected reason =>
          rw [post_rejected wellFormed composed outcome] at failed ⊢
          cases failed
          rfl

theorem post_pool_ne (succeeded : (host.post suite network now request chance).2 = .ok hash) :
    (host.post suite network now request chance).1.pool ≠ host.pool := by
  intro same
  obtain ⟨envelope, composed, accepted⟩ := post_eq_ok.1 succeeded
  have held := Pool.mem_hashes_of_accepted accepted
  rw [← (post_pool_watches composed accepted).1, same, ← Pool.insert_accepted accepted] at held
  exact (Pool.insert_admissible accepted).new held

/-- In every state that a host can come to, a post that fails changes nothing but the count of
refusals, so the pool tells whether a post has failed. It does not matter whether the clock moves
on between the composition of the envelope and its offer to the pool. -/
theorem run_post_fails (suite : Suite Secret Public) (network : Network) (settings : HostSettings)
    (policy : PoolPolicy) (rule : EvictionRule)
    (operations : List (UInt64 × HostOperation Secret Public)) (now : UInt64)
    (request : PostRequest Secret Public) (chance : Chance Secret) :
    let host := (fresh settings policy rule).run suite network operations
    let posted := host.post suite network now request chance
    (∀ fault, posted.2 = .error fault →
      posted.1 = { host with metrics := fault.count host.metrics }) ∧
    ((∃ fault, posted.2 = .error fault) ↔ posted.1.pool = host.pool) ∧
    ∀ (later : UInt64) (envelope : Envelope) (reason : Rejection),
      (host.inject later envelope none).2 = .rejected reason →
        (host.inject later envelope none).1 =
          { host with metrics := host.metrics.countRefusal reason.toRefusal } := by
  intro host posted
  have wellFormed : host.pool.WellFormed :=
    run_wellFormed (Pool.WellFormed.empty policy rule) suite network operations
  refine ⟨fun fault failed => post_error wellFormed failed, ⟨?_, ?_⟩, ?_⟩
  · rintro ⟨fault, failed⟩
    have unchanged : posted.1 = _ := post_error wellFormed failed
    rw [unchanged]
  · intro same
    cases outcome : posted.2 with
    | error fault => exact ⟨fault, rfl⟩
    | ok hash => exact absurd same (post_pool_ne outcome)
  · intro later envelope reason rejected
    rw [inject_outcome] at rejected
    rw [inject_rejected wellFormed rejected]

end Host

end Courier

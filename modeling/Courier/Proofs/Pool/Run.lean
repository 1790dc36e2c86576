import Mathlib
import Courier.Proofs.Pool.Insertion

/-! # Runs of a pool

A run offers envelopes to a pool and sweeps it, under a clock that may show anything at any
operation. Every pool of a run that starts with nothing is well formed, so its status and its
lookups tell the truth.
-/

namespace Courier

/-- What can be done to a pool from outside. -/
inductive PoolOperation where
  | insert (envelope : Envelope)
  | purge

namespace Pool

/-- Do one operation at the second that the clock shows. -/
def perform (pool : Pool) (now : UInt64) : PoolOperation → Pool
  | .insert envelope => (pool.insert now envelope).1
  | .purge => (pool.purgeExpired now).1

/-- Do operations one after another, each with what the clock shows then. -/
def run (pool : Pool) (operations : List (UInt64 × PoolOperation)) : Pool :=
  operations.foldl (fun pool (now, operation) => pool.perform now operation) pool

variable {pool : Pool}

theorem WellFormed.perform (h : pool.WellFormed) (now : UInt64) (operation : PoolOperation) :
    (pool.perform now operation).WellFormed := by
  cases operation with
  | insert envelope => exact h.insert now envelope
  | purge => exact h.purgeExpired now

theorem WellFormed.run (h : pool.WellFormed) (operations : List (UInt64 × PoolOperation)) :
    (pool.run operations).WellFormed := by
  induction operations generalizing pool with
  | nil => exact h
  | cons first rest ih => exact ih (h.perform first.1 first.2)

theorem perform_policy (pool : Pool) (now : UInt64) (operation : PoolOperation) :
    (pool.perform now operation).policy = pool.policy := by
  cases operation with
  | insert envelope => exact insert_policy pool now envelope
  | purge => exact purgeExpired_policy pool now

theorem run_policy (pool : Pool) (operations : List (UInt64 × PoolOperation)) :
    (pool.run operations).policy = pool.policy := by
  induction operations generalizing pool with
  | nil => rfl
  | cons first rest ih => exact (ih _).trans (perform_policy pool first.1 first.2)

theorem WellFormed.status_eq (h : pool.WellFormed) :
    pool.status = ⟨pool.residents.length,
      (pool.residents.map (·.envelope.encodedLength)).sum,
      pool.policy.maxMessages,
      (pool.residents.map (·.envelope.expiry)).min?⟩ := by
  have sizes : pool.residents.map (·.size) =
      pool.residents.map (·.envelope.encodedLength) := by
    apply List.map_congr_left
    intro resident held
    exact congrArg Resident.size (h.computed resident held)
  have oldest : (pool.byExpiry.map (·.expiry)).min? =
      (pool.residents.map (·.envelope.expiry)).min? := by
    have keys := h.index.map (·.expiry)
    rw [List.map_map] at keys
    cases least : (pool.residents.map (·.envelope.expiry)).min? with
    | none =>
        rw [List.min?_eq_none_iff] at least ⊢
        exact List.Perm.eq_nil (least ▸ keys)
    | some expiry =>
        rw [List.min?_eq_some_iff] at least ⊢
        refine ⟨keys.mem_iff.2 least.1, ?_⟩
        exact fun other member => least.2 other (keys.mem_iff.1 member)
  rw [status, h.bytes, sizes, ExpiryKey.head?_expiry h.sorted, oldest, size]

/-- In every run that starts with nothing the pool is well formed. So its status shows the true
count, byte sum and least expiry, a lookup finds exactly the envelopes that are held, and no
removal takes more from the byte sum than is in it. -/
theorem run_represents (policy : PoolPolicy) (rule : EvictionRule)
    (operations : List (UInt64 × PoolOperation)) :
    let pool := Pool.run { Pool.empty policy with rule } operations
    pool.policy = policy ∧
    pool.WellFormed ∧
    pool.status = ⟨pool.residents.length,
      (pool.residents.map (·.envelope.encodedLength)).sum,
      policy.maxMessages,
      (pool.residents.map (·.envelope.expiry)).min?⟩ ∧
    (∀ hash envelope, pool.lookup hash = some envelope ↔
      envelope.hash = hash ∧ envelope ∈ pool.residents.map (·.envelope)) ∧
    ∀ (keys : List ExpiryKey) (resident : Resident),
      let rest := keys.foldl (fun pool key => pool.remove key.hash) pool
      resident ∈ rest.residents →
        (rest.remove resident.hash).bytes + resident.size = rest.bytes := by
  intro pool
  have wellFormed : pool.WellFormed := (WellFormed.empty policy rule).run operations
  have same : pool.policy = policy := run_policy _ operations
  refine ⟨same, wellFormed, ?_, ?_, ?_⟩
  · rw [← same]
    exact wellFormed.status_eq
  · exact fun hash envelope => wellFormed.lookup_eq_some
  · intro keys resident rest held
    exact (wellFormed.removeAll keys).remove_bytes held

/-- In every pool of such a run, an offer is refused exactly if it leaves the pool as it was: its
envelopes, its index and its byte sum. The sweep that comes before a refusal for want of room
takes nothing out, for if it did there would be room. -/
theorem run_atomic (policy : PoolPolicy) (rule : EvictionRule)
    (operations : List (UInt64 × PoolOperation)) (now : UInt64) (envelope : Envelope) :
    let pool := Pool.run { Pool.empty policy with rule } operations
    ((∃ reason, (pool.insert now envelope).2 = .rejected reason) ↔
      (pool.insert now envelope).1 = pool) ∧
    ((pool.insert now envelope).2 = .rejected .poolFull → pool.purgeExpired now = (pool, 0)) := by
  intro pool
  have wellFormed : pool.WellFormed := (WellFormed.empty policy rule).run operations
  refine ⟨⟨?unchanged, ?refused⟩, ?swept⟩
  case unchanged =>
    rintro ⟨reason, rejected⟩
    exact wellFormed.insert_rejected rejected
  case refused =>
    intro same
    cases outcome : (pool.insert now envelope).2 with
    | rejected reason => exact ⟨reason, rfl⟩
    | accepted hash =>
        -- what is accepted was not held before and is held after
        have held := mem_hashes_of_accepted outcome
        rw [same, ← insert_accepted outcome] at held
        exact absurd held (insert_admissible outcome).new
  case swept =>
    intro rejected
    have inserts := insert_inserts pool now envelope
    rw [rejected] at inserts
    generalize (pool.insert now envelope).1 = after at inserts
    cases inserts with
    | full _ full => exact wellFormed.purgeExpired_of_full full

end Pool

end Courier

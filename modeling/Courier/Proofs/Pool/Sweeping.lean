import Mathlib
import Courier.Proofs.Pool.Admission
import Courier.Proofs.Topic.Mask

/-! # What a sweep takes and what a search finds

A sweep takes the front of the index, and a search follows the index from one envelope to the next.
The index lists every envelope once and in order, so the sweep takes all that is expired and leaves
the rest as it is, and the search finds all that lives and fits, those that expire first in front.
-/

namespace Courier.Pool

variable {pool : Pool} {now earlier : UInt64} {resident : Resident}

theorem mem_live : resident ∈ pool.live now ↔
    resident ∈ pool.residents ∧ now.toNat < resident.envelope.expiry.toNat := by
  simp only [live, List.mem_filter, Bool.not_eq_true', ← Bool.not_eq_true,
    Envelope.isExpired_iff, not_le]

namespace WellFormed

/-- A sweep leaves nothing to sweep, as long as the clock does not go on. -/
theorem purgeExpired_again (h : pool.WellFormed) (le : earlier ≤ now) :
    (pool.purgeExpired now).1.purgeExpired earlier = ((pool.purgeExpired now).1, 0) := by
  have swept := h.purgeExpired now
  apply swept.purgeExpired_idle
  have kept : ((pool.purgeExpired now).1.purgeExpired earlier).1.residents =
      (pool.purgeExpired now).1.residents := by
    rw [swept.purgeExpired_residents, List.filter_eq_self]
    intro resident held
    rw [h.purgeExpired_residents, List.mem_filter] at held
    cases expired : resident.envelope.isExpired earlier with
    | false => rfl
    | true => simp [Envelope.isExpired_mono le expired] at held
  rw [size, size, kept]

theorem matching_purgeExpired (h : pool.WellFormed) (now : UInt64) (mask : TopicMask) :
    (pool.purgeExpired now).1.matching now mask = pool.matching now mask :=
  (h.purgeExpired now).matching_eq h (h.purgeExpired_live (UInt64.le_refl now)) mask

end WellFormed

/-- In every pool of a run a sweep takes out exactly what is expired and tells how much that was. A
search finds the live residents whose topics fit the mask in strictly increasing order of expiry
and hash, and it finds the same just before and just after a sweep. -/
theorem run_sweeps_exactly (policy : PoolPolicy) (rule : EvictionRule)
    (operations : List (UInt64 × PoolOperation)) (now : UInt64) :
    let pool := Pool.run { Pool.empty policy with rule } operations
    let swept := (pool.purgeExpired now).1
    (swept.WellFormed ∧ swept.residents.Sublist pool.residents ∧
      (∀ resident, resident ∈ swept.residents ↔
        resident ∈ pool.residents ∧ now.toNat < resident.envelope.expiry.toNat) ∧
      (pool.purgeExpired now).2 + swept.size = pool.size ∧
      ∀ earlier ≤ now, swept.purgeExpired earlier = (swept, 0)) ∧
    ∀ mask : TopicMask,
      (∀ resident, resident ∈ pool.matching now mask ↔
        resident ∈ pool.residents ∧ now.toNat < resident.envelope.expiry.toNat ∧
          List.Forall₂ (fun entry topic => ∀ wanted ∈ entry, wanted = topic) mask.entries
            resident.envelope.topics.toList) ∧
      ((pool.matching now mask).Pairwise fun first second =>
        first.envelope.expiry < second.envelope.expiry ∨
          first.envelope.expiry = second.envelope.expiry ∧ first.hash < second.hash) ∧
      swept.matching now mask = pool.matching now mask := by
  intro pool swept
  have h : pool.WellFormed := (WellFormed.empty policy rule).run operations
  have residents : swept.residents = pool.live now := h.purgeExpired_residents now
  refine ⟨⟨h.purgeExpired now, ?kept, ?left, h.purgeExpired_count now, ?again⟩, ?search⟩
  case kept =>
    rw [residents]
    exact List.filter_sublist
  case left =>
    intro resident
    rw [residents, mem_live]
  case again => exact fun earlier le => h.purgeExpired_again le
  case search =>
    intro mask
    refine ⟨?_, ?_, h.matching_purgeExpired now mask⟩
    · intro resident
      rw [h.mem_matching, mem_live, TopicMask.matchesTopics, TopicMask.fits_iff, and_assoc]
    · exact (h.matching_sorted now mask).imp ExpiryKey.before_iff.1

end Courier.Pool

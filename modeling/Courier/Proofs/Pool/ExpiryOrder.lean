import Mathlib
import Courier.Pool.Basic

/-! # The order of the index

Keys are ordered by expiry and then by hash. No two keys are level in this order, so an index
that is kept in it lists every key once and begins with a least expiry.
-/

namespace Courier

namespace Octets

variable {n : Nat}

theorem lt_trans {a b c : Octets n} (h : a < b) (h' : b < c) : a < c := List.lt_trans h h'

theorem eq_of_not_lt {a b : Octets n} (h : ¬ a < b) (h' : ¬ b < a) : a = b :=
  Octets.ext (Std.Trichotomous.trichotomous (r := (· < ·)) a.toList b.toList h h')

end Octets

theorem Envelope.isExpired_mono {envelope : Envelope} {now later : UInt64} (le : now ≤ later)
    (h : envelope.isExpired now = true) : envelope.isExpired later = true :=
  decide_eq_true (UInt64.le_trans (of_decide_eq_true h) le)

namespace ExpiryKey

theorem before_iff {a b : ExpiryKey} :
    a.before b = true ↔ a.expiry < b.expiry ∨ a.expiry = b.expiry ∧ a.hash < b.hash := by
  simp [before]

theorem before_trans {a b c : ExpiryKey} (h : a.before b = true) (h' : b.before c = true) :
    a.before c = true := by
  rw [before_iff] at *
  rcases h with h | ⟨same, h⟩ <;> rcases h' with h' | ⟨same', h'⟩
  · exact .inl (UInt32.lt_trans h h')
  · exact .inl (same' ▸ h)
  · exact .inl (same ▸ h')
  · exact .inr ⟨same.trans same', Octets.lt_trans h h'⟩

theorem before_of_not_before {a b : ExpiryKey} (h : ¬ a.before b = true) (ne : a ≠ b) :
    b.before a = true := by
  rw [before_iff] at *
  rw [not_or, not_and] at h
  obtain ⟨notEarlier, notLower⟩ := h
  by_cases same : a.expiry = b.expiry
  · by_contra notBefore
    rw [not_or, not_and] at notBefore
    have hash := Octets.eq_of_not_lt (notLower same) (notBefore.2 same.symm)
    exact ne (by cases a; cases b; simp_all)
  · exact .inl (UInt32.lt_of_le_of_ne (UInt32.not_lt.1 notEarlier) (Ne.symm same))

theorem not_before_self (a : ExpiryKey) : ¬ a.before a = true := by
  rw [before_iff]
  rintro (earlier | ⟨-, lower⟩)
  · exact UInt32.lt_irrefl _ earlier
  · exact List.lt_irrefl _ lower

theorem before_asymm {a b : ExpiryKey} (h : a.before b = true) : ¬ b.before a = true :=
  fun back => not_before_self a (before_trans h back)

theorem before_expiry_le {a b : ExpiryKey} (h : a.before b = true) : a.expiry ≤ b.expiry := by
  rcases before_iff.1 h with earlier | ⟨same, -⟩
  · exact UInt32.le_of_lt earlier
  · exact same ▸ UInt32.le_refl _

theorem insert_perm {key : ExpiryKey} {keys : List ExpiryKey} (new : key ∉ keys) :
    (key.insert keys).Perm (key :: keys) := by
  induction keys with
  | nil => exact .refl _
  | cons other rest ih =>
      have ne : key ≠ other := fun same => new (same ▸ List.mem_cons_self)
      have notLater : key ∉ rest := fun later => new (List.mem_cons_of_mem _ later)
      rw [insert, if_neg ne]
      split
      · exact .refl _
      · exact ((ih notLater).cons other).trans (.swap key other rest)

theorem insert_sorted {key : ExpiryKey} {keys : List ExpiryKey} (new : key ∉ keys)
    (sorted : keys.Pairwise fun a b => a.before b = true) :
    (key.insert keys).Pairwise fun a b => a.before b = true := by
  induction keys with
  | nil => exact List.pairwise_singleton _ _
  | cons other rest ih =>
      have ne : key ≠ other := fun same => new (same ▸ List.mem_cons_self)
      have notLater : key ∉ rest := fun later => new (List.mem_cons_of_mem _ later)
      obtain ⟨least, sortedRest⟩ := List.pairwise_cons.1 sorted
      rw [insert, if_neg ne]
      split
      · rename_i front
        refine List.pairwise_cons.2 ⟨?_, sorted⟩
        intro later member
        rcases List.mem_cons.1 member with rfl | member
        · exact front
        · exact before_trans front (least later member)
      · rename_i notFront
        refine List.pairwise_cons.2 ⟨?_, ih notLater sortedRest⟩
        intro later member
        rcases List.mem_cons.1 ((insert_perm notLater).subset member) with rfl | member
        · exact before_of_not_before notFront ne
        · exact least later member

/-- There is one order in which keys can stand. -/
theorem eq_of_sorted {keys others : List ExpiryKey} (perm : keys.Perm others)
    (sorted : keys.Pairwise fun a b => a.before b = true)
    (otherSorted : others.Pairwise fun a b => a.before b = true) : keys = others :=
  perm.eq_of_pairwise (fun _ _ _ _ before after => absurd after (before_asymm before))
    sorted otherSorted

theorem head?_expiry {keys : List ExpiryKey}
    (sorted : keys.Pairwise fun a b => a.before b = true) :
    keys.head?.map (·.expiry) = (keys.map (·.expiry)).min? := by
  cases keys with
  | nil => rfl
  | cons first rest =>
      have least := (List.pairwise_cons.1 sorted).1
      symm
      rw [List.head?_cons, Option.map_some, List.min?_eq_some_iff]
      refine ⟨List.mem_cons_self, ?_⟩
      intro expiry found
      obtain ⟨key, member, rfl⟩ := List.mem_map.1 found
      cases member with
      | head => exact UInt32.le_refl _
      | tail _ member => exact before_expiry_le (least key member)

/-- In a sorted index the expired keys stand in front. -/
theorem takeWhile_expired {keys : List ExpiryKey}
    (sorted : keys.Pairwise fun a b => a.before b = true) (now : UInt64) :
    keys.takeWhile (fun key => key.expiry.toUInt64 ≤ now) =
      keys.filter fun key => key.expiry.toUInt64 ≤ now := by
  induction keys with
  | nil => rfl
  | cons first rest ih =>
      obtain ⟨least, sortedRest⟩ := List.pairwise_cons.1 sorted
      by_cases expired : first.expiry.toUInt64 ≤ now
      · rw [List.takeWhile_cons_of_pos (by exact decide_eq_true expired),
          List.filter_cons_of_pos (by exact decide_eq_true expired), ih sortedRest]
      · have live : ∀ key ∈ first :: rest, ¬ key.expiry.toUInt64 ≤ now := by
          intro key member
          cases member with
          | head => exact expired
          | tail _ member =>
              have le := before_expiry_le (least key member)
              rw [UInt64.le_iff_toNat_le, UInt32.toNat_toUInt64] at *
              rw [UInt32.le_iff_toNat_le] at le
              omega
        rw [List.takeWhile_cons_of_neg (by simpa using expired), List.filter_eq_nil_iff.2]
        exact fun key member => by simpa using live key member

end ExpiryKey

end Courier

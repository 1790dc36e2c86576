import Mathlib
import Courier.Bytes.Lemmas
import Courier.Signature

/-! # Signatures in range

Two octet strings of one length compare like the numbers that they spell, also if no octet is
left out once the first difference was seen. So a signature is valid if its mark is zero or one
and its two numbers lie between zero and the order of the curve.
-/

namespace Courier

namespace Comparison

variable {c : Comparison} {m n : Nat}

/-- Whether a comparison tells which of two numbers is the smaller one. -/
structure Tells (c : Comparison) (m n : Nat) : Prop where
  less : c.less = true ↔ m < n
  greater : c.greater = true ↔ n < m

theorem undecided_tells (n : Nat) : undecided.Tells n n :=
  ⟨by simp [undecided], by simp [undecided]⟩

theorem Tells.step (h : c.Tells m n) (left right : UInt8) :
    (c.step left right).Tells (m * 256 + left.toNat) (n * 256 + right.toNat) := by
  have leftBound := left.toNat_lt
  have rightBound := right.toNat_lt
  have undecided : (!(c.less || c.greater)) = true ↔ m = n := by
    rw [Bool.not_eq_true', ← Bool.not_eq_true, Bool.or_eq_true, h.less, h.greater]
    omega
  constructor
  · simp only [Comparison.step, Bool.or_eq_true, Bool.and_eq_true, h.less, undecided,
      decide_eq_true_iff, UInt8.lt_iff_toNat_lt]
    omega
  · simp only [Comparison.step, Bool.or_eq_true, Bool.and_eq_true, h.greater, undecided,
      decide_eq_true_iff, UInt8.lt_iff_toNat_lt]
    omega

theorem Tells.foldl (h : c.Tells m n) {left right : Bytes} (same : left.length = right.length) :
    ((List.zip left right).foldl (fun c (l, r) => c.step l r) c).Tells
      (left.foldl (fun n octet => n * 256 + octet.toNat) m)
      (right.foldl (fun n octet => n * 256 + octet.toNat) n) := by
  -- the numbers spelt so far go along, and the comparison keeps telling which is smaller
  induction left generalizing right c m n with
  | nil =>
      cases right with
      | nil => exact h
      | cons => cases same
  | cons l left ih =>
      cases right with
      | nil => cases same
      | cons r right => exact ih (h.step l r) (Nat.succ.inj same)

/-- The comparison of two octet strings tells which of them spells the smaller number. -/
theorem ofOctets_tells {left right : Bytes} (same : left.length = right.length) :
    (ofOctets left right).Tells left.value right.value := (undecided_tells 0).foldl same

end Comparison

namespace Signature

variable {octets : Bytes}

/-- Whether a signature's mark is zero or one and its numbers lie below the order of the curve
without being zero. -/
def InRange (signature : Signature) : Prop :=
  (signature.v = 0 ∨ signature.v = 1) ∧
    (1 ≤ signature.r.toNat ∧ signature.r.toNat < Secp256k1.order) ∧
    (1 ≤ signature.s.toNat ∧ signature.s.toNat < Secp256k1.order)

theorem foldl_isZero (octets : Bytes) {zero : Bool} {n : Nat} (h : zero = true ↔ n = 0) :
    octets.foldl (fun z octet => z && octet == 0) zero = true ↔
      octets.foldl (fun n octet => n * 256 + octet.toNat) n = 0 := by
  induction octets generalizing zero n with
  | nil => exact h
  | cons octet rest ih =>
      have next : (zero && octet == 0) = true ↔ n * 256 + octet.toNat = 0 := by
        rw [Bool.and_eq_true, h, beq_iff_eq, ← UInt8.toNat_inj, UInt8.toNat_zero]
        omega
      exact ih next

theorem value_orderOctets : orderOctets.value = Secp256k1.order := by
  rw [orderOctets, Bytes.value_ofNat]
  decide

/-- The check of a number's octets is a check of the number. -/
theorem isScalar_iff (length : octets.length = 32) :
    isScalar octets = true ↔ 1 ≤ octets.value ∧ octets.value < Secp256k1.order := by
  have same : octets.length = orderOctets.length := by
    rw [length, orderOctets, Bytes.length_ofNat]
  have less := (Comparison.ofOctets_tells same).less
  have isZero := foldl_isZero octets (show true = true ↔ 0 = 0 by simp)
  rw [value_orderOctets] at less
  rw [isScalar, Bool.and_eq_true, less, Bool.not_eq_true', ← Bool.not_eq_true, isZero,
    Nat.one_le_iff_ne_zero]
  rfl

theorem isScalar_word (w : Word) :
    isScalar (Bytes.ofNat 32 w.toNat) = true ↔ 1 ≤ w.toNat ∧ w.toNat < Secp256k1.order := by
  have whole : (Bytes.ofNat 32 w.toNat).value = w.toNat := by
    rw [Bytes.value_ofNat]
    exact Nat.mod_eq_of_lt w.isLt
  rw [isScalar_iff (Bytes.length_ofNat _ _), whole]

theorem mark_le_one_iff (v : UInt8) : v ≤ 1 ↔ v = 0 ∨ v = 1 := by
  rw [UInt8.le_iff_toNat_le, ← UInt8.toNat_inj, ← UInt8.toNat_inj, UInt8.toNat_zero,
    UInt8.toNat_one]
  omega

theorem isValid_iff (signature : Signature) : signature.isValid = true ↔ signature.InRange := by
  rw [isValid, Bool.and_eq_true, Bool.and_eq_true, decide_eq_true_iff, mark_le_one_iff, rOctets,
    sOctets, isScalar_word, isScalar_word, InRange, and_assoc]

/-- The check that looks at every octet decides for each string of 32 octets whether the number that
it spells lies between zero and the order, the number that the octets of the order spell. So a
signature is valid if its mark is at most one and both numbers, of 256 bits, lie in that range. -/
theorem isScalar_checks_range :
    orderOctets.length = 32 ∧ orderOctets.value = Secp256k1.order ∧
    (∀ octets : Octets 32, isScalar octets.toList = true ↔
      1 ≤ octets.value ∧ octets.value < orderOctets.value) ∧
    ∀ signature : Signature, signature.isValid = true ↔ signature.v ≤ 1 ∧
      (1 ≤ signature.r.toNat ∧ signature.r.toNat < orderOctets.value) ∧
      (1 ≤ signature.s.toNat ∧ signature.s.toNat < orderOctets.value) := by
  refine ⟨Bytes.length_ofNat _ _, value_orderOctets, fun octets => ?_, fun signature => ?_⟩
  · rw [isScalar_iff octets.length_toList, value_orderOctets]
    rfl
  · rw [isValid_iff, InRange, mark_le_one_iff, value_orderOctets]

end Signature

end Courier

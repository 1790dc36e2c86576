import Mathlib
import Courier.Proofs.Signature
import Courier.Transaction.Sender

/-! # Both forms of a signature name one signer

With `s` also `order - s` signs, for the other parity. The order is odd, so one of the two lies in
the lower half and the other in the upper half, and recovery folds both to the one below. What the
primitive for recovery does is left open; it is asked about low signatures in range only.
-/

namespace Courier

variable {Secret Public : Type}

namespace Signature

variable {signature : Signature}

/-- The other signature of the same signer: the other parity, and what `s` lacks to the order. -/
def opposite (signature : Signature) : Signature :=
  ⟨signature.v ^^^ 1, signature.r, BitVec.ofNat 256 Secp256k1.order - signature.s⟩

theorem lowForm_eq (signature : Signature) :
    signature.lowForm = if halfOrder < signature.s then signature.opposite else signature := rfl

theorem order_eq : Secp256k1.order = 2 * halfOrder.toNat + 1 := by decide

theorem xor_one_xor_one (v : UInt8) : v ^^^ 1 ^^^ 1 = v := by
  rw [UInt8.xor_assoc, UInt8.xor_self, UInt8.xor_zero]

namespace InRange

theorem opposite_s (h : signature.InRange) :
    signature.opposite.s.toNat = Secp256k1.order - signature.s.toNat := by
  have above : signature.s ≤ BitVec.ofNat 256 Secp256k1.order := by
    rw [BitVec.le_def]
    exact h.2.2.2.le
  rw [opposite, BitVec.toNat_sub_of_le above]
  rfl

theorem opposite (h : signature.InRange) : signature.opposite.InRange := by
  have s := h.opposite_s
  obtain ⟨mark, r, pos, lt⟩ := h
  refine ⟨?_, r, by omega, by omega⟩
  rcases mark with zero | one
  · exact .inr (by rw [Signature.opposite, zero]; rfl)
  · exact .inl (by rw [Signature.opposite, one]; rfl)

theorem opposite_opposite (h : signature.InRange) : signature.opposite.opposite = signature := by
  have s : signature.opposite.opposite.s = signature.s := by
    apply BitVec.eq_of_toNat_eq
    have lt := h.2.2.2
    rw [h.opposite.opposite_s, h.opposite_s]
    omega
  exact Signature.ext (xor_one_xor_one signature.v) rfl s

/-- Of the two forms one lies in the upper half. -/
theorem opposite_high_iff (h : signature.InRange) :
    halfOrder < signature.opposite.s ↔ ¬ halfOrder < signature.s := by
  have lt := h.2.2.2
  have odd := order_eq
  rw [BitVec.lt_def, BitVec.lt_def, h.opposite_s]
  omega

theorem lowForm (h : signature.InRange) : signature.lowForm.InRange := by
  rw [lowForm_eq]
  split
  · exact h.opposite
  · exact h

theorem lowForm_opposite (h : signature.InRange) :
    signature.opposite.lowForm = signature.lowForm := by
  simp only [lowForm_eq, h.opposite_high_iff, h.opposite_opposite, ite_not]

theorem lowForm_low (h : signature.InRange) : ¬ halfOrder < signature.lowForm.s := by
  rw [lowForm_eq]
  split
  · rwa [h.opposite_high_iff, not_not]
  · assumption

theorem lowForm_lowForm (h : signature.InRange) : signature.lowForm.lowForm = signature.lowForm := by
  rw [lowForm_eq signature.lowForm, if_neg h.lowForm_low]

end InRange

theorem lowForm_r (signature : Signature) : signature.lowForm.r = signature.r := by
  rw [lowForm_eq]
  split <;> rfl

theorem recoverAddress_of_inRange (suite : Suite Secret Public) (digest : Hash)
    (h : signature.InRange) :
    signature.recoverAddress suite digest =
      match suite.recover? digest signature.lowForm with
      | some key => .ok (suite.address key)
      | none => .error .invalidSignature :=
  if_pos ((isValid_iff signature).2 h)

theorem recoverAddress_of_not_inRange (suite : Suite Secret Public) (digest : Hash)
    (h : ¬ signature.InRange) :
    signature.recoverAddress suite digest = .error .invalidSignature :=
  if_neg (mt (isValid_iff signature).1 h)

/-- Whatever the primitive for recovery does: both forms of a signature in range give the same
address or the same error, which is what the primitive says about the form in the lower half. About
a signature out of range it is not asked. -/
theorem recoverAddress_opposite (suite : Suite Secret Public) (digest : Hash)
    (signature : Signature) :
    (signature.InRange →
      signature.opposite.recoverAddress suite digest = signature.recoverAddress suite digest ∧
      signature.recoverAddress suite digest =
        (match suite.recover? digest signature.lowForm with
        | some key => .ok (suite.address key)
        | none => .error .invalidSignature) ∧
      signature.lowForm.r = signature.r ∧
      (signature.lowForm.v = 0 ∨ signature.lowForm.v = 1) ∧
      (1 ≤ signature.lowForm.s.toNat ∧
        signature.lowForm.s.toNat ≤ (Secp256k1.order - 1) / 2) ∧
      signature.lowForm.lowForm = signature.lowForm ∧
      signature.opposite.s.toNat + signature.s.toNat = Secp256k1.order) ∧
    (¬ signature.InRange → signature.recoverAddress suite digest = .error .invalidSignature) := by
  refine ⟨fun h => ⟨?same, recoverAddress_of_inRange suite digest h, lowForm_r signature,
    h.lowForm.1, ⟨h.lowForm.2.2.1, ?half⟩, h.lowForm_lowForm, ?whole⟩,
    recoverAddress_of_not_inRange suite digest⟩
  case same =>
    rw [recoverAddress_of_inRange suite digest h.opposite,
      recoverAddress_of_inRange suite digest h, h.lowForm_opposite]
  case half =>
    have low := h.lowForm_low
    have odd := order_eq
    rw [BitVec.lt_def] at low
    omega
  case whole =>
    have lt := h.2.2.2
    rw [h.opposite_s]
    omega

/-- The least `s` that is folded, which gives the largest one that is not. -/
theorem recoverAddress_opposite_middle :
    let signature : Signature := ⟨1, 5, halfOrder + 1⟩
    signature.InRange ∧ signature.opposite = ⟨0, 5, halfOrder⟩ ∧
      signature.lowForm = ⟨0, 5, halfOrder⟩ ∧
      Signature.recoverAddress .standard .zero ⟨0, 5, halfOrder⟩ =
        signature.recoverAddress .standard .zero := by
  intro signature
  have inRange : signature.InRange := ⟨.inr rfl, by decide, by decide⟩
  have folded : signature.opposite = ⟨0, 5, halfOrder⟩ := by decide
  have same := ((recoverAddress_opposite .standard .zero signature).1 inRange).1
  exact ⟨inRange, folded, by decide, folded ▸ same⟩

end Signature

end Courier

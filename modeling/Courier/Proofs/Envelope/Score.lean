import Mathlib
import Courier.Pool.Eviction

/-! # The order of scores

A pool compares scores in two ways: it admits a newcomer by the order of numbers, and it picks what
gives way by the places of floats. The two agree on scores, since no score bears a minus sign:
among the floats without one, the larger has the larger bits, save that nothing compares with what
is no number.
-/

namespace Courier

open Float.Model Float.Model.UnpackedFloat

section Bits

/-- Whether an unpacked float bears no minus sign. -/
def Plain : UnpackedFloat → Prop
  | .notANumber => True
  | .infinity sign | .zero sign | .finite sign _ _ _ => sign = .positive

theorem packComponents_lt (e : BitVec 11) (m : BitVec 52) :
    (packComponents Format.binary64 .positive e m).toNat < 0x8000000000000000 := by
  have parts : (packComponents Format.binary64 .positive e m).toNat = (e ++ m).toNat := by
    simp only [packComponents, Sign.toBitVec, BitVec.append_assoc]
    rw [BitVec.toNat_cast, BitVec.toNat_append]
    simp
  rw [parts]
  exact (e ++ m).isLt

theorem pack_lt {f : UnpackedFloat} (h : Plain f) :
    (UnpackedFloat.pack Format.binary64 f).toNat < 0x8000000000000000 := by
  cases f with
  | notANumber => exact packComponents_lt _ _
  | infinity | zero => cases h; exact packComponents_lt _ _
  | finite sign m e pos =>
      cases h
      simp only [UnpackedFloat.pack]
      split
      · exact packComponents_lt _ _
      · split <;> exact packComponents_lt _ _

theorem unpackMantissa_toNat (b : BitVec 64) :
    (@unpackMantissa Format.binary64 b).toNat = b.toNat % 2 ^ 52 := by
  simp [unpackMantissa]

theorem unpackExponent_toNat {b : BitVec 64} (h : b.toNat < 0x8000000000000000) :
    (@unpackExponent Format.binary64 b).toNat = b.toNat / 2 ^ 52 := by
  simp only [unpackExponent, BitVec.toNat_cast, BitVec.extractLsb, BitVec.extractLsb'_toNat,
    Nat.shiftRight_eq_div_pow]
  exact Nat.mod_eq_of_lt (by omega)

theorem unpackSign_eq {b : BitVec 64} (h : b.toNat < 0x8000000000000000) :
    @unpackSign Format.binary64 b = 0#1 := by
  apply BitVec.eq_of_toNat_eq
  rw [unpackSign, BitVec.toNat_cast, BitVec.extractLsb, BitVec.extractLsb'_toNat,
    Nat.shiftRight_eq_div_pow]
  change b.toNat / 2 ^ 63 % 2 = 0
  omega

theorem one_append_toNat (m : BitVec 52) : (1#1 ++ m).toNat = 2 ^ 52 + m.toNat := by
  rw [BitVec.toNat_append, Nat.shiftLeft_eq, Nat.mul_comm, ← Nat.two_pow_add_eq_or_of_lt m.isLt]
  rfl

/-- Which bits, as a number, spell a float without minus sign. -/
inductive Spells : Nat → UnpackedFloat → Prop where
  | zero : Spells 0 (.zero .positive)
  | finite {n m : Nat} {exponent : Int} {pos : 0 < m} (e : Nat)
      (bits : n = e * 2 ^ 52 + m) (place : exponent = e - 1074)
      (normal : e = 0 ∨ 2 ^ 52 ≤ m) (short : m < 2 ^ 53) (most : e < 2046) :
      Spells n (.finite .positive m exponent pos)
  | infinity : Spells 0x7ff0000000000000 (.infinity .positive)
  | notANumber (n : Nat) (large : 0x7ff0000000000000 < n) : Spells n .notANumber

theorem Spells.plain {n : Nat} {f : UnpackedFloat} (h : Spells n f) : Plain f := by
  cases h with
  | zero | finite | infinity => rfl
  | notANumber => trivial

theorem spells_unpack {b : BitVec 64} (h : b.toNat < 0x8000000000000000) :
    Spells b.toNat (UnpackedFloat.unpack Format.binary64 b) := by
  have exponent : ∀ e : BitVec 11, @unpackExponent Format.binary64 b = e ↔
      b.toNat / 2 ^ 52 = e.toNat := fun e => by rw [← unpackExponent_toNat h, BitVec.toNat_inj]
  have mantissa : ∀ m : BitVec 52, @unpackMantissa Format.binary64 b = m ↔
      b.toNat % 2 ^ 52 = m.toNat := fun m => by rw [← unpackMantissa_toNat, BitVec.toNat_inj]
  have bias : Format.binary64.exponentBias = 1023 := rfl
  simp only [UnpackedFloat.unpack, unpackSign_eq h]
  -- the largest exponent is kept for what is infinite or no number, the least for what is small
  split
  · rename_i special
    replace special : b.toNat / 2 ^ 52 = 2047 := (exponent _).1 special
    split
    · rename_i whole
      replace whole : b.toNat % 2 ^ 52 = 0 := (mantissa _).1 whole
      have bits : b.toNat = 0x7ff0000000000000 := by omega
      rw [bits]
      exact .infinity
    · rename_i rest
      replace rest : b.toNat % 2 ^ 52 ≠ 0 := mt (mantissa 0#52).2 rest
      exact .notANumber _ (by omega)
  · rename_i ordinary
    replace ordinary : b.toNat / 2 ^ 52 ≠ 2047 := mt (exponent (-1#11)).2 ordinary
    split
    · rename_i least
      replace least : b.toNat / 2 ^ 52 = 0 := (exponent _).1 least
      split
      · rename_i whole
        replace whole : b.toNat % 2 ^ 52 = 0 := (mantissa _).1 whole
        have bits : b.toNat = 0 := by omega
        rw [bits]
        exact .zero
      · simp only [unpackMantissa_toNat, unpackExponent_toNat h, bias]
        exact .finite 0 (by omega) (by omega) (.inl rfl) (by omega) (by omega)
    · rename_i normal
      replace normal : b.toNat / 2 ^ 52 ≠ 0 := mt (exponent 0#11).2 normal
      simp only [one_append_toNat, unpackMantissa_toNat, unpackExponent_toNat h, bias]
      exact .finite (b.toNat / 2 ^ 52 - 1) (by omega) (by omega) (.inr (by omega)) (by omega)
        (by omega)

theorem Spells.lt_iff {n k : Nat} {f g : UnpackedFloat} (h : Spells n f) (h' : Spells k g) :
    f.lt g = true ↔ n < k ∧ k ≤ 0x7ff0000000000000 := by
  cases h with
  | zero | infinity | notANumber =>
      cases h' with
      | zero | infinity | notANumber | finite =>
          simp [UnpackedFloat.lt, UnpackedFloat.compare] <;> omega
  | finite =>
      cases h' with
      | zero | infinity | notANumber => simp [UnpackedFloat.lt, UnpackedFloat.compare] <;> omega
      | finite =>
          simp [UnpackedFloat.lt, UnpackedFloat.compare, Ordering.then_eq_lt, compare_lt_iff_lt]
          omega

end Bits

section Arithmetic

theorem plain_roundWithAccuracy (m : Nat) (e : Int) (accuracy : Accuracy) :
    Plain (roundWithAccuracy Format.binary64 .positive m e accuracy) := by
  simp only [roundWithAccuracy]
  split <;> rfl

theorem plain_round (m : Nat) (e : Int) : Plain (round Format.binary64 .positive m e) :=
  plain_roundWithAccuracy _ _ _

theorem Plain.mul {f g : UnpackedFloat} (hf : Plain f) (hg : Plain g) :
    Plain (UnpackedFloat.mul Format.binary64 f g) := by
  cases f with
  | notANumber => trivial
  | infinity =>
      cases hf
      cases g with
      | notANumber | zero => trivial
      | infinity | finite => cases hg; rfl
  | zero =>
      cases hf
      cases g with
      | notANumber | infinity => trivial
      | zero | finite => cases hg; rfl
  | finite =>
      cases hf
      cases g with
      | notANumber => trivial
      | infinity | zero => cases hg; rfl
      | finite => cases hg; exact plain_roundWithAccuracy _ _ _

theorem Plain.div {f g : UnpackedFloat} (hf : Plain f) (hg : Plain g) :
    Plain (UnpackedFloat.div Format.binary64 f g) := by
  cases f with
  | notANumber => trivial
  | infinity =>
      cases hf
      cases g with
      | notANumber | infinity => trivial
      | zero | finite => cases hg; rfl
  | zero =>
      cases hf
      cases g with
      | notANumber | zero => trivial
      | infinity | finite => cases hg; rfl
  | finite =>
      cases hf
      cases g with
      | notANumber => trivial
      | infinity | zero => cases hg; rfl
      | finite => cases hg; exact plain_roundWithAccuracy _ _ _

theorem plain_ofNat (n : Nat) : Plain (UnpackedFloat.ofNat Format.binary64 n) := by
  rw [UnpackedFloat.ofNat, UnpackedFloat.ofInt, UnpackedFloat.normalize]
  split
  · rename_i below
    rw [compare_lt_iff_lt] at below
    omega
  · rfl
  · exact plain_round _ _

theorem plain_ofScientific (n : Nat) (e : Int) :
    Plain (UnpackedFloat.ofScientific Format.binary64 n e) := by
  unfold UnpackedFloat.ofScientific
  split
  · rfl
  · split
    · rfl
    · split
      · rfl
      · split
        · exact Plain.mul rfl rfl
        · exact Plain.div rfl rfl

/-- Whether a float bears no minus sign. -/
def Unsigned (x : Float) : Prop := x.toBits.toNat < 0x8000000000000000

theorem Plain.unsigned {f : UnpackedFloat} (h : Plain f) :
    Unsigned (.ofModel (Float.Model.pack f)) := pack_lt h

namespace Unsigned

variable {x y z : Float}

theorem spells (h : Unsigned x) : Spells x.toBits.toNat x.toModel.unpack := spells_unpack h

theorem mul (hx : Unsigned x) (hy : Unsigned y) : Unsigned (x * y) :=
  (hx.spells.plain.mul hy.spells.plain).unsigned

theorem div (hx : Unsigned x) (hy : Unsigned y) : Unsigned (x / y) :=
  (hx.spells.plain.div hy.spells.plain).unsigned

theorem ofNat (n : Nat) : Unsigned (Float.ofNat n) := by
  simp only [Float.ofNat, OfScientific.ofScientific, Float.ofScientific]
  split
  · have one : Unsigned (Float.ofBits 0x3ff0000000000000) := by
      unfold Unsigned
      decide +kernel
    exact (plain_ofNat n.toUInt64.toNat).unsigned.mul one
  · exact (plain_ofScientific n _).unsigned

theorem lt_iff (hx : Unsigned x) (hy : Unsigned y) :
    x < y ↔ x.toBits.toNat < y.toBits.toNat ∧ y.toBits.toNat ≤ 0x7ff0000000000000 :=
  decide_eq_true_iff.trans (hx.spells.lt_iff hy.spells)

theorem orderKey_eq (h : Unsigned x) : orderKey x = x.toBits.toNat := if_pos h

theorem lt_of_orderKey_le (hx : Unsigned x) (hy : Unsigned y) (hz : Unsigned z)
    (least : orderKey x ≤ orderKey y) (below : y < z) : x < z := by
  rw [hx.orderKey_eq, hy.orderKey_eq] at least
  rw [hy.lt_iff hz] at below
  rw [hx.lt_iff hz]
  omega

theorem not_lt_of_orderKey_le (hx : Unsigned x) (hy : Unsigned y)
    (least : orderKey x ≤ orderKey y) : ¬ y < x := by
  rw [hx.orderKey_eq, hy.orderKey_eq] at least
  rw [hy.lt_iff hx]
  omega

end Unsigned

end Arithmetic

theorem Envelope.unsigned_score (envelope : Envelope) : Unsigned envelope.score :=
  ((Unsigned.ofNat _).mul (.ofNat _)).div (.ofNat _)

end Courier

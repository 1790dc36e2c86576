import Mathlib
import Courier.Bytes.Lemmas
import Courier.Envelope.Work

/-! # What leading zeros measure

The leading zero bits of an octet string and the bits of the number that it spells are together as
many as the string has. So a hash never has fewer leading zeros than one that is larger as a number,
and a target of work is a bound on the hash.
-/

namespace Courier

theorem size_mul_two_pow_add {high low k : Nat} (nonzero : high ≠ 0) (small : low < 2 ^ k) :
    (high * 2 ^ k + low).size = high.size + k := by
  apply Nat.le_antisymm
  · rw [Nat.size_le]
    calc high * 2 ^ k + low < (high + 1) * 2 ^ k := by rw [Nat.succ_mul]; omega
      _ ≤ 2 ^ high.size * 2 ^ k := Nat.mul_le_mul_right _ (Nat.lt_size_self high)
      _ = 2 ^ (high.size + k) := (Nat.pow_add ..).symm
  · rw [← Nat.size_shiftLeft nonzero, Nat.shiftLeft_eq]
    exact Nat.size_le_size (Nat.le_add_right _ _)

theorem size_eq_log2_succ {n : Nat} (nonzero : n ≠ 0) : n.size = n.log2 + 1 := by
  apply Nat.le_antisymm
  · exact Nat.size_le.2 ((Nat.log2_lt nonzero).1 (Nat.lt_succ_self _))
  · exact Nat.lt_size.2 (Nat.log2_self_le nonzero)

/-- The leading zeros of an octet are the bits that its number leaves free. -/
theorem octetLeadingZeros_add_size (octet : UInt8) :
    octetLeadingZeros octet + octet.toNat.size = 8 := by
  by_cases zero : octet = 0
  case pos => simp [octetLeadingZeros, zero]
  case neg =>
    have nonzero : octet.toNat ≠ 0 := fun same => zero (UInt8.toNat_inj.1 same)
    have short : octet.toNat.log2 < 8 := (Nat.log2_lt nonzero).2 octet.toNat_lt
    rw [octetLeadingZeros, if_neg zero, size_eq_log2_succ nonzero]
    omega

theorem leadingZeroBits_add_size (octets : Bytes) :
    leadingZeroBits octets + octets.value.size = 8 * octets.length := by
  induction octets with
  | nil => rfl
  | cons octet rest ih =>
      rw [leadingZeroBits, Bytes.value_cons, List.length_cons]
      split
      case isTrue zero =>
        rw [zero, UInt8.toNat_zero, Nat.zero_mul, Nat.zero_add]
        omega
      case isFalse other =>
        -- the count stops here, and what follows only adds its own bits below this octet
        have nonzero : octet.toNat ≠ 0 := fun same => other (UInt8.toNat_inj.1 same)
        have power : 256 ^ rest.length = 2 ^ (8 * rest.length) := by rw [Nat.pow_mul]
        have below := Bytes.value_lt rest
        have first := octetLeadingZeros_add_size octet
        rw [power] at below ⊢
        rw [size_mul_two_pow_add nonzero below]
        omega

section Hash

variable {hash smaller larger : Hash} {k : Nat}

theorem leadingZeroBits_hash (hash : Hash) :
    leadingZeroBits hash.toList + hash.value.size = 256 := by
  have whole := leadingZeroBits_add_size hash.toList
  rwa [hash.length_toList] at whole

theorem le_leadingZeroBits_iff (fits : k ≤ 256) :
    k ≤ leadingZeroBits hash.toList ↔ hash.value < 2 ^ (256 - k) := by
  have whole := leadingZeroBits_hash hash
  rw [← Nat.size_le]
  omega

theorem leadingZeroBits_anti (le : smaller.value ≤ larger.value) :
    leadingZeroBits larger.toList ≤ leadingZeroBits smaller.toList := by
  have wholeSmaller := leadingZeroBits_hash smaller
  have wholeLarger := leadingZeroBits_hash larger
  have shorter := Nat.size_le_size le
  omega

end Hash

namespace Work

/-- The hash whose leading zeros are the work of a nonce. -/
def hashOfNonce (digest : Bytes → Hash) (sealHash : Hash) (nonce : UInt64) : Hash :=
  digest (sealHash.toList ++ Bytes.ofNat 8 nonce.toNat)

theorem ofNonce_eq (digest : Bytes → Hash) (sealHash : Hash) (nonce : UInt64) :
    ofNonce digest sealHash nonce = leadingZeroBits (hashOfNonce digest sealHash nonce).toList :=
  rfl

end Work

/-- The leading zero bits of a hash and the bits of its number are 256 together. So a target of
work is a bound on the hash of the nonce, and a smaller hash never proves less work. -/
theorem leadingZeroBits_measures :
    (∀ hash : Hash,
      (∀ k ≤ 256, k ≤ leadingZeroBits hash.toList ↔ hash.value < 2 ^ (256 - k)) ∧
      leadingZeroBits hash.toList + hash.value.size = 256 ∧
      leadingZeroBits hash.toList ≤ 256 ∧
      ∀ larger : Hash, hash.value ≤ larger.value →
        leadingZeroBits larger.toList ≤ leadingZeroBits hash.toList) ∧
    ∀ (digest : Bytes → Hash) (sealHash : Hash) (nonce : UInt64),
      let workHash := Work.hashOfNonce digest sealHash nonce
      (∀ k ≤ 256, k ≤ Work.ofNonce digest sealHash nonce ↔ workHash.value < 2 ^ (256 - k)) ∧
      ∀ (otherSeal : Hash) (other : UInt64),
        workHash.value ≤ (Work.hashOfNonce digest otherSeal other).value →
          Work.ofNonce digest otherSeal other ≤ Work.ofNonce digest sealHash nonce := by
  refine ⟨fun hash => ⟨?reaches, leadingZeroBits_hash hash, ?most, ?falls⟩,
    fun digest sealHash nonce => ⟨?worksOut, ?worksLess⟩⟩
  case reaches => exact fun k fits => le_leadingZeroBits_iff fits
  case most => exact Nat.le_of_add_right_le (leadingZeroBits_hash hash).le
  case falls => exact fun larger le => leadingZeroBits_anti le
  case worksOut =>
    intro k fits
    rw [Work.ofNonce_eq]
    exact le_leadingZeroBits_iff fits
  case worksLess =>
    intro otherSeal other le
    rw [Work.ofNonce_eq, Work.ofNonce_eq]
    exact leadingZeroBits_anti le

end Courier

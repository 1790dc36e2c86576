import Mathlib
import Courier.Bytes

/-! # Numbers as octet strings

A number that is written in a fixed width and read back keeps its lowest octets, and one that
is written in the fewest octets keeps all of them.
-/

namespace Courier.Bytes

@[simp] theorem value_nil : value [] = 0 := rfl

theorem value_append_singleton (bytes : Bytes) (octet : UInt8) :
    value (bytes ++ [octet]) = value bytes * 256 + octet.toNat := by
  simp [value, List.foldl_append]

theorem value_ofNat (width n : Nat) : value (ofNat width n) = n % 256 ^ width := by
  induction width generalizing n with
  | zero => simp [ofNat, Nat.mod_one]
  | succ width ih =>
    have octet : (UInt8.ofNat n).toNat = n % 256 := by simp
    rw [ofNat, value_append_singleton, ih, octet, Nat.pow_succ, Nat.mul_comm (256 ^ width),
      Nat.mod_mul]
    omega

theorem lt_pow_width (n : Nat) : n < 256 ^ width n := by
  unfold width
  split
  · simp_all
  · rw [show (256 : Nat) = 2 ^ 8 from rfl, ← Nat.pow_mul]
    exact (Nat.log2_lt ‹_›).1 (by omega)

/-- The fewest octets still hold the whole number. -/
@[simp] theorem value_minimal (n : Nat) : value (minimal n) = n := by
  rw [minimal, value_ofNat, Nat.mod_eq_of_lt (lt_pow_width n)]

theorem value_foldl (bytes : Bytes) (start : Nat) :
    bytes.foldl (fun n octet => n * 256 + octet.toNat) start =
      start * 256 ^ bytes.length + value bytes := by
  induction bytes using List.reverseRecOn with
  | nil => simp
  | append_singleton front last ih =>
    rw [value_append_singleton, List.foldl_append, ih, List.length_append]
    simp only [List.foldl_cons, List.foldl_nil, List.length_singleton, Nat.pow_succ]
    ring

theorem value_cons (octet : UInt8) (bytes : Bytes) :
    value (octet :: bytes) = octet.toNat * 256 ^ bytes.length + value bytes := by
  rw [value, List.foldl_cons, Nat.zero_mul, Nat.zero_add, value_foldl]

theorem value_lt (bytes : Bytes) : value bytes < 256 ^ bytes.length := by
  induction bytes with
  | nil => simp
  | cons octet rest ih =>
    have bound := octet.toNat_lt
    rw [value_cons, List.length_cons, Nat.pow_succ]
    nlinarith

theorem value_lt_pow {bytes : Bytes} {width : Nat} (short : bytes.length ≤ width) :
    value bytes < 256 ^ width :=
  (value_lt bytes).trans_le (Nat.pow_le_pow_right (by decide) short)

@[simp] theorem length_minimal (n : Nat) : (minimal n).length = width n := length_ofNat _ _

theorem width_pos {n : Nat} (h : 0 < n) : 0 < width n := by
  rw [width, if_neg (by omega)]
  omega

theorem pow_le_of_width {n k : Nat} (h : width n = k + 1) : 256 ^ k ≤ n := by
  unfold width at h
  split at h
  · cases h
  · rename_i positive
    have digits : 8 * k ≤ n.log2 := by omega
    calc 256 ^ k = 2 ^ (8 * k) := by rw [Nat.pow_mul]
      _ ≤ 2 ^ n.log2 := Nat.pow_le_pow_right (by omega) digits
      _ ≤ n := Nat.log2_self_le positive

theorem head?_minimal (n : Nat) : (minimal n).head? ≠ some 0 := by
  intro head
  cases written : minimal n with
  | nil => simp [written] at head
  | cons first rest =>
    rw [written, List.head?_cons, Option.some.injEq] at head
    have length : width n = rest.length + 1 := by
      rw [← length_minimal, written, List.length_cons]
    have value := value_minimal n
    rw [written, head, value_cons] at value
    have small := value_lt rest
    have large := pow_le_of_width length
    simp at value
    omega

theorem width_le {n k : Nat} (h : n < 256 ^ k) : width n ≤ k := by
  by_contra more
  obtain ⟨j, width⟩ : ∃ j, width n = j + 1 := ⟨width n - 1, by omega⟩
  have large := pow_le_of_width width
  have larger : 256 ^ k ≤ 256 ^ j := Nat.pow_le_pow_right (by omega) (by omega)
  omega

theorem ofNat_value (bytes : Bytes) : ofNat bytes.length (value bytes) = bytes := by
  induction bytes using List.reverseRecOn with
  | nil => rfl
  | append_singleton front last ih =>
    have bound := last.toNat_lt
    have quotient : (value front * 256 + last.toNat) / 256 = value front := by omega
    have octet : UInt8.ofNat (value front * 256 + last.toNat) = last := by
      apply UInt8.toNat_inj.1
      simp
    rw [List.length_append, List.length_singleton, value_append_singleton, ofNat, quotient, ih,
      octet]

theorem width_value {bytes : Bytes} (nonzero : bytes.head? ≠ some 0) :
    width (value bytes) = bytes.length := by
  apply Nat.le_antisymm (width_le (value_lt bytes))
  cases bytes with
  | nil => exact Nat.zero_le _
  | cons first rest =>
    have positive : 0 < first.toNat := by
      rw [Nat.pos_iff_ne_zero]
      intro zero
      exact nonzero (congrArg some (UInt8.toNat_inj.1 zero))
    have large : 256 ^ rest.length ≤ value (first :: rest) := by
      rw [value_cons]
      exact (Nat.le_mul_of_pos_left _ positive).trans (Nat.le_add_right _ _)
    by_contra short
    have power : 256 ^ width (value (first :: rest)) ≤ 256 ^ rest.length :=
      Nat.pow_le_pow_right (by decide) (by simp only [List.length_cons] at short; omega)
    have := lt_pow_width (value (first :: rest))
    omega

/-- Octets that do not begin with zero are the fewest that hold their number. -/
theorem minimal_value {bytes : Bytes} (nonzero : bytes.head? ≠ some 0) :
    minimal (value bytes) = bytes := by
  rw [minimal, width_value nonzero, ofNat_value]

theorem width_mono {m n : Nat} (le : m ≤ n) : width m ≤ width n :=
  width_le (le.trans_lt (lt_pow_width n))

end Courier.Bytes

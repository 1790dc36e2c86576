import Mathlib
import Courier.Proofs.Rlp.Injective
import Courier.Transaction.Basic

/-! # What a signature commits to

The octets that are signed are the list of six fields, and the octets that name a transaction are
the list of nine. From either list its fields can be read off, so a signature is for one recipient,
one value, one string of data and so on, and no signed octets are ever the name of a transaction.
-/

namespace Courier.Transaction

open Rlp

variable {tx other : Transaction}

/-- The octets that stand for a recipient, none if there is none, stand for no other one. -/
theorem recipientOctets_inj {recipient another : Option Address}
    (same : (match recipient with
      | some address => address.toList
      | none => []) = match another with
      | some address => address.toList
      | none => []) : recipient = another := by
  cases recipient with
  | none =>
      cases another with
      | none => rfl
      | some address =>
          have length := address.length_toList
          simp [← same] at length
  | some address =>
      cases another with
      | none =>
          have length := address.length_toList
          simp [same] at length
      | some others => exact congrArg some (Octets.ext same)

theorem unsignedFields_inj :
    tx.unsignedFields = other.unsignedFields ↔
      tx.nonce = other.nonce ∧ tx.gasPrice = other.gasPrice ∧ tx.gas = other.gas ∧
        tx.recipient = other.recipient ∧ tx.value = other.value ∧ tx.data = other.data := by
  constructor
  · intro same
    simp only [unsignedFields, List.cons.injEq, Value.nat_inj, Value.octets.injEq,
      BitVec.toNat_inj] at same
    obtain ⟨nonce, gasPrice, gas, recipient, value, data, -⟩ := same
    exact ⟨nonce, gasPrice, gas, recipientOctets_inj recipient, value, data⟩
  · rintro ⟨nonce, gasPrice, gas, recipient, value, data⟩
    simp only [unsignedFields, nonce, gasPrice, gas, recipient, value, data]

theorem unsignedFields_ne (tx other : Transaction) :
    tx.unsignedFields ≠ other.unsignedFields ++ other.signatureFields := by
  intro same
  have count := congrArg List.length same
  simp [unsignedFields, signatureFields] at count

/-- The octets that are signed are those of another transaction if and only if the two agree in
every field but the signature. They are never the octets that name a transaction, be it the one that
is signed or another. -/
theorem encodeUnsigned_commits (tx other : Transaction)
    (fits : tx.encodeUnsigned.length < sizeLimit) :
    (tx.encodeUnsigned = other.encodeUnsigned ↔
      tx.nonce = other.nonce ∧ tx.gasPrice = other.gasPrice ∧ tx.gas = other.gas ∧
        tx.kind = other.kind ∧ tx.recipient = other.recipient ∧ tx.value = other.value ∧
        tx.data = other.data) ∧
    tx.encodeUnsigned ≠ other.encode := by
  constructor
  · rw [encodeUnsigned, encodeUnsigned, Value.encode_inj fits, Value.list.injEq,
      unsignedFields_inj]
    constructor
    · rintro ⟨nonce, gasPrice, gas, recipient, rest⟩
      exact ⟨nonce, gasPrice, gas, by rw [kind, kind, recipient], recipient, rest⟩
    · rintro ⟨nonce, gasPrice, gas, -, rest⟩
      exact ⟨nonce, gasPrice, gas, rest⟩
  · rw [encodeUnsigned, encode, ne_eq, Value.encode_inj fits, Value.list.injEq]
    exact unsignedFields_ne tx other

/-- A creation whose data are the octets of a signature's fields. -/
def disguised : Transaction := ⟨1, 2, 53000, none, 3, [0x1b, 0x01, 0x01], .blank⟩

/-- The creation without data that has this signature. Its octets differ in the header of the data
alone. -/
def disguise : Transaction := ⟨1, 2, 53000, none, 3, [], ⟨0, 1, 1⟩⟩

theorem encodeUnsigned_commits_disguised :
    disguised.encodeUnsigned.length < sizeLimit ∧
      disguised.encodeUnsigned = disguise.encode.set 8 0x83 ∧
      disguised.encodeUnsigned ≠ disguise.encode ∧
      disguised.encodeUnsigned ≠ disguise.encodeUnsigned ∧
      disguised.encodeUnsigned =
        { disguised with signature := disguise.signature }.encodeUnsigned := by
  have fits : disguised.encodeUnsigned.length < sizeLimit := by decide
  refine ⟨fits, by decide, (encodeUnsigned_commits _ _ fits).2, ?_, ?_⟩
  · intro same
    have agree := (encodeUnsigned_commits _ _ fits).1.1 same
    exact absurd agree.2.2.2.2.2.2 (by decide)
  · exact (encodeUnsigned_commits _ _ fits).1.2 ⟨rfl, rfl, rfl, rfl, rfl, rfl, rfl⟩

end Courier.Transaction

import Mathlib
import Courier.Envelope.Work
import Courier.Proofs.Rlp.Canonical
import Courier.Proofs.Rlp.Injective

/-! # What proof of work commits to

The sealed form of an envelope is the list of all its fields but the nonce. From it the four fields
can be read off, and it is never the encoding of an envelope, which is a list of five. So work that
was done for one envelope is no work for another one, and stamping an envelope changes nothing that
the work commits to.
-/

namespace Courier.Envelope

open Rlp

variable {envelope other : Envelope}

theorem topicValues_inj {topics others : Topics} :
    (topics.toList.map fun topic => Value.octets topic.toList) =
      (others.toList.map fun topic => Value.octets topic.toList) ↔ topics = others := by
  have injective : Function.Injective fun topic : Topic => Value.octets topic.toList :=
    fun topic another same => Octets.ext (Value.octets.inj same)
  rw [(List.map_injective_iff.2 injective).eq_iff, Topics.ext_iff]

theorem sealFields_inj :
    envelope.sealFields = other.sealFields ↔
      envelope.expiry = other.expiry ∧ envelope.ttl = other.ttl ∧
        envelope.topics = other.topics ∧ envelope.data = other.data := by
  simp only [sealFields, List.cons.injEq, Value.nat_inj, Value.list.injEq, Value.octets.injEq,
    topicValues_inj, UInt32.toNat_inj, and_true]

theorem sealFields_ne (envelope other : Envelope) :
    envelope.sealFields ≠ other.sealFields ++ [.nat other.nonce.toNat] := by
  intro same
  have count := congrArg List.length same
  simp [sealFields] at count

/-- The nonce takes up room in the encoding, so the sealed form is shorter. -/
theorem length_encodeSeal_lt (envelope : Envelope) :
    envelope.encodeSeal.length < envelope.encode.length := by
  have width : Bytes.width envelope.nonce.toNat ≤ 8 := Bytes.width_le envelope.nonce.toNat_lt
  have short := Value.length_encode_nat (n := envelope.nonce.toNat) (by omega)
  have fits : (Value.nat envelope.nonce.toNat).encode.length < sizeLimit := by
    rw [sizeLimit]
    omega
  have room := List.length_pos_of_ne_nil (Value.encode_ne_nil fits)
  refine length_encodeList_lt ?_
  rw [Value.encodeAll_eq, Value.encodeAll_eq, List.map_append, List.flatMap_append,
    List.length_append, List.map_singleton, List.flatMap_singleton, Value.item_raw]
  omega

/-- Sealed forms agree exactly for envelopes that agree in every field but the nonce, and none of
them is the encoding of an envelope. So a search for work, which changes the nonce alone, leaves
the seal as it is. -/
theorem encodeSeal_commits (envelope : Envelope) :
    (∀ other : Envelope, envelope.encode.length < sizeLimit →
      (envelope.encodeSeal = other.encodeSeal ↔
        envelope.expiry = other.expiry ∧ envelope.ttl = other.ttl ∧
          envelope.topics = other.topics ∧ envelope.data = other.data) ∧
      envelope.encodeSeal ≠ other.encode) ∧
    ∀ rounds target, ∀ stamped ∈ [(envelope.proveWork rounds).1, (envelope.proveWorkBits target).1],
      stamped = { envelope with nonce := stamped.nonce } ∧
      stamped.sealHash = envelope.sealHash ∧
      ∀ nonce, { stamped with nonce }.workProved = { envelope with nonce }.workProved := by
  refine ⟨fun other short => ?_, fun rounds target stamped member => ?_⟩
  · have fits := envelope.length_encodeSeal_lt.trans short
    constructor
    · rw [encodeSeal, encodeSeal, Value.encode_inj fits, Value.list.injEq, sealFields_inj]
    · rw [encodeSeal, encode, toValue, ne_eq, Value.encode_inj fits, Value.list.injEq]
      exact sealFields_ne envelope other
  · have stamp : ∃ nonce, stamped = { envelope with nonce } := by
      rcases List.mem_pair.1 member with rfl | rfl
      · exact ⟨_, rfl⟩
      · exact ⟨_, rfl⟩
    obtain ⟨nonce, rfl⟩ := stamp
    exact ⟨rfl, rfl, fun _ => rfl⟩

/-- An envelope whose data are the octets of the empty data and the nonce of another one. -/
def hidden : Envelope := ⟨9, 5, .empty, [0x80, 0x07], 0⟩

/-- Its sealed form differs from the encoding of the other one in two headers alone. -/
theorem encodeSeal_commits_hidden :
    hidden.encode.length < sizeLimit ∧
      hidden.encodeSeal = [0xc6, 0x09, 0x05, 0xc0, 0x82, 0x80, 0x07] ∧
      encode ⟨9, 5, .empty, [], 7⟩ = [0xc5, 0x09, 0x05, 0xc0, 0x80, 0x07] ∧
      hidden.encodeSeal ≠ encode ⟨9, 5, .empty, [], 7⟩ ∧
      hidden.encodeSeal ≠ encodeSeal ⟨9, 5, .empty, [], 7⟩ ∧
      hidden.encodeSeal = encodeSeal { hidden with nonce := 7 } ∧
      (hidden.proveWork 1).1.sealHash = hidden.sealHash := by
  have short : hidden.encode.length < sizeLimit := by decide
  obtain ⟨told, stamped⟩ := hidden.encodeSeal_commits
  refine ⟨short, by decide, by decide, (told _ short).2, ?_, ?_, ?_⟩
  · intro same
    have agree := (told _ short).1.1 same
    exact absurd agree.2.2.2 (by decide)
  · exact (told _ short).1.2 ⟨rfl, rfl, rfl, rfl⟩
  · exact (stamped 1 0 _ List.mem_cons_self).2.1

end Courier.Envelope

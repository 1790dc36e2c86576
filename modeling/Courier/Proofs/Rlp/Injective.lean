import Mathlib
import Courier.Proofs.Rlp.Value

/-! # Values are told from their encodings

No encoding begins another one, so that encodings which stand one after another can be taken apart
from the front. By recursion over values, lists within lists, an encoding comes from one value.
-/

namespace Courier.Rlp.Value

theorem nat_inj {m n : Nat} : nat m = nat n ↔ m = n := by
  refine ⟨fun same => ?_, congrArg nat⟩
  have octets := congrArg Bytes.value (Value.octets.inj same)
  simpa using octets

theorem encode_ne_nil {value : Value} (fits : value.encode.length < sizeLimit) :
    value.encode ≠ [] := by
  have positive := (item_written fits).readable.length_pos
  rw [item_raw] at positive
  exact List.ne_nil_of_length_pos positive

/-- No encoding begins another one. -/
theorem item_eq_of_append_eq {value other : Value} {rest more : Bytes}
    (fits : value.encode.length < sizeLimit) (otherFits : other.encode.length < sizeLimit)
    (same : value.encode ++ rest = other.encode ++ more) : value.item = other.item ∧ rest = more := by
  have here := splitItem_append (splitItem_encode fits) rest
  have there := splitItem_append (splitItem_encode otherFits) more
  rw [same, there] at here
  simpa [eq_comm] using here

mutual

theorem eq_of_item_eq {value other : Value} (fits : value.encode.length < sizeLimit)
    (otherFits : other.encode.length < sizeLimit) (same : value.item = other.item) :
    value = other := by
  cases value with
  | octets bytes =>
      have short := (length_encode_octets bytes).trans_lt fits
      cases other with
      | octets others => exact congrArg octets (congrArg Item.body same)
      | list others =>
          have list := isList_list ((length_encode_list others).trans_lt otherFits)
          simp [← same, isList_octets short] at list
  | list values =>
      have short := (length_encode_list values).trans_lt fits
      cases other with
      | octets bytes =>
          have list := isList_list short
          simp [same, isList_octets ((length_encode_octets bytes).trans_lt otherFits)] at list
      | list others => exact congrArg list (eq_of_encodeAll_eq short (congrArg Item.body same))
termination_by sizeOf value

theorem eq_of_encodeAll_eq {values others : List Value}
    (fits : (encodeAll values).length < sizeLimit) (same : encodeAll values = encodeAll others) :
    values = others := by
  have inside : ∀ value ∈ values, value.encode.length < sizeLimit :=
    fun value member => (length_le_encodeAll member).trans_lt fits
  have otherInside : ∀ other ∈ others, other.encode.length < sizeLimit :=
    fun other member => (length_le_encodeAll member).trans_lt (same ▸ fits)
  cases values with
  | nil =>
      cases others with
      | nil => rfl
      | cons other more =>
          have missing := encode_ne_nil (otherInside other List.mem_cons_self)
          simp [encodeAll, missing] at same
  | cons value rest =>
      have here := inside value List.mem_cons_self
      cases others with
      | nil => simp [encodeAll, encode_ne_nil here] at same
      | cons other more =>
          have there := otherInside other List.mem_cons_self
          rw [encodeAll, encodeAll] at same
          obtain ⟨first, later⟩ := item_eq_of_append_eq here there same
          have short : (encodeAll rest).length < sizeLimit := by
            rw [encodeAll, List.length_append] at fits
            omega
          rw [eq_of_item_eq here there first, eq_of_encodeAll_eq short later]
termination_by sizeOf values

end

/-- An encoding comes from one value. -/
theorem encode_inj {value other : Value} (fits : value.encode.length < sizeLimit) :
    value.encode = other.encode ↔ value = other := by
  refine ⟨fun same => ?_, congrArg encode⟩
  have otherFits : other.encode.length < sizeLimit := same ▸ fits
  have alone : value.encode ++ [] = other.encode ++ [] := congrArg (· ++ []) same
  exact eq_of_item_eq fits otherFits (item_eq_of_append_eq fits otherFits alone).1

end Courier.Rlp.Value

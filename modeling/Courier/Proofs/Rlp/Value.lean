import Mathlib
import Courier.Bytes.Lemmas
import Courier.Proofs.Rlp.Item
import Courier.Rlp.Value

/-! # Reading what was written

The encoding of a value is one item, as long as its length can be told in eight octets. Strings,
numbers and lists are read from their items as they were written.
-/

namespace Courier.Rlp

/-- The longest encoding that a header can announce is shorter than this. -/
def sizeLimit : Nat := 2 ^ 64

theorem readHeader_cons (mark : UInt8) (rest : Bytes) :
    readHeader (mark :: rest) =
      if mark.toNat ≤ 0x7f then .ok (0, 1)
      else if mark.toNat ≤ 0xb7 then .ok (1, mark.toNat - 0x80)
      else if mark.toNat ≤ 0xbf then readLongHeader (mark.toNat - 0xb7) rest
      else if mark.toNat ≤ 0xf7 then .ok (1, mark.toNat - 0xc0)
      else readLongHeader (mark.toNat - 0xf7) rest := by
  simp only [readHeader, UInt8.le_iff_toNat_le]
  rfl

theorem toNat_mark {n : Nat} (h : n < 256) : (UInt8.ofNat n).toNat = n :=
  UInt8.toNat_ofNat_of_lt' h

/-- A length above 55 is read back from its fewest octets. -/
theorem readLongHeader_minimal {length : Nat} (long : 55 < length) (rest : Bytes) :
    readLongHeader (Bytes.width length) (Bytes.minimal length ++ rest) =
      .ok (1 + Bytes.width length, length) := by
  have nonzero := Bytes.head?_minimal length
  have size := Bytes.length_minimal length
  have value := Bytes.value_minimal length
  cases written : Bytes.minimal length with
  | nil =>
      rw [written] at value
      simp at value
      omega
  | cons first others =>
      rw [written] at nonzero size value
      have enough : ¬ (first :: (others ++ rest)).length < Bytes.width length := by
        rw [← size, List.length_cons, List.length_cons, List.length_append]
        omega
      have front : (first :: (others ++ rest)).take (Bytes.width length) = first :: others := by
        rw [← size]
        exact List.take_left
      simp only [List.cons_append, readLongHeader]
      rw [if_neg (fun zero => nonzero (congrArg some zero)), if_neg enough, front, value,
        if_neg (by omega)]

theorem readHeader_header_octets {length : Nat} (fits : length < sizeLimit) (rest : Bytes) :
    readHeader (header 0x80 length ++ rest) = .ok ((header 0x80 length).length, length) := by
  unfold header
  split
  · rename_i short
    rw [List.singleton_append, readHeader_cons, toNat_mark (by omega), if_neg (by omega),
      if_pos (by omega), List.length_singleton, Nat.add_sub_cancel_left]
  · rename_i notShort
    have long : 55 < length := by omega
    have width : Bytes.width length ≤ 8 := Bytes.width_le fits
    have positive := Bytes.width_pos (Nat.zero_lt_of_lt long)
    rw [List.cons_append, readHeader_cons, toNat_mark (by omega), if_neg (by omega),
      if_neg (by omega), if_pos (by omega)]
    rw [show 0x80 + 55 + Bytes.width length - 0xb7 = Bytes.width length by omega,
      readLongHeader_minimal long, List.length_cons, Bytes.length_minimal, Nat.add_comm]

theorem readHeader_header_list {length : Nat} (fits : length < sizeLimit) (rest : Bytes) :
    readHeader (header 0xc0 length ++ rest) = .ok ((header 0xc0 length).length, length) := by
  unfold header
  split
  · rename_i short
    rw [List.singleton_append, readHeader_cons, toNat_mark (by omega), if_neg (by omega),
      if_neg (by omega), if_neg (by omega), if_pos (by omega), List.length_singleton,
      Nat.add_sub_cancel_left]
  · rename_i notShort
    have long : 55 < length := by omega
    have width : Bytes.width length ≤ 8 := Bytes.width_le fits
    have positive := Bytes.width_pos (Nat.zero_lt_of_lt long)
    rw [List.cons_append, readHeader_cons, toNat_mark (by omega), if_neg (by omega),
      if_neg (by omega), if_neg (by omega), if_neg (by omega)]
    rw [show 0xc0 + 55 + Bytes.width length - 0xf7 = Bytes.width length by omega,
      readLongHeader_minimal long, List.length_cons, Bytes.length_minimal, Nat.add_comm]

theorem readable_of_header {head body : Bytes}
    (h : readHeader (head ++ body) = .ok (head.length, body.length)) :
    Item.Readable ⟨head, body⟩ := by
  rw [Item.Readable, Item.raw, splitItem, h]
  simp only [List.length_append, le_refl, if_true, List.take_left, List.drop_left, List.take_length]
  rw [List.drop_eq_nil_of_le (by rw [List.length_append])]

namespace Item

/-- How an item is written: a small octet by itself, a string or a list behind its header. -/
inductive Written : Item → Prop where
  | octet {octet : UInt8} (small : octet < 0x80) : Written ⟨[], [octet]⟩
  | string {body : Bytes} (fits : body.length < sizeLimit) :
      Written ⟨header 0x80 body.length, body⟩
  | list {body : Bytes} (fits : body.length < sizeLimit) : Written ⟨header 0xc0 body.length, body⟩

theorem Written.readable {item : Item} (h : item.Written) : item.Readable := by
  cases h with
  | octet small =>
      apply readable_of_header
      rw [List.nil_append, readHeader_cons, if_pos]
      · rfl
      · have := UInt8.lt_iff_toNat_lt.1 small
        simp at this
        omega
  | string fits => exact readable_of_header (readHeader_header_octets fits _)
  | list fits => exact readable_of_header (readHeader_header_list fits _)

theorem Written.body_lt {item : Item} (h : item.Written) : item.body.length < sizeLimit := by
  cases h with
  | octet => exact (by decide : 1 < sizeLimit)
  | string fits | list fits => exact fits

end Item

namespace Value

/-- The header of a string of octets; one octet below `0x80` has none. -/
def stringHead (bytes : Bytes) : Bytes :=
  match bytes with
  | [octet] => if octet < 0x80 then [] else [0x81]
  | bytes => header 0x80 bytes.length

/-- The item as which the encoding of a value is read. -/
def item : Value → Item
  | .octets bytes => ⟨stringHead bytes, bytes⟩
  | .list values => ⟨header 0xc0 (encodeAll values).length, encodeAll values⟩

theorem stringHead_cases (bytes : Bytes) :
    (∃ octet, bytes = [octet] ∧ octet < 0x80 ∧ stringHead bytes = []) ∨
      ((∀ octet, bytes = [octet] → ¬ octet < 0x80) ∧
        stringHead bytes = header 0x80 bytes.length) := by
  unfold stringHead
  split
  · rename_i octet
    split
    · rename_i small
      exact .inl ⟨octet, rfl, small, rfl⟩
    · rename_i large
      refine .inr ⟨?_, rfl⟩
      intro other same
      cases same
      exact large
  · rename_i several
    exact .inr ⟨fun octet single => absurd single (several octet), rfl⟩

theorem stringHead_append (bytes : Bytes) : stringHead bytes ++ bytes = encodeOctets bytes := by
  match bytes with
  | [] => rfl
  | [octet] =>
      rw [stringHead, encodeOctets]
      split <;> rfl
  | _ :: _ :: _ => rfl

theorem item_raw (value : Value) : value.item.raw = value.encode := by
  cases value with
  | list values => rw [item, Item.raw, encode, encodeList]
  | octets bytes => exact stringHead_append bytes

theorem encodeAll_eq (values : List Value) :
    encodeAll values = (values.map item).flatMap Item.raw := by
  induction values with
  | nil => rfl
  | cons value rest ih => rw [encodeAll, List.map_cons, List.flatMap_cons, item_raw, ih]

theorem length_le_encodeAll {value : Value} {values : List Value} (member : value ∈ values) :
    value.encode.length ≤ (encodeAll values).length := by
  rw [encodeAll_eq, ← item_raw]
  exact Item.length_raw_le (List.mem_map_of_mem member)

theorem length_encode_list (values : List Value) :
    (encodeAll values).length ≤ (encode (.list values)).length := by
  rw [encode, encodeList, List.length_append]
  omega

theorem length_encode_octets (bytes : Bytes) : bytes.length ≤ (encode (.octets bytes)).length := by
  rw [encode, ← stringHead_append, List.length_append]
  omega

theorem octets_written {bytes : Bytes} (fits : bytes.length < sizeLimit) :
    (item (.octets bytes)).Written := by
  rw [item]
  rcases stringHead_cases bytes with ⟨octet, rfl, small, none⟩ | ⟨-, some⟩
  · rw [none]
    exact .octet small
  · rw [some]
    exact .string fits

theorem length_header {mark length : Nat} (short : length ≤ 55) : (header mark length).length = 1 := by
  rw [header, if_pos short, List.length_singleton]

theorem length_encode_nat {n : Nat} (short : Bytes.width n ≤ 55) :
    (encode (.nat n)).length ≤ 1 + Bytes.width n := by
  rw [nat, encode, ← stringHead_append, List.length_append, Bytes.length_minimal]
  rcases stringHead_cases (Bytes.minimal n) with ⟨_, _, _, none⟩ | ⟨-, some⟩
  · rw [none, List.length_nil]
    omega
  · rw [some, length_header (by rwa [Bytes.length_minimal])]

theorem item_written {value : Value} (fits : value.encode.length < sizeLimit) :
    value.item.Written := by
  cases value with
  | list values => exact .list ((length_encode_list values).trans_lt fits)
  | octets bytes => exact octets_written ((length_encode_octets bytes).trans_lt fits)

theorem items_written {values : List Value} (fits : (encodeAll values).length < sizeLimit) :
    ∀ part ∈ values.map item, part.Written := by
  intro part member
  obtain ⟨value, inside, rfl⟩ := List.mem_map.1 member
  exact item_written ((length_le_encodeAll inside).trans_lt fits)

/-- The encoding of a value is one item. -/
theorem splitItem_encode {value : Value} (fits : value.encode.length < sizeLimit) :
    splitItem value.encode = .ok (value.item, []) := by
  rw [← item_raw]
  exact (item_written fits).readable

theorem startsList_header_octets {length : Nat} (fits : length < sizeLimit) (rest : Bytes) :
    startsList (header 0x80 length ++ rest) = false := by
  have width : Bytes.width length ≤ 8 := Bytes.width_le fits
  unfold header
  split
  · rw [List.singleton_append, startsList, decide_eq_false_iff_not, UInt8.le_iff_toNat_le,
      toNat_mark (by omega)]
    simp
    omega
  · rw [List.cons_append, startsList, decide_eq_false_iff_not, UInt8.le_iff_toNat_le,
      toNat_mark (by omega)]
    simp
    omega

theorem startsList_header_list {length : Nat} (fits : length < sizeLimit) (rest : Bytes) :
    startsList (header 0xc0 length ++ rest) = true := by
  have width : Bytes.width length ≤ 8 := Bytes.width_le fits
  unfold header
  split
  · rw [List.singleton_append, startsList, decide_eq_true_iff, UInt8.le_iff_toNat_le,
      toNat_mark (by omega)]
    simp
  · rw [List.cons_append, startsList, decide_eq_true_iff, UInt8.le_iff_toNat_le,
      toNat_mark (by omega)]
    simp
    omega

theorem startsList_small {octet : UInt8} (small : octet < 0x80) (rest : Bytes) :
    startsList (octet :: rest) = false := by
  rw [startsList, decide_eq_false_iff_not, UInt8.le_iff_toNat_le]
  have := UInt8.lt_iff_toNat_lt.1 small
  simp at this ⊢
  omega

theorem isList_octets {bytes : Bytes} (fits : bytes.length < sizeLimit) :
    (item (.octets bytes)).isList = false := by
  rw [item, Item.isList, Item.raw]
  rcases stringHead_cases bytes with ⟨octet, rfl, small, none⟩ | ⟨-, some⟩
  · rw [none, List.nil_append]
    exact startsList_small small []
  · rw [some]
    exact startsList_header_octets fits bytes

theorem isList_list {values : List Value} (fits : (encodeAll values).length < sizeLimit) :
    (item (.list values)).isList = true := startsList_header_list fits _

theorem octets_item {bytes : Bytes} (fits : bytes.length < sizeLimit) :
    (item (.octets bytes)).octets = .ok bytes := by
  rw [Item.octets, isList_octets fits, if_neg Bool.false_ne_true]
  simp only [item]
  split
  · rename_i octet head
    rcases stringHead_cases [octet] with ⟨_, _, _, none⟩ | ⟨large, -⟩
    · rw [none] at head
      cases head
    · rw [if_neg (large octet rfl)]
  · rfl

theorem nat_item {width n : Nat} (fits : n < 256 ^ width) (limit : width ≤ 32) :
    (item (.nat n)).nat width = .ok n := by
  have short : Bytes.width n ≤ width := Bytes.width_le fits
  have small : (Bytes.minimal n).length < sizeLimit := by
    rw [Bytes.length_minimal, sizeLimit]
    omega
  rw [Item.nat, nat, octets_item small]
  simp only [Bytes.length_minimal, Bytes.value_minimal, if_neg (Bytes.head?_minimal n)]
  rw [if_neg (by omega)]

/-- A list is read from its item, value by value. -/
theorem listing_item {values : List Value} (fits : (encode (.list values)).length < sizeLimit) :
    (item (.list values)).listing = .ok ⟨values.map item, .tooShort⟩ := by
  have short := (length_encode_list values).trans_lt fits
  have readable : ∀ part ∈ values.map item, part.Readable :=
    fun part member => (items_written short part member).readable
  have read : Listing.read (encodeAll values) = ⟨values.map item, .tooShort⟩ := by
    rw [encodeAll_eq, ← List.append_nil (List.flatMap _ _)]
    exact Listing.read_append readable rfl
  rw [Item.listing, isList_list short, if_pos rfl, item, read]

end Value

end Courier.Rlp

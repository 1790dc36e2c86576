import Mathlib
import Courier.Proofs.Rlp.Canonical
import Courier.Transaction.Sender

/-! # What is read as a transaction

Every field of a transaction is written in one way, and so is the header of the list. Behind the
ninth field there may be octets from which no item can be read; they go unnoticed.
-/

namespace Courier

namespace Transaction

open Rlp

variable {tx : Transaction} {item : Item} {listing : Listing}

/-- The fields of a transaction, one after another. -/
def payload (tx : Transaction) : Bytes := Value.encodeAll (tx.unsignedFields ++ tx.signatureFields)

/-- The fields of a transaction as items. -/
def fieldItems (tx : Transaction) : List Item :=
  (tx.unsignedFields ++ tx.signatureFields).map Value.item

theorem encode_eq (tx : Transaction) : tx.encode = encodeList tx.payload := by
  rw [encode, Value.encode, payload]

theorem fieldItems_raw (tx : Transaction) : tx.fieldItems.flatMap Item.raw = tx.payload :=
  (Value.encodeAll_eq _).symm

theorem readField_eq_ok {α : Type} {index : Nat} {read : Item → Except Rlp.Error α} {a : α} :
    readField listing index read = .ok a ↔
      ∃ item, listing.get index = .ok item ∧ read item = .ok a := by
  rw [readField]
  cases listing.get index with
  | error e => simp
  | ok item => cases found : read item <;> simp [found]

/-- A field is read if its item is the one that is written for what is read. -/
theorem readField_iff {α : Type} {index : Nat} {read : Item → Except Rlp.Error α} {a : α}
    {field : Item} (written : ∀ item ∈ listing.items, item.Written)
    (reads : ∀ {item : Item}, item.Written → (read item = .ok a ↔ item = field)) :
    readField listing index read = .ok a ↔ listing.get index = .ok field := by
  rw [readField_eq_ok]
  constructor
  · rintro ⟨item, found, outcome⟩
    rw [found, (reads (written item (Listing.mem_of_get found))).1 outcome]
  · intro found
    exact ⟨field, found, (reads (written field (Listing.mem_of_get found))).2 rfl⟩

theorem readMark_iff {index v : Nat} (written : ∀ item ∈ listing.items, item.Written) :
    readField listing index (Item.nat 1) = .ok v ↔
      v < 256 ∧ listing.get index = .ok (Value.nat v).item := by
  rw [readField_eq_ok]
  exact Listing.nat_iff (by decide) written

theorem readRecipient_iff {recipient : Option Address} (h : item.Written) :
    readRecipient item = .ok recipient ↔ item = (Value.octets (match recipient with
      | some address => address.toList
      | none => [])).item := by
  rw [readRecipient]
  cases recipient with
  | none =>
      rw [← h.body_iff (by decide)]
      cases item.isList with
      | true => simp
      | false =>
          by_cases empty : item.body = []
          · simp [empty]
          · cases Octets.ofList? item.body <;> simp [empty]
  | some address =>
      have length : address.toList.length = 20 := address.length_toList
      have several : address.toList.length ≠ 1 := by omega
      rw [← h.body_iff several]
      cases item.isList with
      | true => simp
      | false =>
          by_cases empty : item.body = []
          · have other : address.toList ≠ [] := by
              intro none
              rw [none] at length
              cases length
            simp [empty, other.symm]
          · rw [← Octets.ofList?_eq_some]
            cases Octets.ofList? item.body <;> simp [empty]

theorem readData_iff {data : Bytes} (h : item.Written) :
    readData item = .ok data ↔ item = (Value.octets data).item := by
  rw [← h.octets_iff, readData]
  cases list : item.isList with
  | true => simp [Item.octets, list]
  | false => rfl

theorem ofListing_iff (written : ∀ item ∈ listing.items, item.Written) :
    ofListing listing = .ok tx ↔ listing.items = tx.fieldItems := by
  simp only [ofListing, bind_eq_ok, readField_iff written Item.Written.word_iff,
    readField_iff written readRecipient_iff, readField_iff written readData_iff,
    readMark_iff written]
  constructor
  · rintro ⟨nonce, at0, gasPrice, at1, gas, at2, recipient, at3, value, at4, data, at5, v,
      ⟨small, at6⟩, r, at7, s, at8, rest⟩
    split at rest
    · cases rest
    · rename_i few
      cases rest
      -- the offset that is taken off wraps around, and so does the one that is added
      have whole : (UInt8.ofNat v - wireOffset + wireOffset).toNat = v := by
        rw [UInt8.sub_add_cancel]
        exact UInt8.toNat_ofNat_of_lt' small
      rw [fieldItems, unsignedFields, signatureFields, whole, ← listing.items.drop_zero,
        Listing.drop_get at0, Listing.drop_get at1, Listing.drop_get at2, Listing.drop_get at3,
        Listing.drop_get at4, Listing.drop_get at5, Listing.drop_get at6, Listing.drop_get at7,
        Listing.drop_get at8, List.drop_eq_nil_of_le (Nat.not_lt.1 few)]
      rfl
  · intro same
    have found : ∀ {index : Nat} {field : Item}, tx.fieldItems[index]? = some field →
        listing.get index = .ok field := fun written => Listing.get_eq_ok.2 (same ▸ written)
    have nine : ¬ 9 < listing.size := by
      rw [Listing.size, same]
      exact (by decide : ¬ 9 < 9)
    refine ⟨_, found rfl, _, found rfl, _, found rfl, _, found rfl, _, found rfl, _, found rfl,
      _, ⟨(tx.signature.v + wireOffset).toNat_lt, found rfl⟩, _, found rfl, _, found rfl, ?_⟩
    rw [if_neg nine, UInt8.ofNat_toNat, UInt8.add_sub_cancel]
    rfl

theorem decode_eq_ok {bytes : Bytes} :
    decode bytes = .ok tx ↔ ∃ (item : Item) (listing : Listing), item.Written ∧ bytes = item.raw ∧
      item.listing = .ok listing ∧ ofListing listing = .ok tx := by
  constructor
  · intro read
    rw [decode] at read
    split at read
    · rename_i list
      split at read
      · cases read
      · rename_i item rest front
        split at read
        · rename_i nothing
          rw [nothing] at front
          obtain ⟨written, rfl⟩ := splitItem_whole.1 front
          exact ⟨item, _, written, rfl, if_pos list, read⟩
        · cases read
    · cases read
  · rintro ⟨item, listing, written, rfl, listed, read⟩
    rw [Item.listing] at listed
    split at listed
    · rename_i list
      cases listed
      rw [Item.isList] at list
      rw [decode, if_pos list, splitItem_whole.2 ⟨written, rfl⟩]
      exact read
    · cases listed

/-- Octets are read as a transaction if they are the list of its fields, but for octets behind the
fields that are no item. -/
theorem decode_iff {bytes : Bytes} :
    decode bytes = .ok tx ↔ ∃ tail, Unreadable tail ∧ (tx.payload ++ tail).length < sizeLimit ∧
      bytes = encodeList (tx.payload ++ tail) := by
  have enclosed : ∀ tail, Item.enclosing tx.fieldItems tail =
      ⟨header 0xc0 (tx.payload ++ tail).length, tx.payload ++ tail⟩ := by
    intro tail
    rw [Item.enclosing, fieldItems_raw]
  rw [decode_eq_ok]
  constructor
  · rintro ⟨item, listing, written, rfl, listed, read⟩
    obtain ⟨tail, unreadable, parts, same⟩ := written.listing_iff.1 listed
    rw [(ofListing_iff parts).1 read, enclosed] at same
    subst same
    exact ⟨tail, ⟨_, unreadable⟩, written.body_lt, rfl⟩
  · rintro ⟨tail, ⟨stop, unreadable⟩, fits, rfl⟩
    have short : tx.payload.length < sizeLimit := by
      rw [List.length_append] at fits
      omega
    have parts := Value.items_written short
    have written : Item.Written ⟨header 0xc0 (tx.payload ++ tail).length, tx.payload ++ tail⟩ :=
      .list fits
    have listed := written.listing_iff.2 ⟨tail, unreadable, parts, (enclosed tail).symm⟩
    exact ⟨_, _, written, rfl, listed, (ofListing_iff parts).2 rfl⟩

theorem decode_encode (fits : tx.encode.length < sizeLimit) : decode tx.encode = .ok tx := by
  rw [decode_iff]
  rw [encode_eq] at fits ⊢
  rw [encodeList, List.length_append] at fits
  refine ⟨[], unreadable_nil, ?_, by rw [List.append_nil]⟩
  rw [List.append_nil]
  omega

theorem encode_listing (fits : tx.encode.length < sizeLimit) :
    ∃ item : Item, splitItem tx.encode = .ok (item, []) ∧
      item.listing = .ok ⟨tx.fieldItems, .tooShort⟩ :=
  ⟨_, Value.splitItem_encode fits, Value.listing_item fits⟩

/-- The mark of a signature travels with 27 added, and starts again from zero above 255. -/
theorem mark_item (tx : Transaction) :
    (Value.nat (tx.signature.v + wireOffset).toNat).item.nat 1 =
      .ok ((tx.signature.v.toNat + 27) % 256) :=
  Value.nat_item (tx.signature.v + wireOffset).toNat_lt (by decide)

end Transaction

namespace KnownTransaction

open Rlp

/-- Octets are read as a transaction of which only the shape is checked, if they are its encoding,
but for octets behind the fields that are no item. It is the encoding itself if there are none. -/
theorem decode_shape_iff {Secret Public : Type} (suite : Suite Secret Public) (bytes : Bytes)
    (metrics : Metrics) (tx : Transaction) :
    (decode suite .shape bytes metrics).1 = .ok (.ofTransaction tx) ↔
      ∃ tail, Unreadable tail ∧ (tx.payload ++ tail).length < sizeLimit ∧
        bytes = encodeList (tx.payload ++ tail) ∧ (bytes = tx.encode ↔ tail = []) := by
  have shape : (decode suite .shape bytes metrics).1 = .ok (.ofTransaction tx) ↔
      Transaction.decode bytes = .ok tx := by
    rw [decode]
    cases Transaction.decode bytes <;> simp [check, ofTransaction]
  have whole : ∀ tail, encodeList (tx.payload ++ tail) = tx.encode ↔ tail = [] := by
    intro tail
    rw [tx.encode_eq, encodeList_injective.eq_iff]
    exact List.append_right_eq_self
  rw [shape, Transaction.decode_iff]
  constructor
  · rintro ⟨tail, unreadable, fits, rfl⟩
    exact ⟨tail, unreadable, fits, rfl, whole tail⟩
  · rintro ⟨tail, unreadable, fits, same, -⟩
    exact ⟨tail, unreadable, fits, same⟩

/-- The mark of a string that is missing, behind the ninth field. -/
theorem decode_shape_unreadable_tail :
    (decode .standard .shape [0xca, 0x80, 0x80, 0x80, 0x80, 0x80, 0x80, 0x1b, 0x01, 0x01, 0x81]
      .zero).1 = .ok (.ofTransaction ⟨0, 0, 0, none, 0, [], ⟨0, 1, 1⟩⟩) ∧
    (decode .standard .shape [0xc9, 0x80, 0x80, 0x80, 0x80, 0x80, 0x80, 0x1b, 0x01, 0x01]
      .zero).1 = .ok (.ofTransaction ⟨0, 0, 0, none, 0, [], ⟨0, 1, 1⟩⟩) ∧
    Transaction.encode ⟨0, 0, 0, none, 0, [], ⟨0, 1, 1⟩⟩ ≠
      [0xca, 0x80, 0x80, 0x80, 0x80, 0x80, 0x80, 0x1b, 0x01, 0x01, 0x81] := by
  decide

/-- A transaction that was written is read as it was, field by field. The mark of its signature
travels as the seventh field, with 27 added in the numbers below 256. -/
theorem decode_shape_encode {Secret Public : Type} (suite : Suite Secret Public)
    (metrics : Metrics) (tx : Transaction) (fits : tx.encode.length < sizeLimit) :
    decode suite .shape tx.encode metrics = (.ok (.ofTransaction tx), metrics) ∧
      ∃ item listing, splitItem tx.encode = .ok (item, []) ∧ item.listing = .ok listing ∧
        listing.size = 9 ∧
        (listing.get 6 >>= Item.nat 1) = .ok ((tx.signature.v.toNat + 27) % 256) := by
  obtain ⟨item, whole, listed⟩ := Transaction.encode_listing fits
  refine ⟨?_, item, _, whole, listed, rfl, tx.mark_item⟩
  rw [decode, Transaction.decode_encode fits]
  rfl

/-- A creation whose mark wraps around, with the largest and the smallest numbers and one octet of
data that needs a header. -/
theorem decode_shape_encode_wrapping :
    let tx : Transaction := ⟨0, 1, .allOnes 256, none, 0x80, [0x80], ⟨255, .allOnes 256, 0⟩⟩
    tx.encode.length < sizeLimit ∧
      decode .standard .shape tx.encode .zero = (.ok (.ofTransaction tx), .zero) ∧
      ∃ item listing, splitItem tx.encode = .ok (item, []) ∧ item.listing = .ok listing ∧
        listing.size = 9 ∧ (listing.get 6 >>= Item.nat 1) = .ok 26 :=
  ⟨by decide, decode_shape_encode .standard .zero _ (by decide)⟩

end KnownTransaction

end Courier

import Mathlib
import Courier.Proofs.Transaction.Codec

/-! # The fault that is reported

Octets that are no list are malformed. In a list the nine fields are looked at in the order of the
wire, each at its own place, and the first that is missing or that does not hold what it should is
reported with its index and its octets, whatever stands behind it. Only a list of nine good fields
can have too many. None of this depends on how much is checked of a transaction.
-/

namespace Courier

open Rlp

section Failure

variable {ε α β : Type}

/-- How a computation fails, if it does. -/
def failure? : Except ε α → Option ε
  | .ok _ => none
  | .error e => some e

theorem failure?_eq_none {x : Except ε α} : failure? x = none ↔ ∃ a, x = .ok a := by
  cases x <;> simp [failure?]

theorem failure?_eq_some {x : Except ε α} {e : ε} : failure? x = some e ↔ x = .error e := by
  cases x <;> simp [failure?]

theorem failure?_bind {x : Except ε α} {next : α → Except ε β} {later : Option ε}
    (same : ∀ a, failure? (next a) = later) : failure? (x >>= next) = (failure? x).or later := by
  cases x with
  | ok a => exact same a
  | error e => rfl

end Failure

/-- What a field of a transaction holds. -/
inductive FieldKind where
  /-- A number of at most 32 octets. -/
  | word
  /-- An address, or nothing. -/
  | recipient
  | data
  /-- A number of at most one octet. -/
  | mark

namespace FieldKind

/-- What the field at an index holds. -/
def ofIndex : Nat → FieldKind
  | 3 => .recipient
  | 5 => .data
  | 6 => .mark
  | _ => .word

/-- The items that hold what they should. Numbers are strings of octets without a leading zero, and
no string has a longer header than it needs. -/
inductive Holds : FieldKind → Item → Prop where
  | word {n : Nat} (small : n < 2 ^ 256) : Holds .word (Value.nat n).item
  | recipient {bytes : Bytes} (length : bytes.length = 0 ∨ bytes.length = 20) :
      Holds .recipient (Value.octets bytes).item
  | data {bytes : Bytes} : Holds .data (Value.octets bytes).item
  | mark {n : Nat} (small : n < 2 ^ 8) : Holds .mark (Value.nat n).item

/-- Why an item does not hold what it should. -/
def fault? (kind : FieldKind) (item : Item) : Option Rlp.Error :=
  match kind with
  | .word => failure? item.word
  | .recipient => failure? (Transaction.readRecipient item)
  | .data => failure? (Transaction.readData item)
  | .mark => failure? (item.nat 1)

theorem holds_iff {kind : FieldKind} {item : Item} (written : item.Written) :
    kind.Holds item ↔ kind.fault? item = none := by
  cases kind with
  | word =>
      simp only [fault?, failure?_eq_none, written.word_iff]
      constructor
      · intro holds
        cases holds with
        | @word n small => exact ⟨.ofNat 256 n, by rw [BitVec.toNat_ofNat, Nat.mod_eq_of_lt small]⟩
      · rintro ⟨w, rfl⟩
        exact .word w.isLt
  | recipient =>
      simp only [fault?, failure?_eq_none, Transaction.readRecipient_iff written]
      constructor
      · intro holds
        cases holds with
        | @recipient bytes length =>
            rcases length with empty | twenty
            · exact ⟨none, by rw [List.eq_nil_of_length_eq_zero empty]⟩
            · exact ⟨some ⟨bytes, twenty⟩, rfl⟩
      · rintro ⟨_ | address, rfl⟩
        · exact .recipient (.inl rfl)
        · exact .recipient (.inr address.length_toList)
  | data =>
      simp only [fault?, failure?_eq_none, Transaction.readData_iff written]
      constructor
      · intro holds
        cases holds with
        | @data bytes => exact ⟨bytes, rfl⟩
      · rintro ⟨data, rfl⟩
        exact .data
  | mark =>
      simp only [fault?, failure?_eq_none, written.nat_iff (by decide : 1 ≤ 32)]
      constructor
      · intro holds
        cases holds with
        | @mark n small => exact ⟨n, small, rfl⟩
      · rintro ⟨n, small, rfl⟩
        exact .mark small

end FieldKind

namespace Transaction

variable {payload : Bytes} {listing : Listing} {index : Nat}

/-- Whether a field of a payload is there and holds what it should. -/
def HoldsField (payload : Bytes) (index : Nat) : Prop :=
  ∃ item, ItemAt index payload item ∧ (FieldKind.ofIndex index).Holds item

/-- The text that is shown of a field: its octets, or nothing if there is no item to be read. -/
inductive Shows (payload : Bytes) (index : Nat) : String → Prop where
  | item {item : Item} (there : ItemAt index payload item) :
      Shows payload index (Hex.encode item.raw)
  | nothing (missing : ∀ item, ¬ ItemAt index payload item) : Shows payload index ""

/-- What is wrong with the field at an index of a list. -/
def faultAt (listing : Listing) (index : Nat) : Option TransactionError :=
  match listing.get index with
  | .error e => some (.badField index "" (.item e))
  | .ok item =>
    ((FieldKind.ofIndex index).fault? item).map fun e =>
      .badField index (Hex.encode item.raw) (.item e)

theorem failure?_readField {α : Type} {read : Item → Except Rlp.Error α}
    (reads : ∀ item, failure? (read item) = (FieldKind.ofIndex index).fault? item) :
    failure? (readField listing index read) = faultAt listing index := by
  rw [readField, faultAt]
  cases listing.get index with
  | error e => rfl
  | ok item =>
      simp only [← reads]
      cases read item <;> rfl

theorem failure?_field {α β : Type} {read : Item → Except Rlp.Error α}
    {next : α → Except TransactionError β} {left : Nat} {last : Option TransactionError}
    (reads : ∀ item, failure? (read item) = (FieldKind.ofIndex index).fault? item)
    (later : ∀ a, failure? (next a) =
      ((List.range' (index + 1) left).findSome? (faultAt listing)).or last) :
    failure? (readField listing index read >>= next) =
      ((List.range' index (left + 1)).findSome? (faultAt listing)).or last := by
  rw [failure?_bind later, failure?_readField reads, List.range'_succ, List.findSome?_cons]
  cases faultAt listing index <;> rfl

/-- The fields are looked at in the order of the wire, and their number in the end. -/
theorem failure?_ofListing (listing : Listing) :
    failure? (ofListing listing) =
      ((List.range' 0 9).findSome? (faultAt listing)).or
        (if 9 < listing.size then some (.malformed (.tooManyFields listing.size)) else none) := by
  rw [ofListing]
  refine failure?_field (fun _ => rfl) fun nonce => ?_
  refine failure?_field (fun _ => rfl) fun gasPrice => ?_
  refine failure?_field (fun _ => rfl) fun gas => ?_
  refine failure?_field (fun _ => rfl) fun recipient => ?_
  refine failure?_field (fun _ => rfl) fun value => ?_
  refine failure?_field (fun _ => rfl) fun data => ?_
  refine failure?_field (fun _ => rfl) fun v => ?_
  refine failure?_field (fun _ => rfl) fun r => ?_
  refine failure?_field (fun _ => rfl) fun s => ?_
  by_cases many : 9 < listing.size
  · simp only [if_pos many]
    rfl
  · simp only [if_neg many]
    rfl

theorem faultAt_read_eq_none :
    faultAt (.read payload) index = none ↔ HoldsField payload index := by
  rw [faultAt, HoldsField]
  cases found : (Listing.read payload).get index with
  | error e =>
      simp only [← Listing.get_read_iff, found]
      simp
  | ok item =>
      have written := (Listing.get_read_iff.1 found).written
      simp only [← Listing.get_read_iff, found, Option.map_eq_none_iff,
        ← FieldKind.holds_iff written]
      simp

instance (payload : Bytes) (index : Nat) : Decidable (HoldsField payload index) :=
  decidable_of_iff _ faultAt_read_eq_none

theorem faultAt_read_eq_some {e : TransactionError}
    (fault : faultAt (.read payload) index = some e) :
    ∃ text fault, Shows payload index text ∧ e = .badField index text fault := by
  rw [faultAt] at fault
  cases found : (Listing.read payload).get index with
  | error reason =>
      rw [found] at fault
      cases fault
      refine ⟨"", _, .nothing fun item there => ?_, rfl⟩
      rw [Listing.get_read_iff.2 there] at found
      cases found
  | ok item =>
      rw [found] at fault
      obtain ⟨reason, -, rfl⟩ := Option.map_eq_some_iff.1 fault
      exact ⟨_, _, .item (Listing.get_read_iff.1 found), rfl⟩

/-- A fault hides those behind it. -/
theorem findSome?_faultAt {e : TransactionError} (inside : index < 9)
    (sound : ∀ earlier < index, faultAt listing earlier = none)
    (fault : faultAt listing index = some e) :
    (List.range' 0 9).findSome? (faultAt listing) = some e := by
  obtain ⟨left, nine⟩ : ∃ left, 9 = index + (left + 1) := ⟨8 - index, by omega⟩
  have before : (List.range' 0 index).findSome? (faultAt listing) = none := by
    refine List.findSome?_eq_none_iff.2 fun earlier member => sound earlier ?_
    simpa using (List.mem_range'_1.1 member).2
  rw [nine, ← List.range'_append_1, List.findSome?_append, before, Nat.zero_add, List.range'_succ,
    List.findSome?_cons, fault]
  rfl

/-- Whether octets are one complete list with the given payload. -/
def IsListOf (payload bytes : Bytes) : Prop :=
  payload.length < sizeLimit ∧ bytes = encodeList payload

theorem isListOf_iff {bytes : Bytes} :
    IsListOf payload bytes ↔
      startsList bytes = true ∧ ∃ item, splitItem bytes = .ok (item, []) ∧ item.body = payload := by
  constructor
  · rintro ⟨fits, rfl⟩
    exact ⟨Item.Written.isList_list fits, _, splitItem_whole.2 ⟨.list fits, rfl⟩, rfl⟩
  · rintro ⟨starts, item, split, rfl⟩
    obtain ⟨written, rfl⟩ := splitItem_whole.1 split
    cases written with
    | octet small =>
      rw [Item.raw, List.nil_append, Value.startsList_small small] at starts
      cases starts
    | string fits =>
      rw [Item.raw, Value.startsList_header_octets fits] at starts
      cases starts
    | list fits => exact ⟨fits, rfl⟩

variable {bytes : Bytes}

theorem decode_of_isListOf (list : IsListOf payload bytes) :
    decode bytes = ofListing (.read payload) := by
  obtain ⟨starts, item, split, rfl⟩ := isListOf_iff.1 list
  rw [decode, if_pos starts, split]
  rfl

theorem decode_of_not_list (noList : ∀ payload, ¬ IsListOf payload bytes) :
    ∃ fault, decode bytes = .error (.malformed fault) := by
  rw [decode]
  by_cases starts : startsList bytes = true
  case neg => exact ⟨_, if_neg starts⟩
  case pos =>
    rw [if_pos starts]
    cases split : splitItem bytes with
    | error e => exact ⟨_, rfl⟩
    | ok found =>
        obtain ⟨item, rest⟩ := found
        by_cases whole : rest = []
        · subst whole
          exact absurd (isListOf_iff.2 ⟨starts, item, split, rfl⟩) (noList item.body)
        · exact ⟨_, if_neg whole⟩

theorem decode_of_first_fault (list : IsListOf payload bytes)
    (first : IsLeast {index | index < 9 ∧ ¬ HoldsField payload index} index) :
    ∃ text fault, Shows payload index text ∧
      decode bytes = .error (.badField index text fault) := by
  have sound : ∀ earlier < index, faultAt (.read payload) earlier = none := by
    intro earlier before
    rw [faultAt_read_eq_none]
    by_contra bad
    exact absurd (first.2 ⟨before.trans first.1.1, bad⟩) (Nat.not_le.2 before)
  obtain ⟨e, found⟩ := Option.ne_none_iff_exists'.1 (mt faultAt_read_eq_none.1 first.1.2)
  obtain ⟨text, fault, shows, rfl⟩ := faultAt_read_eq_some found
  refine ⟨text, fault, shows, ?_⟩
  rw [decode_of_isListOf list, ← failure?_eq_some, failure?_ofListing,
    findSome?_faultAt first.1.1 sound found]
  rfl

theorem failure?_decode_of_sound (list : IsListOf payload bytes)
    (sound : ∀ index < 9, HoldsField payload index) :
    failure? (decode bytes) =
      if 9 < (Listing.read payload).size then
        some (.malformed (.tooManyFields (Listing.read payload).size))
      else none := by
  have none : (List.range' 0 9).findSome? (faultAt (.read payload)) = none := by
    refine List.findSome?_eq_none_iff.2 fun index member => faultAt_read_eq_none.2 (sound index ?_)
    simpa using (List.mem_range'_1.1 member).2
  rw [decode_of_isListOf list, failure?_ofListing, none, Option.none_or]

theorem nine_lt_size_iff : 9 < (Listing.read payload).size ↔ ∃ item, ItemAt 9 payload item := by
  simp only [← Listing.get_read_iff, Listing.get_eq_ok, Listing.size, List.getElem?_eq_some_iff]
  constructor
  · intro more
    exact ⟨_, more, rfl⟩
  · rintro ⟨item, more, -⟩
    exact more

end Transaction

namespace KnownTransaction

open Transaction

/-- In a list the first of the nine fields that is missing or does not hold what it should is
reported with its index and its octets, whatever the level of checking. What is no complete list,
or a list of ten items, is malformed. -/
theorem decode_reports_first {Secret Public : Type} (suite : Suite Secret Public) (bytes : Bytes) :
    let outcome := fun level metrics => decode suite level bytes metrics
    ((∀ payload, ¬ IsListOf payload bytes) →
      ∃ fault, ∀ level metrics, outcome level metrics = (.error (.malformed fault), metrics)) ∧
    ∀ payload, IsListOf payload bytes →
      (∀ index, IsLeast {index | index < 9 ∧ ¬ HoldsField payload index} index →
        ∃ text fault, Shows payload index text ∧
          ∀ level metrics, outcome level metrics = (.error (.badField index text fault), metrics)) ∧
      ((∀ index < 9, HoldsField payload index) →
        ((∃ item, ItemAt 9 payload item) → ∃ fault, ∀ level metrics,
          outcome level metrics = (.error (.malformed fault), metrics)) ∧
        ((∀ item, ¬ ItemAt 9 payload item) → ∃ tx, ∀ metrics,
          outcome .shape metrics = (.ok (.ofTransaction tx), metrics))) := by
  intro outcome
  have unread : ∀ {e}, Transaction.decode bytes = .error e →
      ∀ level metrics, outcome level metrics = (.error e, metrics) := by
    intro e failed level metrics
    simp only [outcome, decode, failed]
  refine ⟨fun noList => ?_, fun payload list => ⟨fun index first => ?_, fun sound => ⟨?_, ?_⟩⟩⟩
  · obtain ⟨fault, failed⟩ := decode_of_not_list noList
    exact ⟨fault, unread failed⟩
  · obtain ⟨text, fault, shows, failed⟩ := decode_of_first_fault list first
    exact ⟨text, fault, shows, unread failed⟩
  · intro more
    have failed := failure?_decode_of_sound list sound
    rw [if_pos (nine_lt_size_iff.2 more), failure?_eq_some] at failed
    exact ⟨_, unread failed⟩
  · intro nine
    have found := failure?_decode_of_sound list sound
    rw [if_neg fun many => (nine_lt_size_iff.1 many).elim nine, failure?_eq_none] at found
    obtain ⟨tx, read⟩ := found
    refine ⟨tx, fun metrics => ?_⟩
    simp only [outcome, decode, read]
    rfl

/-- Three numbers and a recipient of one octet, which hides the list in the place of the data and
the header that cannot be read behind it. -/
def spoilt : Bytes := [0x01, 0x02, 0x03, 0x05, 0x80, 0xc0, 0xb8]

/-- Nine good fields and an empty one. -/
def surplus : Bytes := [0x80, 0x80, 0x80, 0x80, 0x80, 0x80, 0x1b, 0x01, 0x01, 0x80]

theorem shows_spoilt {text : String} (shows : Shows spoilt 3 text) : text = "05" := by
  have there : (Listing.read spoilt).get 3 = .ok ⟨[], [0x05]⟩ := by decide
  cases shows with
  | item other =>
      rw [Listing.get_read_iff.2 other] at there
      cases there
      rfl
  | nothing missing => exact absurd (Listing.get_read_iff.1 there) (missing _)

theorem decode_reports_first_spoilt :
    IsListOf spoilt (0xc7 :: spoilt) ∧
      IsLeast {index | index < 9 ∧ ¬ HoldsField spoilt index} 3 ∧
      (∃ fault, ∀ level metrics, decode .standard level (0xc7 :: spoilt) metrics =
        (.error (.badField 3 "05" fault), metrics)) ∧
      (∀ payload, ¬ IsListOf payload (0xc8 :: spoilt)) ∧
      (∃ fault, ∀ level metrics, decode .standard level (0xc8 :: spoilt) metrics =
        (.error (.malformed fault), metrics)) ∧
      IsListOf surplus (0xca :: surplus) ∧ (∀ index < 9, HoldsField surplus index) ∧
      (∃ item, ItemAt 9 surplus item) ∧
      ∃ fault, ∀ level metrics, decode .standard level (0xca :: surplus) metrics =
        (.error (.malformed fault), metrics) := by
  have list : IsListOf spoilt (0xc7 :: spoilt) := ⟨by decide, by decide⟩
  have first : IsLeast {index | index < 9 ∧ ¬ HoldsField spoilt index} 3 := by
    have sound : ∀ index < 3, HoldsField spoilt index := by decide
    refine ⟨⟨by decide, by decide⟩, fun index bad => ?_⟩
    exact Nat.not_lt.1 fun before => bad.2 (sound index before)
  have noList : ∀ payload, ¬ IsListOf payload (0xc8 :: spoilt) := by
    intro payload list
    obtain ⟨-, item, split, -⟩ := isListOf_iff.1 list
    have missing : splitItem (0xc8 :: spoilt) = .error .tooShort := by decide
    rw [missing] at split
    cases split
  have longer : IsListOf surplus (0xca :: surplus) := ⟨by decide, by decide⟩
  have sound : ∀ index < 9, HoldsField surplus index := by decide
  have more : ∃ item, ItemAt 9 surplus item := ⟨⟨[0x80], []⟩, Listing.get_read_iff.1 (by decide)⟩
  obtain ⟨text, fault, shows, reported⟩ :=
    (decode_reports_first .standard (0xc7 :: spoilt)).2 spoilt list |>.1 3 first
  rw [shows_spoilt shows] at reported
  exact ⟨list, first, ⟨fault, reported⟩, noList,
    (decode_reports_first .standard (0xc8 :: spoilt)).1 noList, longer, sound, more,
    ((decode_reports_first .standard (0xca :: surplus)).2 surplus longer).2 sound |>.1 more⟩

end KnownTransaction

end Courier

import Mathlib
import Courier.Proofs.Rlp.Value

/-! # One way to write each item

An item that can be read is written as its encoder would write it: lengths and numbers in the fewest
octets, small octets without a header. The one freedom is in lists. Their items are followed by
whatever octets are left when no further item can be read.
-/

namespace Courier.Rlp

variable {item : Item} {bytes rest : Bytes}

theorem readLongHeader_eq {count head length : Nat}
    (h : readLongHeader count rest = .ok (head, length)) (positive : 0 < count) :
    head = 1 + count ∧ 55 < length ∧ Bytes.width length = count ∧
      rest.take count = Bytes.minimal length := by
  unfold readLongHeader at h
  split at h
  · cases h
  · rename_i first others
    split at h
    · cases h
    · rename_i nonzero
      split at h
      · cases h
      · rename_i enough
        simp only at h
        split at h
        · cases h
        · rename_i long
          cases h
          obtain ⟨left, rfl⟩ : ∃ left, count = left + 1 := ⟨count - 1, by omega⟩
          -- the length has no leading zero, so these are the octets it is written in
          have front : ((first :: others).take (left + 1)).head? ≠ some 0 := by
            rw [List.take_succ_cons, List.head?_cons]
            exact fun zero => nonzero (Option.some.inj zero)
          have size : ((first :: others).take (left + 1)).length = left + 1 := by
            rw [List.length_take]
            omega
          refine ⟨rfl, by omega, ?_, (Bytes.minimal_value front).symm⟩
          rw [Bytes.width_value front, size]

theorem mark_eq {mark : UInt8} {n : Nat} (h : mark.toNat = n) : mark = UInt8.ofNat n := by
  rw [← h, UInt8.ofNat_toNat]

theorem header_of_long (base : Nat) {mark : UInt8} {head length : Nat}
    (above : base + 55 < mark.toNat) (h : readLongHeader (mark.toNat - (base + 55)) rest =
      .ok (head, length)) :
    (mark :: rest).take head = header base length ∧ head = (header base length).length ∧
      length < 256 ^ (mark.toNat - (base + 55)) := by
  obtain ⟨rfl, long, width, front⟩ := readLongHeader_eq h (by omega)
  have marks : mark = UInt8.ofNat (base + 55 + Bytes.width length) := mark_eq (by omega)
  rw [header, if_neg (by omega), List.length_cons, Bytes.length_minimal, width]
  refine ⟨?_, Nat.add_comm _ _, width ▸ Bytes.lt_pow_width length⟩
  rw [Nat.add_comm, List.take_succ_cons, front, ← width, ← marks]

theorem header_of_short (base : Nat) {mark : UInt8} (rest : Bytes) (below : base ≤ mark.toNat)
    (short : mark.toNat ≤ base + 55) :
    (mark :: rest).take 1 = header base (mark.toNat - base) ∧
      1 = (header base (mark.toNat - base)).length := by
  have marks : mark = UInt8.ofNat (base + (mark.toNat - base)) := mark_eq (by omega)
  rw [header, if_pos (by omega), ← marks]
  exact ⟨rfl, rfl⟩

/-- What a header announces is a small octet by itself, or it is the header of a string or list. -/
theorem readHeader_eq {head body : Nat} (h : readHeader bytes = .ok (head, body)) :
    (∃ octet rest, bytes = octet :: rest ∧ octet < 0x80 ∧ head = 0 ∧ body = 1) ∨
      ∃ base, (base = 0x80 ∨ base = 0xc0) ∧ bytes.take head = header base body ∧
        head = (header base body).length ∧ body < sizeLimit := by
  have small : ∀ n, n ≤ 8 → 256 ^ n ≤ sizeLimit := by
    intro n le
    exact (Nat.pow_le_pow_right (by decide) le).trans (by decide)
  have fits : ∀ n, n ≤ 55 → n < sizeLimit := fun n le => lt_of_le_of_lt le (by decide)
  cases bytes with
  | nil => cases h
  | cons mark rest =>
      have bound := mark.toNat_lt
      rw [readHeader_cons] at h
      split at h
      · rename_i single
        cases h
        refine .inl ⟨mark, rest, rfl, ?_, rfl, rfl⟩
        rw [UInt8.lt_iff_toNat_lt]
        exact Nat.lt_succ_of_le single
      · right
        split at h
        · cases h
          have notSingle : 0x80 ≤ mark.toNat := by omega
          obtain ⟨front, size⟩ := header_of_short 0x80 rest notSingle (by omega)
          exact ⟨0x80, .inl rfl, front, size, fits _ (by omega)⟩
        · split at h
          · obtain ⟨front, size, short⟩ := header_of_long 0x80 (by omega) h
            exact ⟨0x80, .inl rfl, front, size, short.trans_le (small _ (by omega))⟩
          · split at h
            · cases h
              have notString : 0xc0 ≤ mark.toNat := by omega
              obtain ⟨front, size⟩ := header_of_short 0xc0 rest notString (by omega)
              exact ⟨0xc0, .inr rfl, front, size, fits _ (by omega)⟩
            · obtain ⟨front, size, short⟩ := header_of_long 0xc0 (by omega) h
              exact ⟨0xc0, .inr rfl, front, size, short.trans_le (small _ (by omega))⟩

theorem bind_eq_ok {ε α β : Type} {x : Except ε α} {f : α → Except ε β} {b : β} :
    x >>= f = .ok b ↔ ∃ a, x = .ok a ∧ f a = .ok b := by
  cases x <;> simp [bind, Except.bind]

theorem splitItem_written (h : splitItem bytes = .ok (item, rest)) : item.Written := by
  unfold splitItem at h
  split at h
  · cases h
  · rename_i head body read
    split at h
    · rename_i enough
      cases h
      rcases readHeader_eq read with
        ⟨octet, rest, rfl, small, rfl, rfl⟩ | ⟨base, kind, front, rfl, fits⟩
      · exact .octet small
      · have size : ((bytes.drop (header base body).length).take body).length = body := by
          rw [List.length_take, List.length_drop]
          omega
        rw [front]
        generalize (bytes.drop (header base body).length).take body = payload at size
        subst size
        rcases kind with rfl | rfl
        · exact .string fits
        · exact .list fits
    · cases h

/-- Octets are one item if they are its octets, and it is written in that way. -/
theorem splitItem_whole : splitItem bytes = .ok (item, []) ↔ item.Written ∧ bytes = item.raw := by
  constructor
  · intro split
    obtain ⟨whole, -⟩ := splitItem_eq split
    rw [List.append_nil] at whole
    exact ⟨splitItem_written split, whole⟩
  · rintro ⟨written, rfl⟩
    exact written.readable

theorem exists_item_of_readHeader {head body : Nat} (header : readHeader bytes = .ok (head, body))
    (whole : head + body = bytes.length) : ∃ item : Item, item.Written ∧ bytes = item.raw := by
  have split : splitItem bytes = .ok (⟨bytes.take head, (bytes.drop head).take body⟩, []) := by
    rw [splitItem, header]
    simp only [whole, le_refl, if_true, List.drop_length]
  exact ⟨_, splitItem_whole.1 split⟩

theorem exists_items_of_readHeader {parts : List Bytes}
    (whole : ∀ part ∈ parts, ∃ head body, readHeader part = .ok (head, body) ∧
      head + body = part.length) :
    ∃ items : List Item, (∀ item ∈ items, item.Written) ∧ parts = items.map Item.raw := by
  induction parts with
  | nil => exact ⟨[], by simp, rfl⟩
  | cons part rest ih =>
      obtain ⟨head, body, header, length⟩ := whole part List.mem_cons_self
      obtain ⟨item, written, rfl⟩ := exists_item_of_readHeader header length
      obtain ⟨items, others, rfl⟩ := ih fun part member => whole part (List.mem_cons_of_mem _ member)
      exact ⟨item :: items, List.forall_mem_cons.2 ⟨written, others⟩, rfl⟩

namespace Item

theorem Written.isList_list {body : Bytes} (fits : body.length < sizeLimit) :
    isList ⟨header 0xc0 body.length, body⟩ = true := Value.startsList_header_list fits body

/-- A string is written as its encoder would write it, or it is a small octet behind a header. -/
theorem Written.eq_octets (h : item.Written) (notList : item.isList = false) :
    item = (Value.octets item.body).item ∨ ∃ octet, octet < 0x80 ∧ item = ⟨[0x81], [octet]⟩ := by
  cases h with
  | @octet octet small =>
      left
      rw [Value.item, Value.stringHead, if_pos small]
  | @string body fits =>
      rcases Value.stringHead_cases body with ⟨octet, rfl, small, -⟩ | ⟨-, some⟩
      · exact .inr ⟨octet, small, rfl⟩
      · left
        rw [Value.item, some]
  | list fits =>
      rw [Written.isList_list fits] at notList
      cases notList

theorem Written.octets_iff (h : item.Written) :
    item.octets = .ok bytes ↔ item = (Value.octets bytes).item := by
  constructor
  · intro read
    have notList : item.isList = false := by
      by_contra list
      rw [octets, if_pos (Bool.of_not_eq_false list)] at read
      cases read
    rcases h.eq_octets notList with same | ⟨octet, small, rfl⟩
    · rw [same, Value.octets_item h.body_lt] at read
      cases read
      exact same
    · -- a small octet behind a header is refused
      simp [octets, isList, raw, startsList, small] at read
  · rintro rfl
    exact Value.octets_item h.body_lt

theorem Written.body_iff (h : item.Written) (several : bytes.length ≠ 1) :
    item.isList = false ∧ item.body = bytes ↔ item = (Value.octets bytes).item := by
  constructor
  · rintro ⟨notList, rfl⟩
    rcases h.eq_octets notList with same | ⟨octet, -, rfl⟩
    · exact same
    · exact absurd rfl several
  · rintro rfl
    exact ⟨Value.isList_octets h.body_lt, rfl⟩

theorem Written.eq_nat (h : item.Written) (read : item.octets = .ok bytes)
    (nonzero : bytes.head? ≠ some 0) : item = (Value.nat bytes.value).item := by
  rw [Value.nat, Bytes.minimal_value nonzero]
  exact h.octets_iff.1 read

theorem Written.nat_iff {width n : Nat} (h : item.Written) (limit : width ≤ 32) :
    item.nat width = .ok n ↔ n < 256 ^ width ∧ item = (Value.nat n).item := by
  constructor
  · intro read
    rw [nat] at read
    cases string : item.octets with
    | error e =>
        rw [string] at read
        cases read
    | ok bytes =>
        rw [string] at read
        simp only at read
        split at read
        · cases read
        · split at read
          · cases read
          · rename_i short nonzero
            cases read
            exact ⟨Bytes.value_lt_pow (Nat.not_lt.1 short), h.eq_nat string nonzero⟩
  · rintro ⟨fits, rfl⟩
    exact Value.nat_item fits limit

theorem Written.word_iff {w : Word} (h : item.Written) :
    item.word = .ok w ↔ item = (Value.nat w.toNat).item := by
  rw [word]
  constructor
  · intro read
    cases string : item.octets with
    | error e =>
        rw [string] at read
        cases read
    | ok bytes =>
        rw [string] at read
        simp only at read
        split at read
        · cases read
        · split at read
          · cases read
          · rename_i nonzero short
            cases read
            have bound : bytes.value < 256 ^ 32 := Bytes.value_lt_pow (Nat.not_lt.1 short)
            have whole : (BitVec.ofNat 256 bytes.value).toNat = bytes.value := by
              rw [BitVec.toNat_ofNat]
              exact Nat.mod_eq_of_lt bound
            rw [whole]
            exact h.eq_nat string nonzero
  · rintro rfl
    rw [h.octets_iff.2 rfl]
    have short : Bytes.width w.toNat ≤ 32 := Bytes.width_le w.isLt
    simp [Bytes.head?_minimal, short]

/-- A list as an item: the octets of its items, and whatever octets come after them. -/
def enclosing (items : List Item) (tail : Bytes) : Item :=
  let body := items.flatMap raw ++ tail
  ⟨header 0xc0 body.length, body⟩

theorem enclosing_written {items : List Item} {tail : Bytes}
    (fits : (items.flatMap raw ++ tail).length < sizeLimit) : (enclosing items tail).Written :=
  .list fits

theorem Written.parts_lt {items : List Item} {tail : Bytes} (h : (enclosing items tail).Written) :
    (items.flatMap raw).length < sizeLimit := by
  have short : (items.flatMap raw ++ tail).length < sizeLimit := h.body_lt
  rw [List.length_append] at short
  omega

theorem raw_enclosing (items : List Item) (tail : Bytes) :
    (enclosing items tail).raw = encodeList (items.flatMap raw ++ tail) := rfl

end Item

theorem Listing.readUpTo_eq {count : Nat} (enough : bytes.length ≤ count) :
    ∃ tail, splitItem tail = .error (readUpTo count bytes).stop ∧
      bytes = (readUpTo count bytes).items.flatMap Item.raw ++ tail ∧
      ∀ item ∈ (readUpTo count bytes).items, item.Written := by
  induction count generalizing bytes with
  | zero =>
      cases List.eq_nil_of_length_eq_zero (Nat.le_zero.1 enough)
      exact ⟨[], rfl, rfl, by simp [readUpTo]⟩
  | succ count ih =>
      rw [readUpTo]
      split
      · rename_i e unreadable
        exact ⟨bytes, unreadable, rfl, by simp⟩
      · rename_i item rest split
        obtain ⟨whole, nonempty⟩ := splitItem_eq split
        have pos := List.length_pos_of_ne_nil nonempty
        have size := congrArg List.length whole
        rw [List.length_append] at size
        obtain ⟨tail, unreadable, later, written⟩ := ih (show rest.length ≤ count by omega)
        refine ⟨tail, unreadable, ?_, ?_⟩
        · rw [List.flatMap_cons, List.append_assoc, ← later]
          exact whole
        · intro other member
          rcases List.mem_cons.1 member with rfl | member
          · exact splitItem_written split
          · exact written other member

namespace Item

/-- What is read of a list is what it is made of, up to octets that are no item. -/
theorem Written.listing_iff {items : List Item} {stop : Error} (h : item.Written) :
    item.listing = .ok ⟨items, stop⟩ ↔
      ∃ tail, splitItem tail = .error stop ∧ (∀ part ∈ items, part.Written) ∧
        item = enclosing items tail := by
  constructor
  · intro read
    cases h with
    | @octet octet small =>
        have notList : isList ⟨[], [octet]⟩ = false := Value.startsList_small small []
        rw [listing, notList] at read
        cases read
    | @string body fits =>
        have notList : isList ⟨header 0x80 body.length, body⟩ = false :=
          Value.startsList_header_octets fits body
        rw [listing, notList] at read
        cases read
    | @list body fits =>
        rw [listing, Written.isList_list fits, if_pos rfl, Except.ok.injEq] at read
        obtain ⟨tail, unreadable, whole, written⟩ := Listing.readUpTo_eq (le_refl body.length)
        rw [← Listing.read, read] at unreadable whole written
        exact ⟨tail, unreadable, written, by rw [enclosing, ← whole]⟩
  · rintro ⟨tail, unreadable, written, rfl⟩
    have isList : (enclosing items tail).isList = true := Written.isList_list h.body_lt
    rw [listing, isList, if_pos rfl, enclosing,
      Listing.read_append (fun part member => (written part member).readable) unreadable]

end Item

theorem Listing.get_eq_ok {listing : Listing} {index : Nat} :
    listing.get index = .ok item ↔ listing.items[index]? = some item := by
  rw [get]
  split
  · rename_i found
    rw [found, Except.ok.injEq, Option.some.injEq]
  · rename_i missing
    simp [missing]

theorem Listing.mem_of_get {listing : Listing} {index : Nat}
    (found : listing.get index = .ok item) : item ∈ listing.items :=
  List.mem_of_getElem? (get_eq_ok.1 found)

theorem Listing.drop_get {listing : Listing} {index : Nat} (found : listing.get index = .ok item) :
    listing.items.drop index = item :: listing.items.drop (index + 1) := by
  obtain ⟨inside, rfl⟩ := List.getElem?_eq_some_iff.1 (get_eq_ok.1 found)
  exact List.drop_eq_getElem_cons inside

/-- The item at a place of some octets, when items are taken off the front one after another. -/
inductive ItemAt : (index : Nat) → Bytes → Item → Prop where
  | here {item : Item} {rest : Bytes} (written : item.Written) : ItemAt 0 (item.raw ++ rest) item
  | later {index : Nat} {first item : Item} {rest : Bytes} (written : first.Written)
      (there : ItemAt index rest item) : ItemAt (index + 1) (first.raw ++ rest) item

theorem ItemAt.written {index : Nat} (h : ItemAt index bytes item) : item.Written := by
  induction h with
  | here written => exact written
  | later _ _ ih => exact ih

theorem ItemAt.of_getElem? {items : List Item} (parts : ∀ part ∈ items, part.Written) {index : Nat}
    (found : items[index]? = some item) (tail : Bytes) :
    ItemAt index (items.flatMap Item.raw ++ tail) item := by
  induction items generalizing index with
  | nil => simp at found
  | cons first others ih =>
      obtain ⟨written, later⟩ := List.forall_mem_cons.1 parts
      rw [List.flatMap_cons, List.append_assoc]
      cases index with
      | zero =>
          cases found
          exact .here written
      | succ index => exact .later written (ih later found)

theorem Listing.read_items (written : item.Written) (rest : Bytes) :
    (read (item.raw ++ rest)).items = item :: (read rest).items := by
  obtain ⟨tail, unreadable, whole, parts⟩ := readUpTo_eq (le_refl rest.length)
  rw [← read] at unreadable whole parts
  have readable : ∀ part ∈ item :: (read rest).items, part.Readable :=
    List.forall_mem_cons.2 ⟨written.readable, fun part member => (parts part member).readable⟩
  have found := read_append readable unreadable
  rw [List.flatMap_cons, List.append_assoc, ← whole] at found
  rw [found]

/-- What is read at a place is the item at that place, whatever stands behind it. -/
theorem Listing.get_read_iff {index : Nat} :
    (read bytes).get index = .ok item ↔ ItemAt index bytes item := by
  rw [get_eq_ok]
  constructor
  · intro found
    obtain ⟨tail, -, whole, parts⟩ := readUpTo_eq (le_refl bytes.length)
    rw [← read] at whole parts
    rw [whole]
    exact .of_getElem? parts found tail
  · intro there
    induction there with
    | here written => rw [read_items written, List.getElem?_cons_zero]
    | later written _ ih => rw [read_items written, List.getElem?_cons_succ, ih]

theorem Listing.nat_iff {listing : Listing} {index width n : Nat} (limit : width ≤ 32)
    (written : ∀ item ∈ listing.items, item.Written) :
    (∃ item, listing.get index = .ok item ∧ item.nat width = .ok n) ↔
      n < 256 ^ width ∧ listing.get index = .ok (Value.nat n).item := by
  constructor
  · rintro ⟨item, found, read⟩
    obtain ⟨fits, rfl⟩ := ((written item (mem_of_get found)).nat_iff limit).1 read
    exact ⟨fits, found⟩
  · rintro ⟨fits, found⟩
    exact ⟨_, found, ((written _ (mem_of_get found)).nat_iff limit).2 ⟨fits, rfl⟩⟩

theorem length_encodeList_lt {payload longer : Bytes} (lt : payload.length < longer.length) :
    (encodeList payload).length < (encodeList longer).length := by
  have widths := Bytes.width_mono lt.le
  have headers : (header 0xc0 payload.length).length ≤ (header 0xc0 longer.length).length := by
    unfold header
    split <;> split <;>
      simp only [List.length_cons, List.length_nil, Bytes.length_minimal] <;> omega
  rw [encodeList, encodeList, List.length_append, List.length_append]
  omega

theorem encodeList_injective : Function.Injective encodeList := by
  intro payload other same
  have length : payload.length = other.length := by
    rcases Nat.lt_trichotomy payload.length other.length with shorter | equal | longer
    · have := length_encodeList_lt shorter
      rw [same] at this
      omega
    · exact equal
    · have := length_encodeList_lt longer
      rw [same] at this
      omega
  rw [encodeList, encodeList, length] at same
  exact List.append_cancel_left same

end Courier.Rlp

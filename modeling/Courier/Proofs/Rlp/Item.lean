import Mathlib
import Courier.Rlp.Item

/-! # Reading items

An item that is read from the front of some octets is read again from its own octets, whatever
follows them. So the items of a list that is made of readable items are those items.
-/

namespace Courier.Rlp

variable {bytes more : Bytes} {item : Item}

theorem readLongHeader_append {count : Nat} {lengths : Nat × Nat}
    (h : readLongHeader count bytes = .ok lengths) (more : Bytes) :
    readLongHeader count (bytes ++ more) = .ok lengths := by
  cases bytes with
  | nil => cases h
  | cons first rest =>
      rw [List.cons_append]
      simp only [readLongHeader] at h ⊢
      split at h
      · cases h
      · rename_i nonzero
        split at h
        · cases h
        · rename_i enough
          have whole : ¬ (first :: (rest ++ more)).length < count := by
            simp only [List.length_cons, List.length_append] at enough ⊢
            omega
          have same : (first :: rest ++ more).take count = (first :: rest).take count :=
            List.take_append_of_le_length (by omega)
          rw [List.cons_append] at same
          rw [if_neg nonzero, if_neg whole, same]
          exact h

theorem readHeader_append {lengths : Nat × Nat} (h : readHeader bytes = .ok lengths)
    (more : Bytes) : readHeader (bytes ++ more) = .ok lengths := by
  cases bytes with
  | nil => cases h
  | cons mark rest =>
      rw [List.cons_append]
      simp only [readHeader] at h ⊢
      split at h
      · rename_i single
        rwa [if_pos single]
      · rename_i notSingle
        rw [if_neg notSingle]
        split at h
        · rename_i short
          rwa [if_pos short]
        · rename_i notShort
          rw [if_neg notShort]
          split at h
          · rename_i long
            rw [if_pos long]
            exact readLongHeader_append h more
          · rename_i notLong
            rw [if_neg notLong]
            split at h
            · rename_i shortList
              rwa [if_pos shortList]
            · rename_i longList
              rw [if_neg longList]
              exact readLongHeader_append h more

theorem readHeader_pos {head body : Nat} (h : readHeader bytes = .ok (head, body)) :
    0 < head + body := by
  have long : ∀ count rest, readLongHeader count rest = .ok (head, body) → 0 < head := by
    intro count rest h
    unfold readLongHeader at h
    split at h
    · cases h
    · split at h
      · cases h
      · split at h
        · cases h
        · simp only at h
          split at h
          · cases h
          · cases h
            omega
  cases bytes with
  | nil => cases h
  | cons mark rest =>
      simp only [readHeader] at h
      split at h
      · cases h
        omega
      · split at h
        · cases h
          omega
        · split at h
          · exact Nat.add_pos_left (long _ _ h) _
          · split at h
            · cases h
              omega
            · exact Nat.add_pos_left (long _ _ h) _

/-- What is split off and what follows it make up the octets. -/
theorem splitItem_eq {rest : Bytes} (h : splitItem bytes = .ok (item, rest)) :
    bytes = item.raw ++ rest ∧ item.raw ≠ [] := by
  unfold splitItem at h
  split at h
  · cases h
  · rename_i head body header
    split at h
    · rename_i enough
      cases h
      have pos := readHeader_pos header
      have raw : bytes.take head ++ (bytes.drop head).take body = bytes.take (head + body) :=
        (List.take_add).symm
      rw [Item.raw, raw]
      refine ⟨(List.take_append_drop _ _).symm, ?_⟩
      intro empty
      have length := congrArg List.length empty
      rw [List.length_take, List.length_nil] at length
      omega
    · cases h

theorem splitItem_append {rest : Bytes} (h : splitItem bytes = .ok (item, rest)) (more : Bytes) :
    splitItem (bytes ++ more) = .ok (item, rest ++ more) := by
  unfold splitItem at h
  split at h
  · cases h
  · rename_i head body header
    split at h
    · rename_i enough
      cases h
      have whole : head + body ≤ (bytes ++ more).length := by
        rw [List.length_append]
        omega
      have front : head ≤ bytes.length := by omega
      simp only [splitItem, readHeader_append header more, if_pos whole]
      rw [List.take_append_of_le_length front, List.drop_append_of_le_length front,
        List.drop_append_of_le_length enough, List.take_append_of_le_length]
      rw [List.length_drop]
      omega
    · cases h

namespace Item

/-- Whether an item is what is read from its octets, with nothing left over. -/
def Readable (item : Item) : Prop := splitItem item.raw = .ok (item, [])

theorem Readable.split (h : item.Readable) (rest : Bytes) :
    splitItem (item.raw ++ rest) = .ok (item, rest) := splitItem_append h rest

theorem Readable.length_pos (h : item.Readable) : 0 < item.raw.length :=
  List.length_pos_of_ne_nil (splitItem_eq h).2

theorem length_raw_le {items : List Item} (member : item ∈ items) :
    item.raw.length ≤ (items.flatMap raw).length := by
  obtain ⟨before, after, rfl⟩ := List.append_of_mem member
  simp only [List.flatMap_append, List.flatMap_cons, List.length_append]
  omega

end Item

/-- Octets from whose front no item can be read. -/
def Unreadable (bytes : Bytes) : Prop := ∃ e, splitItem bytes = .error e

theorem unreadable_nil : Unreadable [] := ⟨.tooShort, rfl⟩

namespace Listing

theorem readUpTo_append {items : List Item} (readable : ∀ item ∈ items, item.Readable)
    {tail : Bytes} {stop : Error} (unreadable : splitItem tail = .error stop) {count : Nat}
    (enough : (items.flatMap Item.raw ++ tail).length ≤ count) :
    readUpTo count (items.flatMap Item.raw ++ tail) = ⟨items, stop⟩ := by
  induction items generalizing count with
  | nil =>
      cases count with
      | zero =>
          cases List.eq_nil_of_length_eq_zero (Nat.le_zero.1 enough)
          cases unreadable
          rfl
      | succ count => simp [readUpTo, unreadable]
  | cons item rest ih =>
      have here := readable item List.mem_cons_self
      have pos := here.length_pos
      rw [List.flatMap_cons, List.append_assoc, List.length_append] at enough
      obtain ⟨left, rfl⟩ : ∃ left, count = left + 1 := ⟨count - 1, by omega⟩
      have fewer : (rest.flatMap Item.raw ++ tail).length ≤ left := by omega
      have later := ih (fun other member => readable other (List.mem_cons_of_mem _ member)) fewer
      simp only [List.flatMap_cons, List.append_assoc, readUpTo, here.split, later]

/-- A list of readable items is read as these items, up to the first octets that are none. -/
theorem read_append {items : List Item} (readable : ∀ item ∈ items, item.Readable) {tail : Bytes}
    {stop : Error} (unreadable : splitItem tail = .error stop) :
    read (items.flatMap Item.raw ++ tail) = ⟨items, stop⟩ :=
  readUpTo_append readable unreadable le_rfl

end Listing

end Courier.Rlp

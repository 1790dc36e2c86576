import Mathlib

/-! # Association lists

Peers, links and watches are kept as lists of pairs, in which the first pair with a key counts.
-/

namespace Courier.Association

variable {κ α : Type} [DecidableEq κ]

theorem lookup_map (entries : List (κ × α)) (change : κ → α → α) (key : κ) :
    (entries.map fun entry => (entry.1, change entry.1 entry.2)).lookup key =
      (entries.lookup key).map (change key) := by
  induction entries with
  | nil => rfl
  | cons entry rest ih =>
      rw [List.map_cons, List.lookup_cons, List.lookup_cons, ih]
      by_cases same : key = entry.1
      · subst same
        simp
      · simp [beq_false_of_ne same]

theorem lookup_filter_ne (entries : List (κ × α)) (removed key : κ) :
    (entries.filter (·.1 ≠ removed)).lookup key =
      if key = removed then none else entries.lookup key := by
  induction entries with
  | nil => simp
  | cons entry rest ih =>
      by_cases gone : entry.1 = removed
      · rw [List.filter_cons_of_neg (by simpa using gone), ih, List.lookup_cons]
        by_cases same : key = removed
        · rw [if_pos same, if_pos same]
        · rw [if_neg same, if_neg same, beq_false_of_ne (gone ▸ same)]
      · rw [List.filter_cons_of_pos (by simpa using gone), List.lookup_cons, List.lookup_cons, ih]
        by_cases same : key = entry.1
        · subst same
          simp [gone]
        · rw [beq_false_of_ne same]

theorem lookup_isSome_iff {entries : List (κ × α)} {key : κ} :
    (entries.lookup key).isSome = true ↔ key ∈ entries.map (·.1) := by
  simp [List.lookup_isSome_iff]

theorem lookup_of_mem {entries : List (κ × α)} (distinct : (entries.map (·.1)).Nodup)
    {key : κ} {value : α} (member : (key, value) ∈ entries) : entries.lookup key = some value := by
  induction entries with
  | nil => cases member
  | cons entry rest ih =>
      rw [List.map_cons, List.nodup_cons] at distinct
      rw [List.lookup_cons]
      rcases List.mem_cons.1 member with rfl | later
      · simp
      · have other : key ≠ entry.1 := fun same =>
          distinct.1 (same ▸ List.mem_map_of_mem later)
        rw [beq_false_of_ne other]
        exact ih distinct.2 later

theorem mem_of_lookup {entries : List (κ × α)} {key : κ} {value : α}
    (found : entries.lookup key = some value) : (key, value) ∈ entries := by
  obtain ⟨before, after, rfl, -⟩ := List.lookup_eq_some_iff.1 found
  exact List.mem_append_right _ List.mem_cons_self

/-- Under distinct keys one element can be taken out by its key. -/
theorem perm_cons_filter {key : α → κ} {entries : List α} (distinct : (entries.map key).Nodup)
    {entry : α} (held : entry ∈ entries) :
    entries.Perm (entry :: entries.filter (key · ≠ key entry)) := by
  induction entries with
  | nil => cases held
  | cons first rest ih =>
      obtain ⟨new, distinctRest⟩ := List.nodup_cons.1 distinct
      cases held with
      | head =>
          have keep : ∀ other ∈ rest, decide (key other ≠ key entry) = true := by
            intro other member
            exact decide_eq_true fun same => new (List.mem_map.2 ⟨other, member, same⟩)
          rw [List.filter_cons_of_neg (by simp), List.filter_eq_self.2 keep]
      | tail _ held =>
          have ne : key first ≠ key entry :=
            fun same => new (List.mem_map.2 ⟨entry, held, same.symm⟩)
          rw [List.filter_cons_of_pos (by exact decide_eq_true ne)]
          exact ((ih distinctRest held).cons first).trans (.swap entry first _)

end Courier.Association

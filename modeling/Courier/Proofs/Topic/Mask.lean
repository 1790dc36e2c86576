import Mathlib
import Courier.Topic.Mask

/-! # Which topics a mask fits

A mask fits topics position by position. The mask that asks for some texts exactly fits the topics
that commit to these texts in their order, and its full topics are those of the texts.
-/

namespace Courier

theorem Topics.ofFull_eq_ok {full : List FullTopic} {topics : Topics} :
    Topics.ofFull full = .ok topics ↔ topics.toList = full.map FullTopic.abridge := by
  rw [Topics.ofFull, Topics.ofList]
  split
  · rw [Except.ok.injEq, Topics.ext_iff, eq_comm]
  · rename_i many
    exact iff_of_false (by simp) fun same => many (same ▸ topics.length_le)

theorem buildTopics_eq_ok {texts : List String} {topics : Topics} {full : List FullTopic} :
    buildTopics texts = .ok (topics, full) ↔
      topics.toList = texts.map Topic.commit ∧ full = texts.map FullTopic.ofText := by
  have commits : (texts.map FullTopic.ofText).map FullTopic.abridge = texts.map Topic.commit :=
    List.map_map
  rw [← commits, ← Topics.ofFull_eq_ok, buildTopics]
  cases Topics.ofFull (texts.map FullTopic.ofText) with
  | error many => simp [bind, Except.bind]
  | ok topics => simp [bind, Except.bind, pure, Except.pure, eq_comm]

namespace TopicMask

/-- Entries fit as many topics as there are, each one that is no wildcard its own topic. -/
theorem fits_iff {entries : List (Option Topic)} {topics : List Topic} :
    fits entries topics = true ↔
      List.Forall₂ (fun entry topic => ∀ wanted ∈ entry, wanted = topic) entries topics := by
  induction entries generalizing topics with
  | nil => cases topics <;> simp [fits]
  | cons entry rest ih =>
      cases topics with
      | nil => cases entry <;> simp [fits]
      | cons topic topics => cases entry <;> simp [fits, ih]

theorem fits_map_some_iff {wanted topics : List Topic} :
    fits (wanted.map some) topics = true ↔ wanted = topics := by
  rw [fits_iff, List.forall₂_map_left_iff]
  simp only [Option.mem_some_iff, forall_eq']
  rw [List.forall₂_eq_eq_eq]

theorem build_entries (texts : List (Option String)) :
    (build texts).entries = texts.map (·.map Topic.commit) := by
  rw [(build texts).entries_eq, build, ofFull]
  simp only [List.map_map, Function.comp_def, Option.map_map]
  rfl

theorem exact_entries (texts : List String) :
    (exact texts).entries = (texts.map Topic.commit).map some := by
  rw [exact, build_entries, List.map_map, List.map_map]
  rfl

theorem exact_matchesTopics {texts : List String} {topics : Topics} :
    (exact texts).matchesTopics topics = true ↔ topics.toList = texts.map Topic.commit := by
  rw [matchesTopics, exact_entries, fits_map_some_iff, eq_comm]

theorem exact_fullTopics (texts : List String) :
    (exact texts).fullTopics = texts.map FullTopic.ofText := by
  rw [fullTopics, exact, build, ofFull, List.map_map, List.filterMap_map]
  simp [Function.comp_def]

end TopicMask

end Courier

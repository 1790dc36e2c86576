import Mathlib
import Courier.Proofs.Watch.Record

/-! # The history of a registry

A record is faithful if its registry is as its past says; every call keeps that. The main statement
is about any calls to a fresh registry: every hash that a watch has heard of has been handed out
once or waits still, and calls on other watches make no difference.
-/

namespace Courier

namespace WatchRecord

open WatchEvent

variable {record : WatchRecord} {id : Nat}

/-! ## A registry is as its past says -/

/-- The numbers, the installed watches and what waits at each are what the past says. -/
structure Faithful (record : WatchRecord) : Prop where
  wellFormed : record.registry.WellFormed
  issued : issued record.past = List.range record.registry.nextId
  standing : ∀ id, standing? id record.past = (record.registry.find? id).map (·.mask)
  -- Numbers still to be given are included: the fields say the same of them before and after.
  leaves : ∀ id, (record.registry.find? id).isSome ∨ record.registry.nextId ≤ id →
    Leaves id record.past (record.registry.pendingAt id)

theorem Faithful.fresh : fresh.Faithful where
  wellFormed := .empty
  issued := rfl
  standing := fun _ => rfl
  leaves := fun _ _ => ⟨fun _ => Iff.rfl, rfl⟩

section Step

variable (h : record.Faithful)

include h

theorem Faithful.reaches (id : Nat) (topics : Topics) : reaches id topics record.past =
    (record.registry.find? id).any (·.mask.matchesTopics topics) := by
  rw [WatchEvent.reaches, h.standing, Option.any_map]

theorem Faithful.install (mask : TopicMask) : (record.perform (.install mask)).Faithful := by
  have found := h.wellFormed.install_find? mask
  rw [perform_install]
  refine ⟨perform_wellFormed h.wellFormed (.install mask), ?_, ?_, ?_⟩
  · show WatchEvent.issued record.past ++ [_] = List.range (record.registry.nextId + 1)
    rw [h.issued, List.range_succ]
  · intro id
    show (if id = record.registry.nextId then some mask else standing? id record.past) = _
    rw [found id, h.standing]
    split <;> rfl
  · intro id present
    -- nothing has happened under the new number, which was one still to be given before
    have before : (record.registry.find? id).isSome ∨ record.registry.nextId ≤ id := by
      rcases present with present | later
      · rw [found id] at present
        split at present
        · rename_i new
          exact .inr new.ge
        · exact .inl present
      · exact .inr (Nat.le_of_succ_le later)
    rw [h.wellFormed.install_pendingAt]
    exact ⟨(h.leaves id before).waiting, (h.leaves id before).whole⟩

theorem Faithful.uninstall (id : Nat) : (record.perform (.uninstall id)).Faithful := by
  have found := record.perform_uninstall_find? id
  have given := record.perform_uninstall_nextId id
  have past := record.perform_uninstall_past id
  refine ⟨perform_wellFormed h.wellFormed (.uninstall id), ?_, ?_, ?_⟩
  · rw [past, given]
    exact h.issued
  · intro other
    rw [past, found other]
    show (if other = id then none else standing? other record.past) = _
    rw [h.standing]
    split <;> rfl
  · intro other present
    rw [found other, given] at present
    have before : (record.registry.find? other).isSome ∨ record.registry.nextId ≤ other := by
      refine present.imp_left fun there => ?_
      split at there
      · cases there
      · exact there
    have same : (record.perform (.uninstall id)).registry.pendingAt other =
        record.registry.pendingAt other := by
      rw [WatchRegistry.pendingAt, found other, WatchRegistry.pendingAt]
      split
      · -- The number was not given yet, so there was no such watch.
        rename_i here
        rw [if_pos here] at present
        rw [h.wellFormed.find?_eq_none (present.resolve_left (by simp))]
      · rfl
    rw [past, same]
    exact ⟨(h.leaves other before).waiting, (h.leaves other before).whole⟩

theorem Faithful.drain (id : Nat) : (record.perform (.drain id)).Faithful := by
  have found := record.perform_drain_find? id
  have given := record.perform_drain_nextId id
  have past := record.perform_drain_past id
  refine ⟨perform_wellFormed h.wellFormed (.drain id), ?_, ?_, ?_⟩
  · rw [past, given]
    exact h.issued
  · intro other
    rw [past, found other, Option.map_map]
    show standing? other record.past = _
    rw [h.standing]
    congr 1
    funext kept
    simp only [Function.comp_apply]
    split <;> rfl
  · intro other present
    rw [found other, Option.isSome_map, given] at present
    have before := h.leaves other present
    have rest : (record.perform (.drain id)).registry.pendingAt other =
        if other = id then [] else record.registry.pendingAt other := by
      rw [WatchRegistry.pendingAt, found other, WatchRegistry.pendingAt]
      by_cases here : other = id
      · cases record.registry.find? other <;> simp [here, Watch.takePending]
      · simp [here]
    rw [past, rest]
    by_cases here : other = id
    · subst here
      rw [if_pos rfl]
      split
      · exact before.drained
      · rename_i absent
        have nothing : record.registry.pendingAt other = [] := by
          rw [WatchRegistry.pendingAt, Option.not_isSome_iff_eq_none.1 absent]
          rfl
        rw [nothing] at before
        exact ⟨by simp [sinceDrain], before.whole⟩
    · rw [if_neg here]
      exact before.drained_other here _

theorem Faithful.notify (hash : Hash) (topics : Topics) :
    (record.perform (.notify hash topics)).Faithful := by
  have found := WatchRegistry.notify_find? record.registry hash topics
  have given := WatchRegistry.notify_nextId record.registry hash topics
  rw [perform_notify]
  refine ⟨perform_wellFormed h.wellFormed (.notify hash topics), ?_, ?_, ?_⟩
  · show WatchEvent.issued record.past = _
    rw [h.issued, given]
  · intro id
    show standing? id record.past = _
    rw [h.standing, found id, Option.map_map]
    congr 1
    funext watch
    exact (watch.offer_mask hash topics).symm
  · intro id present
    rw [found id, Option.isSome_map, given] at present
    rw [h.wellFormed.notify_pendingAt, ← h.reaches]
    exact (h.leaves id present).notified hash topics _

end Step

/-- One call keeps a record faithful. -/
theorem Faithful.perform (h : record.Faithful) (operation : WatchOperation) :
    (record.perform operation).Faithful := by
  cases operation with
  | install mask => exact h.install mask
  | uninstall id => exact h.uninstall id
  | notify hash topics => exact h.notify hash topics
  | drain id => exact h.drain id

theorem Faithful.run (h : record.Faithful) (operations : List WatchOperation) :
    (record.run operations).Faithful := by
  induction operations generalizing record with
  | nil => exact h
  | cons operation later ih => exact ih (h.perform operation)

/-! ## After a watch is uninstalled -/

/-- A number was given to a watch that is gone. -/
structure Retired (id : Nat) (record : WatchRecord) : Prop where
  given : id < record.registry.nextId
  gone : record.registry.find? id = none

/-- Nothing is heard or handed out under a number whose watch is gone, and it is not given again. -/
theorem Faithful.perform_retired (h : record.Faithful) (retired : record.Retired id)
    (operation : WatchOperation) : (record.perform operation).Retired id ∧
      heard id (record.perform operation).past = heard id record.past ∧
      handedOut id (record.perform operation).past = handedOut id record.past := by
  obtain ⟨given, gone⟩ := retired
  cases operation with
  | install mask =>
      refine ⟨⟨given.trans (Nat.lt_succ_self _), ?_⟩, rfl, rfl⟩
      rw [perform_install, h.wellFormed.install_find?, if_neg given.ne, gone]
  | uninstall other =>
      refine ⟨⟨?_, ?_⟩, ?_, ?_⟩
      · rw [perform_uninstall_nextId]
        exact given
      · rw [perform_uninstall_find?, gone, ite_self]
      · rw [perform_uninstall_past, heard]
      · rw [perform_uninstall_past, handedOut]
  | notify hash topics =>
      -- no mask stands under the number, so nothing reaches it
      have unreached : ¬(WatchEvent.reaches id topics record.past = true ∧
          hash ∉ sinceDrain id record.past) := by
        rw [h.reaches, gone]
        simp
      rw [perform_notify]
      refine ⟨⟨?_, ?_⟩, if_neg unreached, rfl⟩
      · rw [WatchRegistry.notify_nextId]
        exact given
      · rw [WatchRegistry.notify_find?, gone]
        rfl
  | drain other =>
      refine ⟨⟨?_, ?_⟩, ?_, ?_⟩
      · rw [perform_drain_nextId]
        exact given
      · rw [perform_drain_find?, gone]
        rfl
      · rw [perform_drain_past, heard]
      · rw [perform_drain_past]
        split
        · rename_i there
          have apart : id ≠ other := by
            rintro rfl
            rw [gone] at there
            cases there
          exact if_neg apart
        · rfl

theorem Faithful.run_retired (h : record.Faithful) (retired : record.Retired id)
    (operations : List WatchOperation) :
    heard id (record.run operations).past = heard id record.past ∧
      handedOut id (record.run operations).past = handedOut id record.past := by
  induction operations generalizing record with
  | nil => exact ⟨rfl, rfl⟩
  | cons operation later ih =>
      obtain ⟨still, heardSame, outSame⟩ := h.perform_retired retired operation
      obtain ⟨heardLater, outLater⟩ := ih (h.perform operation) still
      exact ⟨heardLater.trans heardSame, outLater.trans outSame⟩

/-- What waited at a watch when it was uninstalled is all that it heard of and never handed out. -/
theorem Faithful.uninstalled_whole (h : record.Faithful) (there : (record.registry.find? id).isSome)
    (later : List WatchOperation) :
    handedOut id ((record.perform (.uninstall id)).run later).past ++ record.registry.pendingAt id =
      heard id ((record.perform (.uninstall id)).run later).past := by
  obtain ⟨watch, found⟩ := Option.isSome_iff_exists.1 there
  have retired : (record.perform (.uninstall id)).Retired id := by
    refine ⟨?_, ?_⟩
    · rw [perform_uninstall_nextId]
      exact h.wellFormed.lt_nextId found
    · rw [perform_uninstall_find?, if_pos rfl]
  obtain ⟨heardLater, outLater⟩ := (h.perform (.uninstall id)).run_retired retired later
  rw [heardLater, outLater, perform_uninstall_past, heard, handedOut]
  exact (h.leaves id (.inl there)).whole

/-! ## Two records that one watch does not tell apart -/

/-- A watch is the same in two records and has answered the same; its number is given in both or is
given next in both at once. -/
structure Alike (id : Nat) (left right : WatchRecord) : Prop where
  found : left.registry.find? id = right.registry.find? id
  given : id < left.registry.nextId ∧ id < right.registry.nextId ∨
    left.registry.nextId = right.registry.nextId
  reports : reports id left.past = reports id right.past

section Alike

variable {left right : WatchRecord}

theorem Alike.perform (h : Alike id left right) (leftHolds : left.Faithful)
    (rightHolds : right.Faithful) (operation : WatchOperation) :
    Alike id (left.perform operation) (right.perform operation) := by
  obtain ⟨found, given, reports⟩ := h
  cases operation with
  | install mask =>
      rw [perform_install, perform_install]
      refine ⟨?_, ?_, ?_⟩
      · rw [leftHolds.wellFormed.install_find?, rightHolds.wellFormed.install_find?, found]
        rcases given with ⟨inLeft, inRight⟩ | same
        · rw [if_neg inLeft.ne, if_neg inRight.ne]
        · rw [same]
      · exact given.imp (fun both => ⟨both.1.trans (Nat.lt_succ_self _),
          both.2.trans (Nat.lt_succ_self _)⟩) (congrArg (· + 1))
      · -- the number given now is another one on both sides, or the same one on both
        rcases given with ⟨inLeft, inRight⟩ | same
        · simpa [WatchEvent.reports, concerns, inLeft.ne', inRight.ne'] using reports
        · rw [same]
          simp only [WatchEvent.reports, List.filter_cons] at reports ⊢
          rw [reports]
  | uninstall other =>
      refine ⟨?_, ?_, ?_⟩
      · rw [perform_uninstall_find?, perform_uninstall_find?, found]
      · rw [perform_uninstall_nextId, perform_uninstall_nextId]
        exact given
      · rw [perform_uninstall_past, perform_uninstall_past]
        by_cases here : other = id
        · subst here
          simp only [WatchEvent.reports, List.filter_cons, found] at reports ⊢
          rw [reports]
        · simpa [WatchEvent.reports, concerns, here] using reports
  | notify hash topics =>
      rw [perform_notify, perform_notify]
      refine ⟨?_, ?_, reports⟩
      · rw [WatchRegistry.notify_find?, WatchRegistry.notify_find?, found]
      · rw [WatchRegistry.notify_nextId, WatchRegistry.notify_nextId]
        exact given
  | drain other =>
      refine ⟨?_, ?_, ?_⟩
      · rw [perform_drain_find?, perform_drain_find?, found]
      · rw [perform_drain_nextId, perform_drain_nextId]
        exact given
      · rw [perform_drain_past, perform_drain_past]
        by_cases here : other = id
        · subst here
          simp only [WatchEvent.reports, List.filter_cons, WatchRegistry.pendingAt, found]
            at reports ⊢
          rw [reports]
        · simpa [WatchEvent.reports, concerns, here] using reports

theorem Alike.run (h : Alike id left right) (leftHolds : left.Faithful)
    (rightHolds : right.Faithful) (operations : List WatchOperation) :
    Alike id (left.run operations) (right.run operations) := by
  induction operations generalizing left right with
  | nil => exact h
  | cons operation later ih =>
      exact ih (h.perform leftHolds rightHolds operation) (leftHolds.perform operation)
        (rightHolds.perform operation)

/-- Whether a call is one on another watch than that with a number; the number of a watch that is
installed must be a later one. -/
def Elsewhere (id : Nat) (record : WatchRecord) : WatchOperation → Prop
  | .install _ => id < record.registry.nextId
  | .uninstall other | .drain other => other ≠ id
  | .notify .. => False

theorem Faithful.alike_elsewhere (h : record.Faithful) {operation : WatchOperation}
    (elsewhere : Elsewhere id record operation) : Alike id (record.perform operation) record := by
  cases operation with
  | install mask =>
      have given : id < record.registry.nextId := elsewhere
      rw [perform_install]
      refine ⟨?_, .inl ⟨given.trans (Nat.lt_succ_self _), given⟩, ?_⟩
      · rw [h.wellFormed.install_find?, if_neg given.ne]
      · simp [WatchEvent.reports, concerns, given.ne']
  | uninstall other =>
      have apart : other ≠ id := elsewhere
      refine ⟨?_, .inr (record.perform_uninstall_nextId other), ?_⟩
      · rw [perform_uninstall_find?, if_neg apart.symm]
      · simp [perform_uninstall_past, WatchEvent.reports, concerns, apart]
  | notify => exact elsewhere.elim
  | drain other =>
      have apart : other ≠ id := elsewhere
      refine ⟨?_, .inr (record.perform_drain_nextId other), ?_⟩
      · simp [perform_drain_find?, apart.symm]
      · simp [perform_drain_past, WatchEvent.reports, concerns, apart]

end Alike

/-! ## The law of a registry's history -/

section Answers

variable (h : record.Faithful)

include h

theorem Faithful.answers_absent (absent : standing? id record.past = none) :
    record.registry.drain id = .error ⟨id⟩ ∧ record.registry.mask id = .error ⟨id⟩ ∧
      record.registry.fullTopics id = .error ⟨id⟩ ∧ record.registry.uninstall id = .error ⟨id⟩ := by
  have gone : record.registry.find? id = none := by
    rw [h.standing] at absent
    exact Option.map_eq_none_iff.1 absent
  have noMask : record.registry.mask id = .error ⟨id⟩ := by rw [WatchRegistry.mask, gone]
  refine ⟨WatchRegistry.drain_eq_error gone, noMask, ?_, WatchRegistry.uninstall_eq_error gone⟩
  rw [WatchRegistry.fullTopics, noMask]
  rfl

/-- Under the number of an installed watch, every call succeeds, and a drain hands out what waits. -/
theorem Faithful.answers_standing {mask : TopicMask}
    (there : standing? id record.past = some mask) :
    (∃ after, record.registry.drain id = .ok (after, record.registry.pendingAt id)) ∧
      record.registry.mask id = .ok mask ∧
      record.registry.fullTopics id = .ok mask.fullTopics ∧
      ∃ after, record.registry.uninstall id = .ok after := by
  rw [h.standing] at there
  obtain ⟨watch, found, rfl⟩ := Option.map_eq_some_iff.1 there
  have itsMask : record.registry.mask id = .ok watch.mask := by rw [WatchRegistry.mask, found]
  refine ⟨⟨_, WatchRegistry.drain_eq_ok.2 ⟨watch, found, WatchRegistry.pendingAt_of_find? found,
    rfl⟩⟩, itsMask, ?_, _, WatchRegistry.uninstall_eq_ok.2 ⟨Option.isSome_of_eq_some found, rfl⟩⟩
  rw [WatchRegistry.fullTopics, itsMask]
  rfl

theorem Faithful.isSome_of_standing (there : standing? id record.past ≠ none) :
    (record.registry.find? id).isSome := by
  rw [h.standing] at there
  exact Option.isSome_iff_ne_none.2 fun gone => there (by rw [gone]; rfl)

theorem Faithful.notify_counts (hash : Hash) (topics : Topics) :
    (record.registry.notify hash topics).2 = ((WatchEvent.issued record.past).filter fun id =>
      (record.registry.notify hash topics).1.pendingAt id =
        record.registry.pendingAt id ++ [hash]).length := by
  rw [h.wellFormed.notify_hits]
  refine List.Perm.length_eq ((List.perm_ext_iff_of_nodup (h.wellFormed.distinct.filter _) ?_).2 ?_)
  · rw [h.issued]
    exact List.nodup_range.filter _
  · intro id
    rw [List.mem_filter, List.mem_filter, h.issued, List.mem_range]
    refine and_congr_left fun appended => ⟨h.wellFormed.below id, fun _ => ?_⟩
    by_contra outside
    have gone : record.registry.find? id = none :=
      Option.not_isSome_iff_eq_none.1 (mt WatchRegistry.find?_isSome_iff.1 outside)
    rw [h.wellFormed.notify_pendingAt, gone] at appended
    simp at appended

end Answers

/-- Whatever calls are made to a fresh registry: numbers are given once, calls on a number succeed
exactly while its watch is installed, and what its drains hand out, followed by what waits there,
is what the watch heard of. A call on another watch changes no answer. -/
theorem run_history (operations : List WatchOperation) :
    let record := fresh.run operations
    -- the numbers
    ((issued record.past).Nodup ∧
      ∀ id ∈ issued record.past, id < (issued record.past).length) ∧
    -- which calls succeed
    (∀ id, standing? id record.past = none →
      record.registry.drain id = .error ⟨id⟩ ∧ record.registry.mask id = .error ⟨id⟩ ∧
        record.registry.fullTopics id = .error ⟨id⟩ ∧
        record.registry.uninstall id = .error ⟨id⟩) ∧
    (∀ id mask, standing? id record.past = some mask →
      (∃ after, record.registry.drain id = .ok (after, record.registry.pendingAt id)) ∧
        record.registry.mask id = .ok mask ∧
        record.registry.fullTopics id = .ok mask.fullTopics ∧
        ∃ after, record.registry.uninstall id = .ok after) ∧
    -- nothing is lost and nothing comes twice, up to the end or up to an uninstallation
    (∀ id, standing? id record.past ≠ none →
      handedOut id record.past ++ record.registry.pendingAt id = heard id record.past) ∧
    (∀ id earlier later, operations = earlier ++ .uninstall id :: later →
      standing? id (fresh.run earlier).past ≠ none →
      handedOut id record.past ++ (fresh.run earlier).registry.pendingAt id =
        heard id record.past) ∧
    -- what a notification counts
    (∀ hash topics, (record.registry.notify hash topics).2 =
      ((issued record.past).filter fun id =>
        (record.registry.notify hash topics).1.pendingAt id =
          record.registry.pendingAt id ++ [hash]).length) ∧
    -- calls on other watches might as well not have been made
    ∀ id earlier operation later, operations = earlier ++ operation :: later →
      Elsewhere id (fresh.run earlier) operation →
      record.registry.find? id = (fresh.run (earlier ++ later)).registry.find? id ∧
        reports id record.past = reports id (fresh.run (earlier ++ later)).past := by
  intro record
  have holds : record.Faithful := Faithful.fresh.run operations
  refine ⟨⟨?_, ?_⟩, fun id absent => holds.answers_absent absent,
    fun id mask there => holds.answers_standing there,
    fun id there => (holds.leaves id (.inl (holds.isSome_of_standing there))).whole,
    ?_, holds.notify_counts, ?_⟩
  · rw [holds.issued]
    exact List.nodup_range
  · intro id given
    rw [holds.issued] at given ⊢
    rw [List.length_range]
    exact List.mem_range.1 given
  · rintro id earlier later rfl there
    have before : (fresh.run earlier).Faithful := Faithful.fresh.run earlier
    have whole := before.uninstalled_whole (before.isSome_of_standing there) later
    rwa [← run_cons, ← run_append] at whole
  · rintro id earlier operation later rfl elsewhere
    have before : (fresh.run earlier).Faithful := Faithful.fresh.run earlier
    have alike := (before.alike_elsewhere elsewhere).run (before.perform operation) before later
    rw [← run_cons, ← run_append, ← run_append] at alike
    exact ⟨alike.found, alike.reports⟩

end WatchRecord

end Courier

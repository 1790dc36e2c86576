import Mathlib
import Courier.Proofs.Association
import Courier.Watch.Registry

/-! # What happens to one watch

For each operation of a registry: what becomes of the watch with a given number. A watch is well
formed if the hashes that it takes to be waiting are those that wait, and a registry if its numbers
are distinct and used up; every operation keeps both.
-/

namespace Courier

namespace Watch

variable {watch : Watch} {hash : Hash} {topics : Topics}

/-- What a watch looks up is what waits, and nothing waits twice. -/
structure WellFormed (watch : Watch) : Prop where
  distinct : watch.pending.Nodup
  queued : ∀ hash, hash ∈ watch.queued ↔ hash ∈ watch.pending

theorem WellFormed.ofMask (mask : TopicMask) : (Watch.ofMask mask).WellFormed where
  distinct := List.nodup_nil
  queued := fun _ => Iff.rfl

theorem WellFormed.takePending (watch : Watch) : watch.takePending.1.WellFormed where
  distinct := List.nodup_nil
  queued := fun _ => Iff.rfl

/-- Whether a watch lets a hash with some topics wait that did not wait before. -/
def Takes (watch : Watch) (hash : Hash) (topics : Topics) : Prop :=
  watch.mask.matchesTopics topics = true ∧ hash ∉ watch.pending

instance (watch : Watch) (hash : Hash) (topics : Topics) : Decidable (watch.Takes hash topics) :=
  inferInstanceAs (Decidable (_ ∧ _))

theorem WellFormed.offer_eq (h : watch.WellFormed) (hash : Hash) (topics : Topics) :
    watch.offer hash topics =
      if watch.Takes hash topics then
        ({ watch with pending := watch.pending ++ [hash], queued := watch.queued ++ [hash] }, true)
      else (watch, false) := by
  rw [offer, push]
  by_cases fits : watch.mask.matchesTopics topics = true
  · by_cases waits : hash ∈ watch.pending
    · simp [Takes, fits, waits, (h.queued hash).2 waits]
    · simp [Takes, fits, waits, mt (h.queued hash).1 waits]
  · simp [Takes, fits]

@[simp] theorem offer_mask (watch : Watch) (hash : Hash) (topics : Topics) :
    (watch.offer hash topics).1.mask = watch.mask := by
  rw [offer, push]
  split
  · split <;> rfl
  · rfl

theorem offer_length (watch : Watch) (hash : Hash) (topics : Topics) :
    (watch.offer hash topics).1.pending.length =
      watch.pending.length + if (watch.offer hash topics).2 then 1 else 0 := by
  rw [offer, push]
  split
  · split
    · rfl
    · exact List.length_append
  · rfl

theorem WellFormed.offer_pending (h : watch.WellFormed) (hash : Hash) (topics : Topics) :
    (watch.offer hash topics).1.pending =
      watch.pending ++ if watch.Takes hash topics then [hash] else [] := by
  rw [h.offer_eq]
  split
  · rfl
  · exact (List.append_nil _).symm

theorem WellFormed.offer_added (h : watch.WellFormed) (hash : Hash) (topics : Topics) :
    (watch.offer hash topics).2 = decide (watch.Takes hash topics) := by
  rw [h.offer_eq]
  by_cases takes : watch.Takes hash topics
  · simp [takes]
  · simp [takes]

theorem WellFormed.offer (h : watch.WellFormed) (hash : Hash) (topics : Topics) :
    (watch.offer hash topics).1.WellFormed := by
  rw [h.offer_eq]
  split
  · rename_i takes
    refine ⟨?_, ?_⟩
    · exact List.nodup_append.2 ⟨h.distinct, List.nodup_singleton _, by
        rintro old member _ new rfl
        exact takes.2 (List.mem_singleton.1 new ▸ member)⟩
    · intro other
      simp only [List.mem_append, h.queued other]
  · exact h

end Watch

namespace WatchRegistry

variable {registry after : WatchRegistry} {id other : Nat} {watch : Watch} {hashes : List Hash}

/-- The numbers of the installed watches. -/
def ids (registry : WatchRegistry) : List Nat := registry.watches.map (·.1)

/-- The hashes that wait at a watch; none do if it is not installed. -/
def pendingAt (registry : WatchRegistry) (id : Nat) : List Hash :=
  ((registry.find? id).map (·.pending)).getD []

theorem pendingAt_of_find? (found : registry.find? id = some watch) :
    registry.pendingAt id = watch.pending := by
  rw [pendingAt, found]
  rfl

theorem mask_eq_ok {asked : TopicMask} :
    registry.mask id = .ok asked ↔ ∃ watch, registry.find? id = some watch ∧ watch.mask = asked := by
  rw [mask]
  cases registry.find? id with
  | none => simp
  | some watch => simp

/-- A number is given once, and no watch has one that is still to be given. -/
structure WellFormed (registry : WatchRegistry) : Prop where
  distinct : registry.ids.Nodup
  below : ∀ id ∈ registry.ids, id < registry.nextId
  each : ∀ id watch, registry.find? id = some watch → watch.WellFormed

theorem find?_isSome_iff : (registry.find? id).isSome = true ↔ id ∈ registry.ids :=
  Association.lookup_isSome_iff

theorem WellFormed.empty : WatchRegistry.empty.WellFormed where
  distinct := List.nodup_nil
  below := by simp [ids, WatchRegistry.empty]
  each := by simp [find?, WatchRegistry.empty]

theorem WellFormed.lt_nextId (h : registry.WellFormed) (found : registry.find? id = some watch) :
    id < registry.nextId := h.below id (find?_isSome_iff.1 (Option.isSome_of_eq_some found))

theorem WellFormed.find?_eq_none (h : registry.WellFormed) (new : registry.nextId ≤ id) :
    registry.find? id = none := by
  cases found : registry.find? id with
  | none => rfl
  | some watch => exact absurd (h.lt_nextId found) (Nat.not_lt.2 new)

theorem WellFormed.find?_of_mem (h : registry.WellFormed) (member : (id, watch) ∈ registry.watches) :
    registry.find? id = some watch :=
  Association.lookup_of_mem h.distinct member

section Install

theorem WellFormed.install_find? (h : registry.WellFormed) (mask : TopicMask) (id : Nat) :
    (registry.install mask).1.find? id =
      if id = registry.nextId then some (.ofMask mask) else registry.find? id := by
  have split : (registry.install mask).1.find? id =
      (registry.find? id).or ([(registry.nextId, Watch.ofMask mask)].lookup id) :=
    List.lookup_append
  rw [split, List.lookup_cons]
  by_cases new : id = registry.nextId
  · rw [if_pos new, h.find?_eq_none new.ge, new, beq_self_eq_true]
    rfl
  · rw [if_neg new, beq_false_of_ne new, List.lookup_nil, Option.or_none]

theorem WellFormed.install_pendingAt (h : registry.WellFormed) (mask : TopicMask) (id : Nat) :
    (registry.install mask).1.pendingAt id = registry.pendingAt id := by
  rw [pendingAt, h.install_find?, pendingAt]
  split
  · rename_i new
    rw [h.find?_eq_none new.ge]
    rfl
  · rfl

theorem WellFormed.install (h : registry.WellFormed) (mask : TopicMask) :
    (registry.install mask).1.WellFormed := by
  have grown : (registry.install mask).1.ids = registry.ids ++ [registry.nextId] := List.map_append
  refine ⟨?_, ?_, ?_⟩
  · rw [grown, List.nodup_append]
    refine ⟨h.distinct, List.nodup_singleton _, ?_⟩
    rintro old member _ new rfl
    exact (h.below old member).ne (List.mem_singleton.1 new)
  · intro id member
    rw [grown] at member
    show id < registry.nextId + 1
    rcases List.mem_append.1 member with old | new
    · exact (h.below id old).trans (Nat.lt_succ_self _)
    · exact (List.mem_singleton.1 new).trans_lt (Nat.lt_succ_self _)
  · intro id watch found
    rw [h.install_find?] at found
    split at found
    · cases found
      exact .ofMask mask
    · exact h.each id watch found

end Install

section Uninstall

theorem uninstall_eq_ok :
    registry.uninstall id = .ok after ↔ (registry.find? id).isSome = true ∧
      after = { registry with watches := registry.watches.filter (·.1 ≠ id) } := by
  rw [uninstall]
  cases registry.find? id with
  | none => simp
  | some watch => simp [eq_comm]

theorem uninstall_eq_error (absent : registry.find? id = none) :
    registry.uninstall id = .error ⟨id⟩ := by
  rw [uninstall, absent]

theorem uninstall_find? (removed : registry.uninstall id = .ok after) (other : Nat) :
    after.find? other = if other = id then none else registry.find? other := by
  obtain ⟨-, rfl⟩ := uninstall_eq_ok.1 removed
  exact Association.lookup_filter_ne registry.watches id other

theorem uninstall_nextId (removed : registry.uninstall id = .ok after) :
    after.nextId = registry.nextId := by
  obtain ⟨-, rfl⟩ := uninstall_eq_ok.1 removed
  rfl

theorem WellFormed.uninstall (h : registry.WellFormed) (removed : registry.uninstall id = .ok after) :
    after.WellFormed := by
  have fewer : after.ids.Sublist registry.ids := by
    obtain ⟨-, rfl⟩ := uninstall_eq_ok.1 removed
    exact List.filter_sublist.map _
  refine ⟨h.distinct.sublist fewer, ?_, ?_⟩
  · intro other member
    rw [uninstall_nextId removed]
    exact h.below other (fewer.subset member)
  · intro other watch found
    rw [uninstall_find? removed] at found
    split at found
    · cases found
    · exact h.each other watch found

end Uninstall

section Drain

theorem drain_eq_ok :
    registry.drain id = .ok (after, hashes) ↔ ∃ watch, registry.find? id = some watch ∧
      hashes = watch.pending ∧ after = { registry with
        watches := registry.watches.map fun (other, kept) =>
          (other, if other = id then watch.takePending.1 else kept) } := by
  rw [drain]
  cases registry.find? id with
  | none => simp
  | some watch => simp [Watch.takePending, eq_comm, and_comm]

theorem drain_eq_error (absent : registry.find? id = none) : registry.drain id = .error ⟨id⟩ := by
  rw [drain, absent]

theorem drain_find? (drained : registry.drain id = .ok (after, hashes)) (other : Nat) :
    after.find? other =
      (registry.find? other).map fun kept => if other = id then kept.takePending.1 else kept := by
  obtain ⟨watch, found, -, rfl⟩ := drain_eq_ok.1 drained
  have mapped := Association.lookup_map registry.watches
    (fun other kept => if other = id then watch.takePending.1 else kept) other
  refine mapped.trans ?_
  by_cases same : other = id
  · subst same
    have lookup : registry.watches.lookup other = some watch := found
    simp [find?, lookup]
  · simp [find?, same]

theorem drain_ids (drained : registry.drain id = .ok (after, hashes)) : after.ids = registry.ids := by
  obtain ⟨watch, -, -, rfl⟩ := drain_eq_ok.1 drained
  simp [ids, List.map_map, Function.comp_def]

theorem drain_nextId (drained : registry.drain id = .ok (after, hashes)) :
    after.nextId = registry.nextId := by
  obtain ⟨watch, -, -, rfl⟩ := drain_eq_ok.1 drained
  rfl

theorem WellFormed.drain (h : registry.WellFormed)
    (drained : registry.drain id = .ok (after, hashes)) : after.WellFormed := by
  refine ⟨?_, ?_, ?_⟩
  · rw [drain_ids drained]
    exact h.distinct
  · rw [drain_ids drained, drain_nextId drained]
    exact h.below
  · intro other watch found
    rw [drain_find? drained] at found
    obtain ⟨kept, before, rfl⟩ := Option.map_eq_some_iff.1 found
    split
    · exact .takePending kept
    · exact h.each other kept before

end Drain

section Notify

theorem offerAll_eq (hash : Hash) (topics : Topics) (watches : List (Nat × Watch)) :
    offerAll hash topics watches =
      (watches.map fun entry => (entry.1, (entry.2.offer hash topics).1),
        watches.countP fun entry => (entry.2.offer hash topics).2) := by
  induction watches with
  | nil => rfl
  | cons entry rest ih =>
      rw [offerAll, ih, List.map_cons, List.countP_cons]
      cases added : (entry.2.offer hash topics).2 <;> simp [added]

theorem notify_eq (registry : WatchRegistry) (hash : Hash) (topics : Topics) :
    registry.notify hash topics =
      ({ registry with
          watches := registry.watches.map fun entry => (entry.1, (entry.2.offer hash topics).1) },
        registry.watches.countP fun entry => (entry.2.offer hash topics).2) := by
  rw [notify, offerAll_eq]

theorem notify_find? (registry : WatchRegistry) (hash : Hash) (topics : Topics) (id : Nat) :
    (registry.notify hash topics).1.find? id =
      (registry.find? id).map fun watch => (watch.offer hash topics).1 := by
  rw [notify_eq]
  exact Association.lookup_map registry.watches (fun _ watch => (watch.offer hash topics).1) id

theorem notify_ids (registry : WatchRegistry) (hash : Hash) (topics : Topics) :
    (registry.notify hash topics).1.ids = registry.ids := by
  rw [notify_eq]
  simp [ids, List.map_map, Function.comp_def]

theorem notify_nextId (registry : WatchRegistry) (hash : Hash) (topics : Topics) :
    (registry.notify hash topics).1.nextId = registry.nextId := by
  rw [notify_eq]

theorem WellFormed.notify (h : registry.WellFormed) (hash : Hash) (topics : Topics) :
    (registry.notify hash topics).1.WellFormed := by
  refine ⟨?_, ?_, ?_⟩
  · rw [notify_ids]
    exact h.distinct
  · rw [notify_ids, notify_nextId]
    exact h.below
  · intro id watch found
    rw [notify_find?] at found
    obtain ⟨before, old, rfl⟩ := Option.map_eq_some_iff.1 found
    exact (h.each id before old).offer hash topics

theorem WellFormed.notify_pendingAt (h : registry.WellFormed) (hash : Hash) (topics : Topics)
    (id : Nat) : (registry.notify hash topics).1.pendingAt id = registry.pendingAt id ++
      if (registry.find? id).any (·.mask.matchesTopics topics) ∧ hash ∉ registry.pendingAt id
      then [hash] else [] := by
  have later := notify_find? registry hash topics id
  cases found : registry.find? id with
  | none =>
      rw [found] at later
      simp [pendingAt, later, found]
  | some watch =>
      rw [found] at later
      rw [pendingAt_of_find? later, (h.each id watch found).offer_pending, pendingAt_of_find? found]
      rfl

theorem notify_mask (registry : WatchRegistry) (hash : Hash) (topics : Topics) (id : Nat) :
    (registry.notify hash topics).1.mask id = registry.mask id := by
  rw [mask, notify_find?, mask]
  cases registry.find? id with
  | none => rfl
  | some watch => exact congrArg Except.ok (watch.offer_mask hash topics)

/-- A hash waits at a watch whose mask fits; at another one nothing changes. -/
theorem WellFormed.notify_reaches (h : registry.WellFormed) (hash : Hash) (topics : Topics)
    {asked : TopicMask} (installed : registry.mask id = .ok asked) :
    (asked.matchesTopics topics = true →
        hash ∈ (registry.notify hash topics).1.pendingAt id) ∧
      (asked.matchesTopics topics = false →
        (registry.notify hash topics).1.pendingAt id = registry.pendingAt id) := by
  have fits : (registry.find? id).any (·.mask.matchesTopics topics) =
      asked.matchesTopics topics := by
    obtain ⟨watch, found, rfl⟩ := mask_eq_ok.1 installed
    rw [found]
    rfl
  rw [h.notify_pendingAt, fits]
  refine ⟨fun fitting => ?_, fun other => ?_⟩
  · by_cases waits : hash ∈ registry.pendingAt id
    · exact List.mem_append_left _ waits
    · rw [if_pos ⟨fitting, waits⟩]
      exact List.mem_append_right _ (List.mem_singleton.2 rfl)
  · rw [other, if_neg (by simp), List.append_nil]

/-- As many watches are counted as there are ones at which the hash comes to wait. -/
theorem WellFormed.notify_hits (h : registry.WellFormed) (hash : Hash) (topics : Topics) :
    (registry.notify hash topics).2 = (registry.ids.filter fun id =>
      (registry.notify hash topics).1.pendingAt id = registry.pendingAt id ++ [hash]).length := by
  have counted : (registry.notify hash topics).2 =
      registry.watches.countP fun entry => (entry.2.offer hash topics).2 := by rw [notify_eq]
  rw [counted, ← List.countP_eq_length_filter, ids, List.countP_map]
  refine List.countP_congr fun entry member => ?_
  have found := h.find?_of_mem member
  rw [(h.each _ _ found).offer_added, Function.comp_apply, h.notify_pendingAt, found,
    pendingAt_of_find? found]
  by_cases takes : entry.2.Takes hash topics
  · simp [takes, takes.1, takes.2]
  · have refused := takes
    rw [Watch.Takes] at refused
    simp [takes, refused]

end Notify

section Waiting

/-- The hashes that wait at all watches together. -/
def waiting (registry : WatchRegistry) : List Hash :=
  registry.watches.flatMap fun entry => entry.2.pending

theorem waiting_install (registry : WatchRegistry) (mask : TopicMask) :
    (registry.install mask).1.waiting = registry.waiting := by
  simp [waiting, install, Watch.ofMask]

theorem WellFormed.waiting_length (h : registry.WellFormed) (found : registry.find? id = some watch) :
    ((registry.watches.filter (·.1 ≠ id)).flatMap fun entry => entry.2.pending).length +
      watch.pending.length = registry.waiting.length := by
  have split := Association.perm_cons_filter h.distinct (Association.mem_of_lookup found)
  rw [waiting, (split.flatMap_right _).length_eq, List.flatMap_cons, List.length_append,
    Nat.add_comm]

theorem WellFormed.waiting_uninstall (h : registry.WellFormed)
    (removed : registry.uninstall id = .ok after) :
    after.waiting.length + (registry.pendingAt id).length = registry.waiting.length := by
  obtain ⟨there, rfl⟩ := uninstall_eq_ok.1 removed
  obtain ⟨watch, found⟩ := Option.isSome_iff_exists.1 there
  rw [pendingAt_of_find? found]
  exact h.waiting_length found

theorem WellFormed.waiting_drain (h : registry.WellFormed)
    (drained : registry.drain id = .ok (after, hashes)) :
    after.waiting.length + hashes.length = registry.waiting.length := by
  obtain ⟨watch, found, rfl, rfl⟩ := drain_eq_ok.1 drained
  -- emptying a watch leaves the same hashes as taking it out
  have emptied (watches : List (Nat × Watch)) :
      ((watches.map fun (other, kept) => (other, if other = id then watch.takePending.1 else kept))
        |>.flatMap fun entry => entry.2.pending) =
      (watches.filter (·.1 ≠ id)).flatMap fun entry => entry.2.pending := by
    induction watches with
    | nil => rfl
    | cons entry rest ih =>
        rw [List.map_cons, List.flatMap_cons, ih]
        by_cases here : entry.1 = id
        · simp [here, Watch.takePending]
        · simp [here]
  rw [← h.waiting_length found, ← emptied]
  rfl

theorem waiting_notify (registry : WatchRegistry) (hash : Hash) (topics : Topics) :
    (registry.notify hash topics).1.waiting.length =
      registry.waiting.length + (registry.notify hash topics).2 := by
  rw [notify_eq, waiting, waiting]
  induction registry.watches with
  | nil => rfl
  | cons entry rest ih =>
      simp only [List.map_cons, List.flatMap_cons, List.length_append, List.countP_cons,
        entry.2.offer_length] at ih ⊢
      omega

end Waiting

end WatchRegistry

end Courier

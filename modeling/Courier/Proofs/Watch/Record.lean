import Mathlib
import Courier.Proofs.Watch.Registry

/-! # Records of a registry

The calls to a registry are kept with their answers, the latest in front. Which watches are
installed and which hashes each was to hear of can be read off such a past alone. For each call:
what it does to the registry and what it adds to the past.
-/

namespace Courier

/-- A call that may change a registry. -/
inductive WatchOperation where
  | install (mask : TopicMask)
  | uninstall (id : Nat)
  | notify (hash : Hash) (topics : Topics)
  | drain (id : Nat)

/-- A call to a registry together with its answer. -/
inductive WatchEvent where
  | installed (mask : TopicMask) (id : Nat)
  | uninstalled (id : Nat) (answer : Except NoSuchWatch Unit)
  | notified (hash : Hash) (topics : Topics) (hits : Nat)
  | drained (id : Nat) (answer : Except NoSuchWatch (List Hash))

def WatchRegistry.perform (registry : WatchRegistry) :
    WatchOperation → WatchRegistry × WatchEvent
  | .install mask =>
    let (after, id) := registry.install mask
    (after, .installed mask id)
  | .uninstall id =>
    match registry.uninstall id with
    | .ok after => (after, .uninstalled id (.ok ()))
    | .error absent => (registry, .uninstalled id (.error absent))
  | .notify hash topics =>
    let (after, hits) := registry.notify hash topics
    (after, .notified hash topics hits)
  | .drain id =>
    match registry.drain id with
    | .ok (after, hashes) => (after, .drained id (.ok hashes))
    | .error absent => (registry, .drained id (.error absent))

/-! ## Reading a past -/

namespace WatchEvent

/-- The numbers that were given, in their order. -/
def issued : List WatchEvent → List Nat
  | [] => []
  | .installed _ id :: past => issued past ++ [id]
  | .uninstalled .. :: past | .notified .. :: past | .drained .. :: past => issued past

/-- The mask of the watch that was installed with a number and not uninstalled since. -/
def standing? (id : Nat) : List WatchEvent → Option TopicMask
  | [] => none
  | .installed mask new :: past => if id = new then some mask else standing? id past
  | .uninstalled gone _ :: past => if id = gone then none else standing? id past
  | .notified .. :: past | .drained .. :: past => standing? id past

/-- Whether a watch is installed whose mask fits some topics. -/
def reaches (id : Nat) (topics : Topics) (past : List WatchEvent) : Bool :=
  (standing? id past).any (·.matchesTopics topics)

/-- The hashes of which a watch was notified since it was last drained, the latest in front. -/
def sinceDrain (id : Nat) : List WatchEvent → List Hash
  | [] => []
  | .notified hash topics _ :: past =>
    if reaches id topics past then hash :: sinceDrain id past else sinceDrain id past
  | .drained other _ :: past => if id = other then [] else sinceDrain id past
  | .installed .. :: past | .uninstalled .. :: past => sinceDrain id past

/-- The hashes of which a watch was notified, in their order, but for those notifications that came
while the hash was waiting. -/
def heard (id : Nat) : List WatchEvent → List Hash
  | [] => []
  | .notified hash topics _ :: past =>
    if reaches id topics past ∧ hash ∉ sinceDrain id past then heard id past ++ [hash]
    else heard id past
  | .installed .. :: past | .uninstalled .. :: past | .drained .. :: past => heard id past

/-- What the drains of a watch have handed out, in their order. -/
def handedOut (id : Nat) : List WatchEvent → List Hash
  | [] => []
  | .drained other (.ok hashes) :: past =>
    if id = other then handedOut id past ++ hashes else handedOut id past
  | .drained _ (.error _) :: past => handedOut id past
  | .installed .. :: past | .uninstalled .. :: past | .notified .. :: past => handedOut id past

/-- Whether an event is the answer to a call on one watch. -/
def concerns (id : Nat) : WatchEvent → Bool
  | .installed _ other | .uninstalled other _ | .drained other _ => other = id
  | .notified .. => false

/-- The calls on one watch with their answers. -/
def reports (id : Nat) (past : List WatchEvent) : List WatchEvent := past.filter (concerns id)

/-- The hashes that wait at a watch are those it has heard of and not handed out; they are those of
which it was notified since it was last drained. -/
structure Leaves (id : Nat) (past : List WatchEvent) (pending : List Hash) : Prop where
  waiting : ∀ hash, hash ∈ sinceDrain id past ↔ hash ∈ pending
  whole : handedOut id past ++ pending = heard id past

variable {id : Nat} {past : List WatchEvent} {pending : List Hash}

theorem Leaves.notified (h : Leaves id past pending) (hash : Hash) (topics : Topics) (hits : Nat) :
    Leaves id (.notified hash topics hits :: past)
      (pending ++ if reaches id topics past ∧ hash ∉ pending then [hash] else []) := by
  by_cases taken : reaches id topics past = true ∧ hash ∉ pending
  · have fresh : hash ∉ sinceDrain id past := mt (h.waiting hash).1 taken.2
    rw [if_pos taken]
    refine ⟨fun other => ?_, ?_⟩
    · rw [sinceDrain, if_pos taken.1, List.mem_cons, h.waiting, List.mem_append,
        List.mem_singleton, or_comm]
    · rw [heard, if_pos ⟨taken.1, fresh⟩, handedOut, ← List.append_assoc, h.whole]
  · have passed : ¬(reaches id topics past = true ∧ hash ∉ sinceDrain id past) := by
      rw [h.waiting]
      exact taken
    rw [if_neg taken, List.append_nil]
    refine ⟨fun other => ?_, ?_⟩
    · rw [sinceDrain, ← h.waiting]
      split
      · -- The mask fits, so the hash waited already.
        rename_i reached
        have waits : hash ∈ sinceDrain id past := not_not.1 (not_and.1 passed reached)
        rw [List.mem_cons, or_iff_right_of_imp]
        rintro rfl
        exact waits
      · rfl
    · rw [heard, if_neg passed, handedOut, h.whole]

theorem Leaves.drained (h : Leaves id past pending) :
    Leaves id (.drained id (.ok pending) :: past) [] where
  waiting := by simp [sinceDrain]
  whole := by rw [handedOut, if_pos rfl, List.append_nil, heard, h.whole]

theorem Leaves.drained_other {other : Nat} (h : Leaves id past pending) (apart : id ≠ other)
    (answer : Except NoSuchWatch (List Hash)) : Leaves id (.drained other answer :: past) pending where
  waiting := by
    rw [sinceDrain, if_neg apart]
    exact h.waiting
  whole := by
    rw [heard, ← h.whole]
    cases answer with
    | ok hashes => rw [handedOut, if_neg apart]
    | error absent => rw [handedOut]

end WatchEvent

/-- A registry and all that has happened to it, the latest event in front. -/
structure WatchRecord where
  registry : WatchRegistry
  past : List WatchEvent

namespace WatchRecord

open WatchEvent

def fresh : WatchRecord := ⟨.empty, []⟩

def perform (record : WatchRecord) (operation : WatchOperation) : WatchRecord :=
  let (registry, event) := record.registry.perform operation
  ⟨registry, event :: record.past⟩

def run (record : WatchRecord) (operations : List WatchOperation) : WatchRecord :=
  operations.foldl perform record

theorem run_append (record : WatchRecord) (earlier later : List WatchOperation) :
    record.run (earlier ++ later) = (record.run earlier).run later := List.foldl_append

@[simp] theorem run_cons (record : WatchRecord) (operation : WatchOperation)
    (later : List WatchOperation) :
    record.run (operation :: later) = (record.perform operation).run later := rfl

/-! ## One call -/

theorem perform_install (record : WatchRecord) (mask : TopicMask) :
    record.perform (.install mask) = ⟨(record.registry.install mask).1,
      .installed mask record.registry.nextId :: record.past⟩ := rfl

theorem perform_notify (record : WatchRecord) (hash : Hash) (topics : Topics) :
    record.perform (.notify hash topics) = ⟨(record.registry.notify hash topics).1,
      .notified hash topics (record.registry.notify hash topics).2 :: record.past⟩ := rfl

theorem perform_uninstall (record : WatchRecord) (id : Nat) :
    (record.registry.find? id = none ∧ record.perform (.uninstall id) =
        ⟨record.registry, .uninstalled id (.error ⟨id⟩) :: record.past⟩) ∨
      ∃ after, record.registry.uninstall id = .ok after ∧
        record.perform (.uninstall id) = ⟨after, .uninstalled id (.ok ()) :: record.past⟩ := by
  rw [perform, WatchRegistry.perform]
  cases found : record.registry.find? id with
  | none =>
      left
      rw [WatchRegistry.uninstall_eq_error found]
      exact ⟨rfl, rfl⟩
  | some watch =>
      right
      have removed := WatchRegistry.uninstall_eq_ok.2 ⟨Option.isSome_of_eq_some found, rfl⟩
      rw [removed]
      exact ⟨_, rfl, rfl⟩

theorem perform_uninstall_find? (record : WatchRecord) (id other : Nat) :
    (record.perform (.uninstall id)).registry.find? other =
      if other = id then none else record.registry.find? other := by
  rcases record.perform_uninstall id with ⟨absent, same⟩ | ⟨after, removed, same⟩
  · rw [same]
    split
    · rename_i here
      rw [here, absent]
    · rfl
  · rw [same]
    exact WatchRegistry.uninstall_find? removed other

theorem perform_uninstall_nextId (record : WatchRecord) (id : Nat) :
    (record.perform (.uninstall id)).registry.nextId = record.registry.nextId := by
  rcases record.perform_uninstall id with ⟨-, same⟩ | ⟨after, removed, same⟩
  · rw [same]
  · rw [same]
    exact WatchRegistry.uninstall_nextId removed

theorem perform_uninstall_past (record : WatchRecord) (id : Nat) :
    (record.perform (.uninstall id)).past = .uninstalled id
      (if (record.registry.find? id).isSome then .ok () else .error ⟨id⟩) :: record.past := by
  rcases record.perform_uninstall id with ⟨absent, same⟩ | ⟨after, removed, same⟩
  · rw [same, absent]
    rfl
  · rw [same, if_pos (WatchRegistry.uninstall_eq_ok.1 removed).1]

theorem perform_drain (record : WatchRecord) (id : Nat) :
    (record.registry.find? id = none ∧ record.perform (.drain id) =
        ⟨record.registry, .drained id (.error ⟨id⟩) :: record.past⟩) ∨
      ∃ after, record.registry.drain id = .ok (after, record.registry.pendingAt id) ∧
        record.perform (.drain id) =
          ⟨after, .drained id (.ok (record.registry.pendingAt id)) :: record.past⟩ := by
  rw [perform, WatchRegistry.perform]
  cases found : record.registry.find? id with
  | none =>
      left
      rw [WatchRegistry.drain_eq_error found]
      exact ⟨rfl, rfl⟩
  | some watch =>
      right
      have drained := WatchRegistry.drain_eq_ok.2
        ⟨watch, found, WatchRegistry.pendingAt_of_find? found, rfl⟩
      rw [drained]
      exact ⟨_, rfl, rfl⟩

theorem perform_drain_find? (record : WatchRecord) (id other : Nat) :
    (record.perform (.drain id)).registry.find? other = (record.registry.find? other).map
      fun kept => if other = id then kept.takePending.1 else kept := by
  rcases record.perform_drain id with ⟨absent, same⟩ | ⟨after, drained, same⟩
  · rw [same]
    by_cases here : other = id
    · rw [here, absent]
      rfl
    · simp [here]
  · rw [same]
    exact WatchRegistry.drain_find? drained other

theorem perform_drain_nextId (record : WatchRecord) (id : Nat) :
    (record.perform (.drain id)).registry.nextId = record.registry.nextId := by
  rcases record.perform_drain id with ⟨-, same⟩ | ⟨after, drained, same⟩
  · rw [same]
  · rw [same]
    exact WatchRegistry.drain_nextId drained

theorem perform_drain_past (record : WatchRecord) (id : Nat) :
    (record.perform (.drain id)).past = .drained id (if (record.registry.find? id).isSome then
      .ok (record.registry.pendingAt id) else .error ⟨id⟩) :: record.past := by
  rcases record.perform_drain id with ⟨absent, same⟩ | ⟨after, drained, same⟩
  · rw [same, absent]
    rfl
  · obtain ⟨watch, found, -⟩ := WatchRegistry.drain_eq_ok.1 drained
    rw [same, if_pos (Option.isSome_of_eq_some found)]

theorem perform_wellFormed {record : WatchRecord} (h : record.registry.WellFormed)
    (operation : WatchOperation) : (record.perform operation).registry.WellFormed := by
  cases operation with
  | install mask => exact h.install mask
  | uninstall id =>
      rcases record.perform_uninstall id with ⟨-, same⟩ | ⟨after, removed, same⟩
      · rw [same]
        exact h
      · rw [same]
        exact h.uninstall removed
  | notify hash topics => exact h.notify hash topics
  | drain id =>
      rcases record.perform_drain id with ⟨-, same⟩ | ⟨after, drained, same⟩
      · rw [same]
        exact h
      · rw [same]
        exact h.drain drained

end WatchRecord

end Courier

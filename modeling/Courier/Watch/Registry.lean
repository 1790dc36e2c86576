import Courier.Topic.Mask

/-! # Watches

A watch collects the hashes of accepted envelopes that its mask fits until they are taken. A
hash that is waiting already is not added again; once taken it can come again. Numbers of
watches are counted up and never used twice.
-/

namespace Courier

/-- A mask and the hashes that wait to be taken. -/
structure Watch where
  mask : TopicMask
  /-- The waiting hashes, in the order in which they came. -/
  pending : List Hash
  /-- The set of hashes that are taken to be waiting; none occurs twice. -/
  queued : List Hash
  deriving DecidableEq

namespace Watch

/-- A watch for which nothing waits yet. -/
def ofMask (mask : TopicMask) : Watch := ⟨mask, [], []⟩

/-- Let a hash wait, and tell whether it was not waiting before. -/
def push (watch : Watch) (hash : Hash) : Watch × Bool :=
  if hash ∈ watch.queued then (watch, false)
  else
    ({ watch with pending := watch.pending ++ [hash], queued := watch.queued ++ [hash] }, true)

def takePending (watch : Watch) : Watch × List Hash :=
  ({ watch with pending := [], queued := [] }, watch.pending)

/-- Let a hash wait if the mask fits the topics, and tell whether it was not waiting before. -/
def offer (watch : Watch) (hash : Hash) (topics : Topics) : Watch × Bool :=
  if watch.mask.matchesTopics topics then watch.push hash else (watch, false)

end Watch

/-- There is no watch with a number. -/
structure NoSuchWatch where
  id : Nat
  deriving DecidableEq

/-- The text of a watch's number. -/
def watchName (id : Nat) : String := "#" ++ toString id

def NoSuchWatch.message (e : NoSuchWatch) : String := "No such watch: " ++ watchName e.id

/-- The installed watches by their numbers. -/
structure WatchRegistry where
  /-- The watches, in the order in which they were installed. -/
  watches : List (Nat × Watch)
  nextId : Nat
  deriving DecidableEq

namespace WatchRegistry

def empty : WatchRegistry := ⟨[], 0⟩

def size (registry : WatchRegistry) : Nat := registry.watches.length

def find? (registry : WatchRegistry) (id : Nat) : Option Watch := registry.watches.lookup id

/-- Install a watch, and tell its number. -/
def install (registry : WatchRegistry) (mask : TopicMask) : WatchRegistry × Nat :=
  (⟨registry.watches ++ [(registry.nextId, .ofMask mask)], registry.nextId + 1⟩, registry.nextId)

def uninstall (registry : WatchRegistry) (id : Nat) : Except NoSuchWatch WatchRegistry :=
  match registry.find? id with
  | none => .error ⟨id⟩
  | some _ => .ok { registry with watches := registry.watches.filter (·.1 ≠ id) }

/-- Offer a hash to watches, and tell how many let it wait. -/
def offerAll (hash : Hash) (topics : Topics) : List (Nat × Watch) → List (Nat × Watch) × Nat
  | [] => ([], 0)
  | (id, watch) :: rest =>
    let (watch, added) := watch.offer hash topics
    let (rest, hits) := offerAll hash topics rest
    ((id, watch) :: rest, if added then hits + 1 else hits)

/-- Offer an accepted envelope to all watches, and tell how many let it wait. -/
def notify (registry : WatchRegistry) (hash : Hash) (topics : Topics) : WatchRegistry × Nat :=
  let (watches, hits) := offerAll hash topics registry.watches
  ({ registry with watches }, hits)

def drain (registry : WatchRegistry) (id : Nat) :
    Except NoSuchWatch (WatchRegistry × List Hash) :=
  match registry.find? id with
  | none => .error ⟨id⟩
  | some watch =>
    let (emptied, pending) := watch.takePending
    let watches := registry.watches.map fun (other, watch) =>
      (other, if other = id then emptied else watch)
    .ok ({ registry with watches }, pending)

def mask (registry : WatchRegistry) (id : Nat) : Except NoSuchWatch TopicMask :=
  match registry.find? id with
  | none => .error ⟨id⟩
  | some watch => .ok watch.mask

/-- The full topics that open what a watch finds, if its mask has no wildcard. -/
def fullTopics (registry : WatchRegistry) (id : Nat) : Except NoSuchWatch (List FullTopic) :=
  (registry.mask id).map TopicMask.fullTopics

end WatchRegistry

end Courier

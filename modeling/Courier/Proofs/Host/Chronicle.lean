import Mathlib
import Courier.Proofs.Host.Watching

/-! # Chronicles of a host

While a host runs it is written down what its pool accepts, refuses and loses and what becomes of
its watches. The past of a host can then be read for one kind of event. Whatever is done to a host
is done in turns, each of which adds only a few events.
-/

namespace Courier

variable {Secret Public : Type}

/-- What can happen to the pool and the watches of a host. -/
inductive HostEvent where
  | accepted (envelope : Envelope)
  | refused (envelope : Envelope) (reason : Rejection)
  /-- The pool lost an envelope that was expired. -/
  | purged (envelope : Envelope)
  /-- The pool lost an envelope that was not expired. -/
  | evicted (envelope : Envelope)
  | installed (id : Nat) (mask : TopicMask)
  /-- A watch was removed, and with it the hashes that waited there. -/
  | uninstalled (id : Nat) (waiting : List Hash)
  /-- The hashes that waited at a watch were handed out. -/
  | collected (id : Nat) (hashes : List Hash)

namespace Pool

variable {pool after : Pool} {now : UInt64} {envelope : Envelope} {resident : Resident}

/-- The residents of a pool that are not in a later one. -/
def lost (before after : Pool) : List Resident :=
  before.residents.filter (·.hash ∉ after.hashes)

theorem lost_self (pool : Pool) : pool.lost pool = [] :=
  List.filter_eq_nil_iff.2 fun resident held => by
    have there : resident.hash ∈ pool.hashes := List.mem_map_of_mem held
    simp [there]

/-- What a pool has not lost it holds, if the hashes it held are not given anew. -/
theorem mem_or_lost (distinct : pool.hashes.Nodup) (held : resident ∈ pool.residents)
    (old : ∀ other ∈ after.residents, other ∈ pool.residents ∨ other.hash ∉ pool.hashes) :
    resident ∈ after.residents ∨ resident ∈ pool.lost after := by
  by_cases kept : resident.hash ∈ after.hashes
  · obtain ⟨other, there, same⟩ := List.mem_map.1 kept
    rcases old other there with before | new
    · exact .inl (Resident.eq_of_hash_eq distinct before held same ▸ there)
    · exact absurd (List.mem_map_of_mem held) (same ▸ new)
  · exact .inr (List.mem_filter.2 ⟨held, decide_eq_true kept⟩)

theorem WellFormed.lost_length (h : pool.WellFormed)
    (fewer : after.residents.Sublist pool.residents) :
    (pool.lost after).length + after.size = pool.size := by
  have kept : (pool.residents.filter (·.hash ∈ after.hashes)).Perm after.residents := by
    have distinct := List.Nodup.of_map Resident.hash h.distinct
    refine (List.perm_ext_iff_of_nodup (distinct.filter _) (distinct.sublist fewer)).2 ?_
    intro resident
    rw [List.mem_filter, decide_eq_true_iff]
    constructor
    · rintro ⟨held, there⟩
      obtain ⟨other, member, same⟩ := List.mem_map.1 there
      exact Resident.eq_of_hash_eq h.distinct (fewer.subset member) held same ▸ member
    · exact fun member => ⟨fewer.subset member, List.mem_map_of_mem member⟩
  rw [size, size, ← kept.length_eq, lost, ← List.countP_eq_length_filter,
    ← List.countP_eq_length_filter,
    List.length_eq_countP_add_countP fun resident => decide (resident.hash ∈ after.hashes),
    Nat.add_comm]
  congr 1
  exact List.countP_congr fun resident _ => by simp

theorem Admissible.lost_add (admissible : Admissible pool now envelope) (room : Pool) :
    pool.lost (room.add (.ofEnvelope envelope)) = pool.lost room := by
  refine List.filter_congr fun resident held => ?_
  have other : resident.hash ≠ envelope.hash := fun same =>
    admissible.new (same ▸ List.mem_map_of_mem held)
  have hashes : (room.add (.ofEnvelope envelope)).hashes = room.hashes ++ [envelope.hash] :=
    List.map_append
  simp [hashes, other]

theorem WellFormed.insert_lost (h : pool.WellFormed) {hash : Hash}
    (accepted : (pool.insert now envelope).2 = .accepted hash) :
    (pool.lost (pool.insert now envelope).1).length + (pool.insert now envelope).1.size =
      pool.size + 1 := by
  obtain ⟨room, -, admissible, made, after⟩ := exists_room_of_accepted accepted
  have grown : (room.add (.ofEnvelope envelope)).size = room.size + 1 := List.length_append
  rw [after, admissible.lost_add, grown, ← Nat.add_assoc, h.lost_length (made.sublist h)]

theorem WellFormed.lost_remove (h : pool.WellFormed) (held : resident ∈ pool.residents) :
    pool.lost (pool.remove resident.hash) = [resident] := by
  refine List.perm_singleton.1 (((Association.perm_cons_filter h.distinct held).filter _).trans ?_)
  rw [hashes, remove_residents, List.filter_cons_of_pos, List.filter_eq_nil_iff.2]
  · intro other kept
    simp only [decide_eq_true_eq, not_not]
    exact List.mem_map_of_mem kept
  · simp

end Pool

namespace HostEvent

variable {α : Type} {tell : HostEvent → List α} {now : UInt64} {id : Nat} {envelope : Envelope}
  {event : HostEvent} {past : List HostEvent}

/-! ## Writing -/

/-- How it is written down that the pool lost a resident. -/
def loss (now : UInt64) (resident : Resident) : HostEvent :=
  if resident.envelope.isExpired now then .purged resident.envelope
  else .evicted resident.envelope

def losses (now : UInt64) (before after : Pool) : List HostEvent :=
  (before.lost after).map (loss now)

def answer (envelope : Envelope) : Outcome → HostEvent
  | .accepted _ => .accepted envelope
  | .rejected reason => .refused envelope reason

/-- What a move brings about, the latest in front. -/
def ofMove (now : UInt64) (host : Host) : Move → List HostEvent
  | .offer envelope source =>
    let (after, outcome) := host.inject now envelope source
    answer envelope outcome :: losses now host.pool after.pool
  | .sweep => losses now host.pool (host.housekeeping now).1.pool
  | .attach _ | .detach _ | .announce _ | .fill _ | .hear _ _ | .note _ _ | .flush _
  | .rewatch _ => []

/-- What a call on a watch brings about. -/
def ofOperation (host : Host) : HostOperation Secret Public → List HostEvent
  | .installWatch mask => [.installed (host.installWatch mask).2 mask]
  | .uninstallWatch id =>
    match host.uninstallWatch id with
    | .ok _ => [.uninstalled id (host.watches.pendingAt id)]
    | .error _ => []
  | .checkWatch id =>
    match host.checkWatch id with
    | .ok (_, hashes) => [.collected id hashes]
    | .error _ => []
  | .connect _ | .disconnect _ | .receive _ _ | .post _ _ | .inject _ _ | .noteAccepted _ _
  | .flush _ | .flushAll | .housekeeping => []

/-! ## Reading -/

/-- What a past tells of some events, in the order in which they happened. -/
def told (tell : HostEvent → List α) (past : List HostEvent) : List α :=
  past.reverse.flatMap tell

@[simp] theorem told_nil : told tell [] = [] := rfl

@[simp] theorem told_cons (tell : HostEvent → List α) (event : HostEvent)
    (past : List HostEvent) : told tell (event :: past) = told tell past ++ tell event := by
  simp [told]

@[simp] theorem told_append (tell : HostEvent → List α) (events past : List HostEvent) :
    told tell (events ++ past) = told tell past ++ told tell events := by
  simp [told]

def acceptance : HostEvent → List Envelope
  | .accepted envelope => [envelope]
  | .refused _ _ | .purged _ | .evicted _ | .installed _ _ | .uninstalled _ _ | .collected _ _ => []

def refusal : HostEvent → List Refusal
  | .refused _ reason => [reason.toRefusal]
  | .accepted _ | .purged _ | .evicted _ | .installed _ _ | .uninstalled _ _ | .collected _ _ => []

def purge : HostEvent → List Envelope
  | .purged envelope => [envelope]
  | .accepted _ | .refused _ _ | .evicted _ | .installed _ _ | .uninstalled _ _
  | .collected _ _ => []

def eviction : HostEvent → List Envelope
  | .evicted envelope => [envelope]
  | .accepted _ | .refused _ _ | .purged _ | .installed _ _ | .uninstalled _ _
  | .collected _ _ => []

/-- What was handed out to whom. -/
def collection : HostEvent → List (Nat × Hash)
  | .collected id hashes => hashes.map (id, ·)
  | .accepted _ | .refused _ _ | .purged _ | .evicted _ | .installed _ _ | .uninstalled _ _ => []

/-- What was handed out to one watch. -/
def collectionOf (id : Nat) : HostEvent → List Hash
  | .collected other hashes => if other = id then hashes else []
  | .accepted _ | .refused _ _ | .purged _ | .evicted _ | .installed _ _ | .uninstalled _ _ => []

/-- What waited when its watch was removed. -/
def abandonment : HostEvent → List Hash
  | .uninstalled _ waiting => waiting
  | .accepted _ | .refused _ _ | .purged _ | .evicted _ | .installed _ _ | .collected _ _ => []

/-! ## One move -/

theorem losses_self (now : UInt64) (pool : Pool) : losses now pool pool = [] := by
  rw [losses, Pool.lost_self, List.map_nil]

theorem ofMove_offer (now : UInt64) (host : Host) (envelope : Envelope) (source : Option PeerId) :
    ofMove now host (.offer envelope source) =
      answer envelope (host.pool.insert now envelope).2 ::
        losses now host.pool (host.pool.insert now envelope).1 := by
  show answer envelope (host.inject now envelope source).2 ::
    losses now host.pool (host.inject now envelope source).1.pool = _
  rw [Host.inject_outcome, Host.inject_pool]

/-- Losses are told of by nothing but evictions and purges. -/
theorem told_losses (purged : ∀ envelope, tell (.purged envelope) = [])
    (evicted : ∀ envelope, tell (.evicted envelope) = []) (now : UInt64) (before after : Pool) :
    told tell (losses now before after) = [] := by
  refine List.flatMap_eq_nil_iff.2 fun event member => ?_
  obtain ⟨resident, -, rfl⟩ := List.mem_map.1 (List.mem_reverse.1 member)
  rw [loss]
  split
  · exact purged _
  · exact evicted _

@[simp] theorem acceptance_losses (now : UInt64) (before after : Pool) :
    told acceptance (losses now before after) = [] :=
  told_losses (fun _ => rfl) (fun _ => rfl) now before after

@[simp] theorem refusal_losses (now : UInt64) (before after : Pool) :
    told refusal (losses now before after) = [] :=
  told_losses (fun _ => rfl) (fun _ => rfl) now before after

@[simp] theorem collection_losses (now : UInt64) (before after : Pool) :
    told collection (losses now before after) = [] :=
  told_losses (fun _ => rfl) (fun _ => rfl) now before after

@[simp] theorem abandonment_losses (now : UInt64) (before after : Pool) :
    told abandonment (losses now before after) = [] :=
  told_losses (fun _ => rfl) (fun _ => rfl) now before after

theorem told_losses_length (now : UInt64) (before after : Pool) :
    (told eviction (losses now before after)).length +
      (told purge (losses now before after)).length = (before.lost after).length := by
  rw [losses]
  induction before.lost after with
  | nil => rfl
  | cons resident rest ih =>
      rw [List.map_cons, told_cons, told_cons, List.length_append, List.length_append,
        List.length_cons, ← ih, loss]
      split
      · simp only [eviction, purge, List.length_nil, List.length_singleton]
        omega
      · simp only [eviction, purge, List.length_nil, List.length_singleton]
        omega

theorem losses_sweep {pool : Pool} (h : pool.WellFormed) (now : UInt64) :
    losses now pool (pool.purgeExpired now).1 =
      (pool.residents.filter (·.envelope.isExpired now)).map fun resident =>
        .purged resident.envelope := by
  have gone : pool.lost (pool.purgeExpired now).1 =
      pool.residents.filter (·.envelope.isExpired now) := by
    refine List.filter_congr fun resident held => ?_
    rw [Bool.eq_iff_iff, decide_eq_true_iff, Pool.hashes, h.purgeExpired_residents]
    constructor
    · intro missing
      by_contra live
      exact missing (List.mem_map_of_mem (List.mem_filter.2 ⟨held, by simpa using live⟩))
    · intro expired there
      obtain ⟨other, member, same⟩ := List.mem_map.1 there
      obtain ⟨old, live⟩ := List.mem_filter.1 member
      cases Resident.eq_of_hash_eq h.distinct old held same
      simp [expired] at live
  rw [losses, gone]
  refine List.map_congr_left fun resident member => ?_
  rw [loss, if_pos (List.mem_filter.1 member).2]

/-- What makes room for an envelope: nothing has to, or all that is expired is purged, or the
weakest of a full pool is evicted. -/
theorem losses_insert {pool : Pool} (h : pool.WellFormed) {hash : Hash}
    (accepted : (pool.insert now envelope).2 = .accepted hash) :
    losses now pool (pool.insert now envelope).1 = [] ∨
    losses now pool (pool.insert now envelope).1 =
      (pool.residents.filter (·.envelope.isExpired now)).map (fun resident =>
        .purged resident.envelope) ∨
    pool.size = pool.policy.maxMessages ∧
      ∃ victim, pool.rule.pick pool.residents = some victim ∧ victim.score < envelope.score ∧
        losses now pool (pool.insert now envelope).1 = [.evicted victim.envelope] := by
  obtain ⟨room, -, admissible, made, after⟩ := Pool.exists_room_of_accepted accepted
  rw [after, losses, admissible.lost_add]
  cases made with
  | already => exact .inl (losses_self now pool)
  | swept => exact .inr (.inl (losses_sweep h now))
  | evicted full victim picked stronger =>
      -- the sweep took nothing out, so the victim is not expired
      have held := (pool.purgeExpired now).1.rule.pick_mem picked
      rw [h.purgeExpired_residents, List.mem_filter, Bool.not_eq_true'] at held
      have unswept := h.purgeExpired_of_full full
      rw [unswept] at full picked ⊢
      refine .inr (.inr ⟨Nat.le_antisymm h.capacity (Nat.not_lt.1 full), victim, picked, stronger,
        ?_⟩)
      rw [h.lost_remove held.1, List.map_singleton, loss, if_neg (by simp [held.2])]

end HostEvent

/-- A host and what has happened there, the latest event in front. -/
structure HostRecord where
  host : Host
  past : List HostEvent

namespace HostRecord

variable {suite : Suite Secret Public} {network : Network} {now : UInt64}
  {record after : HostRecord}

/-- A host at which nothing has happened yet. -/
def fresh (settings : HostSettings) (policy : PoolPolicy) (rule : EvictionRule) : HostRecord :=
  ⟨Host.fresh settings policy rule, []⟩

/-- Make one move and write down what it brings about. -/
def move (network : Network) (now : UInt64) (record : HostRecord) (m : Move) : HostRecord :=
  ⟨record.host.move network now m, HostEvent.ofMove now record.host m ++ record.past⟩

/-- Make moves one after another, each with what the clock shows then. -/
def moveAll (network : Network) (clock : Move → UInt64) (record : HostRecord) (moves : List Move) :
    HostRecord :=
  moves.foldl (fun record m => record.move network (clock m) m) record

/-- Do one operation and write down what it brings about. -/
def perform (suite : Suite Secret Public) (network : Network) (now : UInt64) (record : HostRecord)
    (operation : HostOperation Secret Public) : HostRecord :=
  let moved :=
    record.moveAll network (operation.clock now) (record.host.movesOf suite now operation)
  ⟨moved.host, HostEvent.ofOperation record.host operation ++ moved.past⟩

def run (suite : Suite Secret Public) (network : Network) (record : HostRecord)
    (operations : List (UInt64 × HostOperation Secret Public)) : HostRecord :=
  operations.foldl (fun record (now, operation) => record.perform suite network now operation)
    record

theorem moveAll_host (network : Network) (clock : Move → UInt64) (record : HostRecord)
    (moves : List Move) :
    (record.moveAll network clock moves).host = record.host.moveAll network clock moves := by
  induction moves generalizing record with
  | nil => rfl
  | cons m rest ih => exact ih _

theorem perform_host (suite : Suite Secret Public) (network : Network) (now : UInt64)
    (record : HostRecord) (operation : HostOperation Secret Public) :
    (record.perform suite network now operation).host =
      record.host.perform suite network now operation := by
  rw [perform, moveAll_host, Host.perform_eq]

theorem run_host (suite : Suite Secret Public) (network : Network) (record : HostRecord)
    (operations : List (UInt64 × HostOperation Secret Public)) :
    (record.run suite network operations).host = record.host.run suite network operations := by
  induction operations generalizing record with
  | nil => rfl
  | cons first rest ih =>
      refine (ih _).trans ?_
      rw [perform_host]
      rfl

/-- What is done in one go: a move that leaves the watches to the pool, or a call on a watch. -/
inductive Turn (network : Network) (now : UInt64) (record : HostRecord) : HostRecord → Prop where
  | move (m : Move) (plain : ∀ watches, m ≠ .rewatch watches) :
      Turn network now record (record.move network now m)
  | install (mask : TopicMask) :
      Turn network now record
        ⟨{ record.host with watches := (record.host.watches.install mask).1 },
          .installed record.host.watches.nextId mask :: record.past⟩
  | uninstall (id : Nat) (watches : WatchRegistry)
      (removed : record.host.watches.uninstall id = .ok watches) :
      Turn network now record
        ⟨{ record.host with watches },
          .uninstalled id (record.host.watches.pendingAt id) :: record.past⟩
  | collect (id : Nat) (watches : WatchRegistry)
      (drained : record.host.watches.drain id = .ok (watches, record.host.watches.pendingAt id)) :
      Turn network now record
        ⟨{ record.host with watches },
          .collected id (record.host.watches.pendingAt id) :: record.past⟩

/-- What becomes of a record in turns, each of them at its second. -/
inductive Course (network : Network) : HostRecord → List UInt64 → HostRecord → Prop where
  | rest (record : HostRecord) : Course network record [] record
  | turn {now : UInt64} {times : List UInt64} {record middle after : HostRecord}
      (first : Turn network now record middle) (course : Course network middle times after) :
      Course network record (now :: times) after

theorem Course.single (turn : Turn network now record after) :
    Course network record [now] after :=
  .turn turn (.rest after)

theorem Course.trans {middle : HostRecord} {times later : List UInt64}
    (first : Course network record times middle) (second : Course network middle later after) :
    Course network record (times ++ later) after := by
  induction first with
  | rest => exact second
  | turn turn _ ih => exact .turn turn (ih second)

theorem moveAll_course (network : Network) (clock : Move → UInt64) (record : HostRecord)
    {moves : List Move} (plain : ∀ m ∈ moves, ∀ watches, m ≠ .rewatch watches) :
    Course network record (moves.map clock) (record.moveAll network clock moves) := by
  induction moves generalizing record with
  | nil => exact .rest record
  | cons m rest ih =>
      exact .turn (.move m (plain m List.mem_cons_self))
        (ih _ fun m member => plain m (List.mem_cons_of_mem _ member))

theorem perform_course (suite : Suite Secret Public) (network : Network) (now : UInt64)
    (record : HostRecord) (operation : HostOperation Secret Public) :
    Course network record ((record.host.movesOf suite now operation).map (operation.clock now))
      (record.perform suite network now operation) := by
  have plain := fun m (member : m ∈ record.host.movesOf suite now operation) =>
    Host.mem_movesOf member
  cases operation with
  | connect | disconnect | receive | post | inject | noteAccepted | flush | flushAll |
    housekeeping =>
      refine moveAll_course network _ record fun m member watches same => ?_
      have possible := plain m member
      simp [same] at possible
  | installWatch mask => exact .single (.install mask)
  | uninstallWatch id =>
      rw [perform, Host.movesOf, HostEvent.ofOperation, Host.uninstallWatch]
      cases removed : record.host.watches.uninstall id with
      | error absent => exact .rest record
      | ok watches => exact .single (.uninstall id watches removed)
  | checkWatch id =>
      rw [perform, Host.movesOf, HostEvent.ofOperation, Host.checkWatch]
      cases drained : record.host.watches.drain id with
      | error absent => exact .rest record
      | ok answer =>
          obtain ⟨watches, hashes⟩ := answer
          obtain ⟨watch, found, rfl, -⟩ := WatchRegistry.drain_eq_ok.1 drained
          rw [← WatchRegistry.pendingAt_of_find? found] at drained ⊢
          exact .single (.collect id watches drained)

/-- A run is a course of turns, which are in order if the clock does not go back. -/
theorem run_course (suite : Suite Secret Public) (network : Network) (record : HostRecord)
    (operations : List (UInt64 × HostOperation Secret Public)) :
    ∃ times, Course network record times (record.run suite network operations) ∧
      (∀ time ∈ times, time ∈ Host.readings operations) ∧
      ((Host.readings operations).Pairwise (· ≤ ·) → times.Pairwise (· ≤ ·)) := by
  induction operations generalizing record with
  | nil => exact ⟨[], .rest record, fun _ => id, fun _ => .nil⟩
  | cons first rest ih =>
      obtain ⟨now, operation⟩ := first
      obtain ⟨times, course, read, sorted⟩ := ih (record.perform suite network now operation)
      refine ⟨_, (perform_course suite network now record operation).trans course, ?_, ?_⟩
      · intro time member
        rcases List.mem_append.1 member with here | there
        · obtain ⟨m, -, rfl⟩ := List.mem_map.1 here
          exact List.mem_append_left _ (HostOperation.clock_mem operation now m)
        · exact List.mem_append_right _ (read time there)
      · intro orderly
        obtain ⟨here, there, across⟩ := List.pairwise_append.1 orderly
        refine List.pairwise_append.2 ⟨?_, sorted there, fun time member later after => ?_⟩
        · have inOrder := Host.movesOf_inOrder here suite record.host
          exact (List.pairwise_append.1 (List.pairwise_cons.1 inOrder).2).1
        · obtain ⟨m, -, rfl⟩ := List.mem_map.1 member
          exact across _ (HostOperation.clock_mem operation now m) later (read later after)

end HostRecord

end Courier

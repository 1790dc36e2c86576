import Mathlib
import Courier.Pool.Matching
import Courier.Proofs.Pool.Abundance
import Courier.Proofs.Pool.Run

/-! # Sweeps cannot be observed

A sweep takes out what is expired, and no answer of a pool depends on that. An offer to a pool is
answered as the same offer to the swept pool is, and leaves the same live envelopes; a search by
topics finds the same. So two pools that are the same once swept stay so, however often either is
swept between the offers.
-/

namespace Courier

namespace PoolOperation

/-- The envelope that an operation offers; a sweep offers none. -/
def offer? : PoolOperation → Option Envelope
  | .insert envelope => some envelope
  | .purge => none

end PoolOperation

namespace Pool

variable {pool a b : Pool} {now : UInt64} {envelope : Envelope} {stock : List Envelope}

/-- The residents that are not expired, in the order in which they came. -/
def live (pool : Pool) (now : UInt64) : List Resident :=
  pool.residents.filter fun resident => !resident.envelope.isExpired now

theorem add_live (pool : Pool) (resident : Resident) (now : UInt64) :
    (pool.add resident).live now =
      pool.live now ++ [resident].filter fun resident => !resident.envelope.isExpired now :=
  List.filter_append _ _

section Sweep

theorem WellFormed.purgeExpired_live {later : UInt64} (h : pool.WellFormed) (le : now ≤ later) :
    (pool.purgeExpired now).1.live later = pool.live later := by
  rw [live, h.purgeExpired_residents, List.filter_filter, live]
  apply List.filter_congr
  intro resident _
  cases expired : resident.envelope.isExpired now with
  | false => simp
  | true => simp [Envelope.isExpired_mono le expired]

theorem WellFormed.purgeExpired_purgeExpired {later : UInt64} (h : pool.WellFormed)
    (le : now ≤ later) :
    ((pool.purgeExpired now).1.purgeExpired later).1 = (pool.purgeExpired later).1 := by
  have swept := h.purgeExpired now
  apply (swept.purgeExpired later).eq_of_residents (h.purgeExpired later) (by simp) (by simp)
  rw [swept.purgeExpired_residents, h.purgeExpired_residents later]
  exact h.purgeExpired_live le

/-- Pools under one policy and rule are the same once swept if the same envelopes live in them. -/
theorem WellFormed.purgeExpired_eq (h : a.WellFormed) (h' : b.WellFormed)
    (policy : a.policy = b.policy) (rule : a.rule = b.rule) (same : a.live now = b.live now) :
    (a.purgeExpired now).1 = (b.purgeExpired now).1 := by
  apply (h.purgeExpired now).eq_of_residents (h'.purgeExpired now)
  · simpa using policy
  · simpa using rule
  · rw [h.purgeExpired_residents, h'.purgeExpired_residents]
    exact same

theorem WellFormed.purgeExpired_size_le (h : pool.WellFormed) (now : UInt64) :
    (pool.purgeExpired now).1.size ≤ pool.size := by
  rw [size, size, h.purgeExpired_residents]
  exact List.length_filter_le _ _

end Sweep

section Offer

theorem WellFormed.makeRoom?_purgeExpired (h : pool.WellFormed) (now : UInt64) (score : Float) :
    pool.makeRoom? now score = (pool.purgeExpired now).1.makeRoom? now score ∨
      pool.makeRoom? now score = (pool, true) ∧
        (pool.purgeExpired now).1.makeRoom? now score = ((pool.purgeExpired now).1, true) := by
  have again := h.purgeExpired_purgeExpired (UInt64.le_refl now)
  have fewer := h.purgeExpired_size_le now
  by_cases roomy : pool.size < pool.policy.maxMessages
  · right
    have sweptRoomy : (pool.purgeExpired now).1.size < pool.policy.maxMessages :=
      fewer.trans_lt roomy
    exact ⟨if_pos roomy, by rw [makeRoom?, purgeExpired_policy, if_pos sweptRoomy]⟩
  · left
    rw [makeRoom?, if_neg roomy, makeRoom?, again, purgeExpired_policy]
    by_cases sweptRoomy : (pool.purgeExpired now).1.size < pool.policy.maxMessages
    · simp only [if_pos sweptRoomy]
    · simp only [if_neg sweptRoomy]

/-- An envelope that lives is held exactly if the swept pool holds it, provided that the pool holds
no other one under its hash. -/
theorem WellFormed.contains_purgeExpired (h : pool.WellFormed)
    (alone : ∀ held ∈ pool.envelopes, held.hash = envelope.hash → held = envelope)
    (live : envelope.isExpired now = false) :
    (pool.purgeExpired now).1.contains envelope.hash = pool.contains envelope.hash := by
  rw [Bool.eq_iff_iff, contains_iff, contains_iff, hashes, h.purgeExpired_residents, hashes]
  constructor
  · exact fun member => (List.filter_sublist.map _).subset member
  · intro member
    obtain ⟨resident, held, same⟩ := List.mem_map.1 member
    have known := alone _ (List.mem_map_of_mem held) ((h.hash_eq held).symm.trans same)
    exact List.mem_map.2 ⟨resident, List.mem_filter.2 ⟨held, by simp [known, live]⟩, same⟩

/-- An offer is answered as it is by the swept pool, and leaves the same live envelopes. -/
theorem WellFormed.insert_purgeExpired (h : pool.WellFormed) (now : UInt64)
    (alone : ∀ held ∈ pool.envelopes, held.hash = envelope.hash → held = envelope) :
    ((pool.purgeExpired now).1.insert now envelope).2 = (pool.insert now envelope).2 ∧
      ((pool.purgeExpired now).1.insert now envelope).1.live now =
        (pool.insert now envelope).1.live now := by
  have unswept := h.purgeExpired_live (UInt64.le_refl now)
  -- the checks before the capacity come out alike, for none looks at an expired resident
  by_cases expired : envelope.isExpired now = true
  · simp only [Pool.insert, expired, if_true, unswept, and_self]
  · have lives : envelope.isExpired now = false := by simpa using expired
    have contains := h.contains_purgeExpired alone lives
    by_cases early : saturatingAdd now pool.policy.maxSkew < envelope.sent
    · simp only [Pool.insert, purgeExpired_policy, expired, early, if_true, Bool.false_eq_true,
        if_false, unswept, and_self]
    · by_cases held : pool.contains envelope.hash = true
      · simp only [Pool.insert, purgeExpired_policy, contains, expired, early, held, if_true,
          Bool.false_eq_true, if_false, unswept, and_self]
      · by_cases weak : envelope.score < pool.policy.minScore
        · simp only [Pool.insert, purgeExpired_policy, contains, expired, early, held, weak,
            if_true, Bool.false_eq_true, if_false, unswept, and_self]
        · simp only [Pool.insert, purgeExpired_policy, contains, expired, early, held, weak,
            Bool.false_eq_true, if_false]
          rcases h.makeRoom?_purgeExpired now envelope.score with same | ⟨roomy, sweptRoomy⟩
          · rw [same]
            exact ⟨rfl, rfl⟩
          · rw [roomy, sweptRoomy]
            exact ⟨rfl, by rw [add_live, add_live, unswept]⟩

end Offer

section Search

theorem WellFormed.find?_key (h : pool.WellFormed) {key : ExpiryKey} {resident : Resident}
    (listed : key ∈ pool.byExpiry) (found : pool.find? key.hash = some resident) :
    resident.key = key := by
  obtain ⟨other, held, rfl⟩ := List.mem_map.1 (h.index.subset listed)
  obtain ⟨inPool, same⟩ := mem_of_find? found
  rw [Resident.eq_of_hash_eq h.distinct inPool held same]

theorem WellFormed.mem_matching (h : pool.WellFormed) {mask : TopicMask} {resident : Resident} :
    resident ∈ pool.matching now mask ↔
      resident ∈ pool.live now ∧ mask.matchesTopics resident.envelope.topics = true := by
  simp only [matching, live, List.mem_filter, List.mem_filterMap, Bool.and_eq_true, and_assoc]
  apply and_congr_left'
  constructor
  · rintro ⟨key, -, found⟩
    exact (mem_of_find? found).1
  · intro held
    exact ⟨resident.key, h.index.mem_iff.2 (List.mem_map_of_mem held), h.find?_of_mem held⟩

theorem WellFormed.matching_sorted (h : pool.WellFormed) (now : UInt64) (mask : TopicMask) :
    (pool.matching now mask).Pairwise fun first second =>
      first.key.before second.key = true := by
  apply List.Pairwise.filter
  rw [List.pairwise_filterMap]
  apply h.sorted.imp_of_mem
  intro key other listed otherListed before first found second otherFound
  rwa [h.find?_key listed found, h.find?_key otherListed otherFound]

/-- What a search finds, and in which order, depends on the live residents only. -/
theorem WellFormed.matching_eq (h : a.WellFormed) (h' : b.WellFormed)
    (same : a.live now = b.live now) (mask : TopicMask) :
    a.matching now mask = b.matching now mask := by
  have sorted := h.matching_sorted now mask
  have sorted' := h'.matching_sorted now mask
  have irrefl : ∀ first second : Resident, first.key.before second.key = true → first ≠ second := by
    rintro first second before rfl
    exact ExpiryKey.not_before_self _ before
  have perm : (a.matching now mask).Perm (b.matching now mask) := by
    rw [List.perm_ext_iff_of_nodup (sorted.imp (irrefl _ _)) (sorted'.imp (irrefl _ _))]
    intro resident
    rw [h.mem_matching, h'.mem_matching, same]
  exact perm.eq_of_pairwise
    (fun _ _ _ _ before after => absurd after (ExpiryKey.before_asymm before)) sorted sorted'

end Search

section Run

/-- A well-formed pool that holds only envelopes of a stock. -/
structure Drawn (stock : List Envelope) (pool : Pool) : Prop where
  wellFormed : pool.WellFormed
  within : ∀ envelope ∈ pool.envelopes, envelope ∈ stock

theorem Drawn.insert (h : Drawn stock pool) (inStock : envelope ∈ stock) (now : UInt64) :
    Drawn stock (pool.insert now envelope).1 where
  wellFormed := h.wellFormed.insert now envelope
  within := by
    intro other held
    obtain ⟨resident, inPool, rfl⟩ := List.mem_map.1 held
    rcases mem_insert_residents h.wellFormed inPool with old | ⟨rfl, -⟩
    · exact h.within _ (List.mem_map_of_mem old)
    · exact inStock

theorem Drawn.purgeExpired (h : Drawn stock pool) (now : UInt64) :
    Drawn stock (pool.purgeExpired now).1 where
  wellFormed := h.wellFormed.purgeExpired now
  within := by
    intro other held
    rw [envelopes, h.wellFormed.purgeExpired_residents] at held
    exact h.within other ((List.filter_sublist.map _).subset held)

/-- Two pools that are the same once they are swept. -/
structure Alike (stock : List Envelope) (now : UInt64) (a b : Pool) : Prop where
  left : Drawn stock a
  right : Drawn stock b
  swept : (a.purgeExpired now).1 = (b.purgeExpired now).1

namespace Alike

theorem later {later : UInt64} (h : Alike stock now a b) (le : now ≤ later) :
    Alike stock later a b where
  left := h.left
  right := h.right
  swept := by
    rw [← h.left.wellFormed.purgeExpired_purgeExpired le, h.swept,
      h.right.wellFormed.purgeExpired_purgeExpired le]

theorem live_eq (h : Alike stock now a b) : a.live now = b.live now := by
  rw [← h.left.wellFormed.purgeExpired_live (UInt64.le_refl now), h.swept,
    h.right.wellFormed.purgeExpired_live (UInt64.le_refl now)]

theorem purgeExpired (h : Alike stock now a b) : Alike stock now (a.purgeExpired now).1 b where
  left := h.left.purgeExpired now
  right := h.right
  swept := (h.left.wellFormed.purgeExpired_purgeExpired (UInt64.le_refl now)).trans h.swept

theorem insert (distinct : ∀ e ∈ stock, ∀ e' ∈ stock, e.hash = e'.hash → e = e')
    (h : Alike stock now a b) (inStock : envelope ∈ stock) :
    (a.insert now envelope).2 = (b.insert now envelope).2 ∧
      Alike stock now (a.insert now envelope).1 (b.insert now envelope).1 := by
  have alone : ∀ {pool : Pool}, Drawn stock pool →
      ∀ held ∈ pool.envelopes, held.hash = envelope.hash → held = envelope :=
    fun drawn held member => distinct held (drawn.within held member) envelope inStock
  obtain ⟨leftOutcome, leftLive⟩ := h.left.wellFormed.insert_purgeExpired now (alone h.left)
  obtain ⟨rightOutcome, rightLive⟩ := h.right.wellFormed.insert_purgeExpired now (alone h.right)
  have policy : a.policy = b.policy := by simpa using congrArg Pool.policy h.swept
  have rule : a.rule = b.rule := by simpa using congrArg Pool.rule h.swept
  refine ⟨?_, h.left.insert inStock now, h.right.insert inStock now, ?_⟩
  · rw [← leftOutcome, h.swept, rightOutcome]
  · apply (h.left.wellFormed.insert now envelope).purgeExpired_eq
      (h.right.wellFormed.insert now envelope) (by simpa using policy) (by simpa using rule)
    rw [← leftLive, h.swept, rightLive]

end Alike

/-- What is answered to the offers of a run, in order. -/
def outcomes (pool : Pool) : List (UInt64 × PoolOperation) → List Outcome
  | [] => []
  | (now, .insert envelope) :: rest =>
    (pool.insert now envelope).2 :: outcomes (pool.insert now envelope).1 rest
  | (now, .purge) :: rest => outcomes (pool.purgeExpired now).1 rest

/-- The offers of a run alone. -/
def withoutSweeps (operations : List (UInt64 × PoolOperation)) : List (UInt64 × PoolOperation) :=
  operations.filter fun step => step.2.offer?.isSome

/-- The envelopes that are offered in a run. -/
def offered (operations : List (UInt64 × PoolOperation)) : List Envelope :=
  operations.filterMap fun step => step.2.offer?

theorem Alike.run (distinct : ∀ e ∈ stock, ∀ e' ∈ stock, e.hash = e'.hash → e = e')
    {operations : List (UInt64 × PoolOperation)}
    (ordered : (now :: operations.map (·.1)).Pairwise (· ≤ ·))
    (inStock : ∀ envelope ∈ offered operations, envelope ∈ stock) (h : Alike stock now a b) :
    a.outcomes operations = b.outcomes (withoutSweeps operations) ∧
      ∀ later, now ≤ later → (∀ step ∈ operations, step.1 ≤ later) →
        Alike stock later (a.run operations) (b.run (withoutSweeps operations)) := by
  induction operations generalizing a b now with
  | nil => exact ⟨rfl, fun later le _ => h.later le⟩
  | cons step rest ih =>
      obtain ⟨time, operation⟩ := step
      rw [List.map_cons, List.pairwise_cons] at ordered
      obtain ⟨least, orderedRest⟩ := ordered
      have reached := h.later (least time List.mem_cons_self)
      cases operation with
      | insert envelope =>
          have member : envelope ∈ stock :=
            inStock envelope (by simp [offered, PoolOperation.offer?])
          have rest : ∀ other ∈ offered rest, other ∈ stock := by
            intro other later
            exact inStock other (List.mem_cons_of_mem _ later)
          obtain ⟨answer, alike⟩ := reached.insert distinct member
          obtain ⟨answers, ends⟩ := ih orderedRest rest alike
          refine ⟨congrArg₂ List.cons answer answers, ?_⟩
          intro later _ before
          exact ends later (before _ List.mem_cons_self)
            fun step member => before step (List.mem_cons_of_mem _ member)
      | purge =>
          obtain ⟨answers, ends⟩ := ih orderedRest inStock reached.purgeExpired
          refine ⟨answers, ?_⟩
          intro later _ before
          exact ends later (before _ List.mem_cons_self)
            fun step member => before step (List.mem_cons_of_mem _ member)

/-- Two pools under one policy are offered the same envelopes by a clock that never goes back, and
one of them is swept at arbitrary moments as well. Then every offer gets the same answer from both,
and after every step the same envelopes live in both. -/
theorem run_unobservable (policy : PoolPolicy) (rule : EvictionRule)
    (operations : List (UInt64 × PoolOperation))
    (ordered : (operations.map (·.1)).Pairwise (· ≤ ·))
    (distinct : ∀ e ∈ offered operations, ∀ e' ∈ offered operations, e.hash = e'.hash → e = e') :
    let start : Pool := { Pool.empty policy with rule }
    start.outcomes operations = start.outcomes (withoutSweeps operations) ∧
    ∀ done, done <+: operations → ∀ now, (∀ step ∈ done, step.1 ≤ now) →
      (start.run done).live now = (start.run (withoutSweeps done)).live now ∧
      ∀ mask, (start.run done).matching now mask =
        (start.run (withoutSweeps done)).matching now mask := by
  intro start
  have drawn : Drawn (offered operations) start :=
    ⟨.empty policy rule, by simp [start, envelopes, Pool.empty]⟩
  have alike : Alike (offered operations) 0 start start := ⟨drawn, drawn, rfl⟩
  have fromStart : ∀ steps : List (UInt64 × PoolOperation), steps.Sublist operations →
      (0 :: steps.map (·.1)).Pairwise (· ≤ ·) := by
    intro steps sub
    apply List.pairwise_cons.2 ⟨fun time _ => UInt64.zero_le, ordered.sublist (sub.map _)⟩
  constructor
  · exact (alike.run distinct (fromStart operations (.refl _)) fun _ member => member).1
  · intro done front now past
    have inStock : ∀ envelope ∈ offered done, envelope ∈ offered operations :=
      fun _ member => (front.sublist.filterMap _).subset member
    have reached := (alike.run distinct (fromStart done front.sublist) inStock).2 now
      UInt64.zero_le past
    exact ⟨reached.live_eq,
      reached.left.wellFormed.matching_eq reached.right.wellFormed reached.live_eq⟩

/-- A pool with room for one envelope is swept between two offers; the second comes again. -/
def tidyRun : List (UInt64 × PoolOperation) :=
  [(100, .insert ⟨110, 10, .empty, [1], 0⟩), (112, .purge),
    (115, .insert ⟨125, 10, .empty, [2], 0⟩), (116, .insert ⟨125, 10, .empty, [2], 0⟩)]

theorem run_unobservable_tidy :
    let start : Pool := { Pool.empty ⟨1, 0, 30⟩ with rule := .leastHash }
    (tidyRun.map (·.1)).Pairwise (· ≤ ·) ∧
    (∀ e ∈ offered tidyRun, ∀ e' ∈ offered tidyRun, e.hash = e'.hash → e = e') ∧
    start.outcomes tidyRun = start.outcomes (withoutSweeps tidyRun) ∧
    ⟨125, 10, .empty, [2], 0⟩ ∈
      ((start.run (withoutSweeps tidyRun)).live 120).map (·.envelope) := by
  have ordered : (tidyRun.map (·.1)).Pairwise (· ≤ ·) := by decide +kernel
  have distinct : ∀ e ∈ offered tidyRun, ∀ e' ∈ offered tidyRun, e.hash = e'.hash → e = e' := by
    decide +kernel
  obtain ⟨answers, lives⟩ := run_unobservable ⟨1, 0, 30⟩ .leastHash tidyRun ordered distinct
  have held : ⟨125, 10, .empty, [2], 0⟩ ∈
      ((run { Pool.empty ⟨1, 0, 30⟩ with rule := .leastHash } tidyRun).live 120).map
        (·.envelope) := by
    decide +kernel
  rw [(lives tidyRun (List.prefix_refl _) 120 (by decide +kernel)).1] at held
  exact ⟨ordered, distinct, answers, held⟩

end Run

end Pool

end Courier

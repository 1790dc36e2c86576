import Mathlib
import Courier.Proofs.Pool.Abundance
import Courier.Proofs.Pool.Run

/-! # The strongest envelopes stay

While the clock stands still, envelopes compete for room by their scores alone. What was offered
and is not held finds the pool full of envelopes that are at least as strong, and every offer keeps
it so. So the scores in the pool are the highest ones offered, in whatever order the offers came.
-/

namespace Courier

theorem toBits_injective : Function.Injective Float.toBits := by
  rintro ⟨a, _⟩ ⟨b, _⟩ same
  cases same
  rfl

theorem orderKey_injective : Function.Injective orderKey := by
  intro x y same
  apply toBits_injective
  apply UInt64.toNat_inj.1
  have hx := x.toBits.toNat_lt
  have hy := y.toBits.toNat_lt
  simp only [orderKey] at same
  split at same <;> split at same <;> omega

namespace Envelope

/-- Some scores, the highest first. -/
def ranked (scores : List Float) : List Float :=
  scores.mergeSort fun a b => orderKey b ≤ orderKey a

/-- The highest scores among some envelopes, as many as there are or are asked for. An envelope
that is listed twice counts once. -/
def highestScores (count : Nat) (envelopes : List Envelope) : List Float :=
  (ranked (envelopes.dedup.map (·.score))).take count

theorem ranked_perm (scores : List Float) : (ranked scores).Perm scores :=
  List.mergeSort_perm scores _

theorem ranked_sorted (scores : List Float) :
    (ranked scores).Pairwise fun a b => orderKey b ≤ orderKey a := by
  have sorted : (ranked scores).Pairwise fun a b => decide (orderKey b ≤ orderKey a) = true := by
    apply List.pairwise_mergeSort
    · simp only [decide_eq_true_eq]
      omega
    · simp only [Bool.or_eq_true, decide_eq_true_eq]
      omega
  exact sorted.imp of_decide_eq_true

theorem ranked_eq {scores sorted : List Float} (perm : scores.Perm sorted)
    (descending : sorted.Pairwise fun a b => orderKey b ≤ orderKey a) : ranked scores = sorted :=
  ((ranked_perm scores).trans perm).eq_of_pairwise
    (fun _ _ _ _ le ge => orderKey_injective (Int.le_antisymm ge le)) (ranked_sorted scores)
    descending

/-- If no score outside a selection is above one inside, and the selection is as large as it may be,
then it consists of the highest scores. -/
theorem take_ranked_perm {count : Nat} {scores chosen others : List Float}
    (perm : scores.Perm (chosen ++ others))
    (above : ∀ a ∈ chosen, ∀ b ∈ others, orderKey b ≤ orderKey a)
    (few : chosen.length ≤ count) (full : others ≠ [] → count ≤ chosen.length) :
    ((ranked scores).take count).Perm chosen := by
  have split : ranked scores = ranked chosen ++ ranked others := by
    apply ranked_eq (perm.trans ((ranked_perm _).append (ranked_perm _)).symm)
    rw [List.pairwise_append]
    refine ⟨ranked_sorted chosen, ranked_sorted others, ?_⟩
    intro a inChosen b inOthers
    exact above a ((ranked_perm chosen).subset inChosen) b ((ranked_perm others).subset inOthers)
  have size := (ranked_perm chosen).length_eq
  cases others with
  | nil =>
      rw [split, show ranked [] = [] from List.mergeSort_nil, List.append_nil,
        List.take_of_length_le (size ▸ few)]
      exact ranked_perm chosen
  | cons other rest =>
      have exact : (ranked chosen).length = count := by
        have := full (List.cons_ne_nil _ _)
        omega
      rw [split, List.take_left' exact]
      exact ranked_perm chosen

theorem highestScores_perm {envelopes others : List Envelope} (perm : others.Perm envelopes)
    (count : Nat) : highestScores count others = highestScores count envelopes := by
  have scores := (perm.dedup.map (·.score)).trans (ranked_perm _).symm
  rw [highestScores, ranked_eq scores (ranked_sorted _), highestScores]

end Envelope

namespace Pool

variable {policy : PoolPolicy} {now : UInt64} {stock seen : List Envelope} {pool : Pool}
  {envelope : Envelope}

/-- Envelopes that only compete for room: all would be accepted in this second by a pool that has
some, no two share a hash, and their scores compare as they stand in the order of all floats. -/
structure Contest (policy : PoolPolicy) (now : UInt64) (stock : List Envelope) : Prop where
  live : ∀ e ∈ stock, e.isExpired now = false
  accepted : ∀ e ∈ stock, policy.Accepts now e
  distinct : ∀ e ∈ stock, ∀ e' ∈ stock, e.hash = e'.hash → e = e'
  ordered : ∀ e ∈ stock, ∀ e' ∈ stock, e.score < e'.score ↔ orderKey e.score < orderKey e'.score

/-- A pool that holds the strongest of the envelopes it has seen: another one finds no room and is
not stronger than any that is held. -/
structure Selects (policy : PoolPolicy) (seen : List Envelope) (pool : Pool) : Prop where
  wellFormed : pool.WellFormed
  policy_eq : pool.policy = policy
  within : ∀ e ∈ pool.envelopes, e ∈ seen
  beaten : ∀ e ∈ seen, e ∉ pool.envelopes → policy.maxMessages ≤ pool.size ∧
    ∀ resident ∈ pool.residents, orderKey e.score ≤ orderKey resident.score

/-- What can come of an offer while envelopes only compete for room. -/
inductive Competes (pool : Pool) (envelope : Envelope) : Pool → Outcome → Prop where
  | held : envelope ∈ pool.envelopes → Competes pool envelope pool (.rejected .duplicate)
  | beaten : pool.policy.maxMessages ≤ pool.size →
      (∀ resident ∈ pool.residents, orderKey envelope.score ≤ orderKey resident.score) →
      Competes pool envelope pool (.rejected .poolFull)
  | roomy : pool.size < pool.policy.maxMessages →
      Competes pool envelope (pool.add (.ofEnvelope envelope)) (.accepted envelope.hash)
  | replaces (victim : Resident) : pool.policy.maxMessages ≤ pool.size →
      pool.rule.pick pool.residents = some victim →
      orderKey victim.score < orderKey envelope.score →
      Competes pool envelope ((pool.remove victim.hash).add (.ofEnvelope envelope))
        (.accepted envelope.hash)

/-- The run that offers envelopes one after another in one second. -/
def offersAt (now : UInt64) (envelopes : List Envelope) : List (UInt64 × PoolOperation) :=
  envelopes.map fun envelope => (now, .insert envelope)

namespace Selects

theorem empty (policy : PoolPolicy) (rule : EvictionRule) :
    Selects policy [] { Pool.empty policy with rule } where
  wellFormed := .empty policy rule
  policy_eq := rfl
  within := by simp [envelopes, Pool.empty]
  beaten := by simp

variable (contest : Contest policy now stock) (known : ∀ e ∈ seen, e ∈ stock)
  (h : Selects policy seen pool)

include contest known h

theorem purgeExpired_eq : (pool.purgeExpired now).1 = pool := by
  have residents : (pool.purgeExpired now).1.residents = pool.residents := by
    rw [h.wellFormed.purgeExpired_residents, List.filter_eq_self]
    intro resident held
    have member := known _ (h.within _ (List.mem_map_of_mem held))
    simp [contest.live _ member]
  exact (h.wellFormed.purgeExpired now).eq_of_residents h.wellFormed (by simp) (by simp) residents

theorem mem_of_mem_hashes (inStock : envelope ∈ stock) (held : envelope.hash ∈ pool.hashes) :
    envelope ∈ pool.envelopes := by
  rw [h.wellFormed.hashes_eq] at held
  obtain ⟨other, inPool, same⟩ := List.mem_map.1 held
  have member := known other (h.within other inPool)
  exact contest.distinct other member envelope inStock same ▸ inPool

theorem lt_iff (inStock : envelope ∈ stock) {resident : Resident}
    (held : resident ∈ pool.residents) :
    resident.score < envelope.score ↔ orderKey resident.score < orderKey envelope.score := by
  rw [h.wellFormed.score_eq held]
  exact contest.ordered _ (known _ (h.within _ (List.mem_map_of_mem held))) _ inStock

theorem insert_competes (inStock : envelope ∈ stock) :
    Competes pool envelope (pool.insert now envelope).1 (pool.insert now envelope).2 := by
  have unswept := h.purgeExpired_eq contest known
  have inserts := insert_inserts pool now envelope
  generalize (pool.insert now envelope).1 = after, (pool.insert now envelope).2 = outcome
    at inserts
  cases inserts with
  | expired expired => simp [contest.live envelope inStock] at expired
  | fromFuture _ early => exact absurd (h.policy_eq ▸ early) (contest.accepted _ inStock).timely
  | tooWeak _ _ _ weak => exact absurd (h.policy_eq ▸ weak) (contest.accepted _ inStock).worthy
  | duplicate _ _ held => exact .held (h.mem_of_mem_hashes contest known inStock held)
  | full _ full unmatched =>
      rw [unswept] at full unmatched ⊢
      apply Competes.beaten (Nat.not_lt.1 full)
      intro resident held
      cases picked : pool.rule.pick pool.residents with
      | none =>
          rw [pool.rule.pick_eq_none picked] at held
          cases held
      | some victim =>
          have least := pool.rule.pick_least picked held
          have notStronger := unmatched victim picked
          rw [h.lt_iff contest known inStock (pool.rule.pick_mem picked)] at notStronger
          omega
  | accepted _ made =>
      cases made with
      | already roomy => exact .roomy roomy
      | swept full roomy =>
          rw [unswept] at roomy
          exact absurd roomy full
      | evicted full victim picked stronger =>
          rw [unswept] at full picked ⊢
          rw [h.lt_iff contest known inStock (pool.rule.pick_mem picked)] at stronger
          exact .replaces victim (Nat.not_lt.1 full) picked stronger

omit contest known in
/-- A newcomer that the pool holds already, or does not take in because it is full of envelopes
that are as strong, changes nothing. -/
theorem stay (beaten : envelope ∉ pool.envelopes → policy.maxMessages ≤ pool.size ∧
      ∀ resident ∈ pool.residents, orderKey envelope.score ≤ orderKey resident.score) :
    Selects policy (seen ++ [envelope]) pool where
  wellFormed := h.wellFormed
  policy_eq := h.policy_eq
  within := fun e held => List.mem_append_left _ (h.within e held)
  beaten := by
    intro e member missing
    rcases List.mem_append.1 member with old | new
    · exact h.beaten e old missing
    · cases List.mem_singleton.1 new
      exact beaten missing

omit contest known in
theorem add (roomy : pool.size < policy.maxMessages)
    (wellFormed : (pool.add (.ofEnvelope envelope)).WellFormed) :
    Selects policy (seen ++ [envelope]) (pool.add (.ofEnvelope envelope)) where
  wellFormed := wellFormed
  policy_eq := h.policy_eq
  within := by
    intro e held
    rw [add_envelopes] at held
    rcases List.mem_append.1 held with old | new
    · exact List.mem_append_left _ (h.within e old)
    · exact List.mem_append_right _ new
  beaten := by
    intro e member missing
    rw [add_envelopes, List.mem_append, not_or] at missing
    rcases List.mem_append.1 member with old | new
    · exact absurd (h.beaten e old missing.1).1 (Nat.not_le.2 roomy)
    · exact absurd new missing.2

omit contest known in
theorem replace {victim : Resident} (full : policy.maxMessages ≤ pool.size)
    (picked : pool.rule.pick pool.residents = some victim)
    (stronger : orderKey victim.score < orderKey envelope.score)
    (wellFormed : ((pool.remove victim.hash).add (.ofEnvelope envelope)).WellFormed) :
    Selects policy (seen ++ [envelope])
      ((pool.remove victim.hash).add (.ofEnvelope envelope)) := by
  have inPool := pool.rule.pick_mem picked
  have kept := Association.perm_cons_filter h.wellFormed.distinct inPool
  have removed := remove_residents pool victim.hash
  refine ⟨wellFormed, (remove_policy pool victim.hash).trans h.policy_eq, ?_, ?_⟩
  · intro e held
    rw [add_envelopes, envelopes, removed] at held
    rcases List.mem_append.1 held with old | new
    · exact List.mem_append_left _ (h.within e ((List.filter_sublist.map _).subset old))
    · exact List.mem_append_right _ new
  · intro e member missing
    rw [add_envelopes, envelopes, removed, List.mem_append, not_or] at missing
    have weak : orderKey e.score ≤ orderKey victim.score := by
      rcases List.mem_append.1 member with old | new
      · by_cases held : e ∈ pool.envelopes
        · obtain ⟨resident, inPool', rfl⟩ := List.mem_map.1 held
          -- what was held and is not any more is the victim
          rcases List.mem_cons.1 (kept.subset inPool') with rfl | stays
          · rw [h.wellFormed.score_eq inPool]
          · exact absurd (List.mem_map_of_mem stays) missing.1
        · exact (h.beaten e old held).2 victim inPool
      · exact absurd new missing.2
    constructor
    · have size := kept.length_eq
      rw [Pool.size, size, List.length_cons] at full
      rw [Pool.size, Pool.add, removed, List.length_append, List.length_singleton]
      exact full
    · intro resident held
      rw [Pool.add, removed] at held
      rcases List.mem_append.1 held with old | new
      · exact weak.trans (pool.rule.pick_least picked (List.mem_of_mem_filter old))
      · cases List.mem_singleton.1 new
        exact weak.trans stronger.le

/-- Every offer leaves the strongest envelopes in the pool. -/
theorem insert (inStock : envelope ∈ stock) :
    Selects policy (seen ++ [envelope]) (pool.insert now envelope).1 := by
  have wellFormed := h.wellFormed.insert now envelope
  have competes := h.insert_competes contest known inStock
  generalize (pool.insert now envelope).1 = after, (pool.insert now envelope).2 = outcome
    at competes wellFormed
  cases competes with
  | held held => exact h.stay fun missing => absurd held missing
  | beaten full weaker => exact h.stay fun _ => ⟨h.policy_eq ▸ full, weaker⟩
  | roomy roomy => exact h.add (h.policy_eq ▸ roomy) wellFormed
  | replaces victim full picked stronger =>
      exact h.replace (h.policy_eq ▸ full) picked stronger wellFormed

/-- What was turned away is turned away again. -/
theorem insert_beaten (member : envelope ∈ seen) (missing : envelope ∉ pool.envelopes) :
    (pool.insert now envelope).2 = .rejected .poolFull := by
  obtain ⟨full, beaten⟩ := h.beaten envelope member missing
  have competes := h.insert_competes contest known (known envelope member)
  generalize (pool.insert now envelope).1 = after, (pool.insert now envelope).2 = outcome
    at competes ⊢
  cases competes with
  | held held => exact absurd held missing
  | beaten => rfl
  | roomy roomy =>
      rw [h.policy_eq] at roomy
      omega
  | replaces victim _ picked stronger =>
      have weaker := beaten victim (pool.rule.pick_mem picked)
      omega

theorem insert_missing {other : Envelope} (member : envelope ∈ seen)
    (missing : envelope ∉ pool.envelopes) :
    envelope ∉ (pool.insert now other).1.envelopes := by
  intro held
  obtain ⟨resident, inPool, rfl⟩ := List.mem_map.1 held
  rcases mem_insert_residents h.wellFormed inPool with old | ⟨rfl, accepted⟩
  · exact missing (List.mem_map_of_mem old)
  · have refused := h.insert_beaten contest known member missing
    cases refused.symm.trans accepted

omit known h in
theorem run {rest : List Envelope} (known : ∀ e ∈ seen ++ rest, e ∈ stock)
    (h : Selects policy seen pool) :
    Selects policy (seen ++ rest) (pool.run (offersAt now rest)) := by
  induction rest generalizing seen pool with
  | nil =>
      rw [List.append_nil]
      exact h
  | cons first rest ih =>
      rw [List.append_cons] at known ⊢
      have before : ∀ e ∈ seen, e ∈ stock := fun e member => known e (by simp [member])
      exact ih known (h.insert contest before (known first (by simp)))

omit known h in
theorem run_missing {rest : List Envelope} (known : ∀ e ∈ seen ++ rest, e ∈ stock)
    (h : Selects policy seen pool) (member : envelope ∈ seen)
    (missing : envelope ∉ pool.envelopes) :
    envelope ∉ (pool.run (offersAt now rest)).envelopes := by
  induction rest generalizing seen pool with
  | nil => exact missing
  | cons first rest ih =>
      rw [List.append_cons] at known
      have before : ∀ e ∈ seen, e ∈ stock := fun e member => known e (by simp [member])
      exact ih known (h.insert contest before (known first (by simp)))
        (List.mem_append_left _ member) (h.insert_missing contest before member missing)

omit contest known in
theorem scores_eq : pool.residents.map (·.score) = pool.envelopes.map (·.score) := by
  rw [envelopes, List.map_map]
  exact List.map_congr_left fun resident held => h.wellFormed.score_eq held

omit contest known in
theorem scores_perm : (pool.residents.map (·.score)).Perm
    (Envelope.highestScores policy.maxMessages seen) := by
  have once := h.wellFormed.envelopes_nodup
  -- the distinct offers are what is held and what was turned away
  have apart : seen.dedup.Perm (pool.envelopes ++ seen.dedup.filter (· ∉ pool.envelopes)) := by
    have disjoint : pool.envelopes.Disjoint (seen.dedup.filter (· ∉ pool.envelopes)) := by
      intro e held turnedAway
      exact of_decide_eq_true (List.mem_filter.1 turnedAway).2 held
    rw [List.perm_ext_iff_of_nodup seen.nodup_dedup
      (once.append (seen.nodup_dedup.filter _) disjoint)]
    intro e
    have within := h.within e
    simp only [List.mem_append, List.mem_filter, List.mem_dedup, decide_eq_true_eq]
    tauto
  rw [h.scores_eq]
  symm
  have scores := apart.map (·.score)
  rw [List.map_append] at scores
  apply Envelope.take_ranked_perm scores
  · intro score held other turnedAway
    rw [← h.scores_eq] at held
    obtain ⟨resident, inPool, rfl⟩ := List.mem_map.1 held
    obtain ⟨e, member, rfl⟩ := List.mem_map.1 turnedAway
    obtain ⟨offered, missing⟩ := List.mem_filter.1 member
    exact (h.beaten e (List.mem_dedup.1 offered) (of_decide_eq_true missing)).2 resident inPool
  · rw [← h.scores_eq, List.length_map, ← h.policy_eq]
    exact h.wellFormed.capacity
  · intro some
    obtain ⟨score, turnedAway⟩ := List.exists_mem_of_ne_nil _ some
    obtain ⟨e, member, rfl⟩ := List.mem_map.1 turnedAway
    obtain ⟨offered, missing⟩ := List.mem_filter.1 member
    rw [← h.scores_eq, List.length_map]
    exact (h.beaten e (List.mem_dedup.1 offered) (of_decide_eq_true missing)).1

omit contest known in
theorem residents_perm {others : List Envelope} {other : Pool} (h' : Selects policy others other)
    (perm : others.Perm seen)
    (apart : ∀ e ∈ seen, ∀ e' ∈ seen, e.score = e'.score → e = e')
    (scores : (pool.residents.map (·.score)).Perm (other.residents.map (·.score))) :
    pool.residents.Perm other.residents := by
  have once : pool.residents.Nodup := List.Nodup.of_map _ h.wellFormed.distinct
  have once' : other.residents.Nodup := List.Nodup.of_map _ h'.wellFormed.distinct
  -- a resident of one pool and one of the other are the same if their scores are
  have same : ∀ a ∈ pool.residents, ∀ b ∈ other.residents, a.score = b.score → a = b := by
    intro a inPool b inOther equal
    rw [h.wellFormed.score_eq inPool, h'.wellFormed.score_eq inOther] at equal
    have envelope := apart _ (h.within _ (List.mem_map_of_mem inPool)) _
      (perm.subset (h'.within _ (List.mem_map_of_mem inOther))) equal
    rw [h.wellFormed.computed a inPool, h'.wellFormed.computed b inOther, envelope]
  rw [List.perm_ext_iff_of_nodup once once']
  intro resident
  constructor
  · intro held
    obtain ⟨b, inOther, equal⟩ := List.mem_map.1 (scores.subset (List.mem_map_of_mem held))
    exact same resident held b inOther equal.symm ▸ inOther
  · intro held
    obtain ⟨a, inPool, equal⟩ := List.mem_map.1 (scores.symm.subset (List.mem_map_of_mem held))
    exact same a inPool resident held equal ▸ inPool

end Selects

/-- A pool to which envelopes are offered in one second holds the highest scores among them, as
many as it has room for. If scores tell the envelopes, it does not matter in which order they were
offered. What is not held in the end is refused whenever it comes again. -/
theorem run_keepsStrongest (policy : PoolPolicy) (rule : EvictionRule) (now : UInt64)
    (offers : List Envelope)
    (live : ∀ e ∈ offers, e.isExpired now = false)
    (accepted : ∀ e ∈ offers, policy.Accepts now e)
    (distinct : ∀ e ∈ offers, ∀ e' ∈ offers, e.hash = e'.hash → e = e')
    (ordered : ∀ e ∈ offers, ∀ e' ∈ offers,
      e.score < e'.score ↔ orderKey e.score < orderKey e'.score) :
    let start : Pool := { Pool.empty policy with rule }
    let pool := start.run (offersAt now offers)
    (pool.residents.map (·.score)).Perm (Envelope.highestScores policy.maxMessages offers) ∧
    ((∀ e ∈ offers, ∀ e' ∈ offers, e.score = e'.score → e = e') →
      ∀ (rule' : EvictionRule) (others : List Envelope), others.Perm offers →
        pool.residents.Perm
          (Pool.run { Pool.empty policy with rule := rule' } (offersAt now others)).residents) ∧
    ∀ before between envelope, (before ++ between) <+: offers → envelope ∈ before →
      envelope ∉ (start.run (offersAt now before)).envelopes →
        ((start.run (offersAt now (before ++ between))).insert now envelope).2 =
          .rejected .poolFull := by
  intro start pool
  have contest : Contest policy now offers := ⟨live, accepted, distinct, ordered⟩
  have fromStart : ∀ (rule : EvictionRule) (some : List Envelope), (∀ e ∈ some, e ∈ offers) →
      Selects policy some (Pool.run { Pool.empty policy with rule } (offersAt now some)) :=
    fun rule some known => (Selects.empty policy rule).run contest known
  have selects := fromStart rule offers fun _ member => member
  refine ⟨selects.scores_perm, ?_, ?_⟩
  · intro apart rule' others perm
    have selects' := fromStart rule' others fun _ member => perm.subset member
    apply selects.residents_perm selects' perm apart
    have scores := selects'.scores_perm
    rw [Envelope.highestScores_perm perm] at scores
    exact selects.scores_perm.trans scores.symm
  · intro before between envelope front member missing
    have known : ∀ e ∈ before ++ between, e ∈ offers := fun _ inside => front.subset inside
    have first := fromStart rule before fun e inside => known e (List.mem_append_left _ inside)
    have run : start.run (offersAt now (before ++ between)) =
        (start.run (offersAt now before)).run (offersAt now between) := by
      rw [offersAt, List.map_append, Pool.run, List.foldl_append]
      rfl
    rw [run]
    exact (first.run contest known).insert_beaten contest known
      (List.mem_append_left _ member) (first.run_missing contest known member missing)

/-- Three envelopes that live for different times, the first of which is offered twice. -/
def rivals : List Envelope :=
  [⟨120, 20, .empty, [2], 0⟩, ⟨140, 40, .empty, [4], 0⟩, ⟨150, 50, .empty, [5], 0⟩,
    ⟨120, 20, .empty, [2], 0⟩]

theorem run_keepsStrongest_rivals :
    let start : Pool := { Pool.empty ⟨2, 0, 30⟩ with rule := .leastHash }
    let pool := start.run (offersAt 100 rivals)
    (∀ e ∈ rivals, e.isExpired 100 = false) ∧
    (∀ e ∈ rivals, PoolPolicy.Accepts ⟨2, 0, 30⟩ 100 e) ∧
    (∀ e ∈ rivals, ∀ e' ∈ rivals, e.hash = e'.hash → e = e') ∧
    (∀ e ∈ rivals, ∀ e' ∈ rivals, e.score < e'.score ↔ orderKey e.score < orderKey e'.score) ∧
    (pool.residents.map (·.score)).Perm (Envelope.highestScores 2 rivals) ∧
    pool.residents.Perm (start.run (offersAt 100 rivals.reverse)).residents ∧
    (pool.insert 100 ⟨120, 20, .empty, [2], 0⟩).2 = .rejected .poolFull := by
  intro start pool
  have live : ∀ e ∈ rivals, e.isExpired 100 = false := by decide +kernel
  have accepted : ∀ e ∈ rivals, PoolPolicy.Accepts ⟨2, 0, 30⟩ 100 e := by
    have timely : ∀ e ∈ rivals, ¬ saturatingAdd 100 30 < e.sent := by decide +kernel
    have worthy : ∀ e ∈ rivals, ¬ e.score < 0 := by decide +kernel
    exact fun e member => ⟨timely e member, worthy e member⟩
  have distinct : ∀ e ∈ rivals, ∀ e' ∈ rivals, e.hash = e'.hash → e = e' := by decide +kernel
  have ordered : ∀ e ∈ rivals, ∀ e' ∈ rivals,
      e.score < e'.score ↔ orderKey e.score < orderKey e'.score := by decide +kernel
  have apart : ∀ e ∈ rivals, ∀ e' ∈ rivals, e.score = e'.score → e = e' := by decide +kernel
  obtain ⟨scores, contents, refused⟩ := run_keepsStrongest ⟨2, 0, 30⟩ .leastHash 100 rivals live
    accepted distinct ordered
  have missing : ⟨120, 20, .empty, [2], 0⟩ ∉ (start.run (offersAt 100 rivals)).envelopes := by
    decide +kernel
  have again := refused rivals [] ⟨120, 20, .empty, [2], 0⟩ (by simp) (by simp [rivals]) missing
  rw [List.append_nil] at again
  exact ⟨live, accepted, distinct, ordered, scores,
    contents apart .leastHash rivals.reverse (List.reverse_perm rivals), again⟩

end Pool

end Courier

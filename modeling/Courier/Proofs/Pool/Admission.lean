import Mathlib
import Courier.Proofs.Envelope.Score
import Courier.Proofs.Pool.Housekeeping

/-! # The rule of admission

What a pool answers to an offer, and what gives way to the newcomer, is said here by the envelopes
that are held, by whole numbers of seconds and by the order of scores alone: without the index, the
sweep, the rule of eviction and the last second of the clock. Every pool of a run abides by it.
-/

namespace Courier

namespace Envelope

variable {envelope : Envelope} {now skew : UInt64}

theorem isExpired_iff : envelope.isExpired now = true ↔ envelope.expiry.toNat ≤ now.toNat := by
  rw [isExpired, decide_eq_true_iff, UInt64.le_iff_toNat_le, UInt32.toNat_toUInt64]

/-- Neither the last second of the clock nor the first second of sealing makes a difference. -/
theorem saturatingAdd_lt_sent : saturatingAdd now skew < envelope.sent ↔
    now.toNat + envelope.ttl.toNat + skew.toNat < envelope.expiry.toNat := by
  have expiry := envelope.expiry.toNat_lt
  rw [UInt64.lt_iff_toNat_lt, saturatingAdd, sent,
    UInt64.toNat_ofNat_of_lt' (by simp [UInt64.size]),
    UInt64.toNat_ofNat_of_lt' (by simp only [UInt64.size]; omega)]
  omega

end Envelope

namespace Pool

variable {pool room : Pool} {now : UInt64} {envelope : Envelope} {resident : Resident}
  {score : Float}

/-- The residents that are expired, in the order in which they came. -/
def expired (pool : Pool) (now : UInt64) : List Resident :=
  pool.residents.filter fun resident => resident.envelope.isExpired now

/-- What a pool answers to an offer. -/
def ruling (pool : Pool) (now : UInt64) (envelope : Envelope) : Outcome :=
  if envelope.expiry.toNat ≤ now.toNat then .rejected .expired
  else if now.toNat + envelope.ttl.toNat + pool.policy.maxSkew.toNat < envelope.expiry.toNat then
    .rejected .fromFuture
  else if envelope.hash ∈ pool.hashes then .rejected .duplicate
  else if envelope.score < pool.policy.minScore then
    .rejected (.insufficientWork envelope.score pool.policy.minScore)
  else if (pool.live now).length < pool.policy.maxMessages ∨
      ∃ resident ∈ pool.live now, resident.score < envelope.score then
    .accepted envelope.hash
  else .rejected .poolFull

/-- Which residents give way to a newcomer with some score. -/
inductive GivesWay (pool : Pool) (now : UInt64) (score : Float) : List Resident → Prop where
  /-- There is room. -/
  | none (roomy : pool.size < pool.policy.maxMessages) : GivesWay pool now score []
  /-- The pool is full and holds something expired, all of which goes. -/
  | expired (full : pool.size = pool.policy.maxMessages) (some : pool.expired now ≠ []) :
      GivesWay pool now score (pool.expired now)
  /-- The pool is full of live residents; the newcomer is stronger than one of the weakest. -/
  | weakest (full : pool.size = pool.policy.maxMessages) (none : pool.expired now = [])
      (victim : Resident) (held : victim ∈ pool.residents)
      (least : ∀ resident ∈ pool.residents, ¬ resident.score < victim.score)
      (stronger : victim.score < score) : GivesWay pool now score [victim]

namespace WellFormed

theorem unsigned_score (h : pool.WellFormed) (held : resident ∈ pool.residents) :
    Unsigned resident.score := h.score_eq held ▸ resident.envelope.unsigned_score

theorem live_eq (h : pool.WellFormed) (now : UInt64) :
    pool.live now = (pool.purgeExpired now).1.residents := (h.purgeExpired_residents now).symm

theorem expired_eq_nil (h : pool.WellFormed)
    (full : ¬ (pool.purgeExpired now).1.size < pool.policy.maxMessages) :
    pool.expired now = [] := by
  have swept := h.purgeExpired_residents now
  rw [h.purgeExpired_of_full full] at swept
  rw [expired, List.filter_eq_nil_iff]
  intro resident held
  rw [swept] at held
  simpa using List.of_mem_filter held

theorem insert_outcome (h : pool.WellFormed) :
    (pool.insert now envelope).2 = pool.ruling now envelope := by
  have inserts := insert_inserts pool now envelope
  generalize (pool.insert now envelope).1 = after, (pool.insert now envelope).2 = outcome
    at inserts ⊢
  unfold ruling
  simp only [← Envelope.isExpired_iff, ← Envelope.saturatingAdd_lt_sent]
  cases inserts with
  | expired expired => rw [if_pos expired]
  | fromFuture live early => rw [if_neg (by simp [live]), if_pos early]
  | duplicate live timely held => rw [if_neg (by simp [live]), if_neg timely, if_pos held]
  | tooWeak live timely new weak =>
      rw [if_neg (by simp [live]), if_neg timely, if_neg new, if_pos weak]
  | full admissible full unmatched =>
      rw [if_neg (by simp [admissible.live]), if_neg admissible.timely, if_neg admissible.new,
        if_neg admissible.worthy, if_neg]
      rintro (roomy | ⟨resident, live, weaker⟩)
      · exact full (by rwa [size, ← h.live_eq])
      · rw [h.live_eq] at live
        cases picked : (pool.purgeExpired now).1.rule.pick (pool.purgeExpired now).1.residents with
        | none =>
            rw [(pool.purgeExpired now).1.rule.pick_eq_none picked] at live
            cases live
        | some victim =>
            -- one of the weakest is picked, so a weaker resident would have been matched
            have swept := h.purgeExpired now
            have least := (pool.purgeExpired now).1.rule.pick_least picked live
            have held := (pool.purgeExpired now).1.rule.pick_mem picked
            exact unmatched victim picked ((swept.unsigned_score held).lt_of_orderKey_le
              (swept.unsigned_score live) envelope.unsigned_score least weaker)
  | accepted admissible made =>
      rw [if_neg (by simp [admissible.live]), if_neg admissible.timely, if_neg admissible.new,
        if_neg admissible.worthy, if_pos]
      cases made with
      | already roomy => exact .inl ((List.length_filter_le _ _).trans_lt roomy)
      | swept full roomy => exact .inl (by rwa [h.live_eq])
      | evicted full victim picked stronger =>
          refine .inr ⟨victim, ?_, stronger⟩
          rw [h.live_eq]
          exact (pool.purgeExpired now).1.rule.pick_mem picked

end WellFormed

/-- Room is made by those who give way, and the others stay in their order. -/
theorem MakesRoom.givesWay (h : pool.WellFormed) (made : MakesRoom pool now score room) :
    ∃ gone, GivesWay pool now score gone ∧ pool.residents.Perm (gone ++ room.residents) := by
  cases made with
  | already roomy => exact ⟨[], .none roomy, .refl _⟩
  | swept full roomy =>
      have most := h.capacity
      have swept := h.purgeExpired_residents now
      refine ⟨pool.expired now, .expired (by omega) ?_, ?_⟩
      · intro none
        rw [expired, List.filter_eq_nil_iff] at none
        rw [size, swept, List.filter_eq_self.2] at roomy
        · exact full roomy
        · exact fun resident held => by simpa using none resident held
      · rw [swept]
        exact (List.filter_append_perm _ _).symm
  | evicted full victim picked stronger =>
      -- a pool that is full after the sweep held nothing expired before it
      have idle := h.purgeExpired_of_full full
      have most := h.capacity
      have fewer := h.purgeExpired_size_le now
      have none := h.expired_eq_nil full
      rw [idle] at picked ⊢
      have held := pool.rule.pick_mem picked
      refine ⟨[victim], .weakest (by omega) none victim held ?_ stronger, ?_⟩
      · intro resident other
        exact (h.unsigned_score held).not_lt_of_orderKey_le (h.unsigned_score other)
          (pool.rule.pick_least picked other)
      · rw [remove_residents]
        exact Association.perm_cons_filter h.distinct held

/-- In every pool of a run an offer is answered by the rule. If it is accepted, those who give way
are gone and the newcomer is last, and no live resident goes while the pool holds an expired
one. -/
theorem run_admits (policy : PoolPolicy) (rule : EvictionRule)
    (operations : List (UInt64 × PoolOperation)) (now : UInt64) (envelope : Envelope) :
    let pool := Pool.run { Pool.empty policy with rule } operations
    let after := (pool.insert now envelope).1
    after.WellFormed ∧
    (pool.insert now envelope).2 = pool.ruling now envelope ∧
    (pool.ruling now envelope = .accepted envelope.hash →
      ∃ gone kept, GivesWay pool now envelope.score gone ∧
        pool.residents.Perm (gone ++ kept) ∧ kept.Sublist pool.residents ∧
        after.residents = kept ++ [.ofEnvelope envelope]) ∧
    ∀ resident ∈ pool.live now, resident ∉ after.residents → pool.expired now = [] := by
  intro pool after
  have h : pool.WellFormed := (WellFormed.empty policy rule).run operations
  have outcome : (pool.insert now envelope).2 = pool.ruling now envelope := h.insert_outcome
  have inserts : Inserts pool now envelope after (pool.insert now envelope).2 :=
    insert_inserts pool now envelope
  rw [outcome] at inserts
  refine ⟨h.insert now envelope, outcome, ?accepted, ?kept⟩
  case accepted =>
    intro accepted
    rw [accepted] at inserts
    generalize after = result at inserts ⊢
    cases inserts with
    | @accepted room _ made =>
        obtain ⟨gone, givesWay, split⟩ := made.givesWay h
        exact ⟨gone, room.residents, givesWay, split, made.sublist h, rfl⟩
  case kept =>
    intro resident live missing
    have held : resident ∈ pool.residents := List.mem_of_mem_filter live
    generalize pool.ruling now envelope = answer, after = result at inserts missing
    cases inserts with
    | expired | fromFuture | duplicate | tooWeak => exact absurd held missing
    | full _ full => exact h.expired_eq_nil full
    | accepted _ made =>
        have out := mt (List.mem_append_left [Resident.ofEnvelope envelope]) missing
        cases made with
        | already => exact absurd held out
        | swept => exact absurd (h.live_eq now ▸ live) out
        | evicted full => exact h.expired_eq_nil full

end Pool

end Courier

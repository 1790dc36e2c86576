import Mathlib
import Courier.Proofs.Pool.WellFormed

/-! # What an insertion does

An insertion is refused for one of five reasons or accepted into a pool that has room. Room is
there already, or a sweep makes it, or a weakest envelope is evicted for a stronger one.
Well-formed pools stay well formed either way.
-/

namespace Courier.Pool

variable {pool room : Pool} {now : UInt64} {score : Float} {envelope : Envelope}

/-- How a pool comes to have room for a newcomer with some score. -/
inductive MakesRoom (pool : Pool) (now : UInt64) (score : Float) : Pool → Prop where
  /-- There is room. -/
  | already (roomy : pool.size < pool.policy.maxMessages) : MakesRoom pool now score pool
  /-- There is room once the expired envelopes are out. -/
  | swept (full : ¬ pool.size < pool.policy.maxMessages)
      (roomy : (pool.purgeExpired now).1.size < pool.policy.maxMessages) :
      MakesRoom pool now score (pool.purgeExpired now).1
  /-- No envelope is expired, and one of the weakest gives way. -/
  | evicted (full : ¬ (pool.purgeExpired now).1.size < pool.policy.maxMessages)
      (victim : Resident)
      (picked : (pool.purgeExpired now).1.rule.pick (pool.purgeExpired now).1.residents =
        some victim)
      (stronger : victim.score < score) :
      MakesRoom pool now score ((pool.purgeExpired now).1.remove victim.hash)

/-- What is asked of an envelope before the pool's room is. -/
structure Admissible (pool : Pool) (now : UInt64) (envelope : Envelope) : Prop where
  live : envelope.isExpired now = false
  timely : ¬ saturatingAdd now pool.policy.maxSkew < envelope.sent
  new : envelope.hash ∉ pool.hashes
  worthy : ¬ envelope.score < pool.policy.minScore

/-- What can come of an insertion. -/
inductive Inserts (pool : Pool) (now : UInt64) (envelope : Envelope) : Pool → Outcome → Prop where
  | expired : envelope.isExpired now = true →
      Inserts pool now envelope pool (.rejected .expired)
  | fromFuture : envelope.isExpired now = false →
      saturatingAdd now pool.policy.maxSkew < envelope.sent →
      Inserts pool now envelope pool (.rejected .fromFuture)
  | duplicate : envelope.isExpired now = false →
      ¬ saturatingAdd now pool.policy.maxSkew < envelope.sent → envelope.hash ∈ pool.hashes →
      Inserts pool now envelope pool (.rejected .duplicate)
  | tooWeak : envelope.isExpired now = false →
      ¬ saturatingAdd now pool.policy.maxSkew < envelope.sent → envelope.hash ∉ pool.hashes →
      envelope.score < pool.policy.minScore →
      Inserts pool now envelope pool
        (.rejected (.insufficientWork envelope.score pool.policy.minScore))
  | full : Admissible pool now envelope →
      ¬ (pool.purgeExpired now).1.size < pool.policy.maxMessages →
      (∀ victim, (pool.purgeExpired now).1.rule.pick (pool.purgeExpired now).1.residents =
        some victim → ¬ victim.score < envelope.score) →
      Inserts pool now envelope (pool.purgeExpired now).1 (.rejected .poolFull)
  | accepted {room : Pool} : Admissible pool now envelope →
      MakesRoom pool now envelope.score room →
      Inserts pool now envelope (room.add (.ofEnvelope envelope)) (.accepted envelope.hash)

theorem makeRoom?_true (h : pool.makeRoom? now score = (room, true)) :
    MakesRoom pool now score room := by
  unfold makeRoom? at h
  split at h
  · cases h
    exact .already ‹_›
  · rename_i full
    simp only at h
    split at h
    · cases h
      exact .swept full ‹_›
    · rename_i stillFull
      split at h
      · rename_i victim picked
        split at h
        · cases h
          exact .evicted stillFull victim picked ‹_›
        · cases h
      · cases h

theorem makeRoom?_false (h : pool.makeRoom? now score = (room, false)) :
    room = (pool.purgeExpired now).1 ∧
      ¬ (pool.purgeExpired now).1.size < pool.policy.maxMessages ∧
      ∀ victim, (pool.purgeExpired now).1.rule.pick (pool.purgeExpired now).1.residents =
        some victim → ¬ victim.score < score := by
  unfold makeRoom? at h
  split at h
  · cases h
  · simp only at h
    split at h
    · cases h
    · rename_i stillFull
      split at h
      · rename_i victim picked
        split at h
        · cases h
        · rename_i notStronger
          cases h
          refine ⟨rfl, stillFull, ?_⟩
          intro other otherPicked
          cases picked.symm.trans otherPicked
          exact notStronger
      · rename_i unpicked
        cases h
        refine ⟨rfl, stillFull, ?_⟩
        intro victim picked
        cases unpicked.symm.trans picked

theorem insert_inserts (pool : Pool) (now : UInt64) (envelope : Envelope) :
    Inserts pool now envelope (pool.insert now envelope).1 (pool.insert now envelope).2 := by
  unfold insert
  by_cases expired : envelope.isExpired now = true
  · simpa only [expired, if_true] using .expired expired
  · have live : envelope.isExpired now = false := by simpa using expired
    by_cases early : saturatingAdd now pool.policy.maxSkew < envelope.sent
    · simpa only [live, early, if_true] using .fromFuture live early
    · by_cases held : pool.contains envelope.hash = true
      · simpa only [live, early, held, if_true, if_false] using
          .duplicate live early (contains_iff.1 held)
      · have new : envelope.hash ∉ pool.hashes := fun member => held (contains_iff.2 member)
        by_cases weak : envelope.score < pool.policy.minScore
        · simpa only [live, early, held, weak, if_true, if_false] using
            .tooWeak live early new weak
        · have admissible : Admissible pool now envelope := ⟨live, early, new, weak⟩
          simp only [live, early, held, weak, if_false]
          cases made : pool.makeRoom? now envelope.score with
          | mk room success =>
              cases success with
              | true => exact .accepted admissible (makeRoom?_true made)
              | false =>
                  obtain ⟨rfl, full, unmatched⟩ := makeRoom?_false made
                  exact .full admissible full unmatched

theorem exists_room_of_accepted {hash : Hash}
    (h : (pool.insert now envelope).2 = .accepted hash) :
    ∃ room, envelope.hash = hash ∧ Admissible pool now envelope ∧
      MakesRoom pool now envelope.score room ∧
      (pool.insert now envelope).1 = room.add (.ofEnvelope envelope) := by
  have inserts := insert_inserts pool now envelope
  rw [h] at inserts
  generalize (pool.insert now envelope).1 = after at inserts ⊢
  cases inserts with
  | accepted admissible made => exact ⟨_, rfl, admissible, made, rfl⟩

theorem insert_accepted {hash : Hash} (h : (pool.insert now envelope).2 = .accepted hash) :
    envelope.hash = hash := by
  obtain ⟨_, same, -⟩ := exists_room_of_accepted h
  exact same

theorem insert_admissible {hash : Hash} (h : (pool.insert now envelope).2 = .accepted hash) :
    Admissible pool now envelope := by
  obtain ⟨_, -, admissible, -⟩ := exists_room_of_accepted h
  exact admissible

theorem mem_residents_of_accepted {hash : Hash}
    (h : (pool.insert now envelope).2 = .accepted hash) :
    .ofEnvelope envelope ∈ (pool.insert now envelope).1.residents := by
  obtain ⟨_, -, -, -, grown⟩ := exists_room_of_accepted h
  rw [grown]
  exact List.mem_append_right _ List.mem_cons_self

theorem mem_hashes_of_accepted {hash : Hash} (h : (pool.insert now envelope).2 = .accepted hash) :
    hash ∈ (pool.insert now envelope).1.hashes :=
  insert_accepted h ▸ List.mem_map_of_mem (mem_residents_of_accepted h)

theorem MakesRoom.policy_eq (made : MakesRoom pool now score room) :
    room.policy = pool.policy := by
  cases made with
  | already => rfl
  | swept => exact purgeExpired_policy pool now
  | evicted _ victim => exact (remove_policy _ victim.hash).trans (purgeExpired_policy pool now)

theorem MakesRoom.rule_eq (made : MakesRoom pool now score room) : room.rule = pool.rule := by
  cases made with
  | already => rfl
  | swept => exact purgeExpired_rule pool now
  | evicted _ victim => exact (remove_rule _ victim.hash).trans (purgeExpired_rule pool now)

theorem MakesRoom.sublist (h : pool.WellFormed) (made : MakesRoom pool now score room) :
    room.residents.Sublist pool.residents := by
  have swept : (pool.purgeExpired now).1.residents.Sublist pool.residents := by
    rw [h.purgeExpired_residents]
    exact List.filter_sublist
  cases made with
  | already => exact .refl _
  | swept => exact swept
  | evicted _ victim =>
      rw [remove_residents]
      exact List.filter_sublist.trans swept

theorem MakesRoom.wellFormed (h : pool.WellFormed) (made : MakesRoom pool now score room) :
    room.WellFormed := by
  cases made with
  | already => exact h
  | swept => exact h.purgeExpired now
  | evicted _ victim => exact (h.purgeExpired now).remove victim.hash

theorem MakesRoom.size_lt (h : pool.WellFormed) (made : MakesRoom pool now score room) :
    room.size < room.policy.maxMessages := by
  rw [made.policy_eq]
  cases made with
  | already roomy => exact roomy
  | swept _ roomy => exact roomy
  | evicted _ victim picked =>
      have swept := h.purgeExpired now
      have held := (pool.purgeExpired now).1.rule.pick_mem picked
      have split := (Association.perm_cons_filter swept.distinct held).length_eq
      have bound := swept.capacity
      rw [purgeExpired_policy] at bound
      rw [size, remove_residents]
      rw [size, split, List.length_cons] at bound
      omega

theorem Admissible.makesRoom (admissible : Admissible pool now envelope) (h : pool.WellFormed)
    (made : MakesRoom pool now score room) : Admissible room now envelope where
  live := admissible.live
  timely := made.policy_eq ▸ admissible.timely
  new := fun member => admissible.new ((made.sublist h).map _ |>.subset member)
  worthy := made.policy_eq ▸ admissible.worthy

/-- The only resident that an insertion can bring in is the newcomer, and then it is accepted. -/
theorem mem_insert_residents {resident : Resident} (h : pool.WellFormed)
    (held : resident ∈ (pool.insert now envelope).1.residents) :
    resident ∈ pool.residents ∨
      resident = .ofEnvelope envelope ∧
        (pool.insert now envelope).2 = .accepted envelope.hash := by
  have inserts := insert_inserts pool now envelope
  generalize (pool.insert now envelope).1 = after, (pool.insert now envelope).2 = outcome
    at inserts held
  cases inserts with
  | expired | fromFuture | duplicate | tooWeak => exact .inl held
  | full =>
      rw [h.purgeExpired_residents] at held
      exact .inl (List.mem_of_mem_filter held)
  | accepted _ made =>
      rcases List.mem_append.1 held with old | new
      · exact .inl ((made.sublist h).subset old)
      · exact .inr ⟨List.mem_singleton.1 new, rfl⟩

theorem mem_insert_hashes {hash : Hash} (h : pool.WellFormed)
    (held : hash ∈ (pool.insert now envelope).1.hashes) :
    hash ∈ pool.hashes ∨ (pool.insert now envelope).2 = .accepted hash := by
  obtain ⟨resident, inPool, rfl⟩ := List.mem_map.1 held
  rcases mem_insert_residents h inPool with old | ⟨rfl, accepted⟩
  · exact .inl (List.mem_map_of_mem old)
  · exact .inr accepted

theorem WellFormed.insert (h : pool.WellFormed) (now : UInt64) (envelope : Envelope) :
    (pool.insert now envelope).1.WellFormed := by
  have inserts := insert_inserts pool now envelope
  generalize (pool.insert now envelope).1 = after, (pool.insert now envelope).2 = outcome
    at inserts
  cases inserts with
  | expired | fromFuture | duplicate | tooWeak => exact h
  | full => exact h.purgeExpired now
  | accepted admissible made =>
      have inRoom := admissible.makesRoom h made
      exact (made.wellFormed h).add inRoom.new inRoom.worthy (made.size_lt h)

/-- A full pool from which a sweep takes nothing below its capacity holds nothing expired: what is
expired would have made room. -/
theorem WellFormed.purgeExpired_of_full (h : pool.WellFormed)
    (full : ¬ (pool.purgeExpired now).1.size < pool.policy.maxMessages) :
    pool.purgeExpired now = (pool, 0) :=
  h.purgeExpired_idle (h.capacity.trans (Nat.not_lt.1 full))

/-- A refusal leaves a well-formed pool as it was, also the one that comes after a sweep. -/
theorem WellFormed.insert_rejected (h : pool.WellFormed) {reason : Rejection}
    (rejected : (pool.insert now envelope).2 = .rejected reason) :
    (pool.insert now envelope).1 = pool := by
  have inserts := insert_inserts pool now envelope
  rw [rejected] at inserts
  generalize (pool.insert now envelope).1 = after at inserts ⊢
  cases inserts with
  | expired | fromFuture | duplicate | tooWeak => rfl
  | full _ full => rw [h.purgeExpired_of_full full]

@[simp] theorem insert_policy (pool : Pool) (now : UInt64) (envelope : Envelope) :
    (pool.insert now envelope).1.policy = pool.policy := by
  have inserts := insert_inserts pool now envelope
  generalize (pool.insert now envelope).1 = after, (pool.insert now envelope).2 = outcome
    at inserts
  cases inserts with
  | expired | fromFuture | duplicate | tooWeak => rfl
  | full => exact purgeExpired_policy pool now
  | accepted _ made => exact made.policy_eq

@[simp] theorem insert_rule (pool : Pool) (now : UInt64) (envelope : Envelope) :
    (pool.insert now envelope).1.rule = pool.rule := by
  have inserts := insert_inserts pool now envelope
  generalize (pool.insert now envelope).1 = after, (pool.insert now envelope).2 = outcome
    at inserts
  cases inserts with
  | expired | fromFuture | duplicate | tooWeak => rfl
  | full => exact purgeExpired_rule pool now
  | accepted _ made => exact made.rule_eq

end Courier.Pool

import Mathlib
import Courier.Pool.Admission
import Courier.Proofs.Association
import Courier.Proofs.Pool.ExpiryOrder

/-! # Well-formed pools

A pool is well formed if its index and its byte sum tell the truth about the envelopes, every
envelope stands under its own hash with its own score and size, and neither the least score nor
the capacity is violated. Adding, removing, sweeping and inserting keep a pool well formed.
-/

namespace Courier

namespace Resident

theorem eq_of_hash_eq {residents : List Resident} (distinct : (residents.map (·.hash)).Nodup)
    {a b : Resident} (ha : a ∈ residents) (hb : b ∈ residents) (same : a.hash = b.hash) : a = b :=
  List.inj_on_of_nodup_map distinct ha hb same

end Resident

namespace Pool

variable {pool room : Pool} {now : UInt64} {hash : Hash} {resident : Resident}
  {envelope : Envelope} {outcome : Outcome}

theorem mem_of_find? (h : pool.find? hash = some resident) :
    resident ∈ pool.residents ∧ resident.hash = hash :=
  ⟨List.mem_of_find?_eq_some h, by simpa using List.find?_some h⟩

theorem find?_eq_none : pool.find? hash = none ↔ hash ∉ pool.hashes := by
  simp only [find?, hashes, List.find?_eq_none, List.mem_map, decide_eq_true_eq]
  exact ⟨fun h ⟨resident, held, same⟩ => h resident held same,
    fun h resident held same => h ⟨resident, held, same⟩⟩

theorem contains_iff : pool.contains hash = true ↔ hash ∈ pool.hashes := by
  rw [contains, Option.isSome_iff_ne_none, ne_eq, find?_eq_none, not_not]

@[simp] theorem remove_policy (pool : Pool) (hash : Hash) :
    (pool.remove hash).policy = pool.policy := by
  unfold remove
  split <;> rfl

@[simp] theorem remove_rule (pool : Pool) (hash : Hash) :
    (pool.remove hash).rule = pool.rule := by
  unfold remove
  split <;> rfl

theorem remove_residents (pool : Pool) (hash : Hash) :
    (pool.remove hash).residents = pool.residents.filter (·.hash ≠ hash) := by
  unfold remove
  split
  · rename_i missing
    symm
    rw [List.filter_eq_self]
    intro resident held
    exact decide_eq_true fun same => find?_eq_none.1 missing (same ▸ List.mem_map_of_mem held)
  · rfl

/-- What a pool keeps in step: its index, the sum of its sizes, what it has computed of its
envelopes, and its bounds. -/
structure WellFormed (pool : Pool) : Prop where
  /-- Every hash has one entry. -/
  distinct : pool.hashes.Nodup
  /-- The index lists the key of each entry once. -/
  index : pool.byExpiry.Perm (pool.residents.map Resident.key)
  sorted : pool.byExpiry.Pairwise fun a b => a.before b = true
  /-- An entry's hash, score and size are those of its envelope. -/
  computed : ∀ resident ∈ pool.residents, resident = .ofEnvelope resident.envelope
  bytes : pool.bytes = (pool.residents.map (·.size)).sum
  worthy : ∀ resident ∈ pool.residents, ¬ resident.score < pool.policy.minScore
  capacity : pool.size ≤ pool.policy.maxMessages

namespace WellFormed

theorem empty (policy : PoolPolicy) (rule : EvictionRule) :
    WellFormed { Pool.empty policy with rule } where
  distinct := List.nodup_nil
  index := .refl _
  sorted := List.Pairwise.nil
  computed := by
    intro resident held
    cases held
  bytes := rfl
  worthy := by
    intro resident held
    cases held
  capacity := Nat.zero_le _

/-- The envelopes of a well-formed pool determine its index and its byte sum. -/
theorem eq_of_residents {other : Pool} (h : pool.WellFormed) (h' : other.WellFormed)
    (policy : pool.policy = other.policy) (rule : pool.rule = other.rule)
    (residents : pool.residents = other.residents) : pool = other := by
  have index : pool.byExpiry = other.byExpiry :=
    ExpiryKey.eq_of_sorted (h.index.trans (residents ▸ h'.index.symm)) h.sorted h'.sorted
  have bytes : pool.bytes = other.bytes := by rw [h.bytes, h'.bytes, residents]
  cases pool
  cases other
  congr

theorem find?_of_mem (h : pool.WellFormed) (held : resident ∈ pool.residents) :
    pool.find? resident.hash = some resident := by
  cases found : pool.find? resident.hash with
  | none => exact absurd (List.mem_map_of_mem held) (find?_eq_none.1 found)
  | some other =>
      obtain ⟨otherHeld, same⟩ := mem_of_find? found
      rw [Resident.eq_of_hash_eq h.distinct otherHeld held same]

theorem hash_eq (h : pool.WellFormed) (held : resident ∈ pool.residents) :
    resident.hash = resident.envelope.hash := congrArg Resident.hash (h.computed resident held)

theorem score_eq (h : pool.WellFormed) (held : resident ∈ pool.residents) :
    resident.score = resident.envelope.score := congrArg Resident.score (h.computed resident held)

theorem lookup_eq_some (h : pool.WellFormed) :
    pool.lookup hash = some envelope ↔
      envelope.hash = hash ∧ envelope ∈ pool.residents.map (·.envelope) := by
  constructor
  · intro found
    obtain ⟨resident, entry, rfl⟩ := Option.map_eq_some_iff.1 found
    obtain ⟨held, same⟩ := mem_of_find? entry
    exact ⟨(h.hash_eq held).symm.trans same, List.mem_map_of_mem held⟩
  · rintro ⟨same, member⟩
    obtain ⟨resident, held, rfl⟩ := List.mem_map.1 member
    rw [lookup, ← same, ← h.hash_eq held, h.find?_of_mem held, Option.map_some]

/-- A removal takes out the whole share of the byte sum that is owed to the entry. -/
theorem remove_bytes (h : pool.WellFormed) (held : resident ∈ pool.residents) :
    (pool.remove resident.hash).bytes + resident.size = pool.bytes := by
  have sum : pool.bytes =
      resident.size + ((pool.residents.filter (·.hash ≠ resident.hash)).map (·.size)).sum := by
    rw [h.bytes, ((Association.perm_cons_filter h.distinct held).map (·.size)).sum_eq,
      List.map_cons, List.sum_cons]
  have removed : (pool.remove resident.hash).bytes = pool.bytes - resident.size := by
    simp only [Pool.remove, h.find?_of_mem held]
  omega

theorem remove (h : pool.WellFormed) (hash : Hash) : (pool.remove hash).WellFormed := by
  cases found : pool.find? hash with
  | none => simpa only [Pool.remove, found] using h
  | some resident =>
      obtain ⟨held, rfl⟩ := mem_of_find? found
      have bytes := h.remove_bytes held
      have residents := remove_residents pool resident.hash
      have subset : ∀ other ∈ (pool.remove resident.hash).residents, other ∈ pool.residents := by
        intro other member
        rw [residents] at member
        exact List.mem_of_mem_filter member
      have index : (pool.remove resident.hash).byExpiry =
          pool.byExpiry.filter (· ≠ resident.key) := by
        simp only [Pool.remove, found]
      -- a resident's key is the removed one exactly if its hash is
      have keys : (pool.residents.map Resident.key).filter (· ≠ resident.key) =
          (pool.residents.filter (·.hash ≠ resident.hash)).map Resident.key := by
        rw [List.filter_map]
        congr 1
        apply List.filter_congr
        intro other otherHeld
        rw [Function.comp_apply, decide_eq_decide, not_iff_not]
        constructor
        · exact fun same => congrArg ExpiryKey.hash same
        · exact fun same => congrArg Resident.key
            (Resident.eq_of_hash_eq h.distinct otherHeld held same)
      refine ⟨?_, ?_, ?_, ?_, ?_, ?_, ?_⟩
      · rw [hashes, residents]
        exact h.distinct.sublist (List.filter_sublist.map _)
      · rw [index, residents, ← keys]
        exact h.index.filter _
      · rw [index]
        exact h.sorted.filter _
      · exact fun other member => h.computed other (subset other member)
      · have sum := ((Association.perm_cons_filter h.distinct held).map (·.size)).sum_eq
        rw [List.map_cons, List.sum_cons, ← h.bytes] at sum
        rw [residents]
        omega
      · intro other member
        rw [remove_policy]
        exact h.worthy other (subset other member)
      · rw [size, residents, remove_policy]
        exact (List.length_filter_le _ _).trans h.capacity

theorem removeAll (h : pool.WellFormed) (keys : List ExpiryKey) :
    (keys.foldl (fun pool key => pool.remove key.hash) pool).WellFormed := by
  induction keys generalizing pool with
  | nil => exact h
  | cons key rest ih => exact ih (h.remove key.hash)

theorem purgeExpired (h : pool.WellFormed) (now : UInt64) :
    (pool.purgeExpired now).1.WellFormed := h.removeAll _

theorem add (h : pool.WellFormed) (new : envelope.hash ∉ pool.hashes)
    (worthy : ¬ envelope.score < pool.policy.minScore)
    (room : pool.size < pool.policy.maxMessages) :
    (pool.add (.ofEnvelope envelope)).WellFormed := by
  have newKey : (Resident.ofEnvelope envelope).key ∉ pool.byExpiry := by
    intro member
    obtain ⟨resident, held, same⟩ := List.mem_map.1 (h.index.subset member)
    exact new (List.mem_map.2 ⟨resident, held, congrArg ExpiryKey.hash same⟩)
  refine ⟨?_, ?_, ?_, ?_, ?_, ?_, ?_⟩
  · rw [hashes, Pool.add, List.map_append, List.nodup_append]
    refine ⟨h.distinct, List.nodup_singleton _, ?_⟩
    rintro old member _ added rfl
    cases List.mem_singleton.1 added
    exact new member
  · rw [Pool.add, List.map_append]
    exact (ExpiryKey.insert_perm newKey).trans
      ((h.index.cons _).trans (List.perm_append_singleton _ _).symm)
  · exact ExpiryKey.insert_sorted newKey h.sorted
  · intro resident member
    rcases List.mem_append.1 member with member | member
    · exact h.computed resident member
    · cases List.mem_singleton.1 member
      rfl
  · rw [Pool.add, List.map_append, List.sum_append, ← h.bytes]
    rfl
  · intro resident member
    rcases List.mem_append.1 member with member | member
    · exact h.worthy resident member
    · cases List.mem_singleton.1 member
      exact worthy
  · rw [size, Pool.add, List.length_append]
    exact room

end WellFormed

section Sweeping

theorem removeAll_policy (keys : List ExpiryKey) (pool : Pool) :
    (keys.foldl (fun pool key => pool.remove key.hash) pool).policy = pool.policy := by
  induction keys generalizing pool with
  | nil => rfl
  | cons key rest ih => exact (ih _).trans (remove_policy pool key.hash)

@[simp] theorem purgeExpired_policy (pool : Pool) (now : UInt64) :
    (pool.purgeExpired now).1.policy = pool.policy := removeAll_policy _ pool

@[simp] theorem purgeExpired_rule (pool : Pool) (now : UInt64) :
    (pool.purgeExpired now).1.rule = pool.rule := by
  rw [purgeExpired]
  generalize pool.expiredKeys now = keys
  induction keys generalizing pool with
  | nil => rfl
  | cons key rest ih => exact (ih _).trans (remove_rule pool key.hash)

theorem removeAll_residents (keys : List ExpiryKey) (pool : Pool) :
    (keys.foldl (fun pool key => pool.remove key.hash) pool).residents =
      pool.residents.filter (·.hash ∉ keys.map (·.hash)) := by
  induction keys generalizing pool with
  | nil => simp
  | cons key rest ih =>
      rw [List.foldl_cons, ih, remove_residents, List.filter_filter]
      apply List.filter_congr
      intro resident _
      simp only [List.map_cons, List.mem_cons, not_or, Bool.decide_and, Bool.and_comm]

theorem WellFormed.purgeExpired_residents (h : pool.WellFormed) (now : UInt64) :
    (pool.purgeExpired now).1.residents =
      pool.residents.filter fun resident => !resident.envelope.isExpired now := by
  rw [Pool.purgeExpired, removeAll_residents, expiredKeys, ExpiryKey.takeWhile_expired h.sorted]
  apply List.filter_congr
  intro resident held
  rw [Bool.eq_iff_iff, decide_eq_true_iff, Bool.not_eq_true', ← Bool.not_eq_true, not_iff_not]
  simp only [List.mem_map, List.mem_filter, h.index.mem_iff, decide_eq_true_eq,
    Envelope.isExpired]
  constructor
  · rintro ⟨_, ⟨⟨other, otherHeld, rfl⟩, expired⟩, same⟩
    cases Resident.eq_of_hash_eq h.distinct otherHeld held same
    exact expired
  · exact fun expired => ⟨resident.key, ⟨⟨resident, held, rfl⟩, expired⟩, rfl⟩

theorem WellFormed.purgeExpired_count (h : pool.WellFormed) (now : UInt64) :
    (pool.purgeExpired now).2 + (pool.purgeExpired now).1.size = pool.size := by
  have counted : (pool.purgeExpired now).2 =
      pool.residents.countP fun resident => resident.envelope.isExpired now := by
    rw [Pool.purgeExpired, expiredKeys, ExpiryKey.takeWhile_expired h.sorted,
      ← List.countP_eq_length_filter, h.index.countP_eq, List.countP_map]
    rfl
  rw [counted, size, h.purgeExpired_residents, ← List.countP_eq_length_filter, size,
    List.length_eq_countP_add_countP fun resident => resident.envelope.isExpired now]
  congr 1
  apply List.countP_congr
  simp

/-- A sweep that frees no place changes nothing. -/
theorem WellFormed.purgeExpired_idle (h : pool.WellFormed)
    (full : pool.size ≤ (pool.purgeExpired now).1.size) : pool.purgeExpired now = (pool, 0) := by
  have count := h.purgeExpired_count now
  have none : (pool.purgeExpired now).2 = 0 := by omega
  have unexpired : pool.expiredKeys now = [] := List.length_eq_zero_iff.1 none
  rw [Pool.purgeExpired, unexpired]
  rfl

end Sweeping

end Pool

end Courier

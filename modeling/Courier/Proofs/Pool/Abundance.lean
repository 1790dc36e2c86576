import Mathlib
import Courier.Proofs.Pool.Insertion

/-! # Pools with room for everything

If a pool has room for all envelopes that are ever offered to it, and no two of them have the same
hash, then nothing is evicted: an envelope that one pool took in stays until it is expired, and
every other pool with the same policy takes it in too.
-/

namespace Courier

theorem saturatingAdd_mono {now later : UInt64} (le : now ≤ later) (skew : UInt64) :
    saturatingAdd now skew ≤ saturatingAdd later skew := by
  rw [UInt64.le_iff_toNat_le] at le ⊢
  unfold saturatingAdd
  rw [UInt64.toNat_ofNat_of_lt' (by simp [UInt64.size]),
    UInt64.toNat_ofNat_of_lt' (by simp [UInt64.size])]
  omega

namespace PoolPolicy

/-- What a policy asks of an envelope, whatever else the pool holds and apart from its expiry. -/
structure Accepts (policy : PoolPolicy) (now : UInt64) (envelope : Envelope) : Prop where
  timely : ¬ saturatingAdd now policy.maxSkew < envelope.sent
  worthy : ¬ envelope.score < policy.minScore

theorem Accepts.later {policy : PoolPolicy} {now later : UInt64} {envelope : Envelope}
    (h : policy.Accepts now envelope) (le : now ≤ later) : policy.Accepts later envelope where
  timely := fun early =>
    h.timely (UInt64.lt_of_le_of_lt (saturatingAdd_mono le policy.maxSkew) early)
  worthy := h.worthy

/-- Whether a pool has room for all envelopes of a stock, which have distinct hashes. -/
structure Ample (policy : PoolPolicy) (stock : Finset Envelope) : Prop where
  distinct : ∀ a ∈ stock, ∀ b ∈ stock, a.hash = b.hash → a = b
  room : stock.card ≤ policy.maxMessages

end PoolPolicy

namespace Pool

variable {policy : PoolPolicy} {stock : Finset Envelope} {pool : Pool} {now : UInt64}
  {envelope : Envelope}

/-- The envelopes that are held. -/
def envelopes (pool : Pool) : List Envelope := pool.residents.map (·.envelope)

theorem add_envelopes (pool : Pool) (envelope : Envelope) :
    (pool.add (.ofEnvelope envelope)).envelopes = pool.envelopes ++ [envelope] := List.map_append

theorem WellFormed.hashes_eq (h : pool.WellFormed) :
    pool.hashes = pool.envelopes.map (·.hash) := by
  rw [hashes, envelopes, List.map_map]
  exact List.map_congr_left fun resident held => h.hash_eq held

theorem WellFormed.envelopes_nodup (h : pool.WellFormed) : pool.envelopes.Nodup :=
  List.Nodup.of_map (·.hash) (h.hashes_eq ▸ h.distinct)

/-- A well-formed pool that holds only envelopes of a stock, each of which its policy accepts. -/
structure Stocked (policy : PoolPolicy) (stock : Finset Envelope) (now : UInt64)
    (pool : Pool) : Prop where
  wellFormed : pool.WellFormed
  policy_eq : pool.policy = policy
  within : ∀ envelope ∈ pool.envelopes, envelope ∈ stock
  accepted : ∀ envelope ∈ pool.envelopes, policy.Accepts now envelope

namespace Stocked

theorem empty (policy : PoolPolicy) (rule : EvictionRule) (stock : Finset Envelope)
    (now : UInt64) : Stocked policy stock now { Pool.empty policy with rule } where
  wellFormed := .empty policy rule
  policy_eq := rfl
  within := by simp [envelopes, Pool.empty]
  accepted := by simp [envelopes, Pool.empty]

theorem later {later : UInt64} (h : Stocked policy stock now pool) (le : now ≤ later) :
    Stocked policy stock later pool :=
  { h with accepted := fun envelope held => (h.accepted envelope held).later le }

theorem mem_hashes (ample : policy.Ample stock) (h : Stocked policy stock now pool)
    (inStock : envelope ∈ stock) : envelope.hash ∈ pool.hashes ↔ envelope ∈ pool.envelopes := by
  rw [h.wellFormed.hashes_eq]
  constructor
  · intro member
    obtain ⟨other, held, same⟩ := List.mem_map.1 member
    exact ample.distinct other (h.within other held) envelope inStock same ▸ held
  · exact fun held => List.mem_map_of_mem held

/-- There is room for an envelope of the stock that is not held. -/
theorem roomy (ample : policy.Ample stock) (h : Stocked policy stock now pool)
    (inStock : envelope ∈ stock) (new : envelope.hash ∉ pool.hashes) :
    pool.size < policy.maxMessages := by
  have distinct := h.wellFormed.envelopes_nodup
  have others : pool.envelopes.toFinset ⊆ stock.erase envelope := by
    intro other member
    have held := List.mem_toFinset.1 member
    refine Finset.mem_erase.2 ⟨?_, h.within other held⟩
    rintro rfl
    exact new ((h.mem_hashes ample inStock).2 held)
  have count := Finset.card_le_card others
  rw [List.toFinset_card_of_nodup distinct, Finset.card_erase_of_mem inStock, envelopes,
    List.length_map] at count
  have some := Finset.card_pos.2 ⟨envelope, inStock⟩
  have room := ample.room
  rw [size]
  omega

theorem purgeExpired_size_le (h : Stocked policy stock now pool) (time : UInt64) :
    (pool.purgeExpired time).1.size ≤ pool.size := by
  rw [size, size, h.wellFormed.purgeExpired_residents]
  exact List.length_filter_le _ _

/-- What an offer from the stock does: nothing is lost, and what the policy accepts is in. -/
theorem insert (ample : policy.Ample stock) (h : Stocked policy stock now pool)
    (inStock : envelope ∈ stock) :
    Stocked policy stock now (pool.insert now envelope).1 ∧
      (∀ other ∈ pool.envelopes, other ∈ (pool.insert now envelope).1.envelopes) ∧
      (policy.Accepts now envelope →
        envelope.isExpired now = true ∨ envelope ∈ (pool.insert now envelope).1.envelopes) := by
  have wellFormed := h.wellFormed.insert now envelope
  have inserts := insert_inserts pool now envelope
  have swept := h.purgeExpired_size_le now
  generalize (pool.insert now envelope).1 = after, (pool.insert now envelope).2 = outcome
    at inserts wellFormed ⊢
  cases inserts with
  | expired expired => exact ⟨h, fun _ held => held, fun _ => .inl expired⟩
  | fromFuture _ early =>
      refine ⟨h, fun _ held => held, fun accepts => ?_⟩
      rw [h.policy_eq] at early
      exact absurd early accepts.timely
  | duplicate _ _ held =>
      exact ⟨h, fun _ held => held, fun _ => .inr ((h.mem_hashes ample inStock).1 held)⟩
  | tooWeak _ _ _ weak =>
      refine ⟨h, fun _ held => held, fun accepts => ?_⟩
      rw [h.policy_eq] at weak
      exact absurd weak accepts.worthy
  | full admissible full =>
      have roomy := h.roomy ample inStock admissible.new
      rw [h.policy_eq] at full
      omega
  | accepted admissible made =>
      have roomy := h.roomy ample inStock admissible.new
      have accepts : policy.Accepts now envelope :=
        h.policy_eq ▸ ⟨admissible.timely, admissible.worthy⟩
      cases made with
      | swept full =>
          rw [h.policy_eq] at full
          omega
      | evicted full =>
          rw [h.policy_eq] at full
          omega
      | already =>
          rw [add_envelopes]
          refine ⟨⟨wellFormed, h.policy_eq, ?_, ?_⟩, fun _ => List.mem_append_left _,
            fun _ => .inr (List.mem_append_right _ List.mem_cons_self)⟩
          · intro other held
            rw [add_envelopes] at held
            rcases List.mem_append.1 held with old | new
            · exact h.within other old
            · exact List.mem_singleton.1 new ▸ inStock
          · intro other held
            rw [add_envelopes] at held
            rcases List.mem_append.1 held with old | new
            · exact h.accepted other old
            · exact List.mem_singleton.1 new ▸ accepts

theorem purgeExpired (h : Stocked policy stock now pool) (time : UInt64) :
    Stocked policy stock now (pool.purgeExpired time).1 ∧
      ∀ other ∈ pool.envelopes,
        other.isExpired time = true ∨ other ∈ (pool.purgeExpired time).1.envelopes := by
  have left := h.wellFormed.purgeExpired_residents time
  have fewer : ∀ other ∈ (pool.purgeExpired time).1.envelopes, other ∈ pool.envelopes := by
    intro other held
    rw [envelopes, left] at held
    exact (List.filter_sublist.map _).subset held
  refine ⟨⟨h.wellFormed.purgeExpired time, ?_, ?_, ?_⟩, ?_⟩
  · rw [purgeExpired_policy, h.policy_eq]
  · exact fun other held => h.within other (fewer other held)
  · exact fun other held => h.accepted other (fewer other held)
  · intro other held
    obtain ⟨resident, inPool, rfl⟩ := List.mem_map.1 held
    cases expired : resident.envelope.isExpired time with
    | true => exact .inl rfl
    | false =>
        right
        rw [envelopes, left]
        exact List.mem_map_of_mem (List.mem_filter.2 ⟨inPool, by rw [expired]; rfl⟩)

end Stocked

end Pool

end Courier

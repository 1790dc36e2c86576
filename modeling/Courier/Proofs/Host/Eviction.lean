import Mathlib
import Courier.Proofs.Host.Balance
import Courier.Proofs.Host.Quiescence

/-! # Evictions

An envelope that is not expired leaves a pool only when that is full, and only for a stronger one.
What was queued for a peer and is not held any more was evicted or purged before.
-/

namespace Courier

variable {Secret Public : Type}

namespace HostEvent

variable {limit : Nat} {now : UInt64} {pool after : Pool} {hash : Hash} {envelope : Envelope}
  {event : HostEvent} {past : List HostEvent}

/-- Whether as many envelopes as there is room for were accepted and not lost since. -/
def Filled (limit : Nat) (past : List HostEvent) : Prop :=
  (told acceptance past).length =
    limit + (told eviction past).length + (told purge past).length

/-- Whether all evicted envelopes left a full pool, each to a stronger one that was accepted. -/
def Crowded (limit : Nat) (past : List HostEvent) : Prop :=
  ∀ victim earlier, .evicted victim :: earlier <:+ past →
    Filled limit earlier ∧ ∃ newcomer,
      .accepted newcomer :: .evicted victim :: earlier <:+ past ∧ victim.score < newcomer.score

/-- Whether an envelope with a hash was lost. -/
def Lost (hash : Hash) (past : List HostEvent) : Prop :=
  ∃ envelope : Envelope, envelope.hash = hash ∧
    (.evicted envelope ∈ past ∨ .purged envelope ∈ past)

namespace Crowded

theorem nil : Crowded limit [] := by
  intro victim earlier suffix
  cases List.suffix_nil.1 suffix

theorem cons (h : Crowded limit past) (other : ∀ victim, event ≠ .evicted victim) :
    Crowded limit (event :: past) := by
  intro victim earlier suffix
  rcases List.suffix_cons_iff.1 suffix with here | before
  · exact absurd (List.cons.inj here).1.symm (other victim)
  · obtain ⟨filled, newcomer, suffix, stronger⟩ := h victim earlier before
    exact ⟨filled, newcomer, suffix.trans (List.suffix_cons event past), stronger⟩

theorem purge (h : Crowded limit past) (gone : List Resident) :
    Crowded limit ((gone.map fun resident => .purged resident.envelope) ++ past) := by
  induction gone with
  | nil => exact h
  | cons resident rest ih =>
      have other : ∀ victim, HostEvent.purged resident.envelope ≠ .evicted victim := nofun
      exact ih.cons other

theorem evict (h : Crowded limit past) (filled : Filled limit past) {victim newcomer : Envelope}
    (stronger : victim.score < newcomer.score) :
    Crowded limit (.accepted newcomer :: .evicted victim :: past) := by
  intro other earlier suffix
  rcases List.suffix_cons_iff.1 suffix with here | before
  · cases here
  · rcases List.suffix_cons_iff.1 before with here | before
    · cases here
      exact ⟨filled, newcomer, List.suffix_rfl, stronger⟩
    · obtain ⟨filled, newcomer', suffix, stronger⟩ := h other earlier before
      exact ⟨filled, newcomer', suffix.trans ((List.suffix_cons _ _).trans (List.suffix_cons _ _)),
        stronger⟩

end Crowded

theorem Lost.mono {later : List HostEvent} (h : Lost hash past) (more : past ⊆ later) :
    Lost hash later := by
  obtain ⟨envelope, same, gone⟩ := h
  exact ⟨envelope, same, gone.imp (@more _) (@more _)⟩

/-- What was held is held still, or its loss is written down. -/
theorem held_or_lost (h : pool.WellFormed) (held : hash ∈ pool.hashes) (now : UInt64) :
    hash ∈ after.hashes ∨ Lost hash (losses now pool after) := by
  by_cases kept : hash ∈ after.hashes
  · exact .inl kept
  · obtain ⟨resident, there, rfl⟩ := List.mem_map.1 held
    have gone : resident ∈ pool.lost after := List.mem_filter.2 ⟨there, decide_eq_true kept⟩
    have written : loss now resident ∈ losses now pool after := List.mem_map_of_mem gone
    refine .inr ⟨resident.envelope, (h.hash_eq there).symm, ?_⟩
    rw [loss] at written
    split at written
    · exact .inr written
    · exact .inl written

theorem purged_losses (purged : .purged envelope ∈ losses now pool after) :
    envelope.isExpired now = true := by
  obtain ⟨resident, -, same⟩ := List.mem_map.1 purged
  rw [loss] at same
  split at same
  · cases same
    assumption
  · cases same

theorem purged_ofMove {host : Host} {m : Move} (purged : .purged envelope ∈ ofMove now host m) :
    envelope.isExpired now = true := by
  cases m with
  | offer other source =>
      rw [ofMove_offer] at purged
      rcases List.mem_cons.1 purged with answered | lost
      · cases outcome : (host.pool.insert now other).2 <;> simp [answer, outcome] at answered
      · exact purged_losses lost
  | sweep => exact purged_losses purged
  | attach | detach | announce | fill | hear | note | flush | rewatch => cases purged

end HostEvent

namespace HostRecord

open HostEvent

variable {network : Network} {now : UInt64} {times : List UInt64} {record after : HostRecord}
  {policy : PoolPolicy} {hash : Hash} {envelope : Envelope} {m : Move}

/-- A host with some policy that keeps count and has evicted nothing without need. -/
structure Frugal (policy : PoolPolicy) (record : HostRecord) : Prop where
  balanced : record.Balanced
  policy_eq : record.host.pool.policy = policy
  crowded : Crowded policy.maxMessages record.past

namespace Frugal

theorem offer (h : record.Frugal policy) (now : UInt64) (envelope : Envelope) :
    Crowded policy.maxMessages (answer envelope (record.host.pool.insert now envelope).2 ::
      (losses now record.host.pool (record.host.pool.insert now envelope).1 ++ record.past)) := by
  cases outcome : (record.host.pool.insert now envelope).2 with
  | rejected reason =>
      rw [h.balanced.pool.insert_rejected outcome, losses_self]
      exact h.crowded.cons nofun
  | accepted hash =>
      rcases losses_insert h.balanced.pool outcome with
        none | swept | ⟨full, victim, picked, stronger, evicted⟩
      · rw [none]
        exact h.crowded.cons nofun
      · rw [swept]
        exact (h.crowded.purge _).cons nofun
      · rw [evicted]
        refine h.crowded.evict ?_ ?_
        · rw [Filled, ← h.policy_eq, ← full]
          exact h.balanced.stock
        · have held := record.host.pool.rule.pick_mem picked
          rwa [← h.balanced.pool.score_eq held]

theorem turn (h : record.Frugal policy) (turn : Turn network now record after) :
    after.Frugal policy := by
  have balanced := h.balanced.turn turn
  cases turn with
  | install | uninstall | collect => exact ⟨balanced, h.policy_eq, h.crowded.cons nofun⟩
  | move m =>
      have pool := Host.move_pool network now record.host m
      refine ⟨balanced, ?_, ?_⟩
      · rw [HostRecord.move, pool, ← h.policy_eq]
        cases m with
        | offer envelope source => exact Pool.insert_policy record.host.pool now envelope
        | sweep => exact Pool.purgeExpired_policy record.host.pool now
        | attach | detach | announce | fill | hear | note | flush | rewatch => rfl
      · rw [HostRecord.move]
        cases m with
        | offer envelope source =>
            rw [ofMove_offer]
            exact h.offer now envelope
        | sweep =>
            show Crowded _ (losses now record.host.pool (record.host.pool.purgeExpired now).1 ++ _)
            rw [losses_sweep h.balanced.pool]
            exact h.crowded.purge _
        | attach | detach | announce | fill | hear | note | flush | rewatch => exact h.crowded

theorem course (h : record.Frugal policy) (course : Course network record times after) :
    after.Frugal policy := by
  induction course with
  | rest => exact h
  | turn first _ ih => exact ih (h.turn first)

end Frugal

/-- In every run the pool evicts only what leaves it full to a stronger envelope. -/
theorem run_crowded (suite : Suite Secret Public) (network : Network) (settings : HostSettings)
    (policy : PoolPolicy) (rule : EvictionRule)
    (operations : List (UInt64 × HostOperation Secret Public)) :
    Crowded policy.maxMessages
      ((fresh settings policy rule).run suite network operations).past := by
  obtain ⟨times, course, -⟩ := run_course suite network (fresh settings policy rule) operations
  have start : (fresh settings policy rule).Frugal policy :=
    ⟨.fresh settings policy rule, rfl, .nil⟩
  exact (start.course course).crowded

theorem Turn.purged (turn : Turn network now record after)
    (purged : .purged envelope ∈ after.past) :
    .purged envelope ∈ record.past ∨ envelope.isExpired now = true := by
  cases turn with
  | move => exact (List.mem_append.1 purged).symm.imp_right purged_ofMove
  | install | uninstall | collect => exact .inl ((List.mem_cons.1 purged).resolve_left nofun)

theorem Course.purged (course : Course network record times after)
    (past : ∀ time ∈ times, time ≤ now) (purged : .purged envelope ∈ after.past) :
    .purged envelope ∈ record.past ∨ envelope.isExpired now = true := by
  induction course with
  | rest => exact .inl purged
  | turn first _ ih =>
      obtain ⟨le, past⟩ := List.forall_mem_cons.1 past
      rcases ih past purged with before | expired
      · exact (first.purged before).imp_right (Envelope.isExpired_mono le)
      · exact .inr expired

/-- What was purged in a run is expired at its end. -/
theorem run_purged (suite : Suite Secret Public) (network : Network) (settings : HostSettings)
    (policy : PoolPolicy) (rule : EvictionRule)
    {operations : List (UInt64 × HostOperation Secret Public)}
    (past : ∀ reading ∈ Host.readings operations, reading ≤ now)
    (purged : .purged envelope ∈ ((fresh settings policy rule).run suite network operations).past) :
    envelope.isExpired now = true := by
  obtain ⟨times, course, read, -⟩ :=
    run_course suite network (fresh settings policy rule) operations
  exact (course.purged (fun time member => past time (read time member)) purged).resolve_left
    List.not_mem_nil

theorem move_held_or_lost (wellFormed : record.host.pool.WellFormed) (network : Network)
    (now : UInt64) (m : Move) (held : hash ∈ record.host.pool.hashes) :
    hash ∈ (record.move network now m).host.pool.hashes ∨
      Lost hash (record.move network now m).past := by
  rw [HostRecord.move, Host.move_pool]
  cases m with
  | offer envelope source =>
      rw [ofMove_offer]
      refine (held_or_lost wellFormed held now).imp_right fun lost => lost.mono ?_
      exact List.subset_append_of_subset_left _ (List.subset_cons_self _ _)
  | sweep =>
      exact (held_or_lost wellFormed held now).imp_right fun lost =>
        lost.mono (List.subset_append_left _ _)
  | attach | detach | announce | fill | hear | note | flush | rewatch => exact .inl held

end HostRecord

namespace Session

open HostEvent (Lost)

variable {network : Network} {now : UInt64} {session : Session} {peer : PeerId}
  {record : HostRecord} {m : Move} {suite : Suite Secret Public}

/-- Whatever was queued for a peer is held or was lost, and was lost if it left the queue for want
of its envelope. -/
structure Explained (session : Session) (peer : PeerId) (record : HostRecord) : Prop where
  wellFormed : record.host.pool.WellFormed
  waiting : ∀ hash ∈ record.host.queueFor peer, hash ∈ session.queued
  queued : ∀ hash ∈ session.queued,
    hash ∈ record.host.pool.hashes ∨ Lost hash record.past
  gone : ∀ hash ∈ session.gone, Lost hash record.past

namespace Explained

theorem blank (wellFormed : record.host.pool.WellFormed)
    (idle : record.host.queueFor peer = []) : Session.blank.Explained peer record where
  wellFormed := wellFormed
  waiting := by simp [idle]
  queued := nofun
  gone := nofun

theorem lost_of_missing (h : session.Explained peer record) {hash : Hash}
    (waiting : hash ∈ record.host.queueFor peer) (missing : record.host.pool.lookup hash = none) :
    Lost hash record.past := by
  refine (h.queued hash (h.waiting hash waiting)).resolve_left fun held => ?_
  have contains := Pool.contains_iff.2 held
  rw [Pool.contains, ← Option.isSome_map, ← Pool.lookup, missing] at contains
  cases contains

theorem move (h : session.Explained peer record) (network : Network) (now : UInt64)
    (inner : ∀ hash source, m ≠ .note hash source) :
    (session.next peer now record.host m (record.move network now m).host).Explained peer
      (record.move network now m) := by
  have wellFormed := Host.move_wellFormed h.wellFormed network now m
  have older : record.past ⊆ (record.move network now m).past := List.subset_append_right _ _
  have queued : ∀ hash ∈ session.queued, hash ∈ (record.move network now m).host.pool.hashes ∨
      Lost hash (record.move network now m).past := by
    intro hash member
    rcases h.queued hash member with held | lost
    · exact HostRecord.move_held_or_lost h.wellFormed network now m held
    · exact .inr (lost.mono older)
  have gone : ∀ hash ∈ session.gone, Lost hash (record.move network now m).past :=
    fun hash member => (h.gone hash member).mono older
  rcases session.next_cases peer record.host network now m with
    ⟨ended, new⟩ | ⟨rfl, state, connected⟩ |
      ⟨-, state, after, added, connected, connected', grows, held, next⟩
  · exact ended ▸ blank wellFormed (Host.queueFor_of_new new)
  · have emptied := Host.move_flush_idle network now record.host peer
    rw [HostRecord.move, next_flush connected]
    refine ⟨wellFormed, by simp [emptied], queued, fun hash member => ?_⟩
    rcases List.mem_append.1 member with old | new
    · exact gone hash old
    · obtain ⟨left, missing⟩ := List.mem_filter.1 new
      rw [← Host.queueFor_of_peer? connected] at left
      exact (h.lost_of_missing left (Option.isNone_iff_eq_none.1 missing)).mono older
  · have waiting := h.waiting
    rw [Host.queueFor_of_peer? connected] at waiting
    rw [HostRecord.move, next]
    refine ⟨wellFormed, ?_, ?_, gone⟩
    · rw [Host.queueFor_of_peer? connected', grows.queue]
      exact fun hash member => List.mem_append.2 <|
        (List.mem_append.1 member).imp_left (waiting hash)
    · intro hash member
      rcases List.mem_append.1 member with old | new
      · exact queued hash old
      · refine .inl ((held hash new).resolve_left ?_)
        rintro ⟨source, noted⟩
        exact inner hash source noted

theorem moves (h : session.Explained peer record) (network : Network) (clock : Move → UInt64)
    {moves : List Move} (inner : ∀ m ∈ moves, ∀ hash source, m ≠ .note hash source) :
    (Host.followMoves network clock peer record.host session moves).2.Explained peer
      (record.moveAll network clock moves) := by
  induction moves generalizing record session with
  | nil => exact h
  | cons m rest ih =>
      exact ih (h.move network (clock m) (inner m List.mem_cons_self))
        fun m member => inner m (List.mem_cons_of_mem _ member)

theorem perform (h : session.Explained peer record) (suite : Suite Secret Public)
    (network : Network) (now : UInt64) {operation : HostOperation Secret Public}
    (prompt : operation.Prompt) :
    (Host.followMoves network (operation.clock now) peer record.host session
      (record.host.movesOf suite now operation)).2.Explained peer
        (record.perform suite network now operation) := by
  have moved := h.moves network (operation.clock now)
    fun m (member : m ∈ record.host.movesOf suite now operation) =>
      Host.ne_note_of_mem_movesOf prompt member
  have older := List.subset_append_right (HostEvent.ofOperation record.host operation)
    (record.moveAll network (operation.clock now) (record.host.movesOf suite now operation)).past
  exact ⟨moved.wellFormed, moved.waiting,
    fun hash member => (moved.queued hash member).imp_right (·.mono older),
    fun hash member => (moved.gone hash member).mono older⟩

theorem run (h : session.Explained peer record) (suite : Suite Secret Public) (network : Network)
    {operations : List (UInt64 × HostOperation Secret Public)}
    (prompt : ∀ operation ∈ operations.map (·.2), operation.Prompt) :
    (Host.follow suite network peer record.host session operations).2.Explained peer
      (record.run suite network operations) := by
  induction operations generalizing record session with
  | nil => exact h
  | cons first rest ih =>
      obtain ⟨now, operation⟩ := first
      have step := ih (h.perform suite network now (prompt operation List.mem_cons_self))
        fun operation member => prompt operation (List.mem_cons_of_mem _ member)
      rw [HostRecord.perform_host, Host.perform_eq, ← Host.followMoves_fst network _ peer
        record.host session] at step
      exact step

end Explained

end Session

end Courier

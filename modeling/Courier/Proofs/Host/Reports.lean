import Mathlib
import Courier.Proofs.Host.Eviction
import Courier.Proofs.Host.Completeness

/-! # What a watch reports

While a watch is installed it reports every accepted envelope that its mask fits, and nothing else.
It reports an envelope again only if that was handed out and comes back, and no envelope comes
back that was not evicted.
-/

namespace Courier

variable {Secret Public : Type}

namespace HostEvent

variable {id : Nat} {mask : TopicMask} {hash : Hash} {envelope : Envelope} {event : HostEvent}
  {past seen : List HostEvent} {pending : List Hash} {now : UInt64}

/-! ## What comes back to the pool -/

/-- Whether an envelope was accepted and not evicted since. -/
def Standing (envelope : Envelope) : List HostEvent → Prop
  | [] => False
  | .accepted other :: past => envelope = other ∨ Standing envelope past
  | .evicted other :: past => envelope ≠ other ∧ Standing envelope past
  | .refused .. :: past | .purged _ :: past | .installed .. :: past | .uninstalled .. :: past
  | .collected .. :: past => Standing envelope past

/-- No envelope is accepted while it stands. -/
def Apart : List HostEvent → Prop
  | [] => True
  | .accepted envelope :: past => ¬ Standing envelope past ∧ Apart past
  | .refused .. :: past | .purged _ :: past | .evicted _ :: past | .installed .. :: past
  | .uninstalled .. :: past | .collected .. :: past => Apart past

theorem standing_losses (now : UInt64) (gone : List Resident) :
    Standing envelope (gone.map (loss now) ++ past) ↔
      .evicted envelope ∉ gone.map (loss now) ∧ Standing envelope past := by
  induction gone with
  | nil => simp
  | cons resident rest ih =>
      rw [List.map_cons, List.cons_append, List.mem_cons, not_or, and_assoc, ← ih, loss]
      split
      · simp [Standing]
      · simp [Standing]

theorem apart_losses (now : UInt64) (gone : List Resident) :
    Apart (gone.map (loss now) ++ past) ↔ Apart past := by
  induction gone with
  | nil => rfl
  | cons resident rest ih =>
      rw [List.map_cons, List.cons_append, ← ih, loss]
      split <;> rfl

theorem Standing.of_accepted {middle first : List HostEvent}
    (kept : .evicted envelope ∉ middle) :
    Standing envelope (middle ++ .accepted envelope :: first) := by
  induction middle with
  | nil => exact .inl rfl
  | cons event rest ih =>
      obtain ⟨other, kept⟩ := not_or.1 (mt List.mem_cons.2 kept)
      have standing := ih kept
      cases event with
      | accepted => exact .inr standing
      | evicted => exact ⟨fun same => other (same ▸ rfl), standing⟩
      | refused | purged | installed | uninstalled | collected => exact standing

/-- Between two acceptances of an envelope lies its eviction. -/
theorem Apart.evicted {later middle first : List HostEvent}
    (apart : Apart (later ++ .accepted envelope :: (middle ++ .accepted envelope :: first))) :
    .evicted envelope ∈ middle := by
  have fallen : ¬ Standing envelope (middle ++ .accepted envelope :: first) := by
    induction later with
    | nil => exact apart.1
    | cons event rest ih =>
        cases event with
        | accepted => exact ih apart.2
        | refused | purged | evicted | installed | uninstalled | collected => exact ih apart
  by_contra kept
  exact fallen (.of_accepted kept)

/-- An envelope that stands is in the pool or expired, and none is accepted while it stands. -/
structure Remembers (now : UInt64) (pool : Pool) (past : List HostEvent) : Prop where
  wellFormed : pool.WellFormed
  held : ∀ envelope, Standing envelope past →
    .ofEnvelope envelope ∈ pool.residents ∨ envelope.isExpired now = true
  apart : Apart past

namespace Remembers

variable {pool after : Pool} {later : UInt64}

theorem tick (h : Remembers now pool past) (le : now ≤ later) : Remembers later pool past where
  wellFormed := h.wellFormed
  held := fun envelope standing => (h.held envelope standing).imp_right (Envelope.isExpired_mono le)
  apart := h.apart

theorem skip (h : Remembers now pool past)
    (standing : ∀ envelope, Standing envelope (event :: past) → Standing envelope past)
    (apart : Apart past → Apart (event :: past)) : Remembers now pool (event :: past) where
  wellFormed := h.wellFormed
  held := fun envelope still => h.held envelope (standing envelope still)
  apart := apart h.apart

/-- What still stands when the pool has changed is in it or expired: a resident that is gone
without being expired was evicted. -/
theorem held_of_losses (h : Remembers now pool past)
    (old : ∀ other ∈ after.residents, other ∈ pool.residents ∨ other.hash ∉ pool.hashes)
    (standing : Standing envelope (losses now pool after ++ past)) :
    .ofEnvelope envelope ∈ after.residents ∨ envelope.isExpired now = true := by
  obtain ⟨kept, before⟩ := (standing_losses now _).1 standing
  rcases h.held envelope before with there | expired
  · rcases Pool.mem_or_lost h.wellFormed.distinct there old with still | gone
    · exact .inl still
    · by_contra neither
      have live : ¬ (Resident.ofEnvelope envelope).envelope.isExpired now = true :=
        (not_or.1 neither).2
      exact kept (List.mem_map.2 ⟨_, gone, if_neg live⟩)
  · exact .inr expired

theorem sweep (h : Remembers now pool past) :
    Remembers now (pool.purgeExpired now).1
      (losses now pool (pool.purgeExpired now).1 ++ past) where
  wellFormed := h.wellFormed.purgeExpired now
  held := fun envelope standing => by
    refine h.held_of_losses (fun other member => .inl ?_) standing
    rw [h.wellFormed.purgeExpired_residents] at member
    exact List.mem_of_mem_filter member
  apart := (apart_losses now _).2 h.apart

theorem offer (h : Remembers now pool past) (envelope : Envelope) :
    Remembers now (pool.insert now envelope).1
      (answer envelope (pool.insert now envelope).2 ::
        (losses now pool (pool.insert now envelope).1 ++ past)) := by
  cases outcome : (pool.insert now envelope).2 with
  | rejected reason =>
      rw [h.wellFormed.insert_rejected outcome, losses_self]
      exact h.skip (fun _ => id) id
  | accepted hash =>
      have admissible := Pool.insert_admissible outcome
      have old : ∀ other ∈ (pool.insert now envelope).1.residents,
          other ∈ pool.residents ∨ other.hash ∉ pool.hashes := by
        intro other member
        refine (Pool.mem_insert_residents h.wellFormed member).imp_right ?_
        rintro ⟨rfl, -⟩
        exact admissible.new
      refine ⟨h.wellFormed.insert now envelope, ?_, ?_, (apart_losses now _).2 h.apart⟩
      · rintro other (rfl | standing)
        · exact .inl (Pool.mem_residents_of_accepted outcome)
        · exact h.held_of_losses old standing
      · -- the newcomer was neither held before nor is it expired
        intro standing
        rcases h.held envelope ((standing_losses now _).1 standing).2 with there | expired
        · exact admissible.new (List.mem_map_of_mem there)
        · cases admissible.live.symm.trans expired

end Remembers

/-! ## What a watch is told -/

/-- Whether a watch with a number is installed by an event. -/
def begins (id : Nat) : HostEvent → Bool
  | .installed new _ => new = id
  | .accepted _ | .refused _ _ | .purged _ | .evicted _ | .uninstalled _ _ | .collected _ _ => false

/-- What has happened since the watch with a number was installed. -/
def since (id : Nat) (past : List HostEvent) : List HostEvent :=
  past.takeWhile fun event => !event.begins id

/-- The accepted envelopes that a mask fits, in their order. -/
def wanted (mask : TopicMask) (seen : List HostEvent) : List Envelope :=
  (told acceptance seen).filter (mask.matchesTopics ·.topics)

/-- Whether a hash was accepted for a watch after it had been handed out there. -/
def Returns (id : Nat) (mask : TopicMask) (hash : Hash) (seen : List HostEvent) : Prop :=
  ∃ later envelope earlier, seen = later ++ .accepted envelope :: earlier ∧
    mask.matchesTopics envelope.topics = true ∧ envelope.hash = hash ∧
    hash ∈ told (collectionOf id) earlier

theorem since_cons (other : event.begins id = false) :
    since id (event :: past) = event :: since id past := by
  rw [since, List.takeWhile_cons_of_pos (by simpa using other), since]

theorem wanted_cons (mask : TopicMask) (event : HostEvent) (seen : List HostEvent) :
    wanted mask (event :: seen) =
      wanted mask seen ++ event.acceptance.filter (mask.matchesTopics ·.topics) := by
  rw [wanted, told_cons, List.filter_append, wanted]

theorem wanted_accepted (fits : mask.matchesTopics envelope.topics = true)
    (seen : List HostEvent) :
    wanted mask (.accepted envelope :: seen) = wanted mask seen ++ [envelope] := by
  simp [wanted_cons, acceptance, fits]

theorem returns_cons : Returns id mask hash (event :: seen) ↔
    (∃ envelope, event = .accepted envelope ∧ mask.matchesTopics envelope.topics = true ∧
      envelope.hash = hash ∧ hash ∈ told (collectionOf id) seen) ∨ Returns id mask hash seen := by
  constructor
  · rintro ⟨later, envelope, earlier, split, rest⟩
    rcases List.cons_eq_append_iff.1 split with ⟨rfl, same⟩ | ⟨later, rfl, rfl⟩
    · obtain ⟨rfl, rfl⟩ := List.cons.inj same
      exact .inl ⟨envelope, rfl, rest⟩
    · exact .inr ⟨later, envelope, earlier, rfl, rest⟩
  · rintro (⟨envelope, rfl, rest⟩ | ⟨later, envelope, earlier, rfl, rest⟩)
    · exact ⟨[], envelope, seen, rfl, rest⟩
    · exact ⟨event :: later, envelope, earlier, rfl, rest⟩

/-- What a watch has handed out and what waits there are the hashes of the envelopes that it is to
report, and a hash is among them twice exactly if it came in again after it was handed out. -/
structure Tells (id : Nat) (mask : TopicMask) (seen : List HostEvent) (pending : List Hash) :
    Prop where
  order : (told (collectionOf id) seen ++ pending).Sublist ((wanted mask seen).map (·.hash))
  heard : ∀ envelope ∈ wanted mask seen, envelope.hash ∈ told (collectionOf id) seen ++ pending
  again : ∀ hash, 2 ≤ (told (collectionOf id) seen ++ pending).count hash ↔
    Returns id mask hash seen

namespace Tells

theorem start (id : Nat) (mask : TopicMask) : Tells id mask [] [] where
  order := List.Sublist.refl _
  heard := by simp [wanted]
  again := by simp [Returns]

theorem idle {waiting : List Hash} (h : Tells id mask seen pending)
    (unwanted : event.acceptance.filter (mask.matchesTopics ·.topics) = [])
    (moved : event.collectionOf id ++ waiting = pending) :
    Tells id mask (event :: seen) waiting := by
  have wanted : wanted mask (event :: seen) = wanted mask seen := by
    rw [wanted_cons, unwanted, List.append_nil]
  have reported : told (collectionOf id) (event :: seen) ++ waiting =
      told (collectionOf id) seen ++ pending := by
    rw [told_cons, List.append_assoc, moved]
  refine ⟨?_, ?_, fun hash => ?_⟩
  · rw [wanted, reported]
    exact h.order
  · rw [wanted, reported]
    exact h.heard
  · rw [reported, h.again, returns_cons, or_iff_right]
    rintro ⟨envelope, rfl, fits, -⟩
    simp [acceptance, fits] at unwanted

/-- A hash that waits is not told again. -/
theorem accepted_waiting (h : Tells id mask seen pending)
    (fits : mask.matchesTopics envelope.topics = true) (waits : envelope.hash ∈ pending) :
    Tells id mask (.accepted envelope :: seen) pending := by
  have reported : told (collectionOf id) (.accepted envelope :: seen) ++ pending =
      told (collectionOf id) seen ++ pending := by
    rw [told_cons, collectionOf, List.append_nil]
  refine ⟨?_, ?_, fun hash => ?_⟩
  · rw [reported, wanted_accepted fits, List.map_append]
    exact h.order.trans (List.sublist_append_left _ _)
  · rw [reported, wanted_accepted fits]
    intro other member
    rcases List.mem_append.1 member with old | last
    · exact h.heard other old
    · rw [List.mem_singleton.1 last]
      exact List.mem_append_right _ waits
  · rw [reported, h.again, returns_cons, or_iff_right_of_imp]
    -- what waits after it was handed out had come in again already
    rintro ⟨other, event, -, rfl, handed⟩
    cases event
    have once := List.count_pos_iff.2 handed
    have twice := List.count_pos_iff.2 waits
    rw [← h.again, List.count_append]
    omega

/-- A hash that does not wait is told, for the first time or because it was handed out before. -/
theorem accepted_new (h : Tells id mask seen pending)
    (fits : mask.matchesTopics envelope.topics = true) (new : envelope.hash ∉ pending) :
    Tells id mask (.accepted envelope :: seen) (pending ++ [envelope.hash]) := by
  have reported : told (collectionOf id) (.accepted envelope :: seen) ++
      (pending ++ [envelope.hash]) = told (collectionOf id) seen ++ pending ++ [envelope.hash] := by
    rw [told_cons, collectionOf, List.append_nil, List.append_assoc]
  refine ⟨?_, ?_, fun hash => ?_⟩
  · rw [reported, wanted_accepted fits, List.map_append]
    exact h.order.append (List.Sublist.refl _)
  · rw [reported, wanted_accepted fits]
    intro other member
    rcases List.mem_append.1 member with old | last
    · exact List.mem_append_left _ (h.heard other old)
    · rw [List.mem_singleton.1 last]
      exact List.mem_append_right _ List.mem_cons_self
  · rw [reported, returns_cons, ← h.again, List.count_append]
    by_cases here : envelope.hash = hash
    · subst here
      have waiting : pending.count envelope.hash = 0 := List.count_eq_zero.2 new
      simp only [accepted.injEq, exists_eq_left', fits, true_and, ← List.count_pos_iff,
        List.count_append, waiting, List.count_singleton_self]
      omega
    · simp [here]

end Tells

/-- The past of a host says of every installed watch how it began, and it tells what came of it. -/
structure Attentive (watches : WatchRegistry) (past : List HostEvent) : Prop where
  wellFormed : watches.WellFormed
  begun : ∀ id watch, watches.find? id = some watch →
    ∃ before, past = since id past ++ .installed id watch.mask :: before
  tells : ∀ id watch, watches.find? id = some watch →
    Tells id watch.mask (since id past) watch.pending

namespace Attentive

variable {watches after : WatchRegistry}

theorem empty : Attentive .empty [] where
  wellFormed := .empty
  begun := by simp [WatchRegistry.find?, WatchRegistry.empty]
  tells := by simp [WatchRegistry.find?, WatchRegistry.empty]

theorem cons (h : Attentive watches past) (wellFormed : after.WellFormed)
    (each : ∀ id watch, after.find? id = some watch →
      (event = .installed id watch.mask ∧ watch.pending = []) ∨
      (event.begins id = false ∧ ∃ old, watches.find? id = some old ∧ old.mask = watch.mask ∧
        (Tells id old.mask (since id past) old.pending →
          Tells id old.mask (event :: since id past) watch.pending))) :
    Attentive after (event :: past) := by
  refine ⟨wellFormed, fun id watch found => ?_, fun id watch found => ?_⟩
  · rcases each id watch found with ⟨rfl, -⟩ | ⟨other, old, before, mask, -⟩
    · exact ⟨past, by simp [since, begins]⟩
    · obtain ⟨first, begun⟩ := h.begun id old before
      refine ⟨first, ?_⟩
      rw [since_cons other, List.cons_append, ← mask, ← begun]
  · rcases each id watch found with ⟨rfl, none⟩ | ⟨other, old, before, mask, told⟩
    · have unseen : since id (.installed id watch.mask :: past) = [] := by simp [since, begins]
      rw [unseen, none]
      exact .start id watch.mask
    · rw [since_cons other, ← mask]
      exact told (h.tells id old before)

theorem idle (h : Attentive watches past) (other : ∀ id, event.begins id = false)
    (silent : event.acceptance = []) (unmoved : ∀ id, event.collectionOf id = []) :
    Attentive watches (event :: past) :=
  h.cons h.wellFormed fun id watch found => .inr ⟨other id, watch, found, rfl, fun told =>
    told.idle (by rw [silent, List.filter_nil]) (by rw [unmoved id, List.nil_append])⟩

theorem losses (h : Attentive watches past) (now : UInt64) (gone : List Resident) :
    Attentive watches (gone.map (loss now) ++ past) := by
  induction gone with
  | nil => exact h
  | cons resident rest ih =>
      rw [List.map_cons, List.cons_append, loss]
      split
      · exact ih.idle (fun _ => rfl) rfl fun _ => rfl
      · exact ih.idle (fun _ => rfl) rfl fun _ => rfl

theorem accepted (h : Attentive watches past) (envelope : Envelope) :
    Attentive (watches.notify envelope.hash envelope.topics).1 (.accepted envelope :: past) := by
  refine h.cons (h.wellFormed.notify _ _) fun id watch found => .inr ⟨rfl, ?_⟩
  rw [WatchRegistry.notify_find?] at found
  obtain ⟨old, before, rfl⟩ := Option.map_eq_some_iff.1 found
  have wellFormed := h.wellFormed.each id old before
  refine ⟨old, before, (old.offer_mask _ _).symm, fun told => ?_⟩
  rw [wellFormed.offer_pending]
  by_cases fits : old.mask.matchesTopics envelope.topics = true
  · by_cases waits : envelope.hash ∈ old.pending
    · rw [if_neg fun takes => takes.2 waits, List.append_nil]
      exact told.accepted_waiting fits waits
    · rw [if_pos ⟨fits, waits⟩]
      exact told.accepted_new fits waits
  · rw [if_neg fun takes => fits takes.1, List.append_nil]
    exact told.idle (by simp [acceptance, fits]) rfl

theorem install (h : Attentive watches past) (mask : TopicMask) :
    Attentive (watches.install mask).1 (.installed watches.nextId mask :: past) := by
  refine h.cons (h.wellFormed.install mask) fun id watch found => ?_
  rw [h.wellFormed.install_find?] at found
  split at found
  · rename_i new
    cases found
    exact .inl ⟨new ▸ rfl, rfl⟩
  · have other : watches.nextId ≠ id := (h.wellFormed.lt_nextId found).ne'
    exact .inr ⟨decide_eq_false other, watch, found, rfl, fun told => told.idle rfl rfl⟩

theorem uninstall (h : Attentive watches past) (removed : watches.uninstall id = .ok after)
    (waiting : List Hash) : Attentive after (.uninstalled id waiting :: past) := by
  refine h.cons (h.wellFormed.uninstall removed) fun other watch found => ?_
  rw [WatchRegistry.uninstall_find? removed] at found
  split at found
  · cases found
  · exact .inr ⟨rfl, watch, found, rfl, fun told => told.idle rfl rfl⟩

theorem collect (h : Attentive watches past)
    (drained : watches.drain id = .ok (after, watches.pendingAt id)) :
    Attentive after (.collected id (watches.pendingAt id) :: past) := by
  refine h.cons (h.wellFormed.drain drained) fun other watch found => .inr ⟨rfl, ?_⟩
  rw [WatchRegistry.drain_find? drained] at found
  obtain ⟨old, before, rfl⟩ := Option.map_eq_some_iff.1 found
  by_cases here : other = id
  · subst here
    refine ⟨old, before, by simp [Watch.takePending], fun told => told.idle rfl ?_⟩
    simp [collectionOf, Watch.takePending, WatchRegistry.pendingAt_of_find? before]
  · refine ⟨old, before, by rw [if_neg here], fun told => told.idle rfl ?_⟩
    rw [if_neg here, collectionOf, if_neg (Ne.symm here), List.nil_append]

end Attentive

end HostEvent

namespace HostRecord

open HostEvent

variable {suite : Suite Secret Public} {network : Network} {now later : UInt64}
  {record after : HostRecord}

/-- What is known of a record at some second. -/
structure Sound (now : UInt64) (record : HostRecord) : Prop where
  remembers : Remembers now record.host.pool record.past
  attentive : Attentive record.host.watches record.past

theorem Sound.fresh (settings : HostSettings) (policy : PoolPolicy) (rule : EvictionRule)
    (now : UInt64) : (fresh settings policy rule).Sound now where
  remembers := ⟨.empty policy rule, fun _ standing => standing.elim, trivial⟩
  attentive := .empty

theorem Sound.move (h : record.Sound now) (network : Network) {m : Move}
    (plain : ∀ watches, m ≠ .rewatch watches) : (record.move network now m).Sound now := by
  have pool := Host.move_pool network now record.host m
  have watches := Host.move_watches network now record.host m
  refine ⟨?_, ?_⟩
  · show Remembers now (record.host.move network now m).pool
      (ofMove now record.host m ++ record.past)
    rw [pool]
    cases m with
    | offer envelope source =>
        rw [ofMove_offer]
        exact h.remembers.offer envelope
    | sweep => exact h.remembers.sweep
    | attach | detach | announce | fill | hear | note | flush | rewatch => exact h.remembers
  · show Attentive (record.host.move network now m).watches
      (ofMove now record.host m ++ record.past)
    rw [watches]
    cases m with
    | offer envelope source =>
        have before := h.attentive.losses now
          (record.host.pool.lost (record.host.pool.insert now envelope).1)
        rw [ofMove_offer]
        cases outcome : (record.host.pool.insert now envelope).2 with
        | accepted hash =>
            cases Pool.insert_accepted outcome
            simp only [outcome]
            exact before.accepted envelope
        | rejected reason =>
            simp only [outcome]
            exact before.idle (fun _ => rfl) rfl fun _ => rfl
    | sweep => exact h.attentive.losses now _
    | rewatch given => exact absurd rfl (plain given)
    | attach | detach | announce | fill | hear | note | flush => exact h.attentive

theorem Sound.turn (h : record.Sound now) (turn : Turn network now record after) :
    after.Sound now := by
  cases turn with
  | move m plain => exact h.move network plain
  | install mask =>
      exact ⟨h.remembers.skip (fun _ standing => standing) fun apart => apart,
        h.attentive.install mask⟩
  | uninstall id watches removed =>
      exact ⟨h.remembers.skip (fun _ standing => standing) fun apart => apart,
        h.attentive.uninstall removed _⟩
  | collect id watches drained =>
      exact ⟨h.remembers.skip (fun _ standing => standing) fun apart => apart,
        h.attentive.collect drained⟩

theorem Sound.course {times : List UInt64} (course : Course network record times after)
    (orderly : (now :: times).Pairwise (· ≤ ·)) (h : record.Sound now) :
    ∃ last, after.Sound last := by
  induction course generalizing now with
  | rest => exact ⟨now, h⟩
  | @turn time times record middle after first _ ih =>
      obtain ⟨le, orderly⟩ := List.pairwise_cons.1 orderly
      have ticked : record.Sound time :=
        ⟨h.remembers.tick (le time List.mem_cons_self), h.attentive⟩
      exact ih orderly (ticked.turn first)

/-- Under a clock that does not go back, an installed watch reports all accepted envelopes that its
mask fits and nothing else, each of them once, unless that was handed out, evicted unexpired from a
full pool and accepted again. -/
theorem run_reports (suite : Suite Secret Public) (network : Network) (settings : HostSettings)
    (policy : PoolPolicy) (rule : EvictionRule)
    (operations : List (UInt64 × HostOperation Secret Public)) (id : Nat) (mask : TopicMask)
    (orderly : (Host.readings operations).Pairwise (· ≤ ·))
    (installed : ((Host.fresh settings policy rule).run suite network operations).watches.mask id =
      .ok mask) :
    let record := (fresh settings policy rule).run suite network operations
    let seen := since id record.past
    let reports := told (collectionOf id) seen ++ record.host.watches.pendingAt id
    (∃ before, record.past = seen ++ .installed id mask :: before) ∧
    reports.Sublist ((wanted mask seen).map (·.hash)) ∧
    (∀ envelope ∈ wanted mask seen, envelope.hash ∈ reports) ∧
    (∀ envelope ∈ wanted mask seen,
      reports.count envelope.hash = 1 ↔ ¬ Returns id mask envelope.hash seen) ∧
    (∀ envelope later middle first,
      seen = later ++ .accepted envelope :: (middle ++ .accepted envelope :: first) →
      .evicted envelope ∈ middle) ∧
    Crowded policy.maxMessages record.past := by
  intro record seen reports
  obtain ⟨times, course, -, sorted⟩ :=
    run_course suite network (fresh settings policy rule) operations
  obtain ⟨last, sound⟩ : ∃ last, record.Sound last :=
    Sound.course course (List.pairwise_cons.2 ⟨fun _ _ => UInt64.zero_le, sorted orderly⟩)
      (.fresh settings policy rule 0)
  have there : record.host.watches.mask id = .ok mask := by
    rw [run_host]
    exact installed
  obtain ⟨watch, found, rfl⟩ := WatchRegistry.mask_eq_ok.1 there
  obtain ⟨before, begun⟩ := sound.attentive.begun id watch found
  have tells : Tells id watch.mask seen (record.host.watches.pendingAt id) := by
    rw [WatchRegistry.pendingAt_of_find? found]
    exact sound.attentive.tells id watch found
  refine ⟨⟨before, begun⟩, tells.order, tells.heard, ?_, ?_,
    run_crowded suite network settings policy rule operations⟩
  · intro envelope member
    have once : 0 < reports.count envelope.hash :=
      List.count_pos_iff.2 (tells.heard envelope member)
    have twice : 2 ≤ reports.count envelope.hash ↔ Returns id watch.mask envelope.hash seen :=
      tells.again envelope.hash
    rw [← twice]
    omega
  · intro envelope later middle first split
    have apart := sound.remembers.apart
    rw [begun, show since id record.past = seen from rfl, split, List.append_assoc,
      List.cons_append, List.append_assoc, List.cons_append] at apart
    exact apart.evicted

section Revisiting

/-- A watch for envelopes without topics is installed at a host that has room for one envelope. The
lasting one comes and is collected, the fleeting one takes its place, and when that is expired the
lasting one comes again. -/
def revisitingRun : List (UInt64 × HostOperation Secp256k1.SecretKey Secp256k1.PublicKey) :=
  [(100, .installWatch (.exact [])), (100, .connect (Octets.ofNat 2)),
    (100, .receive (Octets.ofNat 2) (Packet.messages [Host.lasting]).encode), (100, .checkWatch 0),
    (100, .receive (Octets.ofNat 2) (Packet.messages [Host.fleeting]).encode),
    (125, .receive (Octets.ofNat 2) (Packet.messages [Host.lasting]).encode), (125, .checkWatch 0)]

/-- An envelope that was collected, evicted and accepted again is reported twice. -/
theorem revisit_reports_twice :
    let record := (fresh .standard ⟨1, 0, 30⟩ .leastHash).run .standard .reliable revisitingRun
    let seen := since 0 record.past
    (Host.readings revisitingRun).Pairwise (· ≤ ·) ∧
    record.host.watches.mask 0 = .ok (.exact []) ∧
    Host.lasting ∈ wanted (.exact []) seen ∧
    (told (collectionOf 0) seen ++ record.host.watches.pendingAt 0).count Host.lasting.hash =
      2 := by
  decide +kernel

theorem run_reports_revisit :
    let host := (Host.fresh .standard ⟨1, 0, 30⟩ .leastHash).run .standard .reliable revisitingRun
    let record := (fresh .standard ⟨1, 0, 30⟩ .leastHash).run .standard .reliable revisitingRun
    let seen := since 0 record.past
    let reports := told (collectionOf 0) seen ++ record.host.watches.pendingAt 0
    (Host.readings revisitingRun).Pairwise (· ≤ ·) ∧
    host.watches.mask 0 = .ok (.exact []) ∧
    Host.fleeting ∈ wanted (.exact []) seen ∧
    (reports.count Host.fleeting.hash = 1 ↔ ¬ Returns 0 (.exact []) Host.fleeting.hash seen) := by
  intro host record seen reports
  have orderly : (Host.readings revisitingRun).Pairwise (· ≤ ·) := by decide +kernel
  -- one evaluation of the run for both
  have reached : record.host.watches.mask 0 = .ok (.exact []) ∧
      Host.fleeting ∈ wanted (.exact []) seen := by
    decide +kernel
  obtain ⟨installed, member⟩ := reached
  rw [run_host] at installed
  obtain ⟨-, -, -, once, -⟩ := run_reports .standard .reliable .standard ⟨1, 0, 30⟩ .leastHash
    revisitingRun 0 (.exact []) orderly installed
  exact ⟨orderly, installed, member, once _ member⟩

end Revisiting

end HostRecord

end Courier

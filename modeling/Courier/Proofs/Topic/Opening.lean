import Mathlib
import Courier.Proofs.Message
import Courier.Proofs.Topic.Mask

/-! # What a mask finds can be opened

A mask compares the topics that an envelope shows with commitments, and opening compares them with
full topics. Both go by position, so a mask without wildcards fits an envelope exactly if its full
topics get past the check of topics in opening. A wildcard has no full topic, so the full topics of
a mask with wildcards are too few for every envelope that it fits.
-/

namespace Courier

variable {Secret Public : Type} {suite : Suite Secret Public}

/-- Whether a full topic does not abridge to the topic that is shown at its position. -/
def Mismatch (full : List FullTopic) (topics : List Topic) (position : Nat) : Prop :=
  ∃ wanted ∈ full[position]?, ∃ shown ∈ topics[position]?, wanted.abridge ≠ shown

/-- Whether a position is the first one at which a full topic does not abridge to what is shown. -/
def FirstMismatch (full : List FullTopic) (topics : List Topic) (position : Nat) : Prop :=
  Mismatch full topics position ∧ ∀ earlier < position, ¬ Mismatch full topics earlier

section Mismatches

variable {full : List FullTopic} {topics : List Topic} {wanted : FullTopic} {shown : Topic}
  {position : Nat}

theorem mismatch_zero : Mismatch (wanted :: full) (shown :: topics) 0 ↔ wanted.abridge ≠ shown := by
  simp [Mismatch]

theorem mismatch_succ :
    Mismatch (wanted :: full) (shown :: topics) (position + 1) ↔ Mismatch full topics position := by
  simp [Mismatch]

theorem firstMismatch_zero :
    FirstMismatch (wanted :: full) (shown :: topics) 0 ↔ wanted.abridge ≠ shown := by
  simp [FirstMismatch, mismatch_zero]

theorem firstMismatch_succ : FirstMismatch (wanted :: full) (shown :: topics) (position + 1) ↔
    wanted.abridge = shown ∧ FirstMismatch full topics position := by
  constructor
  · rintro ⟨here, before⟩
    refine ⟨not_not.1 (mismatch_zero.not.1 (before 0 position.succ_pos)), mismatch_succ.1 here, ?_⟩
    exact fun earlier lt => mismatch_succ.not.1 (before (earlier + 1) (Nat.succ_lt_succ lt))
  · rintro ⟨same, here, before⟩
    refine ⟨mismatch_succ.2 here, fun earlier lt => ?_⟩
    cases earlier with
    | zero => exact mismatch_zero.not.2 (not_not.2 same)
    | succ earlier => exact mismatch_succ.not.2 (before earlier (Nat.lt_of_succ_lt_succ lt))

theorem exists_firstMismatch (h : Mismatch full topics position) :
    ∃ first, FirstMismatch full topics first := by
  classical
  have some : ∃ position, Mismatch full topics position := ⟨position, h⟩
  exact ⟨Nat.find some, Nat.find_spec some, fun earlier lt => Nat.find_min some lt⟩

theorem forall_not_mismatch_iff (same : full.length = topics.length) :
    (∀ position, ¬ Mismatch full topics position) ↔ full.map FullTopic.abridge = topics := by
  induction full generalizing topics with
  | nil =>
      cases topics with
      | nil => simp [Mismatch]
      | cons => cases same
  | cons wanted full ih =>
      cases topics with
      | nil => cases same
      | cons shown topics =>
          rw [← Nat.and_forall_add_one, List.map_cons, List.cons.injEq]
          simp only [mismatch_zero, mismatch_succ, not_not, ih (Nat.succ.inj same)]

end Mismatches

/-- Whether an attempt to open an envelope does not fail for the topics that it is opened with. -/
def SparesTopics {α : Type} (attempt : Except OpenError α) : Prop :=
  (∀ expected supplied, attempt ≠ .error (.topicCount expected supplied)) ∧
    ∀ position, attempt ≠ .error (.topicMismatch position)

namespace SparesTopics

variable {α β : Type} {attempt : Except OpenError α}

theorem ok (a : α) : SparesTopics (.ok a) := ⟨nofun, nofun⟩

theorem error {cause : OpenError} (h : SparesTopics (.error cause : Except OpenError α)) :
    SparesTopics (.error cause : Except OpenError β) := by
  refine ⟨fun expected supplied same => ?_, fun position same => ?_⟩
  · cases same
    exact h.1 expected supplied rfl
  · cases same
    exact h.2 position rfl

theorem map (h : SparesTopics attempt) (f : α → β) : SparesTopics (attempt.map f) := by
  cases attempt with
  | ok a => exact .ok (f a)
  | error cause => exact h.error

theorem bind (h : SparesTopics attempt) {next : α → Except OpenError β}
    (spares : ∀ a, SparesTopics (next a)) : SparesTopics (attempt >>= next) := by
  cases attempt with
  | ok a => exact spares a
  | error cause => exact h.error

end SparesTopics

namespace Envelope

variable {envelope : Envelope} {full : List FullTopic} {secret : Option Secret} {error : OpenError}
  {position : Nat}

theorem checkTopics_eq_error_iff {topics : List Topic} {start : Nat} :
    checkTopics start full topics = .error error ↔ ∃ position,
      FirstMismatch full topics position ∧ error = .topicMismatch (start + position) := by
  induction full generalizing topics start with
  | nil => simp [checkTopics, FirstMismatch, Mismatch]
  | cons wanted full ih =>
      cases topics with
      | nil => simp [checkTopics, FirstMismatch, Mismatch]
      | cons shown topics =>
          rw [checkTopics, ← Nat.or_exists_add_one]
          by_cases same : wanted.abridge = shown
          · rw [if_pos same, ih]
            simp only [firstMismatch_zero, firstMismatch_succ, same, ne_eq, not_true, false_and,
              false_or, true_and, Nat.add_assoc, Nat.add_comm 1]
          · rw [if_neg same]
            simp [firstMismatch_zero, firstMismatch_succ, same, eq_comm]

theorem decryptWith_sparesTopics (key : Hash) (box : Bytes) :
    SparesTopics (decryptWith suite key box) := by
  rw [decryptWith]
  split
  · simp [SparesTopics]
  · split
    · exact .ok _
    · simp [SparesTopics]

theorem openData_sparesTopics (data : Bytes) (topicKey : Hash) (secret : Option Secret) :
    SparesTopics (openData suite data topicKey secret) := by
  rw [openData.eq_def]
  split
  case h_1 => simp [SparesTopics]
  case h_2 mode rest =>
    by_cases broadcast : mode = Message.broadcastMode
    · rw [if_pos broadcast]
      exact (decryptWith_sparesTopics _ rest).map _
    · rw [if_neg broadcast]
      by_cases addressed : mode = Message.addressedMode
      · rw [if_pos addressed]
        split
        · simp [SparesTopics]
        · split
          · simp [SparesTopics]
          · split
            · simp [SparesTopics]
            · exact (decryptWith_sparesTopics _ _).map _
      · rw [if_neg addressed]
        simp [SparesTopics]

theorem openBody_sparesTopics (plain : Bytes) : SparesTopics (openBody suite plain) := by
  rw [openBody.eq_def]
  split
  · simp [SparesTopics]
  · split
    · exact .ok _
    · split
      · simp [SparesTopics]
      · dsimp only
        split
        · simp [SparesTopics]
        · exact .ok _

theorem openWith_of_length_ne (other : full.length ≠ envelope.topics.size) :
    envelope.openWith suite full secret =
      .error (.topicCount envelope.topics.size full.length) := if_neg other

/-- The first mismatch is reported, whatever is behind it and whatever the data hold. -/
theorem openWith_of_firstMismatch (same : full.length = envelope.topics.size)
    (first : FirstMismatch full envelope.topics.toList position) :
    envelope.openWith suite full secret = .error (.topicMismatch position) := by
  have reported : checkTopics 0 full envelope.topics.toList = .error (.topicMismatch position) :=
    checkTopics_eq_error_iff.2 ⟨position, first, by rw [Nat.zero_add]⟩
  rw [openWith, if_pos same, reported]
  rfl

theorem openWith_sparesTopics (topics : full.map FullTopic.abridge = envelope.topics.toList) :
    SparesTopics (envelope.openWith suite full secret) := by
  have same : full.length = envelope.topics.size := by
    rw [Topics.size, ← topics, List.length_map]
  rw [openWith, if_pos same, ← topics, checkTopics_abridge]
  refine (openData_sparesTopics envelope.data _ secret).bind fun opened => ?_
  exact (openBody_sparesTopics opened.1).bind fun body => .ok _

/-- Full topics get past the check of topics if they are those of the topics that are shown. -/
theorem openWith_sparesTopics_iff :
    SparesTopics (envelope.openWith suite full secret) ↔
      full.map FullTopic.abridge = envelope.topics.toList := by
  refine ⟨fun spares => ?_, openWith_sparesTopics⟩
  have same : full.length = envelope.topics.size := by
    by_contra other
    exact spares.1 _ _ (openWith_of_length_ne other)
  refine (forall_not_mismatch_iff same).1 fun position mismatch => ?_
  obtain ⟨first, firstMismatch⟩ := exists_firstMismatch mismatch
  exact spares.2 first (openWith_of_firstMismatch same firstMismatch)

end Envelope

namespace TopicMask

theorem fits_iff_getElem? {entries : List (Option Topic)} {topics : List Topic} :
    fits entries topics = true ↔ entries.length = topics.length ∧
      ∀ (position : Nat) (wanted : Topic),
        entries[position]? = some (some wanted) → topics[position]? = some wanted := by
  induction entries generalizing topics with
  | nil => cases topics <;> simp [fits]
  | cons entry entries ih =>
      cases topics with
      | nil => cases entry <;> simp [fits]
      | cons topic topics =>
          rw [← Nat.and_forall_add_one]
          cases entry with
          | none => simp [fits, ih]
          | some wanted =>
              simp only [fits, ih, Bool.and_eq_true, decide_eq_true_iff, List.length_cons,
                Nat.add_right_cancel_iff, List.getElem?_cons_zero, List.getElem?_cons_succ,
                Option.some.injEq, forall_eq']
              tauto

variable {mask : TopicMask}

theorem hasWildcards_iff : mask.hasWildcards = true ↔ none ∈ mask.full := by
  rw [hasWildcards, mask.entries_eq, List.any_eq_true]
  simp

theorem build_hasWildcards_iff {texts : List (Option String)} :
    (build texts).hasWildcards = true ↔ none ∈ texts := by
  rw [hasWildcards_iff, build, ofFull]
  simp

theorem full_of_not_hasWildcards (bare : mask.hasWildcards = false) :
    mask.full = mask.fullTopics.map some := by
  have bare : none ∉ mask.full := by
    rw [← hasWildcards_iff, bare]
    exact Bool.false_ne_true
  rw [fullTopics]
  generalize mask.full = full at bare
  induction full with
  | nil => rfl
  | cons entry full ih =>
      cases entry with
      | none => exact absurd List.mem_cons_self bare
      | some wanted =>
          exact congrArg (some wanted :: ·) (ih (mt (List.mem_cons_of_mem _) bare))

theorem entries_of_not_hasWildcards (bare : mask.hasWildcards = false) :
    mask.entries = (mask.fullTopics.map FullTopic.abridge).map some := by
  calc mask.entries = mask.full.map (·.map FullTopic.abridge) := mask.entries_eq
    _ = (mask.fullTopics.map some).map (·.map FullTopic.abridge) := by
      rw [← full_of_not_hasWildcards bare]
    _ = (mask.fullTopics.map FullTopic.abridge).map some := by
      rw [List.map_map, List.map_map]
      rfl

/-- A wildcard has no full topic. -/
theorem length_fullTopics_lt (wild : mask.hasWildcards = true) :
    mask.fullTopics.length < mask.entries.length := by
  rw [mask.entries_eq, List.length_map]
  exact List.reduceOption_length_lt_iff.2 (hasWildcards_iff.1 wild)

/-- A mask without wildcards fits exactly the envelopes whose topics its full topics open. With
wildcards they are too few for every envelope that it fits. Full topics in the right number of
which some do not abridge to what is shown are refused for the first of them. -/
theorem matches_as_opened (suite : Suite Secret Public) (texts : List (Option String))
    (envelope : Envelope) :
    let mask := build texts
    let shown := envelope.topics.toList
    (mask.entries = texts.map (·.map Topic.commit) ∧
      (mask.matchesTopics envelope.topics = true ↔ mask.entries.length = shown.length ∧
        ∀ (position : Nat) (text : String), texts[position]? = some (some text) →
          shown[position]? = some (Topic.commit text))) ∧
    (none ∉ texts → ∀ secret, mask.matchesTopics envelope.topics = true ↔
      SparesTopics (envelope.openWith suite mask.fullTopics secret)) ∧
    (none ∈ texts → mask.matchesTopics envelope.topics = true → ∀ secret,
      envelope.openWith suite mask.fullTopics secret =
        .error (.topicCount shown.length mask.fullTopics.length)) ∧
    ∀ full, full.length = shown.length → (∃ position, Mismatch full shown position) →
      ∃ first, FirstMismatch full shown first ∧ ∀ secret,
        envelope.openWith suite full secret = .error (.topicMismatch first) := by
  intro mask shown
  refine ⟨⟨build_entries texts, ?fits⟩, ?bare, ?wild, ?mismatch⟩
  case fits =>
    rw [matchesTopics, fits_iff_getElem?, build_entries]
    refine and_congr_right fun _ => forall_congr' fun position => ?_
    rw [List.getElem?_map]
    cases texts[position]? with
    | none => simp
    | some entry => cases entry <;> simp [shown]
  case bare =>
    intro bare secret
    have bare : mask.hasWildcards = false := by
      rw [← Bool.not_eq_true]
      exact build_hasWildcards_iff.not.2 bare
    rw [matchesTopics, entries_of_not_hasWildcards bare, fits_map_some_iff,
      Envelope.openWith_sparesTopics_iff]
  case wild =>
    intro wild fits secret
    have fewer := length_fullTopics_lt (build_hasWildcards_iff.2 wild)
    have entries : mask.entries.length = shown.length := (fits_iff_getElem?.1 fits).1
    exact Envelope.openWith_of_length_ne (entries ▸ fewer).ne
  case mismatch =>
    rintro full same ⟨position, mismatch⟩
    obtain ⟨first, firstMismatch⟩ := exists_firstMismatch mismatch
    exact ⟨first, firstMismatch, fun secret =>
      Envelope.openWith_of_firstMismatch same firstMismatch⟩

end TopicMask

end Courier

import Mathlib
import Courier.Envelope.Work

/-! # Searches for work

A search measures nonces one after another, from zero on and none twice. The search by bits stops
at the least nonce that reaches its target, or at the last nonce there is. The search by rounds
keeps the least of the best nonces among those that it had the time for. Nothing is assumed of
the digest.
-/

namespace Courier

namespace Work

variable {work : UInt64 → Nat} {target : Nat} {nonce : UInt64}

/-- Measure a nonce, and write down that it was measured. -/
def recorded (work : UInt64 → Nat) (nonce : UInt64) : StateM (List UInt64) Nat :=
  fun measured => (work nonce, measured ++ [nonce])

/-- The first nonces, in order. -/
def firstNonces (count : Nat) : List UInt64 := (List.range count).map UInt64.ofNat

theorem firstNonces_succ (nonce : UInt64) :
    firstNonces (nonce.toNat + 1) = firstNonces nonce.toNat ++ [nonce] := by
  simp [firstNonces, List.range_succ]

/-- A search, run plainly and with a record, has the same result, and it extends the record from
the first `before` nonces to the first `after`. -/
structure Measures {α : Type} (plain : Id α) (recording : StateM (List UInt64) α) (before : Nat)
    (result : α) (after : Nat) : Prop where
  result_eq : plain.run = result
  record_eq : recording.run (firstNonces before) = pure (result, firstNonces after)

namespace Measures

variable {α β : Type} {plain : Id α} {recording : StateM (List UInt64) α}
  {before between after : Nat}

theorem done (result : α) : Measures (pure result) (pure result) before result before := ⟨rfl, rfl⟩

theorem measure (work : UInt64 → Nat) (nonce : UInt64) :
    Measures (pure (work nonce)) (recorded work nonce) nonce.toNat (work nonce)
      (nonce.toNat + 1) := by
  refine ⟨rfl, ?_⟩
  rw [firstNonces_succ]
  rfl

theorem andThen {value : α} {result : β} {next : α → Id β}
    {nextRecording : α → StateM (List UInt64) β}
    (first : Measures plain recording before value between)
    (later : Measures (next value) (nextRecording value) between result after) :
    Measures (plain >>= next) (recording >>= nextRecording) before result after := by
  constructor
  · rw [Id.run_bind, first.result_eq, later.result_eq]
  · rw [StateT.run_bind, first.record_eq, pure_bind, later.record_eq]

end Measures

theorem toNat_lastNonce : lastNonce.toNat = 2 ^ 64 - 1 := rfl

theorem le_lastNonce (nonce : UInt64) : nonce ≤ lastNonce :=
  UInt64.le_iff_toNat_le.2 (Nat.le_pred_of_lt nonce.toNat_lt)

theorem lt_next_iff {smaller : UInt64} (notLast : nonce ≠ lastNonce) :
    smaller < nonce + 1 ↔ smaller < nonce ∨ smaller = nonce := by
  rw [UInt64.lt_iff_toNat_lt, UInt64.lt_iff_toNat_lt, ← UInt64.toNat_inj, toNat_next notLast]
  omega

theorem le_next_iff {other : UInt64} (notLast : nonce ≠ lastNonce) :
    other ≤ nonce + 1 ↔ other = nonce + 1 ∨ other ≤ nonce := by
  rw [UInt64.le_iff_toNat_le, UInt64.le_iff_toNat_le, ← UInt64.toNat_inj, toNat_next notLast]
  omega

theorem clamp_toNat (target : UInt32) : (clamp target).toNat = min target.toNat 24 := by
  have most : maxBits.toNat = 24 := rfl
  change (if target ≤ maxBits then target else maxBits).toNat = _
  split <;> rename_i le <;> rw [UInt32.le_iff_toNat_le, most] at le <;> omega

theorem Trial.orBetter_bits (best later : Trial) :
    (best.orBetter later).bits = max best.bits later.bits := by
  rw [orBetter]
  split <;> omega

/-- What a search by bits comes to: the least nonce that reaches the target, or the last nonce if
none does. -/
structure Trial.Settles (work : UInt64 → Nat) (target : Nat) (trial : Trial) : Prop where
  bits_eq : trial.bits = work trial.nonce
  least : IsLeast {nonce | target ≤ work nonce} trial.nonce ∨
    trial.nonce = lastNonce ∧ ∀ nonce, work nonce < target

theorem firstReaching_eq {m : Type → Type} [Monad m] (measure : UInt64 → m Nat) (target : Nat)
    (nonce : UInt64) :
    firstReaching measure target nonce = measure nonce >>= fun bits =>
      if target ≤ bits ∨ nonce = lastNonce then pure ⟨nonce, bits⟩
      else firstReaching measure target (nonce + 1) := by
  rw [firstReaching.eq_def]
  congr 1
  funext bits
  by_cases reached : target ≤ bits <;> by_cases last : nonce = lastNonce <;> simp [reached, last]

theorem Trial.Settles.of_stop (short : ∀ smaller < nonce, work smaller < target)
    (stop : target ≤ work nonce ∨ nonce = lastNonce) :
    Trial.Settles work target ⟨nonce, work nonce⟩ := by
  refine ⟨rfl, ?_⟩
  by_cases reached : target ≤ work nonce
  · left
    refine ⟨reached, fun other enough => UInt64.not_lt.1 fun smaller => ?_⟩
    exact absurd enough (Nat.not_le.2 (short other smaller))
  · have last := stop.resolve_left reached
    refine .inr ⟨last, fun other => ?_⟩
    rcases UInt64.le_iff_lt_or_eq.1 (le_lastNonce other) with smaller | same
    · exact short other (last ▸ smaller)
    · rw [same, ← last]
      exact Nat.not_le.1 reached

/-- As long as all smaller nonces fall short, the search settles on this nonce or a later one, and
measures every nonce up to there. -/
theorem firstReaching_settles (nonce : UInt64)
    (short : ∀ smaller < nonce, work smaller < target) :
    ∃ trial : Trial, trial.Settles work target ∧
      Measures (firstReaching (fun nonce => pure (work nonce)) target nonce)
        (firstReaching (recorded work) target nonce) nonce.toNat trial
        (trial.nonce.toNat + 1) := by
  rw [firstReaching_eq (fun nonce => (pure (work nonce) : Id Nat)),
    firstReaching_eq (recorded work)]
  by_cases stop : target ≤ work nonce ∨ nonce = lastNonce
  case pos =>
    refine ⟨_, .of_stop short stop, (Measures.measure work nonce).andThen ?_⟩
    rw [if_pos stop, if_pos stop]
    exact .done _
  case neg =>
    obtain ⟨missed, notLast⟩ := not_or.1 stop
    have shortNext : ∀ smaller < nonce + 1, work smaller < target := by
      intro smaller before
      rcases (lt_next_iff notLast).1 before with smaller | rfl
      · exact short _ smaller
      · exact Nat.not_le.1 missed
    obtain ⟨trial, settles, later⟩ := firstReaching_settles (nonce + 1) shortNext
    rw [toNat_next notLast] at later
    refine ⟨trial, settles, (Measures.measure work nonce).andThen ?_⟩
    rw [if_neg stop, if_neg stop]
    exact later
termination_by UInt64.size - nonce.toNat
decreasing_by exact left_next notLast

/-- What a search by rounds knows once it has measured every nonce up to `last`. -/
structure Search.Covers (work : UInt64 → Nat) (search : Search) (last : UInt64) : Prop where
  next?_eq : search.next? = nextNonce? last
  greatest : IsGreatest (work '' {nonce | nonce ≤ last}) search.best.bits
  least : IsLeast {nonce | nonce ≤ last ∧ work nonce = search.best.bits} search.best.nonce

namespace Search.Covers

variable {search : Search} {last : UInt64}

theorem start (work : UInt64 → Nat) : Covers work ⟨some 1, ⟨0, work 0⟩⟩ 0 := by
  have alone : ∀ nonce : UInt64, nonce ≤ 0 ↔ nonce = 0 := fun nonce => UInt64.le_zero_iff
  refine ⟨rfl, ⟨⟨0, UInt64.le_refl 0, rfl⟩, ?_⟩, ⟨UInt64.le_refl 0, rfl⟩, fun nonce _ => ?_⟩
  · rintro _ ⟨nonce, first, rfl⟩
    rw [(alone nonce).1 first]
  · exact UInt64.zero_le

theorem next (h : search.Covers work last) (notLast : last ≠ lastNonce) :
    Covers work ⟨nextNonce? (last + 1), search.best.orBetter ⟨last + 1, work (last + 1)⟩⟩
      (last + 1) := by
  have upTo : {nonce | nonce ≤ last + 1} = insert (last + 1) {nonce | nonce ≤ last} := by
    ext nonce
    exact le_next_iff notLast
  have below : ∀ nonce ≤ last, work nonce ≤ search.best.bits :=
    fun nonce before => h.greatest.2 ⟨nonce, before, rfl⟩
  have later : ∀ nonce ≤ last, nonce ≤ last + 1 :=
    fun nonce before => (le_next_iff notLast).2 (.inr before)
  refine ⟨rfl, ?_, ?_⟩
  · rw [upTo, Set.image_insert_eq, Trial.orBetter_bits, max_comm]
    exact h.greatest.insert _
  · rw [Trial.orBetter]
    split
    case isTrue better =>
      refine ⟨⟨UInt64.le_refl _, rfl⟩, ?_⟩
      rintro nonce ⟨before, same⟩
      rcases (le_next_iff notLast).1 before with rfl | before
      · exact UInt64.le_refl _
      · exact absurd (lt_of_lt_of_eq better same.symm) (Nat.not_lt.2 (below nonce before))
    case isFalse notBetter =>
      refine ⟨⟨later _ h.least.1.1, h.least.1.2⟩, ?_⟩
      rintro nonce ⟨before, same⟩
      rcases (le_next_iff notLast).1 before with rfl | before
      · exact later _ h.least.1.1
      · exact h.least.2 ⟨before, same⟩

theorem tryNonces (h : search.Covers work last) (count : Nat) :
    ∃ (after : Search) (stop : UInt64), stop.toNat = min (last.toNat + count) (2 ^ 64 - 1) ∧
      after.Covers work stop ∧
      Measures (search.tryNonces (fun nonce => pure (work nonce)) count)
        (search.tryNonces (recorded work) count) (last.toNat + 1) after (stop.toNat + 1) := by
  induction count generalizing search last with
  | zero =>
      have bound := UInt64.le_iff_toNat_le.1 (le_lastNonce last)
      rw [toNat_lastNonce] at bound
      exact ⟨search, last, by omega, h, .done _⟩
  | succ count ih =>
      rw [Search.tryNonces, Search.tryNonces, h.next?_eq, nextNonce?]
      by_cases atEnd : last = lastNonce
      case pos =>
        rw [if_pos atEnd]
        refine ⟨search, last, ?_, h, .done _⟩
        rw [atEnd, toNat_lastNonce]
        omega
      case neg =>
        obtain ⟨after, stop, reached, covers, measures⟩ := ih (h.next atEnd)
        rw [toNat_next atEnd] at reached measures
        rw [if_neg atEnd]
        have first := Measures.measure work (last + 1)
        rw [toNat_next atEnd] at first
        exact ⟨after, stop, by omega, covers, first.andThen measures⟩

theorem tryRounds (h : search.Covers work last) (rounds : Nat) :
    ∃ (after : Search) (stop : UInt64),
      stop.toNat = min (last.toNat + noncesPerRound * rounds) (2 ^ 64 - 1) ∧
      after.Covers work stop ∧
      Measures (search.tryRounds (fun nonce => pure (work nonce)) rounds)
        (search.tryRounds (recorded work) rounds) (last.toNat + 1) after (stop.toNat + 1) := by
  induction rounds generalizing search last with
  | zero => exact h.tryNonces 0
  | succ rounds ih =>
      obtain ⟨between, pause, reached, covers, first⟩ := h.tryNonces noncesPerRound
      obtain ⟨after, stop, reachedAfter, coversAfter, later⟩ := ih covers
      refine ⟨after, stop, ?_, coversAfter, first.andThen later⟩
      rw [Nat.mul_succ]
      omega

end Search.Covers

/-- The best trial of a search by rounds is the least of the best nonces up to the one at which the
search stops. -/
theorem bestInRounds_covers (work : UInt64 → Nat) (rounds : Nat) :
    ∃ (search : Search) (stop : UInt64),
      stop.toNat = min (noncesPerRound * rounds) (2 ^ 64 - 1) ∧ search.Covers work stop ∧
      Measures (bestInRounds (fun nonce => pure (work nonce)) rounds)
        (bestInRounds (recorded work) rounds) 0 search.best (stop.toNat + 1) := by
  obtain ⟨search, stop, reached, covers, measures⟩ := (Search.Covers.start work).tryRounds rounds
  refine ⟨search, stop, by simpa using reached, covers, ?_⟩
  exact (Measures.measure work 0).andThen (measures.andThen (.done _))

end Work

namespace Envelope

open Work

/-- A search by bits measures the nonces from zero to the one that it stamps, each of them once.
That is the least one that reaches the target, of which no more than 24 bits are asked, or the last
nonce if there is none. -/
theorem proveWorkBitsUnder_least (digest : Bytes → Hash) (envelope : Envelope) (target : UInt32) :
    let work := envelope.workUnder digest
    let goal := min target.toNat 24
    let stamped := (envelope.proveWorkBitsUnder digest target).1
    let bits := (envelope.proveWorkBitsUnder digest target).2
    (firstReaching (recorded work) goal 0).run [] =
        (⟨stamped.nonce, bits⟩, firstNonces (stamped.nonce.toNat + 1)) ∧
      (IsLeast {nonce | goal ≤ work nonce} stamped.nonce ∨
        stamped.nonce.toNat = 2 ^ 64 - 1 ∧ ∀ nonce, work nonce < goal) ∧
      bits = work stamped.nonce ∧ stamped.workProvedUnder digest = bits ∧
      stamped = { envelope with nonce := stamped.nonce } := by
  intro work goal stamped bits
  have short : ∀ smaller < (0 : UInt64), work smaller < goal :=
    fun smaller before => absurd before UInt64.not_lt_zero
  obtain ⟨trial, settles, measures⟩ := firstReaching_settles 0 short
  have found : envelope.proveWorkBitsUnder digest target =
      ({ envelope with nonce := trial.nonce }, trial.bits) := by
    rw [proveWorkBitsUnder, clamp_toNat]
    exact congrArg (fun trial : Trial => ({ envelope with nonce := trial.nonce }, trial.bits))
      measures.result_eq
  have stamp : stamped = { envelope with nonce := trial.nonce } := congrArg Prod.fst found
  have told : bits = trial.bits := congrArg Prod.snd found
  rw [stamp, told]
  refine ⟨measures.record_eq, ?_, settles.bits_eq, settles.bits_eq.symm, rfl⟩
  exact settles.least.imp_right fun ⟨last, missed⟩ => ⟨by rw [last, toNat_lastNonce], missed⟩

theorem proveWorkUnder_covers (digest : Bytes → Hash) (envelope : Envelope) (rounds : Nat) :
    ∃ (search : Search) (stop : UInt64), stop.toNat = min (1024 * rounds) (2 ^ 64 - 1) ∧
      search.Covers (envelope.workUnder digest) stop ∧
      envelope.proveWorkUnder digest rounds =
        ({ envelope with nonce := search.best.nonce }, search.best.bits) ∧
      (bestInRounds (recorded (envelope.workUnder digest)) rounds).run [] =
        (search.best, firstNonces (stop.toNat + 1)) := by
  obtain ⟨search, stop, reached, covers, measures⟩ :=
    bestInRounds_covers (envelope.workUnder digest) rounds
  refine ⟨search, stop, reached, covers, ?_, measures.record_eq⟩
  exact congrArg (fun trial : Trial => ({ envelope with nonce := trial.nonce }, trial.bits))
    measures.result_eq

/-- A search by rounds measures the nonces from zero on, 1024 of them in every round, each of them
once, and stamps the least of the best ones. So it does not matter which nonce stood in the
envelope, and more rounds never make it worse. -/
theorem proveWorkUnder_best (digest : Bytes → Hash) (envelope : Envelope) (rounds : Nat) :
    let work := envelope.workUnder digest
    let last := min (1024 * rounds) (2 ^ 64 - 1)
    let stamped := (envelope.proveWorkUnder digest rounds).1
    let bits := (envelope.proveWorkUnder digest rounds).2
    (bestInRounds (recorded work) rounds).run [] =
        (⟨stamped.nonce, bits⟩, firstNonces (last + 1)) ∧
      IsGreatest (work '' {nonce | nonce.toNat ≤ last}) bits ∧
      IsLeast {nonce | nonce.toNat ≤ last ∧ work nonce = bits} stamped.nonce ∧
      stamped = { envelope with nonce := stamped.nonce } ∧
      stamped.workProvedUnder digest = bits ∧
      work 0 ≤ bits ∧
      (∀ nonce, { envelope with nonce }.proveWorkUnder digest rounds = (stamped, bits)) ∧
      ∀ more, bits ≤ (envelope.proveWorkUnder digest (rounds + more)).2 := by
  intro work last stamped bits
  obtain ⟨search, stop, reached, covers, found, record⟩ :=
    proveWorkUnder_covers digest envelope rounds
  have stamp : stamped = { envelope with nonce := search.best.nonce } := congrArg Prod.fst found
  have told : bits = search.best.bits := congrArg Prod.snd found
  have reached : stop.toNat = last := reached
  have upTo : ∀ nonce, nonce ≤ stop ↔ nonce.toNat ≤ last := by
    intro nonce
    rw [UInt64.le_iff_toNat_le, reached]
  obtain ⟨-, greatest, least⟩ := covers
  simp only [upTo] at greatest least
  rw [stamp, told]
  rw [reached] at record
  refine ⟨record, greatest, least, rfl, least.1.2, ?_, fun nonce => found, fun more => ?_⟩
  · exact greatest.2 ⟨0, Nat.zero_le _, rfl⟩
  · obtain ⟨longer, laterStop, reachedLater, coversLater, foundLater, -⟩ :=
      proveWorkUnder_covers digest envelope (rounds + more)
    rw [foundLater]
    refine coversLater.greatest.2 ⟨search.best.nonce, ?_, least.1.2⟩
    have inside : search.best.nonce.toNat ≤ last := least.1.1
    change search.best.nonce ≤ laterStop
    rw [UInt64.le_iff_toNat_le, reachedLater]
    omega

end Envelope

end Courier

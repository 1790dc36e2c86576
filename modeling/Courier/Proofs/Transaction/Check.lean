import Mathlib
import Courier.Proofs.Signature
import Courier.Proofs.Transaction.Codec

/-! # What the levels of checking let through

Every level of checking reads the same octets as the same transaction. The levels differ in the
failures that they look for, and they look for them in one order: the ranges of the signature, its
signer, the gas. The gas that is asked for is an exact number, for whatever can be read is too
short to overflow the words in which gas is added up.
-/

namespace Courier

open Rlp

variable {Secret Public : Type}

/-- What is charged for one octet of data. -/
def octetFee (octet : UInt8) : Nat := if octet = 0 then 4 else 68

theorem sum_octetFee (data : Bytes) :
    (data.map octetFee).sum = 4 * data.count 0 + 68 * (data.length - data.count 0) := by
  induction data with
  | nil => rfl
  | cons octet rest ih =>
      have few : rest.count 0 ≤ rest.length := List.count_le_length
      rw [List.map_cons, List.sum_cons, ih, List.count_cons, List.length_cons, octetFee]
      by_cases zero : octet = 0
      · simp only [zero, if_true, beq_self_eq_true]
        omega
      · simp only [zero, if_false, beq_iff_eq]
        omega

/-- Counts of 64 bits and sums in words are exact for any data that has a length. -/
theorem intrinsicGas_eq {data : Bytes} (short : data.length < sizeLimit) (kind : TransactionKind) :
    intrinsicGas data kind =
      (match kind with
        | .messageCall => 21000
        | .contractCreation => 53000) + (data.map octetFee).sum := by
  have few : data.count 0 ≤ data.length := List.count_le_length
  have limit : sizeLimit = 18446744073709551616 := rfl
  have zeros : (UInt64.ofNat (data.count 0)).toNat = data.count 0 :=
    UInt64.toNat_ofNat_of_lt' (few.trans_lt short)
  have length : (UInt64.ofNat data.length).toNat = data.length := UInt64.toNat_ofNat_of_lt' short
  have le : UInt64.ofNat (data.count 0) ≤ UInt64.ofNat data.length := by
    rw [UInt64.le_iff_toNat_le, zeros, length]
    exact few
  have others : (UInt64.ofNat data.length - UInt64.ofNat (data.count 0)).toNat =
      data.length - data.count 0 := by
    rw [UInt64.toNat_sub_of_le _ _ le, zeros, length]
  rw [sum_octetFee]
  cases kind with
  | messageCall | contractCreation =>
      -- counts below 2^64 leave a word ample room for their fees
      simp only [intrinsicGas, zeros, others, GasSchedule.standard, BitVec.toNat_add,
        BitVec.toNat_mul, BitVec.toNat_ofNat]
      omega

namespace Transaction

variable {tx : Transaction} {bytes : Bytes}

/-- What has to be paid for before anything runs, as a number without bound. -/
def gasDue (tx : Transaction) : Nat :=
  (if tx.recipient.isSome then 21000 else 53000) + (tx.data.map octetFee).sum

theorem gasRequired_eq (short : tx.data.length < sizeLimit) : tx.gasRequired = tx.gasDue := by
  rw [gasRequired, intrinsicGas_eq short, gasDue, kind]
  cases tx.recipient <;> rfl

theorem data_length_lt (read : decode bytes = .ok tx) : tx.data.length < sizeLimit := by
  obtain ⟨tail, -, fits, -⟩ := decode_iff.1 read
  have field : Value.octets tx.data ∈ tx.unsignedFields ++ tx.signatureFields := by
    simp [unsignedFields]
  have inside := Value.length_le_encodeAll field
  have data := Value.length_encode_octets tx.data
  rw [List.length_append, payload] at fits
  omega

/-- Let a transaction through if its gas covers what is due. -/
def afford (tx : Transaction) : Except TransactionError Transaction :=
  if tx.gasDue ≤ tx.gas.toNat then .ok tx else .error (.outOfGas tx.gasDue tx.gas.toNat)

theorem eq_of_afford {other : Transaction} (covered : tx.afford = .ok other) : other = tx := by
  rw [afford] at covered
  split at covered
  · cases covered
    rfl
  · cases covered

end Transaction

theorem Signature.recoverAddress_error {suite : Suite Secret Public} {digest : Hash}
    {signature : Signature} {e : TransactionError}
    (fails : signature.recoverAddress suite digest = .error e) : e = .invalidSignature := by
  rw [recoverAddress] at fails
  split at fails
  · split at fails
    · cases fails
    · exact (Except.error.inj fails).symm
  · exact (Except.error.inj fails).symm

theorem Signature.isValid_of_recoverAddress {suite : Suite Secret Public} {digest : Hash}
    {signature : Signature} {address : Address}
    (found : signature.recoverAddress suite digest = .ok address) : signature.isValid = true := by
  rw [recoverAddress] at found
  split at found
  · assumption
  · cases found

namespace KnownTransaction

variable {suite : Suite Secret Public} {bytes : Bytes} {metrics : Metrics} {tx : Transaction}
  {known paid : KnownTransaction} {address : Address}

/-- The transaction that a check lets through, without what is remembered of it. -/
def verdict (suite : Suite Secret Public) (level : CheckLevel) (bytes : Bytes)
    (metrics : Metrics) : Except TransactionError Transaction :=
  (decode suite level bytes metrics).1.map KnownTransaction.tx

theorem requirePayment_eq (fresh : known.gasRequired? = none)
    (short : known.tx.data.length < sizeLimit) :
    known.requirePayment =
      known.tx.afford.map fun _ => { known with gasRequired? := some known.tx.gasDue } := by
  have due := Transaction.gasRequired_eq short
  simp only [requirePayment, checkPayment, gasRequired, fresh, due, Transaction.afford]
  by_cases covered : known.tx.gasDue ≤ known.tx.gas.toNat
  · simp [covered, Except.map]
  · simp [covered, Except.map]

theorem requirePayment_tx (fresh : known.gasRequired? = none)
    (short : known.tx.data.length < sizeLimit) :
    known.requirePayment.map KnownTransaction.tx = known.tx.afford := by
  rw [requirePayment_eq fresh short]
  cases covered : known.tx.afford with
  | ok tx => rw [Transaction.eq_of_afford covered, Except.map, Except.map]
  | error e => rfl

theorem requirePayment_sender? (fresh : known.gasRequired? = none)
    (short : known.tx.data.length < sizeLimit) (covered : known.requirePayment = .ok paid) :
    paid.sender? = known.sender? := by
  rw [requirePayment_eq fresh short] at covered
  cases due : known.tx.afford with
  | ok tx =>
      rw [due] at covered
      cases covered
      rfl
  | error e =>
      rw [due] at covered
      cases covered

theorem decode_cheap (read : Transaction.decode bytes = .ok tx) :
    (decode suite .cheap bytes metrics).1 =
      if tx.signature.isValid then (ofTransaction tx).requirePayment
      else .error .invalidSignature := by
  rw [decode, read]
  cases valid : tx.signature.isValid <;> simp [check, ofTransaction, valid]

/-- The signer is looked for before the gas, and remembered. -/
theorem decode_everything (read : Transaction.decode bytes = .ok tx) :
    (decode suite .everything bytes metrics).1 =
      match tx.signature.recoverAddress suite tx.signingHash with
      | .ok address => requirePayment ⟨tx, some address, none⟩
      | .error _ => .error .invalidSignature := by
  rw [decode, read]
  cases recovered : tx.signature.recoverAddress suite tx.signingHash with
  | ok address =>
      have valid := Signature.isValid_of_recoverAddress recovered
      simp [check, sender, ofTransaction, recovered, valid]
  | error e =>
      cases Signature.recoverAddress_error recovered
      cases valid : tx.signature.isValid <;> simp [check, sender, ofTransaction, recovered, valid]

/-- Who was found to have signed a transaction that is let through is its sender from then on. -/
theorem sender_of_decode (read : Transaction.decode bytes = .ok tx)
    (recovered : tx.signature.recoverAddress suite tx.signingHash = .ok address)
    (accepted : (decode suite .everything bytes metrics).1 = .ok known) (later : Metrics) :
    (known.sender suite later).1 = .ok address := by
  rw [decode_everything read, recovered] at accepted
  have remembered := requirePayment_sender? rfl (Transaction.data_length_lt read) accepted
  rw [sender, remembered]

theorem verdict_shape : verdict suite .shape bytes metrics = Transaction.decode bytes := by
  rw [verdict, decode]
  cases Transaction.decode bytes <;> rfl

theorem verdict_error {level : CheckLevel} {e : TransactionError}
    (unread : Transaction.decode bytes = .error e) :
    verdict suite level bytes metrics = .error e := by
  rw [verdict, decode, unread]
  rfl

theorem exists_decode_of_verdict {level : CheckLevel}
    (accepted : verdict suite level bytes metrics = .ok tx) :
    ∃ found, Transaction.decode bytes = .ok found := by
  cases read : Transaction.decode bytes with
  | ok found => exact ⟨found, rfl⟩
  | error e =>
      rw [verdict_error read] at accepted
      cases accepted

theorem verdict_cheap (read : Transaction.decode bytes = .ok tx) :
    verdict suite .cheap bytes metrics =
      if tx.signature.isValid then tx.afford else .error .invalidSignature := by
  rw [verdict, decode_cheap read, apply_ite (Except.map KnownTransaction.tx),
    requirePayment_tx rfl (Transaction.data_length_lt read)]
  rfl

theorem verdict_everything (read : Transaction.decode bytes = .ok tx) :
    verdict suite .everything bytes metrics =
      match tx.signature.recoverAddress suite tx.signingHash with
      | .ok _ => tx.afford
      | .error _ => .error .invalidSignature := by
  rw [verdict, decode_everything read]
  cases tx.signature.recoverAddress suite tx.signingHash with
  | ok address => exact requirePayment_tx rfl (Transaction.data_length_lt read)
  | error e => rfl

theorem verdict_everything_eq (read : Transaction.decode bytes = .ok tx)
    (recovered : tx.signature.recoverAddress suite tx.signingHash = .ok address)
    (other : Metrics) :
    verdict suite .everything bytes metrics = verdict suite .cheap bytes other := by
  have valid := Signature.isValid_of_recoverAddress recovered
  rw [verdict_everything read, recovered, verdict_cheap read, if_pos valid]

theorem verdict_everything_nobody {e : TransactionError}
    (read : Transaction.decode bytes = .ok tx)
    (nobody : tx.signature.recoverAddress suite tx.signingHash = .error e) :
    verdict suite .everything bytes metrics = .error .invalidSignature := by
  rw [verdict_everything read, nobody]

/-- What the cheap level refuses for its signature is nobody's. -/
theorem verdict_everything_invalid (read : Transaction.decode bytes = .ok tx)
    (refused : verdict suite .cheap bytes metrics = .error .invalidSignature) (other : Metrics) :
    verdict suite .everything bytes other = .error .invalidSignature := by
  cases recovered : tx.signature.recoverAddress suite tx.signingHash with
  | ok address => rw [verdict_everything_eq read recovered metrics, refused]
  | error e => exact verdict_everything_nobody read recovered

theorem verdict_cheap_of_everything (accepted : verdict suite .everything bytes metrics = .ok tx)
    (other : Metrics) : verdict suite .cheap bytes other = .ok tx := by
  obtain ⟨found, read⟩ := exists_decode_of_verdict accepted
  cases recovered : found.signature.recoverAddress suite found.signingHash with
  | ok address => rw [← verdict_everything_eq read recovered, accepted]
  | error e =>
      rw [verdict_everything_nobody read recovered] at accepted
      cases accepted

theorem verdict_shape_of_cheap (accepted : verdict suite .cheap bytes metrics = .ok tx)
    (other : Metrics) : verdict suite .shape bytes other = .ok tx := by
  obtain ⟨found, read⟩ := exists_decode_of_verdict accepted
  rw [verdict_cheap read] at accepted
  split at accepted
  · rw [verdict_shape, read, Transaction.eq_of_afford accepted]
  · cases accepted

/-- The levels are layered. What cannot be read fails alike under each of them. What can be read
fails under the cheap level if its signature is out of range, else if its gas is short of what is
due, and under the full level also if nobody is found to have signed it, whatever its gas. -/
theorem verdict_layered (suite : Suite Secret Public) (bytes : Bytes)
    (metrics : CheckLevel → Metrics) :
    let outcome := fun level => verdict suite level bytes (metrics level)
    (∀ e, outcome .shape = .error e → outcome .cheap = .error e ∧ outcome .everything = .error e) ∧
    (∀ tx, outcome .shape = .ok tx →
      let signer := tx.signature.recoverAddress suite tx.signingHash
      (¬ tx.signature.InRange → outcome .cheap = .error .invalidSignature) ∧
      (tx.signature.InRange → tx.gas.toNat < tx.gasDue →
        outcome .cheap = .error (.outOfGas tx.gasDue tx.gas.toNat)) ∧
      (tx.signature.InRange → tx.gasDue ≤ tx.gas.toNat → outcome .cheap = .ok tx) ∧
      (outcome .cheap = .error .invalidSignature ∨ (∃ e, signer = .error e) →
        outcome .everything = .error .invalidSignature) ∧
      (∀ address, signer = .ok address →
        outcome .everything = outcome .cheap ∧
          ∀ known, (decode suite .everything bytes (metrics .everything)).1 = .ok known →
            ∀ later, (known.sender suite later).1 = .ok address)) ∧
    (∀ tx, outcome .everything = .ok tx → outcome .cheap = .ok tx) ∧
    (∀ tx, outcome .cheap = .ok tx → outcome .shape = .ok tx) := by
  intro outcome
  refine ⟨?_, ?_, fun tx accepted => verdict_cheap_of_everything accepted _,
    fun tx accepted => verdict_shape_of_cheap accepted _⟩
  · intro e unread
    have unread : Transaction.decode bytes = .error e := verdict_shape.symm.trans unread
    exact ⟨verdict_error unread, verdict_error unread⟩
  · intro tx read signer
    have read : Transaction.decode bytes = .ok tx := verdict_shape.symm.trans read
    have cheap : outcome .cheap =
        if tx.signature.isValid then tx.afford else .error .invalidSignature := verdict_cheap read
    refine ⟨?outOfRange, ?short, ?covered, ?refused, ?found⟩
    case outOfRange =>
      intro outOfRange
      rw [cheap, if_neg (mt tx.signature.isValid_iff.1 outOfRange)]
    case short =>
      intro inRange short
      rw [cheap, if_pos (tx.signature.isValid_iff.2 inRange), Transaction.afford,
        if_neg (Nat.not_le.2 short)]
    case covered =>
      intro inRange covered
      rw [cheap, if_pos (tx.signature.isValid_iff.2 inRange), Transaction.afford, if_pos covered]
    case refused =>
      rintro (refused | ⟨e, nobody⟩)
      · exact verdict_everything_invalid read refused _
      · exact verdict_everything_nobody read nobody
    case found =>
      intro address recovered
      exact ⟨verdict_everything_eq read recovered _,
        fun known accepted later => sender_of_decode read recovered accepted later⟩

/-- Gas is short in both, and a signature out of range is noticed first. -/
example :
    verdict .standard .cheap [0xc9, 0x80, 0x80, 0x80, 0x80, 0x80, 0x80, 0x1b, 0x01, 0x01] .zero =
      .error (.outOfGas 53000 0) ∧
    verdict .standard .cheap [0xc9, 0x80, 0x80, 0x80, 0x80, 0x80, 0x80, 0x1b, 0x01, 0x80] .zero =
      .error .invalidSignature := by
  decide

end KnownTransaction

end Courier

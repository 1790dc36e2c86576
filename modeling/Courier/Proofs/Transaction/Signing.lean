import Mathlib
import Courier.Proofs.Suite
import Courier.Proofs.Transaction.Check

/-! # Signing and reading back

Signing writes a signature next to the six fields that it covers and forgets who was taken for the
sender before. If the signature can stand on the wire, whoever reads the octets finds the same
sender. If it cannot, nothing is signed and nothing changes.
-/

namespace Courier

open Rlp

variable {Secret Public : Type} {suite : Suite Secret Public} {key : Secret} {digest : Hash}
  {signature : Signature}

theorem Signature.lowForm_of_le (low : signature.s ≤ halfOrder) :
    signature.lowForm = signature := if_neg (BitVec.not_lt.2 low)

namespace Suite.Signs

theorem inRange_iff (signs : suite.Signs key digest signature) :
    signature.InRange ↔ ¬ (signature.v = 2 ∨ signature.v = 3) := by
  have mark := signs.mark
  have s_lt : signature.s.toNat < Secp256k1.order := by
    have low : signature.s.toNat ≤ Signature.halfOrder.toNat := signs.s_low
    exact low.trans_lt (by decide)
  simp only [Signature.InRange, signs.r_pos, signs.r_lt, signs.s_pos, s_lt, and_self, and_true,
    ← UInt8.toNat_inj]
  simp only [UInt8.toNat_ofNat]
  omega

theorem recoverAddress (signs : suite.Signs key digest signature) (inRange : signature.InRange) :
    signature.recoverAddress suite digest = .ok (suite.address (suite.publicKey key)) := by
  rw [Signature.recoverAddress, if_pos ((Signature.isValid_iff _).2 inRange),
    Signature.lowForm_of_le signs.s_low, signs.recovers]

end Suite.Signs

namespace KnownTransaction

variable {known : KnownTransaction} {tx : Transaction} {bytes : Bytes} {metrics : Metrics}
  {level : CheckLevel} {address : Address}

theorem sign_of_inRange (made : suite.sign key known.tx.signingHash = some signature)
    (inRange : signature.InRange) :
    known.sign suite key =
      (.ok (), { known with tx := { known.tx with signature }, sender? := none }) := by
  rw [sign, made]
  exact if_pos ((Signature.isValid_iff _).2 inRange)

theorem sign_of_not_inRange (made : suite.sign key known.tx.signingHash = some signature)
    (outOfRange : ¬ signature.InRange) :
    known.sign suite key = (.error .invalidSignature, known) := by
  rw [sign, made]
  exact if_neg (mt (Signature.isValid_iff _).1 outOfRange)

theorem sender_eq
    (recovered : known.tx.signature.recoverAddress suite known.tx.signingHash = .ok address)
    (remembered : ∀ other ∈ known.sender?, other = address) :
    (known.sender suite metrics).1 = .ok address := by
  rw [sender]
  cases found : known.sender? with
  | none => rw [recovered]
  | some other => rw [remembered other found]

/-- Whatever is checked, the transaction that is let through is the one that was read. -/
theorem tx_of_decode (read : Transaction.decode bytes = .ok tx)
    (accepted : (decode suite level bytes metrics).1 = .ok known) : known.tx = tx := by
  have verdict : verdict suite level bytes metrics = .ok known.tx := by
    rw [KnownTransaction.verdict, accepted]
    rfl
  have shape : KnownTransaction.verdict suite .shape bytes metrics = .ok known.tx := by
    cases level with
    | shape => exact verdict
    | cheap => exact verdict_shape_of_cheap verdict metrics
    | everything =>
        exact verdict_shape_of_cheap (verdict_cheap_of_everything verdict metrics) metrics
  rw [verdict_shape, read] at shape
  exact (Except.ok.inj shape).symm

theorem sender?_of_decode (read : Transaction.decode bytes = .ok tx)
    (recovered : tx.signature.recoverAddress suite tx.signingHash = .ok address)
    (accepted : (decode suite level bytes metrics).1 = .ok known) :
    ∀ other ∈ known.sender?, other = address := by
  have short := Transaction.data_length_lt read
  intro other remembered
  cases level with
  | shape =>
      rw [decode, read] at accepted
      cases accepted
      cases remembered
  | cheap =>
      rw [decode_cheap read, if_pos (Signature.isValid_of_recoverAddress recovered)] at accepted
      rw [requirePayment_sender? rfl short accepted] at remembered
      cases remembered
  | everything =>
      rw [decode_everything read, recovered] at accepted
      rw [requirePayment_sender? rfl short accepted] at remembered
      exact (Option.some.inj remembered).symm

/-- Who signed is the sender of a transaction that is let through, at any level. -/
theorem sender_of_accepted (read : Transaction.decode bytes = .ok tx)
    (recovered : tx.signature.recoverAddress suite tx.signingHash = .ok address)
    (accepted : (decode suite level bytes metrics).1 = .ok known) (later : Metrics) :
    (known.sender suite later).1 = .ok address := by
  have same := tx_of_decode read accepted
  exact sender_eq (same ▸ recovered) (sender?_of_decode read recovered accepted)

/-- With a signer, the gas alone decides at the levels that look at it. -/
theorem exists_accepted_iff (read : Transaction.decode bytes = .ok tx)
    (recovered : tx.signature.recoverAddress suite tx.signingHash = .ok address)
    (strict : level ≠ .shape) :
    (∃ known, (decode suite level bytes metrics).1 = .ok known) ↔ tx.gasDue ≤ tx.gas.toNat := by
  have outcome : verdict suite level bytes metrics = tx.afford := by
    cases level with
    | shape => exact absurd rfl strict
    | cheap => rw [verdict_cheap read, if_pos (Signature.isValid_of_recoverAddress recovered)]
    | everything => rw [verdict_everything read, recovered]
  rw [verdict, Transaction.afford] at outcome
  cases decoded : (decode suite level bytes metrics).1 with
  | ok known =>
      rw [decoded] at outcome
      by_cases covered : tx.gasDue ≤ tx.gas.toNat
      · simp [covered]
      · rw [if_neg covered] at outcome
        cases outcome
  | error e =>
      rw [decoded] at outcome
      by_cases covered : tx.gasDue ≤ tx.gas.toNat
      · rw [if_pos covered] at outcome
        cases outcome
      · simp [covered]

/-- With a mark of two or three nothing is signed and nothing changes. With any other mark only the
signature changes, and the sender is the signer: at once, and for whoever reads the octets at any
level that lets them through, which is decided by the gas alone. -/
theorem sign_roundTrip (suite : Suite Secret Public) (key : Secret) (known : KnownTransaction)
    (signature : Signature) (signs : suite.Signs key known.tx.signingHash signature) :
    let signed := (known.sign suite key).2
    let signer := suite.address (suite.publicKey key)
    (signature.v = 2 ∨ signature.v = 3 →
      known.sign suite key = (.error .invalidSignature, known)) ∧
    (¬ (signature.v = 2 ∨ signature.v = 3) →
      (known.sign suite key).1 = .ok () ∧
      signed.tx = { known.tx with signature } ∧
      signed.tx.signingHash = known.tx.signingHash ∧
      (∀ metrics, (signed.sender suite metrics).1 = .ok signer) ∧
      (signed.tx.encode.length < sizeLimit → ∀ metrics,
        (decode suite .shape signed.tx.encode metrics).1 = .ok (.ofTransaction signed.tx) ∧
        (∀ level found, (decode suite level signed.tx.encode metrics).1 = .ok found →
          found.tx = signed.tx ∧ ∀ later, (found.sender suite later).1 = .ok signer) ∧
        ∀ level, level ≠ .shape →
          ((∃ found, (decode suite level signed.tx.encode metrics).1 = .ok found) ↔
            known.tx.gasDue ≤ known.tx.gas.toNat))) := by
  intro signed signer
  constructor
  · intro wrapped
    exact sign_of_not_inRange signs.made fun inRange => signs.inRange_iff.1 inRange wrapped
  · intro plain
    have inRange := signs.inRange_iff.2 plain
    have outcome := sign_of_inRange signs.made inRange
    have fields : signed.tx = { known.tx with signature } := by simp only [signed, outcome]
    have recovered : signed.tx.signature.recoverAddress suite signed.tx.signingHash =
        .ok signer := by
      rw [fields]
      exact signs.recoverAddress inRange
    refine ⟨congrArg Prod.fst outcome, fields, fields ▸ rfl, ?sender, ?reading⟩
    case sender =>
      intro metrics
      have forgotten : signed.sender? = none := by simp only [signed, outcome]
      exact sender_eq recovered (by simp [forgotten])
    case reading =>
      intro fits metrics
      have read := Transaction.decode_encode fits
      have due : signed.tx.gasDue = known.tx.gasDue := by rw [fields]; rfl
      have gas : signed.tx.gas = known.tx.gas := by rw [fields]
      refine ⟨?_, ?_, ?_⟩
      · rw [decode, read]
        rfl
      · intro level found accepted
        exact ⟨tx_of_decode read accepted, sender_of_accepted read recovered accepted⟩
      · intro level strict
        rw [← due, ← gas]
        exact exists_accepted_iff read recovered strict

section Replacement

theorem two_lt_order : 2 < Secp256k1.order := by decide

/-- A holder of a key. -/
def holder : Secp256k1.SecretKey := ⟨2, by decide, two_lt_order⟩

/-- A call with two octets of data and just the gas that it needs. It bears a signature that is out
of range and is attributed to the zero address. -/
def misattributed : KnownTransaction :=
  ⟨⟨7, 1, 21072, some (.ofNat 5), 9, [0x01, 0x00], ⟨5, 1, 2⟩⟩, some .zero, none⟩

/-- What the holder's key makes of it. -/
def holdersSignature : Signature :=
  ⟨0, 0xd933e930a8d4a4ed32ffe860c79b7499dd95e5e76fb85f132f4816c82cdd33b0,
    0x252f117e0c0a19a1c52510f53913a68d7e5475ae8db8c420e7a49f06ff48b7b⟩

theorem signs_misattributed :
    Suite.standard.Signs holder misattributed.tx.signingHash holdersSignature := by
  refine ⟨?made, by decide, by decide, by decide, by decide, by decide, ?recovers⟩
  case made => decide +kernel
  case recovers => decide +kernel

theorem sign_roundTrip_misattributed :
    let signed := (misattributed.sign .standard holder).2
    let signer := Suite.standard.address (Suite.standard.publicKey holder)
    Suite.standard.Signs holder misattributed.tx.signingHash holdersSignature ∧
      (misattributed.sign .standard holder).1 = .ok () ∧
      (signed.sender .standard .zero).1 = .ok signer ∧
      ∃ found, (decode .standard .everything signed.tx.encode .zero).1 = .ok found ∧
        found.tx = signed.tx ∧ (found.sender .standard .zero).1 = .ok signer := by
  intro signed signer
  have plain : ¬ (holdersSignature.v = 2 ∨ holdersSignature.v = 3) := by decide
  have well := (sign_roundTrip .standard holder misattributed holdersSignature
    signs_misattributed).2 plain
  have fits : (misattributed.sign .standard holder).2.tx.encode.length < sizeLimit := by
    rw [well.2.1]
    decide +kernel
  have covered : misattributed.tx.gasDue ≤ misattributed.tx.gas.toNat := by decide +kernel
  have reading := well.2.2.2.2 fits .zero
  have accepted := (reading.2.2 .everything (by decide)).2 covered
  obtain ⟨found, read⟩ := accepted
  have same := reading.2.1 .everything found read
  exact ⟨signs_misattributed, well.1, well.2.2.2.1 .zero, found, read, same.1, same.2 .zero⟩

end Replacement

end KnownTransaction

end Courier

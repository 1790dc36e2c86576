import Mathlib
import Courier.Proofs.Transaction.Check

/-! # What is remembered of a transaction

A transaction remembers its sender and its gas once they are computed. Whatever is done to
transactions, what they remember is what would be found by computing it again, and each failure to
find a sender is counted once.
-/

namespace Courier

variable {Secret Public : Type} {suite : Suite Secret Public}

namespace Transaction

/-- The sender as the signature alone tells it. -/
def recovered (suite : Suite Secret Public) (tx : Transaction) : Except TransactionError Address :=
  tx.signature.recoverAddress suite tx.signingHash

/-- Whether the signature tells no sender. -/
def isNobodys (suite : Suite Secret Public) (tx : Transaction) : Bool := !(tx.recovered suite).isOk

end Transaction

/-- Count a number of failures to find a sender. -/
def Metrics.countFailures (metrics : Metrics) (failures : Nat) : Metrics :=
  { metrics with recoveryFailures := metrics.recoveryFailures + failures }

/-! ## One transaction -/

/-- What can be asked of a transaction that is at hand. -/
inductive TransactionCall (Secret : Type) where
  | sign (key : Secret)
  | sender
  | safeSender
  | gasRequired
  | checkPayment

namespace KnownTransaction

variable {known paid : KnownTransaction} {metrics : Metrics}

def call (suite : Suite Secret Public) (known : KnownTransaction) (metrics : Metrics) :
    TransactionCall Secret → KnownTransaction × Metrics
  | .sign key => ((known.sign suite key).2, metrics)
  | .sender => (known.sender suite metrics).2
  | .safeSender => (known.safeSender suite metrics).2
  | .gasRequired => (known.gasRequired.2, metrics)
  | .checkPayment => (known.checkPayment.2, metrics)

/-- Whether a call asks for a sender where there is none. -/
def fails (suite : Suite Secret Public) (tx : Transaction) : TransactionCall Secret → Bool
  | .sender | .safeSender => tx.isNobodys suite
  | .sign _ | .gasRequired | .checkPayment => false

/-- Whether a check asks for a sender where there is none. Only the full level asks, and only if the
signature is in range. -/
def failsCheck (suite : Suite Secret Public) (level : CheckLevel) (tx : Transaction) : Bool :=
  level = .everything && tx.signature.isValid && tx.isNobodys suite

def failsDecode (suite : Suite Secret Public) (level : CheckLevel) (bytes : Bytes) : Bool :=
  match Transaction.decode bytes with
  | .ok tx => failsCheck suite level tx
  | .error _ => false

/-- What is remembered is what would be computed. -/
structure Coherent (suite : Suite Secret Public) (known : KnownTransaction) : Prop where
  sender : ∀ address, known.sender? = some address → known.tx.recovered suite = .ok address
  gas : ∀ gas, known.gasRequired? = some gas → gas = known.tx.gasRequired

theorem Coherent.ofTransaction (suite : Suite Secret Public) (tx : Transaction) :
    (ofTransaction tx).Coherent suite where
  sender := by simp [KnownTransaction.ofTransaction]
  gas := by simp [KnownTransaction.ofTransaction]

namespace Coherent

variable (h : known.Coherent suite)

include h

/-- The sender is found, remembered or not, and a failure to find one is counted. -/
theorem sender_eq (metrics : Metrics) :
    known.sender suite metrics =
      (known.tx.recovered suite, { known with sender? := (known.tx.recovered suite).toOption },
        metrics.countFailures (known.tx.isNobodys suite).toNat) := by
  rw [KnownTransaction.sender, Transaction.isNobodys]
  cases remembered : known.sender? with
  | some address =>
      rw [h.sender address remembered]
      simp [Except.toOption, Except.isOk, Except.toBool, Metrics.countFailures, ← remembered]
  | none =>
      simp only [Transaction.recovered]
      cases known.tx.signature.recoverAddress suite known.tx.signingHash with
      | ok address => rfl
      | error e =>
          simp [Except.toOption, Except.isOk, Except.toBool, Metrics.countFailures, ← remembered]

theorem safeSender_eq (metrics : Metrics) :
    known.safeSender suite metrics =
      ((known.tx.recovered suite).toOption.getD .zero, (known.sender suite metrics).2) := by
  rw [safeSender, h.sender_eq]
  cases known.tx.recovered suite <;> rfl

theorem gasRequired_eq :
    known.gasRequired =
      (known.tx.gasRequired, { known with gasRequired? := some known.tx.gasRequired }) := by
  rw [KnownTransaction.gasRequired]
  cases remembered : known.gasRequired? with
  | none => rfl
  | some gas =>
      show (gas, known) = _
      rw [← h.gas gas remembered, ← remembered]

theorem checkPayment_eq :
    known.checkPayment =
      (decide (known.tx.gasRequired ≤ known.tx.gas.toNat),
        { known with gasRequired? := some known.tx.gasRequired }) := by
  rw [checkPayment, h.gasRequired_eq]

theorem remember_sender :
    { known with sender? := (known.tx.recovered suite).toOption }.Coherent suite where
  sender := fun address remembered => by
    cases found : known.tx.recovered suite with
    | ok other =>
        simp [found, Except.toOption] at remembered
        rw [remembered]
    | error e => simp [found, Except.toOption] at remembered
  gas := h.gas

theorem remember_gas :
    { known with gasRequired? := some known.tx.gasRequired }.Coherent suite where
  sender := h.sender
  gas := fun _ remembered => (Option.some.inj remembered).symm

theorem sign (key : Secret) : (known.sign suite key).2.Coherent suite := by
  rw [KnownTransaction.sign]
  cases suite.sign key known.tx.signingHash with
  | none => exact h
  | some signature =>
      simp only
      split
      · exact ⟨by simp, h.gas⟩
      · exact h

theorem requirePayment (covered : known.requirePayment = .ok paid) : paid.Coherent suite := by
  rw [KnownTransaction.requirePayment, h.checkPayment_eq] at covered
  split at covered
  · rename_i same
    cases covered
    cases (Prod.mk.inj same).2
    exact h.remember_gas
  · cases covered

theorem call (metrics : Metrics) (call : TransactionCall Secret) :
    (known.call suite metrics call).1.Coherent suite ∧
      (known.call suite metrics call).2 =
        metrics.countFailures (fails suite known.tx call).toNat := by
  cases call with
  | sign key => exact ⟨h.sign key, rfl⟩
  | sender =>
      rw [KnownTransaction.call, h.sender_eq]
      exact ⟨h.remember_sender, rfl⟩
  | safeSender =>
      rw [KnownTransaction.call, h.safeSender_eq, h.sender_eq]
      exact ⟨h.remember_sender, rfl⟩
  | gasRequired =>
      rw [KnownTransaction.call, h.gasRequired_eq]
      exact ⟨h.remember_gas, rfl⟩
  | checkPayment =>
      rw [KnownTransaction.call, h.checkPayment_eq]
      exact ⟨h.remember_gas, rfl⟩

theorem check (level : CheckLevel) (metrics : Metrics) :
    (∀ checked, (known.check suite level metrics).1 = .ok checked → checked.Coherent suite) ∧
      (known.check suite level metrics).2 =
        metrics.countFailures (failsCheck suite level known.tx).toNat := by
  cases level with
  | shape => exact ⟨by rintro _ ⟨⟩; exact h, rfl⟩
  | cheap =>
      rw [KnownTransaction.check]
      split
      · exact ⟨fun _ covered => h.requirePayment covered, rfl⟩
      · exact ⟨by rintro _ ⟨⟩, rfl⟩
  | everything =>
      rw [KnownTransaction.check, failsCheck, h.sender_eq]
      split
      · rename_i valid
        cases found : known.tx.recovered suite with
        | ok address =>
            have remembers := h.remember_sender
            rw [found] at remembers
            refine ⟨fun _ covered => remembers.requirePayment covered, ?_⟩
            simp [Transaction.isNobodys, found, Except.isOk, Except.toBool]
        | error e =>
            refine ⟨by rintro _ ⟨⟩, ?_⟩
            simp [valid]
      · rename_i invalid
        refine ⟨by rintro _ ⟨⟩, ?_⟩
        simp [invalid, Metrics.countFailures]

end Coherent

theorem decode_spec (suite : Suite Secret Public) (level : CheckLevel) (bytes : Bytes)
    (metrics : Metrics) :
    (∀ known, (decode suite level bytes metrics).1 = .ok known → known.Coherent suite) ∧
      (decode suite level bytes metrics).2 =
        metrics.countFailures (failsDecode suite level bytes).toNat := by
  rw [decode, failsDecode]
  cases Transaction.decode bytes with
  | error e => exact ⟨by rintro _ ⟨⟩, rfl⟩
  | ok tx => exact (Coherent.ofTransaction suite tx).check level metrics

end KnownTransaction

/-! ## Transactions at hand -/

/-- The transactions at hand and the counts of the process that handles them. -/
structure Desk where
  transactions : List KnownTransaction
  metrics : Metrics

/-- What can be done to the transactions at hand. -/
inductive DeskOperation (Secret : Type) where
  /-- Make a call or, without recipient, the creation of a contract. -/
  | draft (nonce gasPrice gas : Word) (recipient : Option Address) (value : Word) (data : Bytes)
  | decode (level : CheckLevel) (bytes : Bytes)
  /-- Copy a transaction with what it remembers. -/
  | clone (index : Nat)
  | call (index : Nat) (call : TransactionCall Secret)

namespace Desk

variable {desk : Desk}

def start (metrics : Metrics) : Desk := ⟨[], metrics⟩

/-- Do one operation; what is not at hand is passed over. -/
def perform (suite : Suite Secret Public) (desk : Desk) : DeskOperation Secret → Desk
  | .draft nonce gasPrice gas recipient value data =>
    let tx := Transaction.unsigned nonce gasPrice gas recipient value data
    { desk with transactions := desk.transactions ++ [.ofTransaction tx] }
  | .decode level bytes =>
    match KnownTransaction.decode suite level bytes desk.metrics with
    | (.ok known, metrics) => ⟨desk.transactions ++ [known], metrics⟩
    | (.error _, metrics) => ⟨desk.transactions, metrics⟩
  | .clone index =>
    { desk with transactions := desk.transactions ++ desk.transactions[index]?.toList }
  | .call index call =>
    match desk.transactions[index]? with
    | some known =>
      let (known, metrics) := known.call suite desk.metrics call
      ⟨desk.transactions.set index known, metrics⟩
    | none => desk

def run (suite : Suite Secret Public) (desk : Desk) (operations : List (DeskOperation Secret)) :
    Desk := operations.foldl (perform suite) desk

/-- Whether an operation asks for a sender where there is none. -/
def fails (suite : Suite Secret Public) (desk : Desk) : DeskOperation Secret → Bool
  | .draft .. | .clone _ => false
  | .decode level bytes => KnownTransaction.failsDecode suite level bytes
  | .call index call =>
    desk.transactions[index]?.any fun known => KnownTransaction.fails suite known.tx call

/-- How many operations of a run ask for a sender where there is none. -/
def failures (suite : Suite Secret Public) : Desk → List (DeskOperation Secret) → Nat
  | _, [] => 0
  | desk, operation :: rest =>
    (desk.fails suite operation).toNat + failures suite (desk.perform suite operation) rest

/-- All that is remembered at a desk is what would be computed. -/
def Coherent (suite : Suite Secret Public) (desk : Desk) : Prop :=
  ∀ known ∈ desk.transactions, known.Coherent suite

/-- An operation leaves all memory coherent and counts a failure exactly if it fails. -/
theorem Coherent.perform (h : desk.Coherent suite) (operation : DeskOperation Secret) :
    (desk.perform suite operation).Coherent suite ∧
      (desk.perform suite operation).metrics =
        desk.metrics.countFailures (desk.fails suite operation).toNat := by
  cases operation with
  | draft nonce gasPrice gas recipient value data =>
      refine ⟨fun known member => ?_, rfl⟩
      rcases List.mem_append.1 member with old | new
      · exact h known old
      · rw [List.mem_singleton.1 new]
        exact .ofTransaction suite _
  | decode level bytes =>
      have decoded := KnownTransaction.decode_spec suite level bytes desk.metrics
      rw [Desk.perform, fails]
      cases outcome : KnownTransaction.decode suite level bytes desk.metrics with
      | mk result metrics =>
          rw [outcome] at decoded
          cases result with
          | error e => exact ⟨h, decoded.2⟩
          | ok found =>
              refine ⟨fun known member => ?_, decoded.2⟩
              rcases List.mem_append.1 member with old | new
              · exact h known old
              · rw [List.mem_singleton.1 new]
                exact decoded.1 found rfl
  | clone index =>
      refine ⟨fun known member => ?_, rfl⟩
      rcases List.mem_append.1 member with old | new
      · exact h known old
      · exact h known (List.mem_of_getElem? (Option.mem_toList.1 new))
  | call index call =>
      rw [Desk.perform, fails]
      cases there : desk.transactions[index]? with
      | none => exact ⟨h, rfl⟩
      | some known =>
          obtain ⟨coherent, counted⟩ :=
            (h known (List.mem_of_getElem? there)).call desk.metrics call
          refine ⟨fun other member => ?_, counted⟩
          rcases List.mem_or_eq_of_mem_set member with old | rfl
          · exact h other old
          · exact coherent

theorem Coherent.run (h : desk.Coherent suite) (operations : List (DeskOperation Secret)) :
    (desk.run suite operations).Coherent suite ∧
      (desk.run suite operations).metrics =
        desk.metrics.countFailures (failures suite desk operations) := by
  induction operations generalizing desk with
  | nil => exact ⟨h, rfl⟩
  | cons operation rest ih =>
      obtain ⟨coherent, counted⟩ := h.perform operation
      obtain ⟨last, total⟩ := ih coherent
      refine ⟨last, total.trans ?_⟩
      rw [counted, failures, Metrics.countFailures, Metrics.countFailures, Metrics.countFailures,
        Nat.add_assoc]

/-- Whatever is done to transactions, in whatever order they are made, read, copied, signed and
asked, each of them answers as its present signature and fields tell. The failures that are counted
are those to find a sender, each once. -/
theorem run_transparent (suite : Suite Secret Public) (metrics : Metrics)
    (operations : List (DeskOperation Secret)) :
    let desk := (start metrics).run suite operations
    (∀ known ∈ desk.transactions, ∀ later : Metrics,
      let recovered := known.tx.signature.recoverAddress suite known.tx.signingHash
      (known.sender suite later).1 = recovered ∧
      (known.safeSender suite later).1 = recovered.toOption.getD .zero ∧
      known.gasRequired.1 = intrinsicGas known.tx.data known.tx.kind ∧
      known.checkPayment.1 =
        decide (intrinsicGas known.tx.data known.tx.kind ≤ known.tx.gas.toNat) ∧
      (known.tx.kind = .contractCreation ↔ known.tx.recipient = none)) ∧
    desk.metrics.recoveryFailures =
      metrics.recoveryFailures + failures suite (start metrics) operations := by
  intro desk
  have blank : (start metrics).Coherent suite := fun _ none => absurd none List.not_mem_nil
  obtain ⟨coherent, counted⟩ := blank.run operations
  refine ⟨fun known member later => ?_, congrArg Metrics.recoveryFailures counted⟩
  have h := coherent known member
  refine ⟨?_, ?_, ?_, ?_, ?_⟩
  · rw [h.sender_eq]
    rfl
  · rw [h.safeSender_eq]
    rfl
  · rw [h.gasRequired_eq]
    rfl
  · rw [h.checkPayment_eq]
    rfl
  · rw [Transaction.kind]
    cases known.tx.recipient <;> simp

end Desk

end Courier

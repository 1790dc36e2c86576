import Courier.Metrics
import Courier.Suite
import Courier.Transaction.Codec

/-! # Signers of transactions

The sender of a transaction is computed from its signature when it is first asked for and
remembered after that, and so is the gas it needs. A new signature makes the remembered
sender void. Each failed computation of a sender is counted.
-/

namespace Courier

variable {Secret Public : Type}

namespace Signature

/-- The address that signed a digest. A high `s` is folded to the low form first. -/
def recoverAddress (suite : Suite Secret Public) (digest : Hash) (signature : Signature) :
    Except TransactionError Address :=
  if signature.isValid then
    match suite.recover? digest signature.lowForm with
    | some key => .ok (suite.address key)
    | none => .error .invalidSignature
  else .error .invalidSignature

end Signature

/-- How much is checked of a transaction that is read; each level includes the one before. -/
inductive CheckLevel where
  /-- Only that it can be read. -/
  | shape
  /-- The ranges of the signature and the gas. -/
  | cheap
  /-- The sender as well. -/
  | everything
  deriving DecidableEq

/-- A transaction with what was computed from it before. -/
structure KnownTransaction where
  tx : Transaction
  /-- The sender, once computed. -/
  sender? : Option Address
  /-- The gas that is needed, once computed. -/
  gasRequired? : Option Nat
  deriving DecidableEq

namespace KnownTransaction

/-- A transaction of which nothing was computed yet. -/
def ofTransaction (tx : Transaction) : KnownTransaction := ⟨tx, none, none⟩

def sender (suite : Suite Secret Public) (known : KnownTransaction) (metrics : Metrics) :
    Except TransactionError Address × KnownTransaction × Metrics :=
  match known.sender? with
  | some address => (.ok address, known, metrics)
  | none =>
    match known.tx.signature.recoverAddress suite known.tx.signingHash with
    | .ok address => (.ok address, { known with sender? := some address }, metrics)
    | .error e =>
      (.error e, known, { metrics with recoveryFailures := metrics.recoveryFailures + 1 })

/-- The sender of the transaction, or the zero address if there is none. -/
def safeSender (suite : Suite Secret Public) (known : KnownTransaction) (metrics : Metrics) :
    Address × KnownTransaction × Metrics :=
  match known.sender suite metrics with
  | (.ok address, known, metrics) => (address, known, metrics)
  | (.error _, known, metrics) => (.zero, known, metrics)

/-- The gas that the transaction needs before anything runs. -/
def gasRequired (known : KnownTransaction) : Nat × KnownTransaction :=
  match known.gasRequired? with
  | some gas => (gas, known)
  | none =>
    let gas := known.tx.gasRequired
    (gas, { known with gasRequired? := some gas })

/-- Whether the gas of the transaction covers what it needs before anything runs. -/
def checkPayment (known : KnownTransaction) : Bool × KnownTransaction :=
  let (required, known) := known.gasRequired
  (required ≤ known.tx.gas.toNat, known)

/-- Sign the transaction. If there is no signature, or none that would be valid, nothing changes. -/
def sign (suite : Suite Secret Public) (known : KnownTransaction) (key : Secret) :
    Except TransactionError Unit × KnownTransaction :=
  match suite.sign key known.tx.signingHash with
  | none => (.error .invalidSignature, known)
  | some signature =>
    if signature.isValid then
      (.ok (), { known with tx := { known.tx with signature }, sender? := none })
    else (.error .invalidSignature, known)

/-- Check that the gas covers what is needed. -/
def requirePayment (known : KnownTransaction) : Except TransactionError KnownTransaction :=
  match known.checkPayment with
  | (true, known) => .ok known
  | (false, known) => .error (.outOfGas known.gasRequired.1 known.tx.gas.toNat)

/-- Check a transaction: first the ranges of the signature, then the sender, then the gas. -/
def check (suite : Suite Secret Public) (level : CheckLevel) (known : KnownTransaction)
    (metrics : Metrics) : Except TransactionError KnownTransaction × Metrics :=
  match level with
  | .shape => (.ok known, metrics)
  | .cheap =>
    if known.tx.signature.isValid then (known.requirePayment, metrics)
    else (.error .invalidSignature, metrics)
  | .everything =>
    if known.tx.signature.isValid then
      match known.sender suite metrics with
      | (.error e, _, metrics) => (.error e, metrics)
      | (.ok _, known, metrics) => (known.requirePayment, metrics)
    else (.error .invalidSignature, metrics)

def decode (suite : Suite Secret Public) (level : CheckLevel) (bytes : Bytes)
    (metrics : Metrics) : Except TransactionError KnownTransaction × Metrics :=
  match Transaction.decode bytes with
  | .error e => (.error e, metrics)
  | .ok tx => (ofTransaction tx).check suite level metrics

end KnownTransaction

end Courier

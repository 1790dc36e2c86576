import Courier.Keccak
import Courier.Rlp.Value
import Courier.Signature

/-! # Transactions

A transaction calls an account or, without recipient, creates a contract. On the wire it is
the list `[nonce, gas price, gas, recipient, value, data, v, r, s]`, where `v` travels with
27 added; the first six fields alone are what the sender signs.
-/

namespace Courier

/-- Whether a transaction calls an account or creates a contract. -/
inductive TransactionKind where
  | messageCall
  | contractCreation
  deriving DecidableEq

def TransactionKind.name : TransactionKind → String
  | .messageCall => "MessageCall"
  | .contractCreation => "ContractCreation"

/-- A transaction, signed or not. Its kind follows from the recipient and is not kept beside it. -/
structure Transaction where
  nonce : Word
  gasPrice : Word
  /-- The most gas that the sender pays for. -/
  gas : Word
  /-- The account that is called; none for the creation of a contract. -/
  recipient : Option Address
  value : Word
  data : Bytes
  signature : Signature
  deriving DecidableEq

/-- What is paid for before anything runs. -/
structure GasSchedule where
  call : Nat
  creation : Nat
  zeroOctet : Nat
  otherOctet : Nat

def GasSchedule.standard : GasSchedule := ⟨21000, 53000, 4, 68⟩

/-- The gas charged for data and kind before anything runs: a base cost and a fee for each octet.
Octets are counted in 64 bits, and gas is added up in words. -/
def intrinsicGas (data : Bytes) (kind : TransactionKind) : Nat :=
  let schedule := GasSchedule.standard
  let base :=
    match kind with
    | .messageCall => schedule.call
    | .contractCreation => schedule.creation
  let zeros : UInt64 := .ofNat (data.count 0)
  let others : UInt64 := .ofNat data.length - zeros
  let gas : Word := .ofNat 256 base + .ofNat 256 zeros.toNat * .ofNat 256 schedule.zeroOctet +
    .ofNat 256 others.toNat * .ofNat 256 schedule.otherOctet
  gas.toNat

namespace Transaction

/-- What is added to `v` on the wire. -/
def wireOffset : UInt8 := 27

/-- A transaction that nobody has signed yet. -/
def unsigned (nonce gasPrice gas : Word) (recipient : Option Address) (value : Word)
    (data : Bytes) : Transaction :=
  ⟨nonce, gasPrice, gas, recipient, value, data, .blank⟩

def kind (tx : Transaction) : TransactionKind :=
  match tx.recipient with
  | some _ => .messageCall
  | none => .contractCreation

/-- The six fields that are signed. -/
def unsignedFields (tx : Transaction) : List Rlp.Value :=
  [.nat tx.nonce.toNat, .nat tx.gasPrice.toNat, .nat tx.gas.toNat,
    .octets (match tx.recipient with
      | some address => address.toList
      | none => []),
    .nat tx.value.toNat, .octets tx.data]

def signatureFields (tx : Transaction) : List Rlp.Value :=
  [.nat (tx.signature.v + wireOffset).toNat, .nat tx.signature.r.toNat, .nat tx.signature.s.toNat]

def encode (tx : Transaction) : Bytes :=
  (Rlp.Value.list (tx.unsignedFields ++ tx.signatureFields)).encode

/-- The octets that are signed. -/
def encodeUnsigned (tx : Transaction) : Bytes := (Rlp.Value.list tx.unsignedFields).encode

def hash (tx : Transaction) : Hash := keccak256 tx.encode

def signingHash (tx : Transaction) : Hash := keccak256 tx.encodeUnsigned

/-- The gas that the transaction needs before anything runs. -/
def gasRequired (tx : Transaction) : Nat := intrinsicGas tx.data tx.kind

end Transaction

end Courier

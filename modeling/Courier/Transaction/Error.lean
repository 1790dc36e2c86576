import Courier.Hex
import Courier.Rlp.Item

/-! # Failures of transactions

Octets can fail to be a transaction, and a transaction can fail a check. Each such failure
belongs to one of the exceptions that a transaction can end with.
-/

namespace Courier

/-- Every way in which a transaction can end, from decoding to execution. -/
inductive TransactionException where
  | none
  | badRlp
  | outOfGasIntrinsic
  | invalidSignature
  | invalidNonce
  | notEnoughCash
  | outOfGasBase
  | blockGasLimitReached
  | badInstruction
  | badJumpDestination
  | outOfGas
  | outOfStack
  | stackUnderflow
  | unknown
  deriving DecidableEq, Inhabited

namespace TransactionException

/-- All exceptions, in the order in which they can strike. -/
def all : List TransactionException :=
  [.none, .badRlp, .outOfGasIntrinsic, .invalidSignature, .invalidNonce, .notEnoughCash,
    .outOfGasBase, .blockGasLimitReached, .badInstruction, .badJumpDestination, .outOfGas,
    .outOfStack, .stackUnderflow, .unknown]

def name : TransactionException → String
  | .none => "None"
  | .badRlp => "BadRLP"
  | .outOfGasIntrinsic => "OutOfGasIntrinsic"
  | .invalidSignature => "InvalidSignature"
  | .invalidNonce => "InvalidNonce"
  | .notEnoughCash => "NotEnoughCash"
  | .outOfGasBase => "OutOfGasBase"
  | .blockGasLimitReached => "BlockGasLimitReached"
  | .badInstruction => "BadInstruction"
  | .badJumpDestination => "BadJumpDestination"
  | .outOfGas => "OutOfGas"
  | .outOfStack => "OutOfStack"
  | .stackUnderflow => "StackUnderflow"
  | .unknown => "Unknown"

end TransactionException

/-- Why octets are no record of fields. -/
inductive MalformedRecord where
  | notList
  | item (error : Rlp.Error)
  | trailing (count : Nat)
  /-- The list has more readable items than a transaction has fields. -/
  | tooManyFields (count : Nat)
  | other (complaint : String)
  deriving DecidableEq

/-- What is wrong, in words. -/
def MalformedRecord.reason : MalformedRecord → String
  | .notList => "transaction RLP must be a list"
  | .item error => error.name
  | .trailing count => toString count ++ " trailing bytes after transaction"
  | .tooManyFields count => "too many fields in transaction RLP: " ++ toString count
  | .other complaint => complaint

/-- Why an item is no field. -/
inductive FieldFault where
  /-- It cannot be read as what the field holds. -/
  | item (error : Rlp.Error)
  | other (complaint : String)
  deriving DecidableEq

/-- What is wrong, in words. -/
def FieldFault.reason : FieldFault → String
  | .item error => error.name
  | .other complaint => complaint

/-- Why octets are no valid transaction. -/
inductive TransactionError where
  | malformed (fault : MalformedRecord)
  /-- One field is wrong; `item` is the hexadecimal text of its octets, empty if there are none to
  be read. -/
  | badField (index : Nat) (item : String) (fault : FieldFault)
  /-- The signature is out of range, or nobody's. -/
  | invalidSignature
  /-- The gas does not cover what is charged before anything runs. -/
  | outOfGas (required supplied : Nat)
  deriving DecidableEq

namespace TransactionError

/-- The report of a failure. -/
def message : TransactionError → String
  | .malformed fault => "Malformed transaction encoding: " ++ fault.reason
  | .badField index item fault =>
    "Invalid transaction field " ++ toString index ++ " (0x" ++ item ++ "): " ++ fault.reason
  | .invalidSignature => "Invalid transaction signature"
  | .outOfGas required supplied =>
    "Out of gas (intrinsic): required " ++ toString required ++ ", supplied " ++ toString supplied

/-- The exception that a failure belongs to. -/
def toException : TransactionError → TransactionException
  | .malformed _ | .badField _ _ _ => .badRlp
  | .invalidSignature => .invalidSignature
  | .outOfGas _ _ => .outOfGasIntrinsic

end TransactionError

end Courier

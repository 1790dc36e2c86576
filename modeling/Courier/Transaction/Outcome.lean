import Courier.Json.Decode
import Courier.Json.Text
import Courier.Transaction.Basic

/-! # Records of transactions in JSON

The outcome of executing a transaction, its kind and its signature are exchanged as JSON.
Every field must be there; unknown members are passed over.
-/

namespace Courier

open Json

/-- What came of executing a transaction. -/
structure ExecutionResult where
  gasUsed : Word
  /-- The account that was created; zero for a call. -/
  newAddress : Address
  output : Bytes
  deriving DecidableEq

namespace ExecutionResult

/-- Nothing was executed. -/
def blank : ExecutionResult := ⟨0, .zero, []⟩

def describe (result : ExecutionResult) : String :=
  "\x7b" ++ toString result.gasUsed.toNat ++ ", " ++ Hex.encode result.newAddress.toList ++ ", " ++
    Hex.encode result.output ++ "\x7d"

def toJson (result : ExecutionResult) : String :=
  Text.object [("gas_used", Text.word result.gasUsed),
    ("new_address", Text.octets result.newAddress.toList), ("output", Text.octets result.output)]

def decoder : Decoder ExecutionResult := fun value => do
  let fields ← Decode.fields ["gas_used", "new_address", "output"] true value
  return ⟨← Decode.required Decode.word fields 0, ← Decode.required (Decode.octets 20) fields 1,
    ← Decode.required (Decode.list Decode.uint8) fields 2⟩

end ExecutionResult

namespace TransactionKind

def toJson (kind : TransactionKind) : String := Text.plain kind.name

def decoder : Decoder TransactionKind :=
  Decode.choice ([messageCall, contractCreation].map fun kind => (kind.name, kind))

end TransactionKind

namespace Signature

def toJson (signature : Signature) : String :=
  Text.object [("v", Text.nat signature.v.toNat), ("r", Text.word signature.r),
    ("s", Text.word signature.s)]

def decoder : Decoder Signature := fun value => do
  let fields ← Decode.fields ["v", "r", "s"] true value
  return ⟨← Decode.required Decode.uint8 fields 0, ← Decode.required Decode.word fields 1,
    ← Decode.required Decode.word fields 2⟩

end Signature

namespace Hash

/-- A digest in a message: all its digits behind a mark. -/
def describe (hash : Hash) : String := "0x" ++ Hex.encode hash.toList

def toJson (hash : Hash) : String := Text.octets hash.toList

/-- Read a digest. -/
def decoder : Decoder Hash := Decode.octets 32

end Hash

end Courier

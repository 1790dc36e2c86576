import Courier.Transaction.Basic
import Courier.Transaction.Error

/-! # Reading transactions

The nine fields are read in the order of the wire, and the first that is wrong is reported
with its index. Only then is the number of fields looked at.
-/

namespace Courier

namespace Transaction

def readField {α : Type} (listing : Rlp.Listing) (index : Nat)
    (read : Rlp.Item → Except Rlp.Error α) : Except TransactionError α :=
  match listing.get index with
  | .error e => .error (.badField index "" (.item e))
  | .ok item =>
    match read item with
    | .error e => .error (.badField index (Hex.encode item.raw) (.item e))
    | .ok value => .ok value

/-- Read a recipient: 20 octets, or none at all. -/
def readRecipient (item : Rlp.Item) : Except Rlp.Error (Option Address) :=
  if item.isList then .error .expectedData
  else if item.body = [] then .ok none
  else
    match Octets.ofList? item.body with
    | some address => .ok (some address)
    | none => .error (if item.body.length < 20 then .tooShort else .tooBig)

def readData (item : Rlp.Item) : Except Rlp.Error Bytes :=
  if item.isList then .error (.custom "transaction data must be a byte string")
  else item.octets

def ofListing (listing : Rlp.Listing) : Except TransactionError Transaction := do
  let nonce ← readField listing 0 Rlp.Item.word
  let gasPrice ← readField listing 1 Rlp.Item.word
  let gas ← readField listing 2 Rlp.Item.word
  let recipient ← readField listing 3 readRecipient
  let value ← readField listing 4 Rlp.Item.word
  let data ← readField listing 5 readData
  let v ← readField listing 6 (Rlp.Item.nat 1)
  let r ← readField listing 7 Rlp.Item.word
  let s ← readField listing 8 Rlp.Item.word
  if 9 < listing.size then throw (.malformed (.tooManyFields listing.size))
  return ⟨nonce, gasPrice, gas, recipient, value, data, ⟨UInt8.ofNat v - wireOffset, r, s⟩⟩

/-- Read a transaction that takes up all of the octets. -/
def decode (bytes : Bytes) : Except TransactionError Transaction :=
  if Rlp.startsList bytes then
    match Rlp.splitItem bytes with
    | .error e => .error (.malformed (.item e))
    | .ok (item, rest) =>
      if rest = [] then ofListing (.read item.body)
      else .error (.malformed (.trailing rest.length))
  else .error (.malformed .notList)

end Transaction

end Courier

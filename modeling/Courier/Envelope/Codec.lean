import Courier.Envelope.Basic
import Courier.Rlp.Item
import Courier.Rlp.Value

/-! # The encoding of envelopes

An envelope is written as the list `[expiry, ttl, [topic, …], data, nonce]`. Without the
nonce the list is what the proof of work commits to.
-/

namespace Courier

namespace Envelope

/-- Everything but the nonce, field by field. -/
def sealFields (envelope : Envelope) : List Rlp.Value :=
  [.nat envelope.expiry.toNat, .nat envelope.ttl.toNat,
    .list (envelope.topics.toList.map fun topic => .octets topic.toList),
    .octets envelope.data]

def toValue (envelope : Envelope) : Rlp.Value :=
  .list (envelope.sealFields ++ [.nat envelope.nonce.toNat])

def encode (envelope : Envelope) : Bytes := envelope.toValue.encode

/-- The octets of everything but the nonce. -/
def encodeSeal (envelope : Envelope) : Bytes := (Rlp.Value.list envelope.sealFields).encode

/-- The number of octets of the whole envelope. -/
def encodedLength (envelope : Envelope) : Nat := envelope.encode.length

/-- The identity of an envelope: the digest of its encoding. -/
def hash (envelope : Envelope) : Hash := keccak256 envelope.encode

/-- The digest of everything but the nonce. -/
def sealHash (envelope : Envelope) : Hash := keccak256 envelope.encodeSeal

/-- Why octets are no envelope. -/
inductive Malformed where
  /-- Some item cannot be read. -/
  | item (error : Rlp.Error)
  /-- Octets follow the envelope. -/
  | trailing (count : Nat)
  | notList
  /-- The list has too many or too few readable items. -/
  | fieldCount (found : Nat)
  | topicsNotList
  | topicCount (found : Nat)
  | topicNotOctets
  | topicLength
  | dataNotOctets
  deriving DecidableEq

/-- What is wrong, in words. -/
def Malformed.reason : Malformed → String
  | .item error => error.name
  | .trailing count => toString count ++ " trailing bytes"
  | .notList => "envelope is not a list"
  | .fieldCount found => "expected 5 fields, found " ++ toString found
  | .topicsNotList => "topics is not a list"
  | .topicCount found =>
    toString found ++ " topics exceeds maximum of " ++ toString maxTopics
  | .topicNotOctets => "topic is not a byte string"
  | .topicLength => "topic must be 4 bytes"
  | .dataNotOctets => "data is not a byte string"

def Malformed.message (e : Malformed) : String :=
  "Malformed envelope encoding: " ++ e.reason

/-- Pass an unreadable item on as the fault of the envelope. -/
def orMalformed {α : Type} : Except Rlp.Error α → Except Malformed α
  | .ok a => .ok a
  | .error e => .error (.item e)

def readTopic (item : Rlp.Item) : Except Malformed Topic :=
  if item.isList then .error .topicNotOctets
  else
    match Octets.ofList? item.body with
    | some topic => .ok topic
    | none => .error .topicLength

/-- Read topics until one is malformed. -/
def readTopicList : List Rlp.Item → Except Malformed (List Topic)
  | [] => .ok []
  | item :: rest => do
    let topic ← readTopic item
    let topics ← readTopicList rest
    return topic :: topics

/-- Read the list of topics; their number is checked first. -/
def readTopics (item : Rlp.Item) : Except Malformed Topics :=
  match item.listing with
  | .error _ => .error .topicsNotList
  | .ok listing =>
    if maxTopics < listing.size then .error (.topicCount listing.size)
    else do
      let topics ← readTopicList listing.items
      match Topics.ofList topics with
      | .ok topics => return topics
      | .error e => throw (.topicCount e.count)

def readData (item : Rlp.Item) : Except Malformed Bytes :=
  if item.isList then .error .dataNotOctets else orMalformed item.octets

def ofItem (item : Rlp.Item) : Except Malformed Envelope :=
  match item.listing with
  | .error _ => .error .notList
  | .ok listing =>
    if listing.size = 5 then do
      let expiry ← orMalformed (listing.get 0 >>= Rlp.Item.nat 4)
      let ttl ← orMalformed (listing.get 1 >>= Rlp.Item.nat 4)
      let topics ← readTopics (← orMalformed (listing.get 2))
      let data ← readData (← orMalformed (listing.get 3))
      let nonce ← orMalformed (listing.get 4 >>= Rlp.Item.nat 8)
      return ⟨.ofNat expiry, .ofNat ttl, topics, data, .ofNat nonce⟩
    else .error (.fieldCount listing.size)

/-- Read an envelope that takes up all of the octets. -/
def decode (bytes : Bytes) : Except Malformed Envelope :=
  match Rlp.splitItem bytes with
  | .error e => .error (.item e)
  | .ok (item, rest) => if rest = [] then ofItem item else .error (.trailing rest.length)

end Envelope

end Courier

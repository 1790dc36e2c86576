import Courier.Hex
import Courier.Keccak

/-! # Topics

The text of a topic is hashed twice: once into its full form, which keys the cipher, and
again into the four octets that an envelope shows. Whoever sees those four octets does not
learn the full form.
-/

namespace Courier

abbrev FullTopic := Hash

/-- What an envelope shows of a topic. -/
abbrev Topic := Octets 4

namespace FullTopic

def ofText (text : String) : FullTopic := keccak256 (Bytes.ofText text)

/-- The four octets that commit to a full topic. -/
def abridge (full : FullTopic) : Topic := (keccak256 full.toList).take 4 (by decide)

/-- A full topic in a log line: its first eight octets. -/
def describe (full : FullTopic) : String :=
  "FullTopic(" ++ Hex.encode (full.toList.take 8) ++ ")"

end FullTopic

namespace Topic

/-- What an envelope shows of a topic with the given text. -/
def commit (text : String) : Topic := FullTopic.abridge (FullTopic.ofText text)

def describe (topic : Topic) : String := "Topic(" ++ Hex.encode topic.toList ++ ")"

end Topic

/-- The most topics that an envelope can carry. -/
def maxTopics : Nat := 4

/-- A list of topics was too long. -/
structure TooManyTopics where
  /-- How many there were. -/
  count : Nat
  deriving DecidableEq

/-- The report of a list that was too long. -/
def TooManyTopics.message (e : TooManyTopics) : String :=
  "Too many topics: " ++ toString e.count ++ " (max " ++ toString maxTopics ++ ")"

/-- The topics of an envelope, in order. -/
@[ext] structure Topics where
  toList : List Topic
  /-- There are not too many of them. -/
  length_le : toList.length ≤ maxTopics
  deriving DecidableEq

namespace Topics

def empty : Topics := ⟨[], by decide⟩

def ofList (topics : List Topic) : Except TooManyTopics Topics :=
  if h : topics.length ≤ maxTopics then .ok ⟨topics, h⟩ else .error ⟨topics.length⟩

def ofFull (full : List FullTopic) : Except TooManyTopics Topics :=
  ofList (full.map FullTopic.abridge)

def size (topics : Topics) : Nat := topics.toList.length

def describe (topics : Topics) : String :=
  "Topics([" ++ ", ".intercalate (topics.toList.map Topic.describe) ++ "])"

end Topics

/-- The topics of an envelope about the given texts, and the full topics that open it. -/
def buildTopics (texts : List String) : Except TooManyTopics (Topics × List FullTopic) := do
  let full := texts.map FullTopic.ofText
  let topics ← Topics.ofFull full
  return (topics, full)

end Courier

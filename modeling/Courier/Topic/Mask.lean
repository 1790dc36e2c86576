import Courier.Topic

/-! # Topic masks

A mask has one entry for each position, either a topic or a wildcard. It fits the envelopes
with as many topics as it has entries, when every entry that is no wildcard equals the
topic at its position.
-/

namespace Courier

/-- A filter over the topics of envelopes. -/
structure TopicMask where
  /-- The full topics asked for; a wildcard has none. -/
  full : List (Option FullTopic)
  entries : List (Option Topic)
  /-- The topics are those of the full topics, position by position. -/
  entries_eq : entries = full.map (·.map FullTopic.abridge)
  deriving DecidableEq

namespace TopicMask

def ofFull (full : List (Option FullTopic)) : TopicMask :=
  ⟨full, full.map (·.map FullTopic.abridge), rfl⟩

/-- The mask with the given texts; no text is a wildcard. -/
def build (texts : List (Option String)) : TopicMask :=
  ofFull (texts.map (·.map FullTopic.ofText))

/-- The mask that asks for exactly the given texts, in order. -/
def exact (texts : List String) : TopicMask := build (texts.map some)

/-- Whether the entries fit a list of topics, position by position. -/
def fits : List (Option Topic) → List Topic → Bool
  | [], [] => true
  | none :: entries, _ :: topics => fits entries topics
  | some entry :: entries, topic :: topics => entry = topic && fits entries topics
  | _, _ => false

def matchesTopics (mask : TopicMask) (topics : Topics) : Bool := fits mask.entries topics.toList

/-- The full topics asked for, wildcards left out. -/
def fullTopics (mask : TopicMask) : List FullTopic := mask.full.filterMap id

def hasWildcards (mask : TopicMask) : Bool := mask.entries.any Option.isNone

end TopicMask

end Courier

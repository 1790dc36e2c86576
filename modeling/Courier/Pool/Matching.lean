import Courier.Pool.Basic
import Courier.Topic.Mask

/-! # Finding envelopes by topic

The envelopes that a mask fits are given in the order of their expiry; expired ones are
left out even if they are still held.
-/

namespace Courier.Pool

/-- The live envelopes that a mask fits, those that expire first in front. -/
def matching (pool : Pool) (now : UInt64) (mask : TopicMask) : List Resident :=
  (pool.byExpiry.filterMap fun key => pool.find? key.hash).filter fun resident =>
    !resident.envelope.isExpired now && mask.matchesTopics resident.envelope.topics

end Courier.Pool

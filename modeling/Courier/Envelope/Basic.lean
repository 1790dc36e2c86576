import Courier.Topic

/-! # Envelopes

An envelope is what peers pass on: sealed octets with topics to find them by, the time they
were meant to live, and a nonce that proves work. Times are seconds; an envelope's times
have 32 bits, a clock has 64.
-/

namespace Courier

/-- What peers pass on to each other. -/
structure Envelope where
  /-- The second from which the envelope is worthless. -/
  expiry : UInt32
  /-- How many seconds before that it was sealed. -/
  ttl : UInt32
  /-- What it can be found by. -/
  topics : Topics
  /-- The sealed octets. -/
  data : Bytes
  /-- The proof of work. -/
  nonce : UInt64
  deriving DecidableEq

/-- The end of an envelope's life would lie beyond what 32 bits can tell. -/
structure ExpiryOutOfRange where
  now : UInt64
  ttl : UInt32
  deriving DecidableEq

/-- The report of a life that ends too late. -/
def ExpiryOutOfRange.message (e : ExpiryOutOfRange) : String :=
  "Expiry " ++ toString e.now.toNat ++ " + " ++ toString e.ttl.toNat ++
    " exceeds the 32-bit timestamp range"

namespace Envelope

/-- An envelope without proof of work that is sealed now and lives for `ttl` seconds. -/
def create (now : UInt64) (ttl : UInt32) (topics : Topics) (data : Bytes) :
    Except ExpiryOutOfRange Envelope :=
  if now.toNat + ttl.toNat < 0x100000000 then
    .ok ⟨.ofNat (now.toNat + ttl.toNat), ttl, topics, data, 0⟩
  else .error ⟨now, ttl⟩

/-- The second in which the envelope was sealed; never before the first one. -/
def sent (envelope : Envelope) : UInt64 :=
  .ofNat (envelope.expiry.toNat - envelope.ttl.toNat)

/-- Whether the envelope is worthless; it is from its expiry second on. -/
def isExpired (envelope : Envelope) (now : UInt64) : Bool := envelope.expiry.toUInt64 ≤ now

/-- An envelope in a log line; of the data only the first octets are shown. -/
def describe (envelope : Envelope) : String :=
  "Envelope \x7b expiry: " ++ toString envelope.expiry.toNat ++
    ", ttl: " ++ toString envelope.ttl.toNat ++
    ", topics: " ++ envelope.topics.describe ++
    ", data: \"" ++ Hex.short envelope.data ++ "\"" ++
    ", nonce: " ++ toString envelope.nonce.toNat ++ " \x7d"

end Envelope

end Courier

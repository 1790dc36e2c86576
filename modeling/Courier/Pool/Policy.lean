import Courier.Json.Decode

/-! # What a pool asks of envelopes

A policy bounds how many envelopes a pool holds, how much work each must prove, and how far
ahead of the pool's clock it may have been sealed. It is read from JSON; fields that are
not there keep their defaults.
-/

namespace Courier

/-- The bounds that a pool works with. -/
structure PoolPolicy where
  /-- The most envelopes held at once. -/
  maxMessages : Nat
  /-- The least score of an envelope. -/
  minScore : Float
  /-- How many seconds ahead of the clock an envelope may have been sealed. -/
  maxSkew : UInt64

namespace PoolPolicy

def standard : PoolPolicy := ⟨10000, 2.0, 30⟩

/-- A small pool that takes any work. -/
def lenient : PoolPolicy := ⟨100, 0.0, 30⟩

/-- Two policies are the same if they compare the same; a bound that is no number never does. -/
def same (a b : PoolPolicy) : Bool :=
  a.maxMessages = b.maxMessages && a.minScore == b.minScore && a.maxSkew = b.maxSkew

open Json in
def decoder : Decoder PoolPolicy := fun value => do
  let fields ← Decode.fields ["max_messages", "min_pow", "max_clock_skew_secs"] true value
  let maxMessages ← Decode.withDefault (Decode.nat 0xffffffffffffffff) standard.maxMessages fields 0
  let minScore ← Decode.withDefault Decode.float standard.minScore fields 1
  let maxSkew ← Decode.withDefault Decode.uint64 standard.maxSkew fields 2
  return ⟨maxMessages, minScore, maxSkew⟩

end PoolPolicy

end Courier

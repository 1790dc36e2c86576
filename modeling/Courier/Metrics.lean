/-! # Counts kept of what happens

Counters only grow; the two gauges show the latest size of the pool and of the set of
connected peers. Refusals are counted by their cause.
-/

namespace Courier

/-- The causes for which a pool refuses an envelope. -/
inductive Refusal where
  | duplicate
  | expired
  | fromFuture
  | insufficientWork
  | poolFull
  deriving DecidableEq

namespace Refusal

/-- All causes, in the order of their labels. -/
def all : List Refusal := [.duplicate, .expired, .fromFuture, .insufficientWork, .poolFull]

/-- The label under which a cause is counted. -/
def label : Refusal → String
  | .duplicate => "duplicate"
  | .expired => "expired"
  | .fromFuture => "from_future"
  | .insufficientWork => "insufficient_work"
  | .poolFull => "pool_full"

end Refusal

/-- The counters and gauges of one process. -/
structure Metrics where
  accepted : Nat
  /-- Envelopes that a pool refused, by cause. -/
  refused : Refusal → Nat
  /-- Hashes appended to the pending lists of watches. -/
  notified : Nat
  /-- Envelopes sent to peers. -/
  relayed : Nat
  /-- Transactions whose sender could not be recovered. -/
  recoveryFailures : Nat
  poolSize : Nat
  peersConnected : Nat

namespace Metrics

/-- Nothing has happened yet. -/
def zero : Metrics := ⟨0, fun _ => 0, 0, 0, 0, 0, 0⟩

def countRefusal (metrics : Metrics) (cause : Refusal) : Metrics :=
  { metrics with
    refused := fun other =>
      if other = cause then metrics.refused other + 1 else metrics.refused other }

end Metrics

end Courier

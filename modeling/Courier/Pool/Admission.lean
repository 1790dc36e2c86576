import Courier.Metrics
import Courier.Pool.Basic

/-! # Admission to the pool

An envelope is refused if it is expired, sealed too far ahead, held already or too weak. If
the pool is full, expired envelopes make room first; failing that, the weakest one does if
it is weaker than the newcomer. What is refused leaves no trace.
-/

namespace Courier

/-- The sum of two numbers of seconds, or the last second if that would be later. -/
def saturatingAdd (a b : UInt64) : UInt64 :=
  .ofNat (min (a.toNat + b.toNat) 0xffffffffffffffff)

/-- Why an envelope is refused. -/
inductive Rejection where
  | duplicate
  | expired
  | fromFuture
  | insufficientWork (score required : Float)
  | poolFull

/-- The cause under which a refusal is counted. -/
def Rejection.toRefusal : Rejection → Refusal
  | .duplicate => .duplicate
  | .expired => .expired
  | .fromFuture => .fromFuture
  | .insufficientWork _ _ => .insufficientWork
  | .poolFull => .poolFull

/-- What came of offering an envelope to a pool. -/
inductive Outcome where
  | accepted (hash : Hash)
  | rejected (reason : Rejection)

namespace Pool

/-- Make room for a newcomer with the given score in a pool that is full: take out what is expired,
or else the weakest envelope if the newcomer is stronger. -/
def makeRoom? (pool : Pool) (now : UInt64) (score : Float) : Pool × Bool :=
  if pool.size < pool.policy.maxMessages then (pool, true)
  else
    let swept := (pool.purgeExpired now).1
    if swept.size < pool.policy.maxMessages then (swept, true)
    else
      match swept.rule.pick swept.residents with
      | some victim =>
        if victim.score < score then (swept.remove victim.hash, true) else (swept, false)
      | none => (swept, false)

def insert (pool : Pool) (now : UInt64) (envelope : Envelope) : Pool × Outcome :=
  let hash := envelope.hash
  if envelope.isExpired now then (pool, .rejected .expired)
  else if saturatingAdd now pool.policy.maxSkew < envelope.sent then (pool, .rejected .fromFuture)
  else if pool.contains hash then (pool, .rejected .duplicate)
  else
    let score := envelope.score
    if score < pool.policy.minScore then
      (pool, .rejected (.insufficientWork score pool.policy.minScore))
    else
      match pool.makeRoom? now score with
      | (pool, true) => (pool.add ⟨hash, envelope, score, envelope.encodedLength⟩, .accepted hash)
      | (pool, false) => (pool, .rejected .poolFull)

end Pool

namespace Metrics

/-- Count what came of an offer that left a pool of the given size. -/
def countOffer (metrics : Metrics) (outcome : Outcome) (size : Nat) : Metrics :=
  match outcome with
  | .accepted _ => { metrics with accepted := metrics.accepted + 1, poolSize := size }
  | .rejected reason => metrics.countRefusal reason.toRefusal

def noteSweep (metrics : Metrics) (size : Nat) : Metrics := { metrics with poolSize := size }

end Metrics

namespace Pool

/-- Offer an envelope to the pool, and count what came of it. -/
def insertCounted (pool : Pool) (metrics : Metrics) (now : UInt64) (envelope : Envelope) :
    Pool × Metrics × Outcome :=
  let (pool, outcome) := pool.insert now envelope
  (pool, metrics.countOffer outcome pool.size, outcome)

/-- Take out all expired envelopes, note the size, and tell how many there were. -/
def sweepCounted (pool : Pool) (metrics : Metrics) (now : UInt64) : Pool × Metrics × Nat :=
  let (pool, purged) := pool.purgeExpired now
  (pool, metrics.noteSweep pool.size, purged)

end Pool

end Courier

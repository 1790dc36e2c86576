import Courier.Json.Text
import Courier.Pool.Eviction
import Courier.Pool.Policy

/-! # The pool

A pool holds envelopes by their hash. Beside them it keeps an index in the order of expiry
and the sum of their sizes, so that expired envelopes are found from its front and the
status needs no search.
-/

namespace Courier

/-- A key of the index: envelopes that expire together are ordered by their hashes. -/
structure ExpiryKey where
  expiry : UInt32
  hash : Hash
  deriving DecidableEq

namespace ExpiryKey

/-- Whether one key stands before another. -/
def before (a b : ExpiryKey) : Bool :=
  a.expiry < b.expiry || (a.expiry = b.expiry && a.hash < b.hash)

/-- Put a key in its place among keys in order; one that is there already stays alone. -/
def insert (key : ExpiryKey) : List ExpiryKey → List ExpiryKey
  | [] => [key]
  | other :: rest =>
    if key = other then other :: rest
    else if key.before other then key :: other :: rest
    else other :: insert key rest

end ExpiryKey

/-- Envelopes that wait to be fetched or passed on. -/
structure Pool where
  policy : PoolPolicy
  /-- Which of the weakest envelopes gives way. -/
  rule : EvictionRule
  /-- The envelopes, in the order in which they came. -/
  residents : List Resident
  /-- The keys of the envelopes, in order. -/
  byExpiry : List ExpiryKey
  /-- The sum of the sizes of the envelopes. -/
  bytes : Nat

/-- What a pool can tell of itself. -/
structure PoolStatus where
  envelopes : Nat
  bytes : Nat
  capacity : Nat
  oldestExpiry : Option UInt32
  deriving DecidableEq

namespace PoolStatus

/-- The look at a pool that was never filled and has no room. -/
def blank : PoolStatus := ⟨0, 0, 0, none⟩

open Json in
def toJson (status : PoolStatus) : String :=
  Text.object [("envelopes", Text.nat status.envelopes), ("bytes", Text.nat status.bytes),
    ("capacity", Text.nat status.capacity),
    ("oldest_expiry", Text.orNull (fun expiry => Text.nat expiry.toNat) status.oldestExpiry)]

end PoolStatus

namespace Resident

def key (resident : Resident) : ExpiryKey := ⟨resident.envelope.expiry, resident.hash⟩

end Resident

namespace Pool

def empty (policy : PoolPolicy) : Pool := ⟨policy, .leastHash, [], [], 0⟩

/-- The number of envelopes. -/
def size (pool : Pool) : Nat := pool.residents.length

def find? (pool : Pool) (hash : Hash) : Option Resident :=
  pool.residents.find? (·.hash = hash)

def contains (pool : Pool) (hash : Hash) : Bool := (pool.find? hash).isSome

def hashes (pool : Pool) : List Hash := pool.residents.map (·.hash)

/-- Add an envelope that is not held yet. -/
def add (pool : Pool) (resident : Resident) : Pool :=
  { pool with
    residents := pool.residents ++ [resident]
    byExpiry := resident.key.insert pool.byExpiry
    bytes := pool.bytes + resident.size }

/-- Take out the envelope with a hash, if it is held. -/
def remove (pool : Pool) (hash : Hash) : Pool :=
  match pool.find? hash with
  | none => pool
  | some resident =>
    { pool with
      residents := pool.residents.filter (·.hash ≠ hash)
      byExpiry := pool.byExpiry.filter (· ≠ resident.key)
      bytes := pool.bytes - resident.size }

/-- The keys of the envelopes that are expired, which stand in front. -/
def expiredKeys (pool : Pool) (now : UInt64) : List ExpiryKey :=
  pool.byExpiry.takeWhile fun key => key.expiry.toUInt64 ≤ now

/-- Take out all expired envelopes, and tell how many there were. -/
def purgeExpired (pool : Pool) (now : UInt64) : Pool × Nat :=
  let expired := pool.expiredKeys now
  (expired.foldl (fun pool key => pool.remove key.hash) pool, expired.length)

/-- The envelope with a hash, even if it is expired and not yet swept. -/
def lookup (pool : Pool) (hash : Hash) : Option Envelope := (pool.find? hash).map (·.envelope)

def status (pool : Pool) : PoolStatus :=
  ⟨pool.size, pool.bytes, pool.policy.maxMessages, pool.byExpiry.head?.map (·.expiry)⟩

end Pool

/-- An envelope is not in the pool. -/
structure NotFound where
  hash : Hash
  deriving DecidableEq

def NotFound.message (e : NotFound) : String :=
  "Envelope not found: 0x" ++ Hex.encode e.hash.toList

end Courier

import Courier.Host.Flooding
import Courier.Text.Quoted

/-! # Posting

A post is sealed, stamped with work, offered to the host's own pool and, if accepted, sent
to all peers at once. The search for work takes time, so the clock is read for each of these
steps: for the seal, when the pool looks at the envelope, and when the queues are flushed.
-/

namespace Courier

variable {Secret Public : Type}

/-- How much work to spend on a post. -/
inductive WorkBudget where
  /-- As much as can be done in some time. -/
  | time (limit : Duration)
  /-- Until so many leading zero bits are reached. -/
  | bits (target : UInt32)

/-- What is wanted of a post. -/
structure PostRequest (Secret Public : Type) where
  message : OutgoingMessage Secret Public
  topics : List String
  ttl : UInt32
  work : WorkBudget

/-- What is left to chance when a post is made. -/
structure Chance (Secret : Type) where
  /-- What is fresh in the sealed message. -/
  fresh : Freshness Secret
  /-- How many rounds of the search for a nonce the clock allows. -/
  rounds : Nat
  /-- What the clock shows when the pool looks at the envelope. -/
  admission : UInt64
  /-- What the clock shows when the queues are flushed. -/
  flush : UInt64

/-- The life of a post that does not ask for another one. -/
def defaultTtl : UInt32 := 50

/-- The reason for a refusal in a log line. -/
def Rejection.describe : Rejection → String
  | .duplicate => "Duplicate"
  | .expired => "Expired"
  | .fromFuture => "FromFuture"
  | .insufficientWork _ _ => "InsufficientWork"
  | .poolFull => "PoolFull"

def HostError.message : HostError → String
  | .topics error => error.message
  | .sealing error => error.message
  | .notFound error => error.message
  | .noSuchWatch error => error.message
  | .workTargetTooHigh requested =>
    "Work target of " ++ toString requested.toNat ++ " bits exceeds the maximum of " ++
      toString Work.maxBits.toNat
  | .rejected reason => "Envelope rejected by local pool: " ++ reason.describe

def WorkBudget.describe : WorkBudget → String
  | .time limit => "Time(" ++ limit.describe ++ ")"
  | .bits target => "Bits(" ++ toString target.toNat ++ ")"

/-- A request in a log line, which keeps the payload and the keys to itself. -/
def PostRequest.describe (request : PostRequest Secret Public) : String :=
  "PostRequest \x7b payload_len: " ++ toString request.message.payload.length ++
    ", topics: [" ++ ", ".intercalate (request.topics.map Text.Quoted.encode) ++
    "], ttl: " ++ toString request.ttl.toNat ++ ", work: " ++ request.work.describe ++
    ", signed: " ++ toString request.message.sender.isSome ++
    ", addressed: " ++ toString request.message.recipient.isSome ++ " \x7d"

/-- Stamp an envelope with work; without any time, only the first nonce is tried. -/
def Envelope.stamp (envelope : Envelope) (work : WorkBudget) (rounds : Nat) : Envelope :=
  match work with
  | .time limit => (envelope.proveWork (if limit.nanoseconds = 0 then 0 else rounds)).1
  | .bits target => (envelope.proveWorkBits target).1

namespace Host

def compose (suite : Suite Secret Public) (now : UInt64) (request : PostRequest Secret Public)
    (chance : Chance Secret) : Except HostError Envelope :=
  let tooMuch :=
    match request.work with
    | .bits target => if Work.maxBits < target then some target else none
    | .time _ => none
  match tooMuch with
  | some target => .error (.workTargetTooHigh target)
  | none =>
    match buildTopics request.topics with
    | .error e => .error (.topics e)
    | .ok (_, full) =>
      match request.message.toEnvelope suite full request.ttl now chance.fresh with
      | .error e => .error (.sealing e)
      | .ok envelope => .ok (envelope.stamp request.work chance.rounds)

/-- Post a message that is sealed at `now`, and tell the hash of its envelope. -/
def post (host : Host) (suite : Suite Secret Public) (network : Network) (now : UInt64)
    (request : PostRequest Secret Public) (chance : Chance Secret) :
    Host × Except HostError Hash :=
  match compose suite now request chance with
  | .error e => (host, .error e)
  | .ok envelope =>
    match host.inject chance.admission envelope none with
    | (host, .accepted hash) => ((host.flushAll network chance.flush).1, .ok hash)
    | (host, .rejected reason) => (host, .error (.rejected reason))

end Host

end Courier

import Courier.Host.Basic

/-! # Flooding

What the pool accepts is announced to the watches and queued for every peer that does not
have it yet. A flush empties a peer's queue and sends what is still held and alive, in
packets of limited size; after the first packet that the network does not take, the rest of
the queue is lost.
-/

namespace Courier

/-- Cut a list into pieces of at most `size` elements, for a size that is not zero. -/
def batches {α : Type} (size : Nat) (xs : List α) : List (List α) :=
  match xs with
  | [] => []
  | x :: rest =>
    (x :: rest.take (size - 1)) :: batches size (rest.drop (size - 1))
termination_by xs.length
decreasing_by
  simp only [List.length_drop, List.length_cons]
  omega

namespace Host

/-- Note that the source of an accepted envelope has it, and queue it for all other peers. -/
def noteAccepted (host : Host) (hash : Hash) (source : Option PeerId) : Host :=
  { host with
    peers := host.peers.map fun (peer, state) =>
      (peer, if some peer = source then state.markKnown hash else (state.enqueue hash).1) }

/-- Offer an envelope to the pool and, if it is accepted, to the watches and the peers. A peer that
sent an envelope has it, whatever the pool says. -/
def inject (host : Host) (now : UInt64) (envelope : Envelope) (source : Option PeerId) :
    Host × Outcome :=
  let (pool, metrics, outcome) := host.pool.insertCounted host.metrics now envelope
  let host := { host with pool, metrics }
  match outcome with
  | .accepted hash =>
    let (watches, hits) := host.watches.notify hash envelope.topics
    let metrics := { host.metrics with notified := host.metrics.notified + hits }
    ({ host with watches, metrics }.noteAccepted hash source, outcome)
  | .rejected _ =>
    match source with
    | some peer => (host.updatePeer peer (·.markKnown envelope.hash), outcome)
    | none => (host, outcome)

/-- Send packets of envelopes until the network does not take one, and tell how many envelopes went
out. -/
def sendBatches (host : Host) (network : Network) (peer : PeerId) :
    List (List Envelope) → Host × Nat
  | [] => (host, 0)
  | batch :: rest =>
    match host.send network peer (.messages batch) with
    | (host, true) =>
      let (host, sent) := sendBatches host network peer rest
      (host, batch.length + sent)
    | (host, false) => (host, 0)

/-- The envelopes behind queued hashes that are still held and alive. -/
def liveQueued (host : Host) (now : UInt64) (queue : List Hash) : List Envelope :=
  (queue.filterMap host.pool.lookup).filter fun envelope => !envelope.isExpired now

/-- Send what is queued for a peer, and tell how many envelopes went out. -/
def flush (host : Host) (network : Network) (now : UInt64) (peer : PeerId) : Host × Nat :=
  match host.peer? peer with
  | none => (host, 0)
  | some state =>
    let host := host.updatePeer peer fun state => state.takeQueue.1
    let envelopes := host.liveQueued now state.queue
    let (host, sent) :=
      host.sendBatches network peer (batches (max host.settings.maxBatch 1) envelopes)
    ({ host with metrics := { host.metrics with relayed := host.metrics.relayed + sent } }, sent)

/-- Flush the queues of some peers, and tell how many envelopes went out. -/
def flushEach (host : Host) (network : Network) (now : UInt64) : List PeerId → Host × Nat
  | [] => (host, 0)
  | peer :: rest =>
    let (host, sent) := host.flush network now peer
    let (host, more) := flushEach host network now rest
    (host, sent + more)

/-- Flush the queues of all peers, and tell how many envelopes went out. -/
def flushAll (host : Host) (network : Network) (now : UInt64) : Host × Nat :=
  host.flushEach network now (host.peers.map (·.1))

/-- Sweep the pool, and tell how many envelopes were expired. -/
def housekeeping (host : Host) (now : UInt64) : Host × Nat :=
  let (pool, metrics, purged) := host.pool.sweepCounted host.metrics now
  ({ host with pool, metrics }, purged)

end Host

end Courier

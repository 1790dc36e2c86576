import Courier.Host.Network
import Courier.Host.Settings
import Courier.Message
import Courier.Pool.Admission
import Courier.Pool.Matching
import Courier.Watch.Registry

/-! # Hosts

A host ties together a pool, the watches over it and what it knows of its peers. Packets
leave through an outbox, which keeps all that was handed to the network.
-/

namespace Courier

/-- A member of the network. -/
structure Host where
  settings : HostSettings
  pool : Pool
  watches : WatchRegistry
  /-- The connected peers, in the order in which they connected. -/
  peers : List (PeerId × PeerState)
  metrics : Metrics
  /-- Everything that was handed to the network, in order. -/
  outbox : List Handover

/-- A look at a host. -/
structure HostStatus where
  peers : Nat
  pooled : Nat
  watches : Nat
  queued : Nat
  deriving DecidableEq

namespace HostStatus

def blank : HostStatus := ⟨0, 0, 0, 0⟩

open Json in
def toJson (status : HostStatus) : String :=
  Text.object [("peers", Text.nat status.peers), ("pooled_envelopes", Text.nat status.pooled),
    ("watches", Text.nat status.watches), ("queued_envelopes", Text.nat status.queued)]

end HostStatus

/-- Why a host does not do what it is asked. -/
inductive HostError where
  | topics (error : TooManyTopics)
  | sealing (error : SealError)
  | notFound (error : NotFound)
  | noSuchWatch (error : NoSuchWatch)
  /-- So much work is not done. -/
  | workTargetTooHigh (requested : UInt32)
  /-- The pool refused the new envelope. -/
  | rejected (reason : Rejection)

namespace Host

def initial (settings : HostSettings) (policy : PoolPolicy) : Host :=
  ⟨settings, .empty policy, .empty, [], .zero, []⟩

def peer? (host : Host) (peer : PeerId) : Option PeerState := host.peers.lookup peer

def isConnected (host : Host) (peer : PeerId) : Bool := (host.peer? peer).isSome

/-- Whether a peer has an envelope, or is about to get it. -/
def peerKnows (host : Host) (peer : PeerId) (hash : Hash) : Bool :=
  ((host.peer? peer).map (·.knows hash)).getD false

def peerVersion (host : Host) (peer : PeerId) : Option UInt32 :=
  (host.peer? peer).bind PeerState.version

def updatePeer (host : Host) (peer : PeerId) (change : PeerState → PeerState) : Host :=
  { host with
    peers := host.peers.map fun (other, state) =>
      (other, if other = peer then change state else state) }

def status (host : Host) : HostStatus :=
  ⟨host.peers.length, host.pool.size, host.watches.size,
    (host.peers.flatMap fun (_, state) => state.queue).length⟩

/-- Hand a packet to the network, and tell whether it took it. -/
def send (host : Host) (network : Network) (peer : PeerId) (packet : Packet) : Host × Bool :=
  let taken := network host.outbox peer packet
  ({ host with outbox := host.outbox ++ [⟨peer, packet, taken⟩] }, taken)

end Host

end Courier

import Courier.Host.Flooding

/-! # Connections

A peer that connects is told the host's version and, if the settings say so, sent all that
the pool holds. What peers send is only read while they are connected.
-/

namespace Courier.Host

def enqueueAll (host : Host) (peer : PeerId) (hashes : List Hash) : Host :=
  host.updatePeer peer fun state => hashes.foldl (fun state hash => (state.enqueue hash).1) state

def notePeers (host : Host) : Host :=
  { host with metrics := { host.metrics with peersConnected := host.peers.length } }

/-- A peer connects; one that is connected already changes nothing. -/
def connect (host : Host) (network : Network) (now : UInt64) (peer : PeerId) : Host :=
  if host.isConnected peer then host
  else
    let host := { host with peers := host.peers ++ [(peer, PeerState.initial)] }.notePeers
    let host := (host.send network peer (.status host.settings.protocolVersion)).1
    if host.settings.syncOnConnect then
      ((host.enqueueAll peer host.pool.hashes).flush network now peer).1
    else host

/-- A peer disconnects, and what was known of it is forgotten. -/
def disconnect (host : Host) (peer : PeerId) : Host :=
  if host.isConnected peer then
    { host with peers := host.peers.filter (·.1 ≠ peer) }.notePeers
  else host

/-- Take in the envelopes of a packet; malformed ones are passed over. -/
def takeIn (host : Host) (now : UInt64) (peer : PeerId) :
    List (Except Envelope.Malformed Envelope) → Host
  | [] => host
  | .error _ :: rest => takeIn host now peer rest
  | .ok envelope :: rest => takeIn (host.inject now envelope (some peer)).1 now peer rest

def receive (host : Host) (network : Network) (now : UInt64) (peer : PeerId) (packet : Bytes) :
    Host :=
  if host.isConnected peer then
    match Packet.decode packet with
    | .error _ => host
    | .ok (.status version) => host.updatePeer peer (·.setVersion version)
    | .ok (.messages items) => ((host.takeIn now peer items).flushAll network now).1
  else host

end Courier.Host

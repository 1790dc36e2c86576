import Courier.Peer.Packet
import Courier.Peer.State

/-! # The network as a host sees it

A host hands packets to a network one after another, and the network takes a packet or
fails. Whether it takes the next one may depend on everything it was handed before.
-/

namespace Courier

/-- A packet that was handed to the network. -/
structure Handover where
  peer : PeerId
  packet : Packet
  /-- Whether the network took it. -/
  taken : Bool

/-- Whether the network takes a packet for a peer after all that it was handed before. -/
abbrev Network := List Handover → PeerId → Packet → Bool

namespace Network

def reliable : Network := fun _ _ _ => true

/-- The number of packets that the network took for a peer. -/
def takenFor (peer : PeerId) (handed : List Handover) : Nat :=
  handed.countP fun handover => handover.peer = peer && handover.taken

/-- A network that takes only a limited number of packets for some peers. -/
def limited (limits : List (PeerId × Nat)) : Network := fun handed peer _ =>
  match limits.lookup peer with
  | none => true
  | some limit => takenFor peer handed < limit

end Network

/-- Why a link does not take a packet. -/
inductive LinkError where
  | unknownPeer (peer : PeerId)
  /-- Nobody reads at the other end of the link. -/
  | disconnected (peer : PeerId)
  deriving DecidableEq

/-- The report of a packet that was not taken. -/
def LinkError.message : LinkError → String
  | .unknownPeer peer => "Unknown peer: " ++ PeerId.short peer
  | .disconnected peer => "Peer disconnected: " ++ PeerId.short peer

end Courier

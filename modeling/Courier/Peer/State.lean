import Courier.Hex

/-! # What a host knows of its peers

For each connection a host remembers which envelopes the peer has or is about to get, and
queues those that it is to get, in order. What is known of a peer only grows while it stays
connected.
-/

namespace Courier

abbrev PeerId := Octets 32

namespace PeerId

/-- A peer in a message: its first four octets. -/
def short (peer : PeerId) : String := Hex.encode (peer.toList.take 4)

def describe (peer : PeerId) : String := "PeerId(" ++ short peer ++ ")"

end PeerId

/-- What is known of one connected peer. -/
structure PeerState where
  /-- The hashes that came from the peer, went to it or wait for it; none occurs twice. -/
  known : List Hash
  /-- The hashes that wait to be sent, first in, first out. -/
  queue : List Hash
  version : Option UInt32
  deriving DecidableEq

namespace PeerState

def initial : PeerState := ⟨[], [], none⟩

/-- Whether the peer has a hash, or is about to get it. -/
def knows (state : PeerState) (hash : Hash) : Bool := hash ∈ state.known

def markKnown (state : PeerState) (hash : Hash) : PeerState :=
  if hash ∈ state.known then state else { state with known := state.known ++ [hash] }

/-- Let a hash wait for the peer unless it has it already, and tell whether it does now. -/
def enqueue (state : PeerState) (hash : Hash) : PeerState × Bool :=
  if hash ∈ state.known then (state, false)
  else ({ state with known := state.known ++ [hash], queue := state.queue ++ [hash] }, true)

def takeQueue (state : PeerState) : PeerState × List Hash :=
  ({ state with queue := [] }, state.queue)

def setVersion (state : PeerState) (version : UInt32) : PeerState :=
  { state with version := some version }

end PeerState

end Courier

import Courier.Envelope.Codec

/-! # Packets

Peers exchange two kinds of packets: `[0, version]` and `[1, envelope, …]`. The envelopes of
a packet are read one by one, so that a malformed one does not cost the others.
-/

namespace Courier

/-- What a host sends to a peer. -/
inductive Packet where
  /-- The version that the host speaks. -/
  | status (version : UInt32)
  | messages (envelopes : List Envelope)
  deriving DecidableEq

/-- What a host receives from a peer. -/
inductive Inbound where
  | status (version : UInt32)
  /-- Each envelope, or what is wrong with it. -/
  | messages (items : List (Except Envelope.Malformed Envelope))

/-- Why octets are no packet. -/
inductive PacketError where
  | item (error : Rlp.Error)
  | trailing
  | notList
  | empty
  | statusSize (count : Nat)
  /-- The packet's first item names no kind of packet. -/
  | unknownKind (kind : UInt8)
  deriving DecidableEq

namespace PacketError

def message : PacketError → String
  | .item error => "Malformed packet: " ++ error.name
  | .trailing => "Malformed packet: trailing bytes"
  | .notList => "Malformed packet: packet is not a list"
  | .empty => "Malformed packet: empty packet"
  | .statusSize count => "Malformed packet: status packet has " ++ toString count ++ " items"
  | .unknownKind kind => "Unknown packet id: " ++ toString kind.toNat

/-- Pass an unreadable item on as the fault of the packet. -/
def ofItem {α : Type} : Except Rlp.Error α → Except PacketError α
  | .ok a => .ok a
  | .error e => .error (.item e)

end PacketError

namespace Packet

def toValue : Packet → Rlp.Value
  | .status version => .list [.nat 0, .nat version.toNat]
  | .messages envelopes => .list (.nat 1 :: envelopes.map Envelope.toValue)

def encode (packet : Packet) : Bytes := packet.toValue.encode

/-- Read the items of a packet. -/
def ofListing (listing : Rlp.Listing) : Except PacketError Inbound :=
  if listing.size = 0 then .error .empty
  else do
    let kind ← PacketError.ofItem (listing.get 0 >>= Rlp.Item.nat 1)
    match kind with
    | 0 =>
      if listing.size = 2 then do
        let version ← PacketError.ofItem (listing.get 1 >>= Rlp.Item.nat 4)
        return .status (.ofNat version)
      else throw (.statusSize listing.size)
    | 1 => return .messages (listing.items.tail.map Envelope.ofItem)
    | kind => throw (.unknownKind (.ofNat kind))

/-- Read a packet that takes up all of the octets. -/
def decode (bytes : Bytes) : Except PacketError Inbound :=
  match Rlp.splitItem bytes with
  | .error e => .error (.item e)
  | .ok (item, rest) =>
    if rest = [] then
      match item.listing with
      | .error _ => .error .notList
      | .ok listing => ofListing listing
    else .error .trailing

end Packet

end Courier

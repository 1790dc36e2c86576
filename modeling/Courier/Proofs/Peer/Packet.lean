import Mathlib
import Courier.Peer.Packet
import Courier.Proofs.Envelope.Codec

/-! # Reading packets that were written

What a host sends is read by its peer as it was sent: the version, or every envelope in order.
Whatever stands among the envelopes of a packet is read on its own, and spoils nothing else.
-/

namespace Courier.Packet

open Rlp

/-- What a peer receives when it reads a packet. -/
def received : Packet → Inbound
  | .status version => .status version
  | .messages envelopes => .messages (envelopes.map .ok)

theorem length_encode_status (version : UInt32) :
    (encode (.status version)).length < sizeLimit := by
  have width : Bytes.width version.toNat ≤ 4 := Bytes.width_le version.toNat_lt
  have first : (Value.nat 0).encode.length = 1 := by decide
  have second := Value.length_encode_nat (n := version.toNat) (by omega)
  have payload : (Value.encodeAll [.nat 0, .nat version.toNat]).length ≤ 6 := by
    simp only [Value.encodeAll, List.length_append, List.length_nil]
    omega
  have size : (encode (.status version)).length ≤ 7 := by
    rw [encode, toValue, Value.encode, encodeList, List.length_append,
      Value.length_header (by omega)]
    omega
  exact size.trans_lt (by decide)

theorem decode_status (version : UInt32) :
    decode (encode (.status version)) = .ok (.status version) := by
  have bound : version.toNat < 256 ^ 4 := version.toNat_lt
  have zero : (0 : Nat) < 256 ^ 1 := by decide
  have fits := length_encode_status version
  rw [decode, encode, Value.splitItem_encode fits]
  simp only [toValue, if_true, Value.listing_item fits, ofListing, Listing.size,
    Listing.get, List.map_cons, List.map_nil, List.length_cons, List.length_nil,
    List.getElem?_cons_zero, List.getElem?_cons_succ, bind, Except.bind,
    Value.nat_item zero (by decide), Value.nat_item bound (by decide), PacketError.ofItem]
  simp [pure, Except.pure]

/-- The items behind the mark of a packet of messages are read one by one, each as if it were all
there is. -/
theorem decode_items {items : List Item} (written : ∀ item ∈ items, item.Written)
    (fits : (0x01 :: items.flatMap Item.raw).length < sizeLimit) :
    decode (encodeList (0x01 :: items.flatMap Item.raw)) =
      .ok (.messages (items.map fun item => Envelope.decode item.raw)) := by
  have parts : ∀ part ∈ ⟨[], [0x01]⟩ :: items, part.Written :=
    List.forall_mem_cons.2 ⟨.octet (by decide), written⟩
  have payload : (⟨[], [0x01]⟩ :: items).flatMap Item.raw ++ [] =
      0x01 :: items.flatMap Item.raw := by
    rw [List.append_nil, List.flatMap_cons]
    rfl
  have whole : (Item.enclosing (⟨[], [0x01]⟩ :: items) []).Written :=
    Item.enclosing_written (payload ▸ fits)
  have listed := whole.listing_iff.2 ⟨[], rfl, parts, rfl⟩
  have one : Item.nat 1 ⟨[], [0x01]⟩ = .ok 1 := by decide
  have read : ∀ item ∈ items, Envelope.ofItem item = Envelope.decode item.raw :=
    fun item member => (Envelope.decode_raw (written item member)).symm
  rw [← payload, ← Item.raw_enclosing, decode, splitItem_whole.2 ⟨whole, rfl⟩]
  simp only [if_true, listed, ofListing, Listing.size, Listing.get, List.length_cons,
    List.getElem?_cons_zero, bind, Except.bind, one, PacketError.ofItem, List.tail_cons]
  rw [if_neg (Nat.succ_ne_zero _)]
  exact congrArg (fun items => Except.ok (Inbound.messages items)) (List.map_congr_left read)

theorem encode_messages (envelopes : List Envelope) :
    encode (.messages envelopes) = encodeList (0x01 ::
      (envelopes.map fun envelope => envelope.toValue.item).flatMap Item.raw) := by
  rw [encode, toValue, Value.encode, Value.encodeAll, Value.encodeAll_eq, List.map_map]
  rfl

theorem length_encode_of_mem {envelopes : List Envelope} {envelope : Envelope}
    (member : envelope ∈ envelopes) :
    envelope.encode.length ≤ (encode (.messages envelopes)).length := by
  have field := List.mem_cons_of_mem (Value.nat 1)
    (List.mem_map_of_mem (f := Envelope.toValue) member)
  exact (Value.length_le_encodeAll field).trans (Value.length_encode_list _)

theorem decode_messages {envelopes : List Envelope}
    (fits : (encode (.messages envelopes)).length < sizeLimit) :
    decode (encode (.messages envelopes)) = .ok (.messages (envelopes.map .ok)) := by
  have inside : ∀ envelope ∈ envelopes, envelope.encode.length < sizeLimit :=
    fun envelope member => (length_encode_of_mem member).trans_lt fits
  have written : ∀ item ∈ envelopes.map fun envelope => envelope.toValue.item, item.Written := by
    intro item member
    obtain ⟨envelope, sent, rfl⟩ := List.mem_map.1 member
    exact Value.item_written (inside envelope sent)
  have read : ∀ envelope ∈ envelopes, Envelope.decode envelope.toValue.item.raw = .ok envelope := by
    intro envelope member
    rw [Value.item_raw]
    exact Envelope.decode_encode (inside envelope member)
  rw [encode_messages] at fits ⊢
  rw [encodeList, List.length_append] at fits
  rw [decode_items written (by omega), List.map_map]
  exact congrArg (fun items => Except.ok (Inbound.messages items)) (List.map_congr_left read)

theorem decode_encode {packet : Packet} (fits : packet.encode.length < sizeLimit) :
    decode packet.encode = .ok packet.received := by
  cases packet with
  | status version => exact decode_status version
  | messages envelopes => exact decode_messages fits

theorem decode_contents {contents : List Bytes}
    (whole : ∀ content ∈ contents, ∃ head body, readHeader content = .ok (head, body) ∧
      head + body = content.length)
    (fits : (0x01 :: contents.flatten).length < sizeLimit) :
    decode (encodeList (0x01 :: contents.flatten)) =
      .ok (.messages (contents.map Envelope.decode)) := by
  obtain ⟨items, written, rfl⟩ := exists_items_of_readHeader whole
  rw [← List.flatMap_def] at fits ⊢
  rw [decode_items written fits, List.map_map]
  rfl

/-- Whatever items a packet of messages is made of, each is read as if it stood alone, and as many
are read as there are. So a version is read as it was sent, and so are envelopes. -/
theorem decode_isolates :
    (∀ contents : List Bytes,
      (∀ content ∈ contents, ∃ head body, readHeader content = .ok (head, body) ∧
        head + body = content.length) →
      (0x01 :: contents.flatten).length < sizeLimit →
      decode (encodeList (0x01 :: contents.flatten)) =
        .ok (.messages (contents.map Envelope.decode))) ∧
    (∀ version, decode (encode (.status version)) = .ok (.status version)) ∧
    ∀ envelopes, (encode (.messages envelopes)).length < sizeLimit →
      decode (encode (.messages envelopes)) = .ok (.messages (envelopes.map .ok)) := by
  exact ⟨fun contents whole fits => decode_contents whole fits, decode_status,
    fun envelopes fits => decode_messages fits⟩

/-- A list without fields and a string among two envelopes. -/
theorem decode_isolates_spoilt :
    let contents : List Bytes :=
      [[0xc5, 0x01, 0x01, 0xc0, 0x80, 0x80], [0xc0], [0x83, 0x01, 0x02, 0x03],
        [0xc5, 0x02, 0x01, 0xc0, 0x07, 0x80]]
    (∀ content ∈ contents, ∃ head body, readHeader content = .ok (head, body) ∧
      head + body = content.length) ∧
    (0x01 :: contents.flatten).length < sizeLimit ∧
    decode (encodeList (0x01 :: contents.flatten)) =
      .ok (.messages [.ok ⟨1, 1, .empty, [], 0⟩, .error (.fieldCount 0), .error .notList,
        .ok ⟨2, 1, .empty, [0x07], 0⟩]) := by
  intro contents
  have whole : ∀ content ∈ contents, ∃ head body, readHeader content = .ok (head, body) ∧
      head + body = content.length := by
    simp only [contents, List.forall_mem_cons]
    exact ⟨⟨1, 5, rfl, rfl⟩, ⟨1, 0, rfl, rfl⟩, ⟨1, 3, rfl, rfl⟩, ⟨1, 5, rfl, rfl⟩, by simp⟩
  have fits : (0x01 :: contents.flatten).length < sizeLimit := by decide
  have read : contents.map Envelope.decode = [.ok ⟨1, 1, .empty, [], 0⟩, .error (.fieldCount 0),
      .error .notList, .ok ⟨2, 1, .empty, [0x07], 0⟩] := by
    decide
  exact ⟨whole, fits, read ▸ decode_isolates.1 contents whole fits⟩

/-- A packet that can be read is not written like another one. -/
theorem encode_injective {packet other : Packet} (fits : packet.encode.length < sizeLimit)
    (same : packet.encode = other.encode) : packet = other := by
  have read := decode_encode fits
  rw [same, decode_encode (same ▸ fits)] at read
  cases packet with
  | status version =>
      cases other with
      | status version' =>
          cases read
          rfl
      | messages envelopes => cases read
  | messages envelopes =>
      cases other with
      | status version => cases read
      | messages envelopes' =>
          have items : envelopes'.map Except.ok = envelopes.map Except.ok :=
            Inbound.messages.inj (Except.ok.inj read)
          rw [(List.map_injective_iff.2 fun _ _ => Except.ok.inj) items]

end Courier.Packet

import Mathlib
import Courier.Envelope.Codec
import Courier.Proofs.Rlp.Canonical

/-! # What is read as an envelope

An envelope is read from its encoding as it was written, whether the encoding stands alone or as
an item of a larger list. Nothing else is read as it, but for octets that are no item: they may
stand behind the topics and behind the fields, where nobody looks at them.
-/

namespace Courier.Envelope

open Rlp

variable {envelope : Envelope} {item : Item}

/-- The item of a topic. -/
def topicItem (topic : Topic) : Item := (Value.octets topic.toList).item

/-- The fields of an envelope as items, with octets behind the topics. -/
def fieldItems (envelope : Envelope) (topicTail : Bytes) : List Item :=
  [(Value.nat envelope.expiry.toNat).item, (Value.nat envelope.ttl.toNat).item,
    .enclosing (envelope.topics.toList.map topicItem) topicTail,
    (Value.octets envelope.data).item, (Value.nat envelope.nonce.toNat).item]

theorem topicItem_written (topic : Topic) : (topicItem topic).Written := by
  apply Value.octets_written
  rw [topic.length_toList]
  decide

theorem orMalformed_eq_ok {α : Type} {x : Except Rlp.Error α} {a : α} :
    orMalformed x = .ok a ↔ x = .ok a := by
  cases x <;> simp [orMalformed]

theorem readTopic_iff {topic : Topic} (h : item.Written) :
    readTopic item = .ok topic ↔ item = topicItem topic := by
  have several : topic.toList.length ≠ 1 := by
    rw [topic.length_toList]
    decide
  rw [topicItem, ← h.body_iff several, ← Octets.ofList?_eq_some, readTopic]
  cases item.isList with
  | true => simp
  | false => cases Octets.ofList? item.body <;> simp

theorem readTopicList_iff {items : List Item} {topics : List Topic}
    (h : ∀ item ∈ items, item.Written) :
    readTopicList items = .ok topics ↔ items = topics.map topicItem := by
  induction items generalizing topics with
  | nil => cases topics <;> simp [readTopicList]
  | cons first rest ih =>
      have head := h first List.mem_cons_self
      have tail : ∀ item ∈ rest, item.Written :=
        fun item member => h item (List.mem_cons_of_mem _ member)
      simp only [readTopicList, bind_eq_ok, readTopic_iff head, ih tail, pure, Except.pure,
        Except.ok.injEq]
      constructor
      · rintro ⟨topic, rfl, others, rfl, rfl⟩
        rfl
      · intro same
        cases topics with
        | nil => cases same
        | cons topic others =>
            cases same
            exact ⟨topic, rfl, others, rfl, rfl⟩

theorem readTopics_iff {topics : Topics} (h : item.Written) :
    readTopics item = .ok topics ↔
      ∃ tail, Unreadable tail ∧ item = .enclosing (topics.toList.map topicItem) tail := by
  constructor
  · intro read
    rw [readTopics] at read
    split at read
    · cases read
    · rename_i listing listed
      obtain ⟨tail, unreadable, written, same⟩ := h.listing_iff.1 listed
      split at read
      · cases read
      · obtain ⟨list, topicsRead, rest⟩ := bind_eq_ok.1 read
        rw [readTopicList_iff written] at topicsRead
        have few : list.length ≤ maxTopics := by
          rename_i notMany
          rw [Listing.size, topicsRead, List.length_map] at notMany
          omega
        rw [Topics.ofList, dif_pos few] at rest
        cases rest
        exact ⟨tail, ⟨_, unreadable⟩, by rw [same, topicsRead]⟩
  · rintro ⟨tail, ⟨stop, unreadable⟩, rfl⟩
    have written : ∀ part ∈ topics.toList.map topicItem, part.Written := by
      intro part member
      obtain ⟨topic, -, rfl⟩ := List.mem_map.1 member
      exact topicItem_written topic
    have few := topics.length_le
    rw [readTopics, h.listing_iff.2 ⟨tail, unreadable, written, rfl⟩]
    simp only [Listing.size, List.length_map, if_neg (Nat.not_lt.2 few),
      (readTopicList_iff written).2 rfl, bind, Except.bind, Topics.ofList, dif_pos few]
    rfl

theorem readData_iff {data : Bytes} (h : item.Written) :
    readData item = .ok data ↔ item = (Value.octets data).item := by
  rw [← h.octets_iff, readData]
  cases list : item.isList with
  | true => simp [Item.octets, list]
  | false => exact orMalformed_eq_ok

theorem fieldItems_written {topicTail : Bytes}
    (fits : ((envelope.fieldItems topicTail).flatMap Item.raw).length < sizeLimit) :
    ∀ part ∈ envelope.fieldItems topicTail, part.Written := by
  intro part member
  have short := (Item.length_raw_le member).trans_lt fits
  have body : part.body.length < sizeLimit := by
    rw [Item.raw, List.length_append] at short
    omega
  simp only [fieldItems, List.mem_cons, List.not_mem_nil, or_false] at member
  rcases member with rfl | rfl | rfl | rfl | rfl
  · exact Value.octets_written body
  · exact Value.octets_written body
  · exact Item.enclosing_written body
  · exact Value.octets_written body
  · exact Value.octets_written body

theorem ofItem_listing_iff {listing : Listing} (listed : item.listing = .ok listing)
    (written : ∀ part ∈ listing.items, part.Written) :
    ofItem item = .ok envelope ↔
      ∃ topicTail, Unreadable topicTail ∧ listing.items = envelope.fieldItems topicTail := by
  have inside : ∀ {index : Nat} {part : Item}, listing.get index = .ok part → part.Written :=
    fun found => written _ (Listing.mem_of_get found)
  rw [ofItem, listed]
  constructor
  · intro read
    simp only at read
    split at read
    · rename_i five
      simp only [bind_eq_ok, orMalformed_eq_ok, pure, Except.pure, Except.ok.injEq,
        Listing.nat_iff (by decide : 4 ≤ 32) written,
        Listing.nat_iff (by decide : 8 ≤ 32) written] at read
      obtain ⟨expiry, ⟨fits0, at0⟩, ttl, ⟨fits1, at1⟩, part2, at2, topics, read2, part3, at3, data,
        read3, nonce, ⟨fits4, at4⟩, rfl⟩ := read
      obtain ⟨topicTail, unreadable, rfl⟩ := (readTopics_iff (inside at2)).1 read2
      cases (readData_iff (inside at3)).1 read3
      -- every number fits into its field, so it is what the field is written as
      have whole0 : (UInt32.ofNat expiry).toNat = expiry := UInt32.toNat_ofNat_of_lt' fits0
      have whole1 : (UInt32.ofNat ttl).toNat = ttl := UInt32.toNat_ofNat_of_lt' fits1
      have whole4 : (UInt64.ofNat nonce).toNat = nonce := UInt64.toNat_ofNat_of_lt' fits4
      refine ⟨topicTail, unreadable, ?_⟩
      rw [fieldItems, whole0, whole1, whole4, ← listing.items.drop_zero, Listing.drop_get at0,
        Listing.drop_get at1, Listing.drop_get at2, Listing.drop_get at3, Listing.drop_get at4,
        List.drop_eq_nil_of_le five.le]
    · cases read
  · rintro ⟨topicTail, unreadable, same⟩
    have found : ∀ (index : Nat) {field : Item},
        (envelope.fieldItems topicTail)[index]? = some field → listing.get index = .ok field :=
      fun _ _ field => Listing.get_eq_ok.2 (same ▸ field)
    have five : listing.size = 5 := congrArg List.length same
    simp only [if_pos five, bind_eq_ok, orMalformed_eq_ok, pure, Except.pure, Except.ok.injEq,
      Listing.nat_iff (by decide : 4 ≤ 32) written, Listing.nat_iff (by decide : 8 ≤ 32) written]
    have topics := (readTopics_iff (inside (found 2 rfl))).2 ⟨topicTail, unreadable, rfl⟩
    have data := (readData_iff (inside (found 3 rfl))).2 rfl
    refine ⟨_, ⟨envelope.expiry.toNat_lt, found 0 rfl⟩, _, ⟨envelope.ttl.toNat_lt, found 1 rfl⟩,
      _, found 2 rfl, _, topics, _, found 3 rfl, _, data,
      _, ⟨envelope.nonce.toNat_lt, found 4 rfl⟩, ?_⟩
    simp

/-- An item is read as an envelope if it is the list of its fields, but for octets that are no item
behind the topics and behind the fields. -/
theorem ofItem_iff (h : item.Written) :
    ofItem item = .ok envelope ↔
      ∃ topicTail tail, Unreadable topicTail ∧ Unreadable tail ∧
        item = .enclosing (envelope.fieldItems topicTail) tail := by
  constructor
  · intro read
    cases listed : item.listing with
    | error e =>
        rw [ofItem, listed] at read
        cases read
    | ok listing =>
        obtain ⟨tail, unreadable, written, same⟩ := h.listing_iff.1 listed
        obtain ⟨topicTail, behindTopics, fields⟩ := (ofItem_listing_iff listed written).1 read
        exact ⟨topicTail, tail, behindTopics, ⟨_, unreadable⟩, by rw [same, fields]⟩
  · rintro ⟨topicTail, tail, behindTopics, ⟨stop, unreadable⟩, rfl⟩
    have written := fieldItems_written h.parts_lt
    have listed := h.listing_iff.2 ⟨tail, unreadable, written, rfl⟩
    exact (ofItem_listing_iff listed written).2 ⟨topicTail, behindTopics, rfl⟩

theorem item_toValue (envelope : Envelope) :
    envelope.toValue.item = .enclosing (envelope.fieldItems []) [] := by
  have topics : (Value.list (envelope.topics.toList.map fun topic => .octets topic.toList)).item =
      .enclosing (envelope.topics.toList.map topicItem) [] := by
    rw [Value.item, Value.encodeAll_eq, List.map_map, Item.enclosing, List.append_nil]
    rfl
  rw [toValue, Value.item, Value.encodeAll_eq, sealFields, Item.enclosing, List.append_nil]
  simp only [List.cons_append, List.nil_append, List.map_cons, List.map_nil, topics, fieldItems]

theorem ofItem_item (fits : envelope.encode.length < sizeLimit) :
    ofItem envelope.toValue.item = .ok envelope :=
  (ofItem_iff (Value.item_written fits)).2
    ⟨[], [], unreadable_nil, unreadable_nil, envelope.item_toValue⟩

/-- An item is read alike as a part of a list and from its own octets. -/
theorem decode_raw (h : item.Written) : decode item.raw = ofItem item := by
  rw [decode, splitItem_whole.2 ⟨h, rfl⟩]
  exact if_pos rfl

theorem decode_encode (fits : envelope.encode.length < sizeLimit) :
    decode envelope.encode = .ok envelope := by
  rw [encode, ← Value.item_raw, decode_raw (Value.item_written fits)]
  exact ofItem_item fits

/-- What was written is read as it was, so that no two envelopes are written alike. -/
theorem encode_roundTrip (fits : envelope.encode.length < sizeLimit) :
    decode envelope.encode = .ok envelope ∧
      ∀ other : Envelope, other.encode = envelope.encode → other = envelope := by
  have read := decode_encode fits
  refine ⟨read, ?_⟩
  intro other same
  have readOther : decode other.encode = .ok other := decode_encode (same ▸ fits)
  rw [same, read] at readOther
  exact (Except.ok.inj readOther).symm

/-- Data in the long form, numbers at both ends of their ranges, and two topics. -/
theorem encode_roundTrip_long :
    let envelope : Envelope :=
      ⟨0, 0xffffffff, ⟨[.zero, ⟨[0xff, 0xff, 0xff, 0xff], rfl⟩], by decide⟩,
        List.replicate 56 0x80, 0xffffffffffffffff⟩
    envelope.encode.length < sizeLimit ∧ decode envelope.encode = .ok envelope ∧
      ∀ other : Envelope, other.encode = envelope.encode → other = envelope :=
  ⟨by decide, encode_roundTrip (by decide)⟩

/-- The payload of a list of fields, with octets behind the topics and behind the fields. -/
def payloadWith (envelope : Envelope) (topicTail tail : Bytes) : Bytes :=
  (envelope.fieldItems topicTail).flatMap Item.raw ++ tail

theorem encode_eq (envelope : Envelope) :
    envelope.encode = encodeList (envelope.payloadWith [] []) := by
  rw [encode, ← Value.item_raw, item_toValue, Item.raw_enclosing, payloadWith]

theorem payloadWith_shortest (envelope : Envelope) {topicTail tail : Bytes}
    (some : ¬ (topicTail = [] ∧ tail = [])) :
    (envelope.payloadWith [] []).length < (envelope.payloadWith topicTail tail).length := by
  simp only [payloadWith, fieldItems, List.flatMap_cons, List.flatMap_nil, Item.raw_enclosing,
    List.length_append, List.append_nil]
  generalize (envelope.topics.toList.map topicItem).flatMap Item.raw = topics
  -- octets behind the topics make their list longer, header included
  by_cases behindTopics : topicTail = []
  · subst behindTopics
    have behindFields : 0 < tail.length := List.length_pos_of_ne_nil fun none => some ⟨rfl, none⟩
    rw [List.append_nil]
    omega
  · have longer : topics.length < (topics ++ topicTail).length := by
      have := List.length_pos_of_ne_nil behindTopics
      rw [List.length_append]
      omega
    have := length_encodeList_lt longer
    omega

/-- Octets are read as an envelope if they are its encoding, but for octets behind the topics and
behind the fields that are no item. It is the encoding itself if there are none. -/
theorem decode_eq_ok_iff (bytes : Bytes) (envelope : Envelope) :
    decode bytes = .ok envelope ↔
      ∃ topicTail tail, Unreadable topicTail ∧ Unreadable tail ∧
        (envelope.payloadWith topicTail tail).length < sizeLimit ∧
        bytes = encodeList (envelope.payloadWith topicTail tail) ∧
        (bytes = envelope.encode ↔ topicTail = [] ∧ tail = []) := by
  constructor
  · intro read
    rw [decode] at read
    split at read
    · cases read
    · rename_i item rest front
      split at read
      · rename_i nothing
        rw [nothing] at front
        obtain ⟨written, rfl⟩ := splitItem_whole.1 front
        obtain ⟨topicTail, tail, topicUnreadable, unreadable, rfl⟩ := (ofItem_iff written).1 read
        refine ⟨topicTail, tail, topicUnreadable, unreadable, written.body_lt, rfl, ?_, ?_⟩
        · intro same
          by_contra some
          have shorter := envelope.payloadWith_shortest some
          rw [Item.raw_enclosing, encode_eq] at same
          exact shorter.ne' (congrArg List.length (encodeList_injective same))
        · rintro ⟨rfl, rfl⟩
          rw [Item.raw_enclosing, encode_eq, payloadWith]
      · cases read
  · rintro ⟨topicTail, tail, topicUnreadable, unreadable, fits, rfl, -⟩
    have written := Item.enclosing_written fits
    rw [decode, payloadWith, ← Item.raw_enclosing, splitItem_whole.2 ⟨written, rfl⟩]
    exact (ofItem_iff written).2 ⟨topicTail, tail, topicUnreadable, unreadable, rfl⟩

/-- The mark of a string that is missing, behind the fields. -/
theorem decode_unreadable_tail :
    decode [0xc6, 0x01, 0x01, 0xc0, 0x80, 0x80, 0x81] = .ok ⟨1, 1, .empty, [], 0⟩ ∧
      decode [0xc5, 0x01, 0x01, 0xc0, 0x80, 0x80] = .ok ⟨1, 1, .empty, [], 0⟩ ∧
      encode ⟨1, 1, .empty, [], 0⟩ ≠ [0xc6, 0x01, 0x01, 0xc0, 0x80, 0x80, 0x81] := by
  decide

end Courier.Envelope

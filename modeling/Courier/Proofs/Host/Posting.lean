import Mathlib
import Courier.Proofs.Host.Provenance
import Courier.Proofs.Message
import Courier.Proofs.Peer.Packet
import Courier.Proofs.Topic.Mask

/-! # From a post to its reader

A post that succeeds puts an envelope into the pool, whose topics, life and contents are those that
were asked for. The watches that ask for these topics hear of it, and wherever its hash is sent, the
envelope can be read and opened as it was posted.
-/

namespace Courier

variable {Secret Public : Type} {suite : Suite Secret Public} {now : UInt64}
  {request : PostRequest Secret Public} {chance : Chance Secret} {envelope : Envelope}

theorem Envelope.stamp_eq (envelope : Envelope) (work : WorkBudget) (rounds : Nat) :
    ∃ nonce, envelope.stamp work rounds = { envelope with nonce } := by
  cases work with
  | time limit => exact (Stamped.inRounds _).exists_nonce
  | bits target => exact (Stamped.toBits target).exists_nonce

namespace Host

variable {host : Host} {network : Network} {hash : Hash}

theorem compose_eq_ok : compose suite now request chance = .ok envelope ↔
    (∀ target, request.work = .bits target → ¬ Work.maxBits < target) ∧
    ∃ plain, request.message.toEnvelope suite (request.topics.map FullTopic.ofText) request.ttl now
      chance.fresh = .ok plain ∧ envelope = plain.stamp request.work chance.rounds := by
  rw [compose]
  split
  · rename_i target excess
    refine iff_of_false (by simp) ?_
    rintro ⟨modest, -⟩
    cases work : request.work with
    | time limit => simp [work] at excess
    | bits wanted => simp [work, modest wanted work] at excess
  · rename_i moderate
    have modest : ∀ target, request.work = .bits target → ¬ Work.maxBits < target := by
      intro target work excess
      simp [work, excess] at moderate
    rw [and_iff_right modest]
    cases built : buildTopics request.topics with
    | error many =>
        refine iff_of_false (by simp) ?_
        rintro ⟨plain, made, -⟩
        -- what can be sealed has few topics
        obtain ⟨topics, -, shown, -⟩ := OutgoingMessage.toEnvelope_eq_ok.1 made
        have texts := (Topics.ofFull_eq_ok.1 shown).trans List.map_map
        cases built.symm.trans (buildTopics_eq_ok.2 ⟨texts, rfl⟩)
    | ok both =>
        obtain ⟨-, full⟩ := buildTopics_eq_ok.1 built
        simp only [full]
        cases request.message.toEnvelope suite (request.topics.map FullTopic.ofText) request.ttl now
          chance.fresh <;> simp [eq_comm]

/-- An envelope that is made for a post is sealed and then stamped, which only changes its nonce. -/
theorem exists_toEnvelope_of_compose (composed : compose suite now request chance = .ok envelope) :
    ∃ plain nonce, request.message.toEnvelope suite (request.topics.map FullTopic.ofText)
      request.ttl now chance.fresh = .ok plain ∧ envelope = { plain with nonce } := by
  obtain ⟨-, plain, made, rfl⟩ := compose_eq_ok.1 composed
  obtain ⟨nonce, stamped⟩ := Envelope.stamp_eq plain request.work chance.rounds
  exact ⟨plain, nonce, made, stamped⟩

theorem of_compose_eq_ok (composed : compose suite now request chance = .ok envelope) :
    envelope.expiry.toNat = now.toNat + request.ttl.toNat ∧
      envelope.topics.toList = request.topics.map Topic.commit ∧
      request.message.sealedData suite (request.topics.map FullTopic.ofText) chance.fresh =
        .ok envelope.data := by
  obtain ⟨plain, nonce, made, rfl⟩ := exists_toEnvelope_of_compose composed
  obtain ⟨topics, data, shown, written, created⟩ := OutgoingMessage.toEnvelope_eq_ok.1 made
  obtain ⟨soon, rfl⟩ := Envelope.create_eq_ok.1 created
  have shown := Topics.ofFull_eq_ok.1 shown
  refine ⟨?_, shown.trans List.map_map, written⟩
  exact UInt32.toNat_ofNat_of_lt' (by simp [UInt32.size]; omega)

/-- A composition fails for too much work, for its topics or for want of a seal; it does not ask the
pool. -/
theorem compose_eq_error {fault : HostError}
    (failed : compose suite now request chance = .error fault) :
    (∃ target, fault = .workTargetTooHigh target) ∨ (∃ error, fault = .topics error) ∨
      ∃ error, fault = .sealing error := by
  rw [compose] at failed
  split at failed
  · cases failed
    exact .inl ⟨_, rfl⟩
  · split at failed
    · cases failed
      exact .inr (.inl ⟨_, rfl⟩)
    · split at failed
      · cases failed
        exact .inr (.inr ⟨_, rfl⟩)
      · cases failed

theorem post_eq_ok : (host.post suite network now request chance).2 = .ok hash ↔
    ∃ envelope, compose suite now request chance = .ok envelope ∧
      (host.pool.insert chance.admission envelope).2 = .accepted hash := by
  cases composed : compose suite now request chance with
  | error fault => simp [post, composed]
  | ok envelope =>
      rw [post_eq composed]
      simp only [Except.ok.injEq, exists_eq_left']
      cases (host.pool.insert chance.admission envelope).2 <;> simp

theorem post_eq_rejected {reason : Rejection} :
    (host.post suite network now request chance).2 = .error (.rejected reason) ↔
      ∃ envelope, compose suite now request chance = .ok envelope ∧
        (host.pool.insert chance.admission envelope).2 = .rejected reason := by
  cases composed : compose suite now request chance with
  | error fault =>
      refine iff_of_false (fun failed => ?_) ?_
      · rw [post, composed] at failed
        cases failed
        rcases compose_eq_error composed with ⟨_, other⟩ | ⟨_, other⟩ | ⟨_, other⟩ <;> cases other
      · rintro ⟨envelope, made, -⟩
        cases made
  | ok envelope =>
      rw [post_eq composed]
      simp only [Except.ok.injEq, exists_eq_left']
      cases (host.pool.insert chance.admission envelope).2 <;> simp

theorem post_fst (composed : compose suite now request chance = .ok envelope)
    (accepted : (host.pool.insert chance.admission envelope).2 = .accepted hash) :
    (host.post suite network now request chance).1 =
      ((host.inject chance.admission envelope none).1.flushAll network chance.flush).1 := by
  rw [post_eq composed, accepted]

theorem post_pool_watches (composed : compose suite now request chance = .ok envelope)
    (accepted : (host.pool.insert chance.admission envelope).2 = .accepted hash) :
    (host.post suite network now request chance).1.pool =
        (host.pool.insert chance.admission envelope).1 ∧
      (host.post suite network now request chance).1.watches =
        (host.watches.notify hash envelope.topics).1 := by
  have watches := inject_watches host chance.admission envelope none
  rw [accepted] at watches
  obtain ⟨samePool, sameWatches⟩ := flushEach_pool_watches
    (host.inject chance.admission envelope none).1 network chance.flush
    ((host.inject chance.admission envelope none).1.peers.map (·.1))
  rw [post_fst composed accepted]
  exact ⟨samePool.trans (inject_pool host chance.admission envelope none),
    sameWatches.trans watches⟩

section Traced

variable {occurring : List Envelope} (h : host.Traced occurring)

include h

theorem Traced.post_held (composed : compose suite now request chance = .ok envelope)
    (accepted : (host.pool.insert chance.admission envelope).2 = .accepted hash) :
    (host.post suite network now request chance).1.pool.lookup hash = some envelope := by
  rw [(post_pool_watches composed accepted).1,
    (h.pool.insert chance.admission envelope).lookup_eq_some]
  exact ⟨Pool.insert_accepted accepted,
    List.mem_map_of_mem (Pool.mem_residents_of_accepted accepted)⟩

theorem Traced.post_tells (composed : compose suite now request chance = .ok envelope)
    (accepted : (host.pool.insert chance.admission envelope).2 = .accepted hash) :
    let after := (host.post suite network now request chance).1
    (∀ id, after.watches.mask id = host.watches.mask id) ∧
      ∀ id mask, host.watches.mask id = .ok mask →
        (mask.matchesTopics envelope.topics = true → hash ∈ after.watches.pendingAt id) ∧
        (mask.matchesTopics envelope.topics = false →
          after.watches.pendingAt id = host.watches.pendingAt id) := by
  intro after
  have watches : after.watches = _ := (post_pool_watches composed accepted).2
  rw [watches]
  exact ⟨fun id => host.watches.notify_mask hash envelope.topics id,
    fun id mask installed => h.watches.notify_reaches hash envelope.topics installed⟩

/-- Whoever reads a packet finds every envelope in it under its hash, if hashes tell apart what
occurs. -/
theorem Traced.packet_delivers (apart : Envelope.Apart occurring) (occurs : envelope ∈ occurring)
    {handover : Handover} (handed : handover ∈ host.outbox)
    (carries : ∃ sent ∈ handover.packet.contents, sent.hash = envelope.hash)
    (fits : handover.packet.encode.length < Rlp.sizeLimit) :
    ∃ items, Packet.decode handover.packet.encode = .ok (.messages items) ∧
      .ok envelope ∈ items ∧
      ∀ read, .ok read ∈ items → read.hash = envelope.hash → read = envelope := by
  have same : ∀ sent ∈ handover.packet.contents, sent.hash = envelope.hash → sent = envelope :=
    fun sent part => apart sent (h.sent handover handed sent part) envelope occurs
  obtain ⟨sent, part, equal⟩ := carries
  cases packet : handover.packet with
  | status version =>
      rw [packet] at part
      cases part
  | messages envelopes =>
      rw [packet] at part same fits
      refine ⟨envelopes.map .ok, Packet.decode_messages fits, ?_, ?_⟩
      · rw [← same sent part equal]
        exact List.mem_map_of_mem part
      · intro read member
        obtain ⟨original, among, wrapped⟩ := List.mem_map.1 member
        cases wrapped
        exact same read among

end Traced

/-- A post that succeeds puts one envelope with what was asked for into the pool and tells the
watches that ask for its topics. Wherever its hash is ever sent, the receiver reads this envelope,
and whoever has the full topics and the recipient's key gets the payload and its signer. -/
theorem post_delivers (suite : Suite Secret Public) (settings : HostSettings) (policy : PoolPolicy)
    (rule : EvictionRule) (network : Network)
    (earlier later : List (UInt64 × HostOperation Secret Public)) (now : UInt64)
    (request : PostRequest Secret Public) (chance : Chance Secret) (hash : Hash)
    (posted : (((fresh settings policy rule).run suite network earlier).post suite network now
      request chance).2 = .ok hash)
    (apart : Envelope.Apart ((fresh settings policy rule).offered suite network
      (earlier ++ (now, .post request chance) :: later)))
    (decrypts : suite.Decrypts)
    (recovers : ∀ key ∈ request.message.sender,
      suite.Recovers key (keccak256 request.message.payload)) :
    let before := (fresh settings policy rule).run suite network earlier
    let after := (before.post suite network now request chance).1
    let asked := TopicMask.exact request.topics
    ∃ envelope, after.pool.lookup hash = some envelope ∧ envelope.hash = hash ∧
      envelope.expiry.toNat = now.toNat + request.ttl.toNat ∧
      envelope.topics.toList = request.topics.map Topic.commit ∧
      (∀ id, after.watches.mask id = before.watches.mask id) ∧
      (∀ id mask, before.watches.mask id = .ok mask →
        (mask.matchesTopics envelope.topics = true → hash ∈ after.watches.pendingAt id) ∧
        (mask.matchesTopics envelope.topics = false →
          after.watches.pendingAt id = before.watches.pendingAt id)) ∧
      (∀ id, before.watches.mask id = .ok asked → hash ∈ after.watches.pendingAt id ∧
        after.fullTopics id = .ok asked.fullTopics) ∧
      (∀ recipient secret : Option Secret,
        request.message.recipient = recipient.map suite.publicKey →
        (∀ key ∈ recipient, suite.Exchanges chance.fresh.ephemeral key ∧ secret = some key) →
        envelope.openWith suite asked.fullTopics secret =
          .ok ⟨request.message.sender.map suite.publicKey, request.message.recipient,
            request.message.payload, asked.fullTopics⟩) ∧
      ∀ handover ∈ (after.run suite network later).outbox,
        (∃ sent ∈ handover.packet.contents, sent.hash = hash) →
        handover.packet.encode.length < Rlp.sizeLimit →
        ∃ items, Packet.decode handover.packet.encode = .ok (.messages items) ∧
          .ok envelope ∈ items ∧
          ∀ read, .ok read ∈ items → read.hash = hash → read = envelope := by
  intro before after asked
  obtain ⟨envelope, composed, accepted⟩ := post_eq_ok.1 posted
  obtain ⟨expiry, topics, data⟩ := of_compose_eq_ok composed
  have itsHash : envelope.hash = hash := Pool.insert_accepted accepted
  have fits : asked.matchesTopics envelope.topics = true := TopicMask.exact_matchesTopics.2 topics
  -- the envelope is among what is offered in the whole run, as is all that is ever handed over
  have whole := offered_append suite network (fresh settings policy rule) earlier
    ((now, .post request chance) :: later)
  have traced : before.Traced _ :=
    (Traced.fresh _ settings policy rule).run suite network fun sent offered =>
      whole ▸ List.mem_append_left _ offered
  have tracedLater : (before.run suite network ((now, .post request chance) :: later)).Traced _ :=
    traced.run suite network fun sent offered => whole ▸ List.mem_append_right _ offered
  have occurs : envelope ∈ _ :=
    whole ▸ List.mem_append_right _ (List.mem_append_left _
      (offered_post composed before ▸ List.mem_singleton.2 rfl))
  obtain ⟨masks, reaches⟩ := traced.post_tells composed accepted
  refine ⟨envelope, traced.post_held composed accepted, itsHash, expiry, topics, masks, reaches, ?_,
    ?_, ?_⟩
  · intro id installed
    refine ⟨(reaches id asked installed).1 fits, ?_⟩
    rw [fullTopics, WatchRegistry.fullTopics, masks, installed]
    rfl
  · intro recipient secret addressed held
    have shown : envelope.topics.toList =
        (request.topics.map FullTopic.ofText).map FullTopic.abridge :=
      topics.trans List.map_map.symm
    rw [TopicMask.exact_fullTopics]
    exact Envelope.openWith_sealedData shown data decrypts recovers addressed
      (fun key member => (held key member).1) fun key member => (held key member).2
  · intro handover handed carries short
    rw [← itsHash] at carries ⊢
    exact tracedLater.packet_delivers apart occurs handed carries short

section Letter

open Envelope (writer reader passing sign_letter recovers_letter exchanges_letter)

/-- A weak envelope that holds the only place in the pool. -/
def occupant : Envelope := ⟨130, 1, .empty, [], 0⟩

/-- A signed message for one reader, to be found under one topic. -/
def letterRequest : PostRequest Secp256k1.SecretKey Secp256k1.PublicKey :=
  ⟨⟨[1, 2, 3], some writer, some (Suite.standard.publicKey reader)⟩, ["odd"], 50, .time ⟨0⟩⟩

def letterChance : Chance Secp256k1.SecretKey := ⟨passing, 0, 101, 101⟩

/-- A peer, two watches and an envelope that fills the pool come before the post. -/
def beforeLetter : List (UInt64 × HostOperation Secp256k1.SecretKey Secp256k1.PublicKey) :=
  [(100, .connect (Octets.ofNat 1)), (100, .installWatch (.exact ["odd"])),
    (100, .installWatch (.exact ["odd", "even"])), (100, .inject occupant none)]

def crowdedHost : Host :=
  (fresh .standard ⟨1, 0, 30⟩ .leastHash).run .standard .reliable beforeLetter

def afterLetter : List (UInt64 × HostOperation Secp256k1.SecretKey Secp256k1.PublicKey) :=
  [(101, .connect (Octets.ofNat 2))]

def letter : Envelope where
  expiry := 150
  ttl := 50
  topics := ⟨[Topic.commit "odd"], by decide⟩
  data := Bytes.ofNat 143 0x01025cbdf0646e5db4eaa398f365f2ea7a0e3d419b7e0330e39ce92bddedcac4f9bc0000000000000000000000000000000000000000000000015acc159f475d5dcfbf31a1dfe498e920d311b94484ef22dd5e445cbed6d7aeba75659058e3f7e0d969a7b7c5bf872d566a66b69965104ff60b40e22c70d0b1f1f28f1a1f581e68f63bb23a8c1b8fe92c5154e09f8d
  nonce := 0

theorem sealedData_letter : letterRequest.message.sealedData .standard [FullTopic.ofText "odd"]
    letterChance.fresh = .ok letter.data := by
  simp only [OutgoingMessage.sealedData, OutgoingMessage.plaintext, letterRequest, sign_letter]
  decide +kernel

theorem compose_letter : compose .standard 100 letterRequest letterChance = .ok letter :=
  compose_eq_ok.2 ⟨nofun, letter, OutgoingMessage.toEnvelope_eq_ok.2
    ⟨letter.topics, letter.data, Topics.ofFull_eq_ok.2 rfl, sealedData_letter, rfl⟩, rfl⟩

theorem inject_letter :
    crowdedHost.watches =
      ⟨[(0, .ofMask (.exact ["odd"])), (1, .ofMask (.exact ["odd", "even"]))], 2⟩ ∧
    (match (crowdedHost.pool.insert letterChance.admission letter).2 with
      | .accepted hash => some hash
      | .rejected _ => none) = some letter.hash ∧
    (Octets.ofNat 2, Packet.messages [letter]) ∈
      ((((crowdedHost.inject letterChance.admission letter none).1.flushAll .reliable
        letterChance.flush).1.run .standard .reliable afterLetter).outbox.map fun handover =>
          (handover.peer, handover.packet)) ∧
    occupant.hash ≠ letter.hash := by
  decide +kernel

theorem apart_letter : Envelope.Apart ((fresh .standard ⟨1, 0, 30⟩ .leastHash).offered .standard
    .reliable (beforeLetter ++ (100, .post letterRequest letterChance) :: afterLetter)) := by
  have first : (fresh .standard ⟨1, 0, 30⟩ .leastHash).offered .standard .reliable beforeLetter =
      [occupant] := rfl
  have differ := inject_letter.2.2.2
  rw [offered_append, first, offered, offered_post compose_letter, afterLetter, offered,
    offered_connect, offered]
  intro envelope member other member' same
  simp only [List.mem_append, List.mem_singleton, List.not_mem_nil, or_false] at member member'
  rcases member with rfl | rfl <;> rcases member' with rfl | rfl
  · rfl
  · exact absurd same differ
  · exact absurd same.symm differ
  · rfl

/-- A letter displaces the envelope that had the only place, is heard of by the watch for its topic
and not by the one that asks for a second topic as well, and reaches the peer that comes later. -/
theorem post_delivers_letter :
    let after := (crowdedHost.post .standard .reliable 100 letterRequest letterChance).1
    (crowdedHost.post .standard .reliable 100 letterRequest letterChance).2 = .ok letter.hash ∧
    Envelope.Apart ((fresh .standard ⟨1, 0, 30⟩ .leastHash).offered .standard .reliable
      (beforeLetter ++ (100, .post letterRequest letterChance) :: afterLetter)) ∧
    Suite.standard.Decrypts ∧
    (∀ key ∈ letterRequest.message.sender,
      Suite.standard.Recovers key (keccak256 letterRequest.message.payload)) ∧
    ∃ envelope, after.pool.lookup letter.hash = some envelope ∧
      letter.hash ∈ after.watches.pendingAt 0 ∧ after.watches.pendingAt 1 = [] ∧
      envelope.openWith .standard [FullTopic.ofText "odd"] (some reader) =
        .ok ⟨some (Suite.standard.publicKey writer), some (Suite.standard.publicKey reader),
          [1, 2, 3], [FullTopic.ofText "odd"]⟩ ∧
      ∃ handover ∈ (after.run .standard .reliable afterLetter).outbox,
        handover.peer = Octets.ofNat 2 ∧
        ∃ items, Packet.decode handover.packet.encode = .ok (.messages items) ∧
          .ok envelope ∈ items := by
  obtain ⟨watches, outcome, handed, -⟩ := inject_letter
  have accepted : (crowdedHost.pool.insert letterChance.admission letter).2 =
      .accepted letter.hash := by
    split at outcome
    · rename_i taken
      exact taken.trans (congrArg _ (Option.some.inj outcome))
    · cases outcome
  have posted : (crowdedHost.post .standard .reliable 100 letterRequest letterChance).2 =
      .ok letter.hash := post_eq_ok.2 ⟨letter, compose_letter, accepted⟩
  have recovers : ∀ key ∈ letterRequest.message.sender,
      Suite.standard.Recovers key (keccak256 letterRequest.message.payload) := by
    rintro key ⟨⟩
    exact recovers_letter
  have delivers := post_delivers .standard .standard ⟨1, 0, 30⟩ .leastHash .reliable beforeLetter
    afterLetter 100 letterRequest letterChance letter.hash posted apart_letter
    Suite.standard_decrypts recovers
  rw [← post_fst compose_letter accepted] at handed
  -- the host is not to be computed again
  rw [← crowdedHost] at delivers
  generalize crowdedHost = host at *
  obtain ⟨envelope, found, -, -, topics, -, reaches, exactly, opens, carried⟩ := delivers
  have odd : host.watches.mask 0 = .ok (.exact ["odd"]) := by
    rw [watches]
    rfl
  have both : host.watches.mask 1 = .ok (.exact ["odd", "even"]) := by
    rw [watches]
    rfl
  have unfit : (TopicMask.exact ["odd", "even"]).matchesTopics envelope.topics = false := by
    rw [← Bool.not_eq_true, TopicMask.exact_matchesTopics, topics]
    simp [letterRequest]
  have nothing : host.watches.pendingAt 1 = [] := by
    rw [watches]
    rfl
  obtain ⟨handover, member, same⟩ := List.mem_map.1 handed
  obtain ⟨peer, packet⟩ := Prod.mk.inj same
  have carries : ∃ sent ∈ handover.packet.contents, sent.hash = letter.hash :=
    ⟨letter, by rw [packet]; exact List.mem_singleton.2 rfl, rfl⟩
  have short : handover.packet.encode.length < Rlp.sizeLimit := by
    rw [packet]
    decide +kernel
  obtain ⟨items, read, among, -⟩ := carried handover member carries short
  refine ⟨posted, apart_letter, Suite.standard_decrypts, recovers, envelope, found,
    (exactly 0 odd).1, ((reaches 1 _ both).2 unfit).trans nothing, ?_, handover, member, peer,
    items, read, among⟩
  have opened := opens (some reader) (some reader) rfl fun key held => by
    cases held
    exact ⟨exchanges_letter, rfl⟩
  rwa [TopicMask.exact_fullTopics] at opened

end Letter

end Host

end Courier

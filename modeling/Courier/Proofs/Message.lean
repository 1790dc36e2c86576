import Mathlib
import Courier.Envelope.Work
import Courier.Message
import Courier.Proofs.Envelope.Codec
import Courier.Proofs.Suite
import Courier.Proofs.Topic.Mask

/-! # Opening what was sealed

A sealed message is taken apart where it was put together: the mark, the key that was used once,
the nonce and the encrypted body, and in the body the mark, the payload and the signature, which
is the last of it however the payload looks. Both sides derive the same key from the topics in
their order and from what the two key holders share.
-/

namespace Courier

open Rlp

variable {Secret Public : Type} {suite : Suite Secret Public}

theorem Envelope.create_eq_ok {now : UInt64} {ttl : UInt32} {topics : Topics} {data : Bytes}
    {envelope : Envelope} :
    Envelope.create now ttl topics data = .ok envelope ↔ now.toNat + ttl.toNat ≤ 0xffffffff ∧
      envelope = ⟨.ofNat (now.toNat + ttl.toNat), ttl, topics, data, 0⟩ := by
  rw [create]
  split
  · rename_i soon
    rw [Except.ok.injEq, eq_comm]
    exact (and_iff_right (by omega)).symm
  · rename_i late
    refine iff_of_false (by simp) ?_
    rintro ⟨soon, -⟩
    omega

namespace Message

theorem length_signatureOctets (signature : Signature) :
    (signatureOctets signature).length = 65 := by
  rw [signatureOctets, List.length_append, Octets.length_toList, List.length_singleton]

theorem signatureOfOctets_signatureOctets (signature : Signature) :
    signatureOfOctets (signatureOctets signature) = signature := by
  have whole : ∀ w : Word, BitVec.ofNat 256 (Bytes.value (Bytes.ofNat 32 w.toNat)) = w := by
    intro w
    have fits : w.toNat < 256 ^ 32 := w.isLt
    rw [Bytes.value_ofNat, Nat.mod_eq_of_lt fits, BitVec.ofNat_toNat, BitVec.setWidth_eq]
  have r : signature.rOctets.length = 32 := Bytes.length_ofNat _ _
  have s : signature.sOctets.length = 32 := Bytes.length_ofNat _ _
  have both : (signature.rOctets ++ signature.sOctets).length = 64 := by
    rw [List.length_append, r, s]
  have octets : signatureOctets signature =
      signature.rOctets ++ (signature.sOctets ++ [signature.v]) := List.append_assoc _ _ _
  have mark : (signatureOctets signature).drop 64 = [signature.v] := List.drop_left' both
  rw [signatureOfOctets, mark, octets, List.take_left' r, List.drop_left' r, List.take_left' s,
    Signature.rOctets, Signature.sOctets, whole, whole, List.headD_cons]

end Message

namespace OutgoingMessage

variable {message : OutgoingMessage Secret Public} {full : List FullTopic}
  {fresh : Freshness Secret}

theorem plaintext_eq_ok {plain : Bytes} : message.plaintext suite = .ok plain ↔
    (message.sender = none ∧ plain = 0 :: message.payload) ∨
    ∃ key signature, message.sender = some key ∧
      suite.sign key (keccak256 message.payload) = some signature ∧
      plain = Message.signedFlag :: (message.payload ++ Message.signatureOctets signature) := by
  rw [plaintext]
  cases message.sender with
  | none => simp [eq_comm]
  | some key =>
      cases signed : suite.sign key (keccak256 message.payload) <;> simp [signed, eq_comm]

theorem encryptWith_eq_ok {key : Hash} {nonce : Octets 24} {plain data : Bytes} :
    encryptWith suite key nonce plain = .ok data ↔
      ∃ box, suite.encrypt key nonce plain = some box ∧ data = nonce.toList ++ box := by
  rw [encryptWith]
  cases suite.encrypt key nonce plain <;> simp [eq_comm]

/-- The key under which a message is encrypted. -/
def sealingKey (suite : Suite Secret Public) (message : OutgoingMessage Secret Public)
    (full : List FullTopic) (fresh : Freshness Secret) : Hash :=
  match message.recipient with
  | none => Message.topicKey full
  | some recipient =>
    Message.addressedKey (suite.agree fresh.ephemeral recipient) (Message.topicKey full)

/-- What stands before the encrypted octets. -/
def sealHeader (suite : Suite Secret Public) (message : OutgoingMessage Secret Public)
    (fresh : Freshness Secret) : Bytes :=
  match message.recipient with
  | none => [Message.broadcastMode]
  | some _ => Message.addressedMode :: (suite.compress (suite.publicKey fresh.ephemeral)).toList

theorem sealedData_eq_ok {data : Bytes} : message.sealedData suite full fresh = .ok data ↔
    ∃ plain box, message.plaintext suite = .ok plain ∧
      encryptWith suite (message.sealingKey suite full fresh) fresh.nonce plain = .ok box ∧
      data = message.sealHeader suite fresh ++ box := by
  rw [sealedData, sealingKey, sealHeader]
  cases message.plaintext suite with
  | error fault => simp [bind, Except.bind]
  | ok plain =>
      cases message.recipient with
      | none =>
          cases encrypted : encryptWith suite (Message.topicKey full) fresh.nonce plain <;>
            simp [bind, Except.bind, pure, Except.pure, encrypted, eq_comm]
      | some recipient =>
          cases encrypted : encryptWith suite (Message.addressedKey
            (suite.agree fresh.ephemeral recipient) (Message.topicKey full)) fresh.nonce plain <;>
            simp [bind, Except.bind, pure, Except.pure, encrypted, eq_comm]

/-- Whether neither the signing nor the encryption of a message fails. -/
structure Sealable (suite : Suite Secret Public) (message : OutgoingMessage Secret Public)
    (full : List FullTopic) (fresh : Freshness Secret) : Prop where
  signs : ∀ key ∈ message.sender,
    ∃ signature, suite.sign key (keccak256 message.payload) = some signature
  encrypts : ∀ plain, message.plaintext suite = .ok plain →
    ∃ box, suite.encrypt (message.sealingKey suite full fresh) fresh.nonce plain = some box

theorem plaintext_isOk_iff : (∃ plain, message.plaintext suite = .ok plain) ↔
    ∀ key ∈ message.sender,
      ∃ signature, suite.sign key (keccak256 message.payload) = some signature := by
  simp only [plaintext_eq_ok]
  cases message.sender with
  | none => simp
  | some key => simp [eq_comm]

theorem sealedData_isOk_iff : (∃ data, message.sealedData suite full fresh = .ok data) ↔
    message.Sealable suite full fresh := by
  constructor
  · rintro ⟨data, made⟩
    obtain ⟨plain, octets, body, encrypted, -⟩ := sealedData_eq_ok.1 made
    obtain ⟨box, encrypted, -⟩ := encryptWith_eq_ok.1 encrypted
    refine ⟨plaintext_isOk_iff.1 ⟨plain, body⟩, fun other same => ⟨box, ?_⟩⟩
    cases body.symm.trans same
    exact encrypted
  · rintro ⟨signs, encrypts⟩
    obtain ⟨plain, body⟩ := plaintext_isOk_iff.2 signs
    obtain ⟨box, encrypted⟩ := encrypts plain body
    exact ⟨_, sealedData_eq_ok.2 ⟨plain, _, body, encryptWith_eq_ok.2 ⟨box, encrypted, rfl⟩, rfl⟩⟩

/-- A body gives its payload and its signer back. -/
theorem openBody_plaintext {plain : Bytes} (body : message.plaintext suite = .ok plain)
    (recovers : ∀ key ∈ message.sender, suite.Recovers key (keccak256 message.payload)) :
    Envelope.openBody suite plain = .ok (message.payload, message.sender.map suite.publicKey) := by
  rcases plaintext_eq_ok.1 body with ⟨unsigned, rfl⟩ | ⟨key, signature, signed, made, rfl⟩
  · rw [unsigned]
    rfl
  · have tail := Message.length_signatureOctets signature
    have long : ¬ (message.payload ++ Message.signatureOctets signature).length < 65 := by
      rw [List.length_append, tail]
      omega
    have front : (message.payload ++ Message.signatureOctets signature).length - 65 =
        message.payload.length := by
      rw [List.length_append, tail, Nat.add_sub_cancel]
    rw [Envelope.openBody, if_neg (by decide), if_neg long, front, List.take_left,
      List.drop_left, Message.signatureOfOctets_signatureOctets]
    simp only [recovers key signed signature made, signed]
    rfl

theorem decryptWith_encryptWith (decrypts : suite.Decrypts) {key : Hash} {nonce : Octets 24}
    {plain data : Bytes} (encrypted : encryptWith suite key nonce plain = .ok data) :
    Envelope.decryptWith suite key data = .ok plain := by
  obtain ⟨box, made, rfl⟩ := encryptWith_eq_ok.1 encrypted
  rw [Envelope.decryptWith, List.take_left' nonce.length_toList,
    List.drop_left' nonce.length_toList, Octets.ofList?_toList]
  simp only [decrypts key nonce plain box made]

/-- The data of a sealed message gives its body back to whoever holds the recipient's key, if there
is a recipient, and to everyone else who knows the topics. -/
theorem openData_sealedData (decrypts : suite.Decrypts) {data : Bytes}
    (made : message.sealedData suite full fresh = .ok data) {recipient : Option Secret}
    (addressed : message.recipient = recipient.map suite.publicKey)
    (exchanges : ∀ key ∈ recipient, suite.Exchanges fresh.ephemeral key)
    {secret : Option Secret} (held : ∀ key ∈ recipient, secret = some key) :
    ∃ plain, message.plaintext suite = .ok plain ∧
      Envelope.openData suite data (Message.topicKey full) secret =
        .ok (plain, message.recipient) := by
  obtain ⟨plain, box, body, encrypted, rfl⟩ := sealedData_eq_ok.1 made
  have decrypted := decryptWith_encryptWith decrypts encrypted
  refine ⟨plain, body, ?_⟩
  cases recipient with
  | none =>
      have broadcast : message.recipient = none := addressed
      simp only [sealingKey, broadcast] at decrypted
      simp only [sealHeader, broadcast, List.singleton_append, Envelope.openData, if_true,
        decrypted]
      rfl
  | some key =>
      have exchange := exchanges key rfl
      have length := (suite.compress (suite.publicKey fresh.ephemeral)).length_toList
      have recipient : message.recipient = some (suite.publicKey key) := addressed
      -- the sealing side derives the shared secret from the key that is used once
      simp only [sealingKey, recipient, exchange.agree] at decrypted
      have long : ¬ ((suite.compress (suite.publicKey fresh.ephemeral)).toList ++ box).length <
          33 := by
        rw [List.length_append, length]
        omega
      rw [recipient, held key rfl, sealHeader, recipient]
      simp only [List.cons_append]
      rw [Envelope.openData, if_neg (by decide), if_pos rfl]
      simp only [if_neg long, List.take_left' length, List.drop_left' length, exchange.readBack,
        decrypted]
      rfl

theorem toEnvelope_eq_ok {ttl : UInt32} {now : UInt64} {envelope : Envelope} :
    message.toEnvelope suite full ttl now fresh = .ok envelope ↔
      ∃ topics data, Topics.ofFull full = .ok topics ∧
        message.sealedData suite full fresh = .ok data ∧
        Envelope.create now ttl topics data = .ok envelope := by
  rw [toEnvelope]
  cases Topics.ofFull full with
  | error many => simp
  | ok topics =>
      cases message.sealedData suite full fresh with
      | error fault => simp
      | ok data => cases made : Envelope.create now ttl topics data <;> simp [made]

theorem toEnvelope_isOk_iff {ttl : UInt32} {now : UInt64} :
    (∃ envelope, message.toEnvelope suite full ttl now fresh = .ok envelope) ↔
      full.length ≤ maxTopics ∧ message.Sealable suite full fresh ∧
        now.toNat + ttl.toNat ≤ 0xffffffff := by
  constructor
  · rintro ⟨envelope, made⟩
    obtain ⟨topics, data, shown, written, created⟩ := toEnvelope_eq_ok.1 made
    refine ⟨?_, sealedData_isOk_iff.1 ⟨data, written⟩, (Envelope.create_eq_ok.1 created).1⟩
    exact (List.length_map _).symm.trans_le (Topics.ofFull_eq_ok.1 shown ▸ topics.length_le)
  · rintro ⟨few, sealable, soon⟩
    obtain ⟨data, written⟩ := sealedData_isOk_iff.2 sealable
    exact ⟨_, toEnvelope_eq_ok.2 ⟨⟨full.map FullTopic.abridge, (List.length_map _).trans_le few⟩,
      data, Topics.ofFull_eq_ok.2 rfl, written, Envelope.create_eq_ok.2 ⟨soon, rfl⟩⟩⟩

end OutgoingMessage

namespace Envelope

/-- What an envelope can become by stamping: any nonce can stand in it afterwards. -/
inductive Stamped (envelope : Envelope) : Envelope → Prop where
  | unstamped : Stamped envelope envelope
  | inRounds (rounds : Nat) : Stamped envelope (envelope.proveWork rounds).1
  | toBits (target : UInt32) : Stamped envelope (envelope.proveWorkBits target).1
  | withNonce (nonce : UInt64) : Stamped envelope { envelope with nonce }

theorem Stamped.exists_nonce {envelope stamped : Envelope} (h : envelope.Stamped stamped) :
    ∃ nonce, stamped = { envelope with nonce } := by
  cases h with
  | unstamped => exact ⟨envelope.nonce, rfl⟩
  | inRounds rounds => exact ⟨_, rfl⟩
  | toBits target => exact ⟨_, rfl⟩
  | withNonce nonce => exact ⟨nonce, rfl⟩

theorem checkTopics_abridge (position : Nat) (full : List FullTopic) :
    checkTopics position full (full.map FullTopic.abridge) = .ok () := by
  induction full generalizing position with
  | nil => rfl
  | cons topic rest ih => rw [List.map_cons, checkTopics, if_pos rfl, ih]

theorem openWith_sealedData {envelope : Envelope} {message : OutgoingMessage Secret Public}
    {full : List FullTopic} {fresh : Freshness Secret} {recipient secret : Option Secret}
    (topics : envelope.topics.toList = full.map FullTopic.abridge)
    (data : message.sealedData suite full fresh = .ok envelope.data) (decrypts : suite.Decrypts)
    (recovers : ∀ key ∈ message.sender, suite.Recovers key (keccak256 message.payload))
    (addressed : message.recipient = recipient.map suite.publicKey)
    (exchanges : ∀ key ∈ recipient, suite.Exchanges fresh.ephemeral key)
    (held : ∀ key ∈ recipient, secret = some key) :
    envelope.openWith suite full secret =
      .ok ⟨message.sender.map suite.publicKey, message.recipient, message.payload, full⟩ := by
  have count : full.length = envelope.topics.size := by
    rw [Topics.size, topics, List.length_map]
  obtain ⟨plain, body, opened⟩ :=
    OutgoingMessage.openData_sealedData decrypts data addressed exchanges held
  have parted := OutgoingMessage.openBody_plaintext body recovers
  rw [openWith, if_pos count, topics, checkTopics_abridge, opened]
  simp only [bind, Except.bind, parted]
  rfl

/-- Sealing succeeds, and whoever knows the topics, and holds the recipient's key if there is a
recipient, gets the payload, the signer and the recipient out of the envelope: also after it was
stamped, and after it was written and read. -/
theorem toEnvelope_opens (suite : Suite Secret Public) (payload : Bytes)
    (sender recipient : Option Secret) (full : List FullTopic) (ttl : UInt32) (now : UInt64)
    (fresh : Freshness Secret) (few : full.length ≤ maxTopics)
    (soon : now.toNat + ttl.toNat ≤ 0xffffffff)
    (signs : ∀ key ∈ sender, ∃ signature, suite.sign key (keccak256 payload) = some signature)
    (encrypts : suite.Encrypts) (decrypts : suite.Decrypts)
    (recovers : ∀ key ∈ sender, suite.Recovers key (keccak256 payload))
    (exchanges : ∀ key ∈ recipient, suite.Exchanges fresh.ephemeral key) :
    let message : OutgoingMessage Secret Public :=
      ⟨payload, sender, recipient.map suite.publicKey⟩
    let opened : Message Public :=
      ⟨sender.map suite.publicKey, recipient.map suite.publicKey, payload, full⟩
    ∃ envelope, message.toEnvelope suite full ttl now fresh = .ok envelope ∧
      ∀ stamped, envelope.Stamped stamped →
        ∀ secret, (∀ key ∈ recipient, secret = some key) →
          stamped.openWith suite full secret = .ok opened ∧
          (stamped.encode.length < sizeLimit →
            ∃ read, decode stamped.encode = .ok read ∧
              read.openWith suite full secret = .ok opened) := by
  intro message opened
  obtain ⟨data, made⟩ : ∃ data, message.sealedData suite full fresh = .ok data :=
    OutgoingMessage.sealedData_isOk_iff.2 ⟨signs, fun plain _ => encrypts _ _ plain⟩
  let topics : Topics := ⟨full.map FullTopic.abridge, (List.length_map _).trans_le few⟩
  refine ⟨_, OutgoingMessage.toEnvelope_eq_ok.2 ⟨topics, data, Topics.ofFull_eq_ok.2 rfl, made,
    create_eq_ok.2 ⟨soon, rfl⟩⟩, ?_⟩
  intro stamped stamping secret held
  obtain ⟨nonce, same⟩ := stamping.exists_nonce
  have topics : stamped.topics.toList = full.map FullTopic.abridge := by rw [same]
  have whole : message.sealedData suite full fresh = .ok stamped.data := by rw [same, made]
  have opens := openWith_sealedData topics whole decrypts recovers rfl exchanges held
  exact ⟨opens, fun fits => ⟨_, decode_encode fits, opens⟩⟩

section Letter

/-- A key for each of three parties: who writes, who reads, and one that is used once. -/
def writer : Secp256k1.SecretKey := ⟨3, by decide, by decide⟩

def reader : Secp256k1.SecretKey := ⟨5, by decide, by decide⟩

def passing : Freshness Secp256k1.SecretKey := ⟨.ofNat 1, ⟨7, by decide, by decide⟩⟩

theorem sign_letter : Suite.standard.sign writer (keccak256 [1, 2, 3]) =
    some ⟨1, 0x142ce5def4caaea853b099c721dcfaac7d9a75f52b2a519aed853590afb2b96,
      0x2cfe7318621e5259c3984ef95d7130ff27bf37c14708dde6213f25dede530faa⟩ := by
  decide +kernel

theorem recovers_letter : Suite.standard.Recovers writer (keccak256 [1, 2, 3]) := by
  intro signature made
  cases sign_letter.symm.trans made
  decide +kernel

theorem exchanges_letter : Suite.standard.Exchanges passing.ephemeral reader where
  agree := by decide +kernel
  readBack := by decide +kernel

/-- A signed message for one reader about two topics, in an envelope that is stamped and written. -/
theorem toEnvelope_opens_letter :
    let full : List FullTopic := [.zero, .ofNat 1]
    let message : OutgoingMessage Secp256k1.SecretKey Secp256k1.PublicKey :=
      ⟨[1, 2, 3], some writer, some (Suite.standard.publicKey reader)⟩
    full.length ≤ maxTopics ∧ (100 : UInt64).toNat + (50 : UInt32).toNat ≤ 0xffffffff ∧
      (∀ key ∈ message.sender,
        ∃ signature, Suite.standard.sign key (keccak256 message.payload) = some signature) ∧
      Suite.standard.Encrypts ∧ Suite.standard.Decrypts ∧
      (∀ key ∈ message.sender, Suite.standard.Recovers key (keccak256 message.payload)) ∧
      Suite.standard.Exchanges passing.ephemeral reader ∧
      ∃ envelope, message.toEnvelope .standard full 50 100 passing = .ok envelope ∧
        ∃ read, decode (envelope.proveWork 0).1.encode = .ok read ∧
          read.openWith .standard full (some reader) =
            .ok ⟨some (Suite.standard.publicKey writer), some (Suite.standard.publicKey reader),
              [1, 2, 3], full⟩ := by
  intro full message
  have signs : ∀ key ∈ some writer,
      ∃ signature, Suite.standard.sign key (keccak256 [1, 2, 3]) = some signature := by
    rintro key ⟨⟩
    exact ⟨_, sign_letter⟩
  have recovers : ∀ key ∈ some writer, Suite.standard.Recovers key (keccak256 [1, 2, 3]) := by
    rintro key ⟨⟩
    exact recovers_letter
  have exchanges : ∀ key ∈ some reader, Suite.standard.Exchanges passing.ephemeral key := by
    rintro key ⟨⟩
    exact exchanges_letter
  have sealing := toEnvelope_opens .standard [1, 2, 3] (some writer) (some reader) full 50 100
    passing (by decide) (by decide) signs Suite.standard_encrypts Suite.standard_decrypts recovers
    exchanges
  obtain ⟨envelope, sealed, opens⟩ := sealing
  have fits : (envelope.proveWork 0).1.encode.length < sizeLimit := by
    obtain ⟨topics, data, few, made, created⟩ := OutgoingMessage.toEnvelope_eq_ok.1 sealed
    obtain ⟨-, rfl⟩ := create_eq_ok.1 created
    simp only [OutgoingMessage.sealedData, OutgoingMessage.plaintext, sign_letter] at made
    cases few
    cases made
    decide +kernel
  have read := (opens _ (.inRounds 0) (some reader) (by simp)).2 fits
  exact ⟨by decide, by decide, signs, Suite.standard_encrypts, Suite.standard_decrypts, recovers,
    exchanges_letter, envelope, sealed, read⟩

end Letter

end Envelope

end Courier

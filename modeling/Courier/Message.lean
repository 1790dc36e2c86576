import Courier.Envelope.Codec
import Courier.Suite

/-! # Sealed messages

The body of a message is a mark, the payload and, if the sender is to be known, a signature.
It is encrypted before it becomes the data of an envelope: for everyone who knows the
topics, or for the holder of one key besides.
-/

namespace Courier

variable {Secret Public : Type}

/-- A message on its way into an envelope. -/
structure OutgoingMessage (Secret Public : Type) where
  /-- What is to be said. -/
  payload : Bytes
  /-- Who says it, if that is to be known. -/
  sender : Option Secret
  /-- Who alone may read it. -/
  recipient : Option Public

/-- A message that was taken out of an envelope. -/
structure Message (Public : Type) where
  /-- Who signed it. -/
  sender : Option Public
  /-- Who it was addressed to. -/
  recipient : Option Public
  /-- What was said. -/
  payload : Bytes
  topics : List FullTopic

/-- What must be fresh each time a message is sealed. -/
structure Freshness (Secret : Type) where
  nonce : Octets 24
  /-- A key that is used once; only addressed messages need it. -/
  ephemeral : Secret

/-- Why a message cannot be sealed. -/
inductive SealError where
  | topics (error : TooManyTopics)
  | signing
  | encryption
  | expiry (error : ExpiryOutOfRange)
  deriving DecidableEq

def SealError.message : SealError → String
  | .topics error => error.message
  | .signing => "Signing failed"
  | .encryption => "Encryption failed"
  | .expiry error => error.message

/-- What is wrong with the body of a message. -/
inductive BodyFault where
  | emptyData
  | unknownMode
  | truncatedKey
  | invalidKey
  | truncatedNonce
  | emptyPlaintext
  | truncatedSignature
  deriving DecidableEq

def BodyFault.reason : BodyFault → String
  | .emptyData => "empty data"
  | .unknownMode => "unknown mode"
  | .truncatedKey => "truncated ephemeral key"
  | .invalidKey => "invalid ephemeral key"
  | .truncatedNonce => "truncated nonce"
  | .emptyPlaintext => "empty plaintext"
  | .truncatedSignature => "truncated signature"

/-- Why an envelope cannot be opened. -/
inductive OpenError where
  | topicCount (expected supplied : Nat)
  | topicMismatch (position : Nat)
  /-- The envelope is addressed, and no key was given. -/
  | keyRequired
  | body (fault : BodyFault)
  | decryption
  | invalidSignature
  deriving DecidableEq

/-- The report of an envelope that cannot be opened. -/
def OpenError.message : OpenError → String
  | .topicCount expected supplied =>
    "Topic count mismatch: envelope has " ++ toString expected ++ ", supplied " ++
      toString supplied
  | .topicMismatch position =>
    "Full topic at position " ++ toString position ++ " does not match the envelope"
  | .keyRequired => "Envelope is addressed to a recipient; a secret key is required"
  | .body fault => "Malformed message body: " ++ fault.reason
  | .decryption => "Decryption failed"
  | .invalidSignature => "Invalid sender signature"

namespace Message

/-- The key that everyone who knows the topics can derive. -/
def topicKey (full : List FullTopic) : Hash := keccak256 (full.flatMap Octets.toList)

/-- The key that only the two ends of an addressed message can derive. -/
def addressedKey (shared topicKey : Hash) : Hash := keccak256 (shared.toList ++ topicKey.toList)

/-- The mark of a message for everyone who knows the topics. -/
def broadcastMode : UInt8 := 0

/-- The mark of a message for the holder of one key. -/
def addressedMode : UInt8 := 1

/-- The bit in the first octet of a body that tells of a signature. -/
def signedFlag : UInt8 := 1

/-- A signature as the last 65 octets of a body. -/
def signatureOctets (signature : Signature) : Bytes := signature.compact.toList ++ [signature.v]

/-- The signature that 65 octets hold. -/
def signatureOfOctets (octets : Bytes) : Signature :=
  ⟨(octets.drop 64).headD 0, .ofNat 256 (Bytes.value (octets.take 32)),
    .ofNat 256 (Bytes.value ((octets.drop 32).take 32))⟩

end Message

namespace OutgoingMessage

/-- What is encrypted: a mark, the payload, and the signature of the payload's digest. -/
def plaintext (suite : Suite Secret Public) (message : OutgoingMessage Secret Public) :
    Except SealError Bytes :=
  match message.sender with
  | none => .ok (0 :: message.payload)
  | some key =>
    match suite.sign key (keccak256 message.payload) with
    | none => .error .signing
    | some signature =>
      .ok (Message.signedFlag :: message.payload ++ Message.signatureOctets signature)

def encryptWith (suite : Suite Secret Public) (key : Hash) (nonce : Octets 24) (plain : Bytes) :
    Except SealError Bytes :=
  match suite.encrypt key nonce plain with
  | none => .error .encryption
  | some box => .ok (nonce.toList ++ box)

def sealedData (suite : Suite Secret Public) (message : OutgoingMessage Secret Public)
    (full : List FullTopic) (fresh : Freshness Secret) : Except SealError Bytes := do
  let plain ← message.plaintext suite
  let topicKey := Message.topicKey full
  match message.recipient with
  | none =>
    let box ← encryptWith suite topicKey fresh.nonce plain
    return Message.broadcastMode :: box
  | some recipient =>
    let key := Message.addressedKey (suite.agree fresh.ephemeral recipient) topicKey
    let box ← encryptWith suite key fresh.nonce plain
    return Message.addressedMode :: (suite.compress (suite.publicKey fresh.ephemeral)).toList ++ box

/-- Seal a message into an envelope without proof of work. -/
def toEnvelope (suite : Suite Secret Public) (message : OutgoingMessage Secret Public)
    (full : List FullTopic) (ttl : UInt32) (now : UInt64) (fresh : Freshness Secret) :
    Except SealError Envelope :=
  match Topics.ofFull full with
  | .error e => .error (.topics e)
  | .ok topics =>
    match message.sealedData suite full fresh with
    | .error e => .error e
    | .ok data =>
      match Envelope.create now ttl topics data with
      | .error e => .error (.expiry e)
      | .ok envelope => .ok envelope

end OutgoingMessage

namespace Envelope

/-- Check full topics against an envelope's topics, position by position. -/
def checkTopics : (position : Nat) → List FullTopic → List Topic → Except OpenError Unit
  | position, full :: fulls, topic :: topics =>
    if full.abridge = topic then checkTopics (position + 1) fulls topics
    else .error (.topicMismatch position)
  | _, _, _ => .ok ()

/-- Decrypt octets that follow their nonce. -/
def decryptWith (suite : Suite Secret Public) (key : Hash) (box : Bytes) :
    Except OpenError Bytes :=
  match Octets.ofList? (n := 24) (box.take 24) with
  | none => .error (.body .truncatedNonce)
  | some nonce =>
    match suite.decrypt? key nonce (box.drop 24) with
    | some plain => .ok plain
    | none => .error .decryption

/-- Decrypt an envelope's data, and tell whom it was addressed to. -/
def openData (suite : Suite Secret Public) (data : Bytes) (topicKey : Hash)
    (secret : Option Secret) : Except OpenError (Bytes × Option Public) :=
  match data with
  | [] => .error (.body .emptyData)
  | mode :: rest =>
    if mode = Message.broadcastMode then
      (decryptWith suite topicKey rest).map fun plain => (plain, none)
    else if mode = Message.addressedMode then
      match secret with
      | none => .error .keyRequired
      | some secret =>
        if rest.length < 33 then .error (.body .truncatedKey)
        else
          match suite.decodeKey? (rest.take 33) with
          | none => .error (.body .invalidKey)
          | some ephemeral =>
            let key := Message.addressedKey (suite.agree secret ephemeral) topicKey
            (decryptWith suite key (rest.drop 33)).map fun plain =>
              (plain, some (suite.publicKey secret))
    else .error (.body .unknownMode)

/-- Take a body apart into the payload and its signer. -/
def openBody (suite : Suite Secret Public) (plain : Bytes) :
    Except OpenError (Bytes × Option Public) :=
  match plain with
  | [] => .error (.body .emptyPlaintext)
  | flags :: rest =>
    if flags &&& Message.signedFlag = 0 then .ok (rest, none)
    else if rest.length < 65 then .error (.body .truncatedSignature)
    else
      let payload := rest.take (rest.length - 65)
      let signature := Message.signatureOfOctets (rest.drop (rest.length - 65))
      match suite.recover? (keccak256 payload) signature with
      | none => .error .invalidSignature
      | some sender => .ok (payload, some sender)

/-- Open an envelope with the full form of each of its topics; one that is addressed also needs
the secret key of its recipient. -/
def openWith (suite : Suite Secret Public) (envelope : Envelope) (full : List FullTopic)
    (secret : Option Secret) : Except OpenError (Message Public) :=
  if full.length = envelope.topics.size then do
    checkTopics 0 full envelope.topics.toList
    let (plain, recipient) ← openData suite envelope.data (Message.topicKey full) secret
    let (payload, sender) ← openBody suite plain
    return ⟨sender, recipient, payload, full⟩
  else .error (.topicCount envelope.topics.size full.length)

end Envelope

end Courier

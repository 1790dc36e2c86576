import Courier.Cipher.ChaCha20

/-! # Authenticated encryption

Octets are mixed with a key stream that starts at block one; block zero of the stream keys
a polynomial tag over what results. Nonces are 24 octets long, so that random ones do not
meet. Nothing besides the octets is authenticated.
-/

namespace Courier.Cipher

/-- The modulus of the tag's polynomial. -/
def tagPrime : Nat := 0x3fffffffffffffffffffffffffffffffb

/-- The bits of the polynomial's point that may be set. -/
def clampMask : Nat := 0x0ffffffc0ffffffc0ffffffc0fffffff

/-- Evaluate the polynomial of `blocks` blocks of sixteen octets, from an accumulator on. -/
def evaluate (point : Nat) : (blocks accumulator : Nat) → Bytes → Nat
  | 0, accumulator, _ => accumulator
  | blocks + 1, accumulator, octets =>
    let block := littleEndian (octets.take 16 ++ [1])
    evaluate point blocks ((accumulator + block) * point % tagPrime) (octets.drop 16)

/-- The sixteen octets that authenticate a message under a key that is used once. -/
def tagUnder (key message : Bytes) : Bytes :=
  let point := littleEndian (key.take 16) &&& clampMask
  let mask := littleEndian ((key.drop 16).take 16)
  littleEndianOctets 16 (evaluate point ((message.length + 15) / 16) 0 message + mask)

/-- The tag of encrypted octets: they are padded to whole blocks and followed by their length. -/
def sealTag (key : Hash) (nonce : Octets 12) (encrypted : Bytes) : Bytes :=
  tagUnder ((keyStreamBlock key nonce 0).take 32)
    (encrypted ++ List.replicate ((16 - encrypted.length % 16) % 16) 0 ++
      List.replicate 8 0 ++ littleEndianOctets 8 encrypted.length)

def shorten (key : Hash) (nonce : Octets 24) : Hash × Octets 12 :=
  (derivedKey key (nonce.take 16 (by decide)),
    ⟨List.replicate 4 0 ++ nonce.toList.drop 16, by simp [nonce.length_toList]⟩)

def encrypt (key : Hash) (nonce : Octets 24) (plain : Bytes) : Bytes :=
  let (key, nonce) := shorten key nonce
  let encrypted := mixKeyStream key nonce ((plain.length + 63) / 64) 1 plain
  encrypted ++ sealTag key nonce encrypted

/-- Decrypt octets whose last sixteen are their tag; a wrong tag gives nothing. -/
def decrypt? (key : Hash) (nonce : Octets 24) (box : Bytes) : Option Bytes :=
  if box.length < 16 then none
  else
    let (key, nonce) := shorten key nonce
    let encrypted := box.take (box.length - 16)
    if box.drop (box.length - 16) = sealTag key nonce encrypted then
      some (mixKeyStream key nonce ((encrypted.length + 63) / 64) 1 encrypted)
    else none

end Courier.Cipher

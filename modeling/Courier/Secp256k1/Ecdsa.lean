import Courier.Secp256k1.Key
import Courier.Sha256
import Courier.Signature

/-! # Signing and recovery

Nonces are derived from the key and the digest, so that signing the same digest twice gives
the same signature. Signatures are given in low form, and only low ones are recovered.
-/

namespace Courier.Secp256k1

/-- The generator of signing nonces: a key and a value, each a keyed digest of what went before. -/
structure NonceSource where
  key : Hash
  value : Hash

namespace NonceSource

def stir (source : NonceSource) (mark : UInt8) (seed : Bytes) : NonceSource :=
  let key := Sha256.keyed source.key (source.value.toList ++ mark :: seed)
  ⟨key, Sha256.keyed key source.value.toList⟩

def ofSeed (secret digest : Hash) : NonceSource :=
  let seed := secret.toList ++ digest.toList
  let start : NonceSource := ⟨.zero, ⟨List.replicate 32 1, by simp⟩⟩
  (start.stir 0 seed).stir 1 seed

/-- The first candidate in range among the next `tries`; one out of range is stirred in. -/
def next? : (tries : Nat) → NonceSource → Option SecretKey
  | 0, _ => none
  | tries + 1, source =>
    let value := Sha256.keyed source.key source.value.toList
    match SecretKey.ofNat? value.value with
    | some nonce => some nonce
    | none => next? tries (stir ⟨source.key, value⟩ 0 [])

end NonceSource

def nonceFor (key : SecretKey) (digest : Hash) : SecretKey :=
  ((NonceSource.ofSeed key.encode digest).next? 64).getD .one

/-- Sign a digest. No signature has a number that is zero. -/
def sign (key : SecretKey) (digest : Hash) : Option Signature :=
  let nonce := nonceFor key digest
  let point := nonce.publicKey
  let r := point.x % order
  let s := Modular.inverse order nonce.scalar * ((digest.value + r * key.scalar) % order) % order
  if r = 0 ∨ s = 0 then none
  else some (Signature.lowForm ⟨UInt8.ofNat (point.y % 2), .ofNat 256 r, .ofNat 256 s⟩)

/-- The key whose holder signed a digest. Numbers out of range, a high `s`, marks above three and
abscissas off the curve are refused. With the marks two and three the abscissa had wrapped. -/
def recover? (digest : Hash) (signature : Signature) : Option PublicKey :=
  let r := signature.r.toNat
  let s := signature.s.toNat
  if 0 < r ∧ r < order ∧ 0 < s ∧ signature.s ≤ Signature.halfOrder ∧ signature.v < 4 then do
    let x := if signature.v < 2 then r else r + order
    let y ← ordinate? x (signature.v.toNat % 2 = 1)
    let inverse := Modular.inverse order r
    let u := (order - inverse * digest.value % order) % order
    let v := inverse * s % order
    PublicKey.ofPoint? (.combine u .generator v (.ofAffine x y))
  else none

end Courier.Secp256k1

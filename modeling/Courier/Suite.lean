import Courier.Cipher.Sealed
import Courier.Secp256k1.Ecdsa

/-! # Primitives

Messages and transactions rest on a handful of primitives: keys, signatures that name
their signer, a secret that two key holders share, and authenticated encryption. They are
gathered in a record, so that what is built on them can be understood from their laws.
Signing and encryption may fail.
-/

namespace Courier

/-- The primitives that messages and transactions rest on. -/
structure Suite (Secret Public : Type) where
  publicKey : Secret → Public
  compress : Public → Octets 33
  decodeKey? : Bytes → Option Public
  address : Public → Address
  sign : Secret → Hash → Option Signature
  /-- The key whose holder signed a digest. -/
  recover? : Hash → Signature → Option Public
  /-- The secret shared with the holder of another key. -/
  agree : Secret → Public → Hash
  encrypt : Hash → Octets 24 → Bytes → Option Bytes
  /-- Decrypt octets, if they were encrypted under the same key and nonce. -/
  decrypt? : Hash → Octets 24 → Bytes → Option Bytes

/-- The primitives in use. -/
def Suite.standard : Suite Secp256k1.SecretKey Secp256k1.PublicKey where
  publicKey := Secp256k1.SecretKey.publicKey
  compress := Secp256k1.PublicKey.compress
  decodeKey? := Secp256k1.PublicKey.decode?
  address := Secp256k1.PublicKey.address
  sign := Secp256k1.sign
  recover? := Secp256k1.recover?
  agree := Secp256k1.SecretKey.agree
  encrypt key nonce plain := some (Cipher.encrypt key nonce plain)
  decrypt? := Cipher.decrypt?

end Courier

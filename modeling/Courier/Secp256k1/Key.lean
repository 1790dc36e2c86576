import Courier.Keccak
import Courier.Secp256k1.Curve

/-! # Keys of the curve

A secret key is a factor; its public key is that multiple of the generator. Public keys
are written in 33 octets (a mark for the parity of the ordinate, then the abscissa) and
read from that form or from the 65 octets with both coordinates.
-/

namespace Courier.Secp256k1

/-- A factor between one and the order. -/
structure SecretKey where
  /-- The factor. -/
  scalar : Nat
  /-- It is not zero. -/
  pos : 0 < scalar
  lt_order : scalar < order

/-- A point of the curve other than the neutral element, by its plain coordinates. -/
structure PublicKey where
  x : Nat
  y : Nat
  deriving DecidableEq

namespace PublicKey

def toPoint (key : PublicKey) : Point := .ofAffine key.x key.y

/-- The key at a point, unless that is the neutral element. -/
def ofPoint? (p : Point) : Option PublicKey := p.toAffine?.map fun (x, y) => ⟨x, y⟩

/-- Both coordinates, 32 octets each. -/
def coordinates (key : PublicKey) : Octets 64 :=
  ⟨Bytes.ofNat 32 key.x ++ Bytes.ofNat 32 key.y, by simp⟩

/-- The 33 octets of a key: two or three for an even or odd ordinate, then the abscissa. -/
def compress (key : PublicKey) : Octets 33 :=
  ⟨(if key.y % 2 = 1 then 3 else 2) :: Bytes.ofNat 32 key.x, by simp⟩

/-- The 65 octets of a key: four, then both coordinates. -/
def uncompressed (key : PublicKey) : Octets 65 :=
  ⟨4 :: key.coordinates.toList, by simp [key.coordinates.length_toList]⟩

def ofAbscissa? (x : Nat) (odd : Bool) : Option PublicKey :=
  (ordinate? x odd).map fun y => ⟨x, y⟩

/-- Read a key from 33 or 65 octets; the mark five stands for an abscissa with an even ordinate. -/
def decode? : Bytes → Option PublicKey
  | [] => none
  | mark :: rest =>
    if rest.length = 32 then
      if mark = 2 ∨ mark = 5 then ofAbscissa? (Bytes.value rest) false
      else if mark = 3 then ofAbscissa? (Bytes.value rest) true
      else none
    else if rest.length = 64 ∧ mark = 4 then
      let x := Bytes.value (rest.take 32)
      let y := Bytes.value (rest.drop 32)
      if x < fieldPrime ∧ y < fieldPrime ∧ y * y % fieldPrime = rightSide x then some ⟨x, y⟩
      else none
    else none

end PublicKey

namespace SecretKey

/-- The key with the given factor, if it is in range. -/
def ofNat? (scalar : Nat) : Option SecretKey :=
  if h : 0 < scalar ∧ scalar < order then some ⟨scalar, h.1, h.2⟩ else none

def one : SecretKey := ⟨1, by decide, by decide⟩

/-- The key spelt by 32 octets. -/
def decode? (bytes : Bytes) : Option SecretKey :=
  if bytes.length = 32 then ofNat? bytes.value else none

/-- The 32 octets of the factor. -/
def encode (key : SecretKey) : Hash := .ofNat key.scalar

def publicKey (key : SecretKey) : PublicKey :=
  (PublicKey.ofPoint? (.mul key.scalar .generator)).getD ⟨0, 0⟩

/-- The abscissa that two key holders both arrive at, each from the other's public key. -/
def agree (key : SecretKey) (other : PublicKey) : Hash :=
  .ofNat (((Point.mul key.scalar other.toPoint).toAffine?.map (·.1)).getD 0)

end SecretKey

end Courier.Secp256k1

namespace Courier

/-- The address of an account: the last 20 octets of the digest of its public key's coordinates. -/
def Address.ofCoordinates (coordinates : Octets 64) : Address :=
  (keccak256 coordinates.toList).takeLast 20 (by decide)

def Secp256k1.PublicKey.address (key : PublicKey) : Address :=
  .ofCoordinates key.coordinates

end Courier

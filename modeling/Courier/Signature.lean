import Courier.Bytes
import Courier.Secp256k1.Curve

/-! # Signatures that name their signer

A signature is two numbers below the order of the curve and a small one that singles out
the point behind the first, so that the signer's key follows from the digest and the
signature alone. With `s` also `order - s` signs, for the other parity; the smaller of the
two is the low form.
-/

namespace Courier

/-- A signature from which the signer can be recovered. -/
@[ext] structure Signature where
  /-- Which point stands behind `r`: bit zero is the parity of its ordinate. -/
  v : UInt8
  /-- The abscissa of the nonce's point. -/
  r : Word
  /-- What only the holder of the key can compute. -/
  s : Word
  deriving DecidableEq

/-- A comparison of octet strings that looks at every octet, whatever it found before. -/
structure Comparison where
  /-- The first difference had the smaller octet on the left. -/
  less : Bool
  /-- The first difference had the larger octet on the left. -/
  greater : Bool

namespace Comparison

/-- Nothing differs yet. -/
def undecided : Comparison := ⟨false, false⟩

/-- Take the next pair of octets into account; once decided, a comparison stays so. -/
def step (c : Comparison) (left right : UInt8) : Comparison :=
  let undecided := !(c.less || c.greater)
  ⟨c.less || (undecided && decide (left < right)),
    c.greater || (undecided && decide (right < left))⟩

/-- Compare two strings position by position. -/
def ofOctets (left right : Bytes) : Comparison :=
  (List.zip left right).foldl (fun c (l, r) => c.step l r) undecided

end Comparison

namespace Signature

def blank : Signature := ⟨0, 0, 0⟩

def orderOctets : Bytes := Bytes.ofNat 32 Secp256k1.order

/-- Whether 32 octets spell a number from one to below the order. Every octet is looked at. -/
def isScalar (octets : Bytes) : Bool :=
  let isZero := octets.foldl (fun z octet => z && octet == 0) true
  !isZero && (Comparison.ofOctets octets orderOctets).less

/-- The octets of the first number. -/
def rOctets (signature : Signature) : Bytes := Bytes.ofNat 32 signature.r.toNat

/-- The octets of the second number. -/
def sOctets (signature : Signature) : Bytes := Bytes.ofNat 32 signature.s.toNat

/-- The octets of both numbers. -/
def compact (signature : Signature) : Octets 64 :=
  ⟨signature.rOctets ++ signature.sOctets, by simp [rOctets, sOctets]⟩

/-- Whether both numbers are in range and `v` is zero or one. -/
def isValid (signature : Signature) : Bool :=
  signature.v ≤ 1 && isScalar signature.rOctets && isScalar signature.sOctets

/-- Half of the order, rounded down: the largest low `s`. -/
def halfOrder : Word := BitVec.ofNat 256 Secp256k1.order >>> 1

/-- The same signature with the smaller `s`. -/
def lowForm (signature : Signature) : Signature :=
  if halfOrder < signature.s then
    ⟨signature.v ^^^ 1, signature.r, BitVec.ofNat 256 Secp256k1.order - signature.s⟩
  else signature

end Signature

end Courier

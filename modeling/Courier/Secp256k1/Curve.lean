import Courier.Modular

/-! # The curve `y² = x³ + 7`

Points are kept in Jacobian coordinates, so that only the last step of a computation
divides. A point with `z = 0` is the neutral element.
-/

namespace Courier.Secp256k1

def fieldPrime : Nat := 0xfffffffffffffffffffffffffffffffffffffffffffffffffffffffefffffc2f

/-- The number of points, which is prime. -/
def order : Nat := 0xfffffffffffffffffffffffffffffffebaaedce6af48a03bbfd25e8cd0364141

/-- A point by its coordinates `x / z²` and `y / z³`. -/
structure Point where
  x : Nat
  y : Nat
  z : Nat

namespace Point

def neutral : Point := ⟨1, 1, 0⟩

/-- The point with the given plain coordinates. -/
def ofAffine (x y : Nat) : Point := ⟨x, y, 1⟩

def generator : Point :=
  ofAffine 0x79be667ef9dcbbac55a06295ce870b07029bfcdb2dce28d959f2815b16f81798
    0x483ada7726a3c4655da4fbfc0e1108a8fd17b448a68554199c47d08ffb10d4b8

def double (p : Point) : Point :=
  let xx := p.x * p.x % fieldPrime
  let yy := p.y * p.y % fieldPrime
  let yyyy := yy * yy % fieldPrime
  let d := 4 * p.x * yy % fieldPrime
  let e := 3 * xx
  let x := Modular.sub fieldPrime (e * e % fieldPrime) (2 * d % fieldPrime)
  let y := Modular.sub fieldPrime (e * Modular.sub fieldPrime d x % fieldPrime)
    (8 * yyyy % fieldPrime)
  ⟨x, y, 2 * p.y * p.z % fieldPrime⟩

def add (p q : Point) : Point :=
  if p.z = 0 then q
  else if q.z = 0 then p
  else
    let pzz := p.z * p.z % fieldPrime
    let qzz := q.z * q.z % fieldPrime
    let px := p.x * qzz % fieldPrime
    let qx := q.x * pzz % fieldPrime
    let py := p.y * q.z % fieldPrime * qzz % fieldPrime
    let qy := q.y * p.z % fieldPrime * pzz % fieldPrime
    let h := Modular.sub fieldPrime qx px
    let r := Modular.sub fieldPrime qy py
    if h = 0 then
      if r = 0 then p.double else neutral
    else
      let hh := h * h % fieldPrime
      let hhh := hh * h % fieldPrime
      let v := px * hh % fieldPrime
      let x := Modular.sub fieldPrime (r * r % fieldPrime) ((hhh + 2 * v) % fieldPrime)
      let y := Modular.sub fieldPrime (r * Modular.sub fieldPrime v x % fieldPrime)
        (py * hhh % fieldPrime)
      ⟨x, y, p.z * q.z % fieldPrime * h % fieldPrime⟩

/-- `a` times `p` plus `b` times `q`, given their sum, for factors of at most `bits` bits. -/
def combineBits (p q sum : Point) : (bits : Nat) → (a b : Nat) → Point
  | 0, _, _ => neutral
  | bits + 1, a, b =>
    let twice := (combineBits p q sum bits (a / 2) (b / 2)).double
    match a % 2, b % 2 with
    | 0, 0 => twice
    | 0, _ => twice.add q
    | _, 0 => twice.add p
    | _, _ => twice.add sum

/-- `a` times `p` plus `b` times `q`, for factors below the order. -/
def combine (a : Nat) (p : Point) (b : Nat) (q : Point) : Point :=
  combineBits p q (p.add q) 256 a b

/-- `a` times `p`, for a factor below the order. -/
def mul (a : Nat) (p : Point) : Point := combine a p 0 neutral

/-- The plain coordinates of a point; the neutral element has none. -/
def toAffine? (p : Point) : Option (Nat × Nat) :=
  if p.z = 0 then none
  else
    let w := Modular.inverse fieldPrime p.z
    let ww := w * w % fieldPrime
    some (p.x * ww % fieldPrime, p.y * ww % fieldPrime * w % fieldPrime)

end Point

/-- The right-hand side of the curve's equation. -/
def rightSide (x : Nat) : Nat := (x * x % fieldPrime * x + 7) % fieldPrime

/-- The ordinate with the given parity over an abscissa, if the curve has a point there. -/
def ordinate? (x : Nat) (odd : Bool) : Option Nat :=
  if x < fieldPrime then
    let root := Modular.pow fieldPrime (rightSide x) 256 ((fieldPrime + 1) / 4)
    if root * root % fieldPrime = rightSide x then
      some (if (root % 2 = 1) = odd then root else fieldPrime - root)
    else none
  else none

end Courier.Secp256k1

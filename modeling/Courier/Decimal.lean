/-! # Floats in decimal

A float is written with the fewest digits that read back as the same float, and of all such
numbers the nearest one. Finding them needs only whole numbers: the float is a multiple of a
power of two, and so are the halfway points to its neighbours.
-/

namespace Courier

/-- A whole number of times a power of ten. -/
structure Decimal where
  significand : Nat
  exponent : Int
  deriving DecidableEq

/-- A positive fraction. -/
structure Ratio where
  numerator : Nat
  denominator : Nat

namespace Ratio

/-- A number of times a power of a base. -/
def scaled (n base : Nat) (exponent : Int) : Ratio :=
  if 0 ≤ exponent then ⟨n * base.pow exponent.toNat, 1⟩ else ⟨n, base.pow exponent.natAbs⟩

/-- Whether one fraction is at most another. -/
def le (a b : Ratio) : Bool := a.numerator * b.denominator ≤ b.numerator * a.denominator

/-- Whether one fraction is less than another. -/
def lt (a b : Ratio) : Bool := a.numerator * b.denominator < b.numerator * a.denominator

/-- How many times a power of ten goes into a fraction. -/
def floorAt (a : Ratio) (exponent : Int) : Nat :=
  let unit := scaled 1 10 exponent
  (a.numerator * unit.denominator) / (a.denominator * unit.numerator)

/-- The place of the first digit that is not zero, looked for from the given place downwards. -/
def leadingPlace (a : Ratio) : (tries : Nat) → (place : Int) → Int
  | 0, place => place
  | tries + 1, place => if floorAt a place = 0 then leadingPlace a tries (place - 1) else place

end Ratio

namespace Decimal

/-- The bit above the fraction of a float. Its exponent begins there, and in all but the very
smallest numbers this bit of the significand is understood to be set. -/
def leadingBit : Nat := 0x10000000000000

def signBit : Nat := 0x8000000000000000

/-- The number that a decimal stands for. -/
def toRatio (d : Decimal) : Ratio := Ratio.scaled d.significand 10 d.exponent

/-- The numbers that read back as one float: those between the halfway points to its neighbours. -/
structure Span where
  low : Ratio
  high : Ratio
  /-- Whether the halfway points belong to the float. -/
  closed : Bool

/-- Whether a decimal reads back as the float of a span. -/
def Span.holds (span : Span) (d : Decimal) : Bool :=
  if span.closed then span.low.le d.toRatio && d.toRatio.le span.high
  else span.low.lt d.toRatio && d.toRatio.lt span.high

/-- The decimal nearest to a number among its two neighbours at a place, if it is in the span. -/
def nearest? (value : Ratio) (span : Span) (place : Int) : Option Decimal :=
  let below := value.floorAt place
  let twice : Ratio := ⟨2 * value.numerator, value.denominator⟩
  let middle := Ratio.scaled (2 * below + 1) 10 place
  let lower : Decimal := ⟨below, place⟩
  let upper : Decimal := ⟨below + 1, place⟩
  let order := if twice.lt middle || (twice.le middle && below % 2 = 0) then [lower, upper]
    else [upper, lower]
  order.find? span.holds

/-- The decimal with the fewest digits in a span, looked for at `tries` places downwards. -/
def shortestFrom (value : Ratio) (span : Span) : (tries : Nat) → (place : Int) → Decimal
  | 0, place => ⟨value.floorAt place, place⟩
  | tries + 1, place =>
    match nearest? value span place with
    | some d => d
    | none => shortestFrom value span tries (place - 1)

/-- The shortest decimal of the float `m · 2 ^ q`, where `m` is not zero and has at most 53 bits.
The gap below a power of two is half the gap above it. The first place looked at is one above the
leading digit, because rounding up may reach it. -/
def shortest (m : Nat) (q : Int) : Decimal :=
  let value := Ratio.scaled m 2 q
  let lowGap : Nat := if m = leadingBit ∧ -1074 < q then 1 else 2
  let low := Ratio.scaled (4 * m - lowGap) 2 (q - 2)
  let high := Ratio.scaled (4 * m + 2) 2 (q - 2)
  let span : Span := ⟨low, high, m % 2 == 0⟩
  shortestFrom value span 18 (value.leadingPlace 700 309 + 1)

/-- The digits of a decimal with a point where it belongs, and no exponent. -/
def positional (d : Decimal) : String :=
  let digits := Nat.toDigits 10 d.significand
  if 0 ≤ d.exponent then String.ofList (digits ++ List.replicate d.exponent.toNat '0')
  else
    let places := d.exponent.natAbs
    let padded := List.replicate (places + 1 - digits.length) '0' ++ digits
    let whole := padded.length - places
    String.ofList (padded.take whole ++ ['.'] ++ padded.drop whole)

def ofFloat (x : Float) : String :=
  let bits := x.toBits.toNat
  let sign := if signBit ≤ bits then "-" else ""
  let exponent : Nat := bits / leadingBit % 2048
  let fraction : Nat := bits % leadingBit
  if exponent = 2047 then if fraction = 0 then sign ++ "inf" else "NaN"
  else if exponent = 0 then
    if fraction = 0 then sign ++ "0" else sign ++ (shortest fraction (-1074)).positional
  else sign ++ (shortest (leadingBit + fraction) ((exponent : Int) - 1075)).positional

end Decimal

end Courier

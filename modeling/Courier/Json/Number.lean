import Courier.Json.Value

/-! # What the numbers of JSON mean

A number without point and exponent is whole as long as it fits in 64 bits. Any other one
is a float: as many leading digits as fit in 64 bits are taken as a whole number, which is
then scaled by one power of ten, so the result is rounded twice.
-/

namespace Courier.Json

/-- What a number means. -/
inductive NumberValue where
  /-- A whole number below `2^64`. -/
  | natural (n : Nat)
  /-- A whole number below zero, given without its sign, of at most `2^63`. -/
  | negative (n : Nat)
  /-- Anything else. -/
  | float (x : Float)

namespace Number

/-- The largest whole number that is kept digit by digit. -/
def maxSignificand : Nat := 0xffffffffffffffff

/-- Digits read so far: their value, and the power of ten that it is to be scaled by. -/
structure Scan where
  significand : Nat
  scale : Int
  /-- Whether a digit did not fit. -/
  full : Bool

/-- Read a digit before the point; once one does not fit, the others only count as places. -/
def Scan.wholeDigit (scan : Scan) (digit : Nat) : Scan :=
  if scan.full ∨ maxSignificand < scan.significand * 10 + digit then
    ⟨scan.significand, scan.scale + 1, true⟩
  else ⟨scan.significand * 10 + digit, scan.scale, false⟩

/-- Read the digits after the point up to the first that does not fit. -/
def Scan.fractionDigits (scan : Scan) : List Nat → Scan
  | [] => scan
  | digit :: rest =>
    if maxSignificand < scan.significand * 10 + digit then scan
    else fractionDigits ⟨scan.significand * 10 + digit, scan.scale - 1, scan.full⟩ rest

/-- Scale down by the largest power of ten that a float holds, until what is left of the scale is
in the table or nothing is left of the number. -/
def scaleDown : (tries : Nat) → Float → (places : Nat) → Float
  | 0, _, _ => 0.0
  | tries + 1, x, places =>
    if places ≤ 308 then x / Float.ofScientific 1 false places
    else if x == 0.0 then x
    else scaleDown tries (x / Float.ofScientific 1 false 308) (places - 308)

/-- A significand scaled by a power of ten; too large a result is no number. -/
def scaled? (negative : Bool) (significand : Nat) (scale : Int) : Option Float :=
  let x := Float.ofNat significand
  let signed (y : Float) : Float := if negative then -y else y
  if 0 ≤ scale then
    if scale ≤ 308 then
      let y := x * Float.ofScientific 1 false scale.toNat
      if y.isInf then none else some (signed y)
    else if significand = 0 then some (signed x)
    else none
  else some (signed (scaleDown 4 x scale.natAbs))

/-- The largest exponent that is told from larger ones. -/
def maxExponent : Nat := 0x7fffffff

def exponentOf (digits : List Nat) : Nat := digits.foldl (fun n digit => n * 10 + digit) 0

/-- The meaning of a number; one that is too large for a float has none. -/
def value? (number : Number) : Option NumberValue :=
  let whole := number.whole.foldl Scan.wholeDigit ⟨0, 0, false⟩
  match number.fraction, number.exponent with
  | none, none =>
    if whole.full then (scaled? number.negative whole.significand whole.scale).map .float
    else if ¬ number.negative then some (.natural whole.significand)
    else if whole.significand = 0 ∨ 0x8000000000000000 < whole.significand then
      some (.float (-Float.ofNat whole.significand))
    else some (.negative whole.significand)
  | fraction, exponent =>
    let scan := whole.fractionDigits (fraction.getD [])
    match exponent with
    | none => (scaled? number.negative scan.significand scan.scale).map .float
    | some (negativeExponent, digits) =>
      let power := exponentOf digits
      if maxExponent < power then
        if scan.significand ≠ 0 ∧ ¬ negativeExponent then none
        else some (.float (if number.negative then -0.0 else 0.0))
      else
        let scale := if negativeExponent then scan.scale - power else scan.scale + power
        (scaled? number.negative scan.significand scale).map .float

end Number

end Courier.Json

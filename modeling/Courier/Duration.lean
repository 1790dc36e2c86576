import Courier.Json.Decode
import Courier.Json.Text

/-! # Lengths of time

A length of time is a whole number of nanoseconds. In JSON it is a record of whole seconds
and the nanoseconds beyond them; in a log line it is a decimal number with the largest unit
that makes it at least one.
-/

namespace Courier

/-- A length of time. -/
structure Duration where
  nanoseconds : Nat
  deriving DecidableEq

namespace Duration

/-- How many nanoseconds make a second. -/
def perSecond : Nat := 1000000000

def ofSeconds (n : Nat) : Duration := ⟨n * perSecond⟩

def ofMilliseconds (n : Nat) : Duration := ⟨n * 1000000⟩

def seconds (d : Duration) : Nat := d.nanoseconds / perSecond

/-- The nanoseconds beyond the whole seconds. -/
def subsecond (d : Duration) : Nat := d.nanoseconds % perSecond

/-- Up to `places` decimal digits of a fraction of a unit, without zeros at the end. -/
def fractionDigits (unit : Nat) : (places : Nat) → (fraction : Nat) → List Char
  | 0, _ => []
  | places + 1, fraction =>
    if fraction = 0 then []
    else
      Nat.digitChar (fraction * 10 / unit) :: fractionDigits unit places (fraction * 10 % unit)

/-- A number of units with up to `places` decimal places. -/
def decimal (unit places n : Nat) : String :=
  let whole := toString (n / unit)
  if n % unit = 0 then whole
  else whole ++ "." ++ String.ofList (fractionDigits unit places (n % unit))

/-- A length of time in a log line. -/
def describe (d : Duration) : String :=
  if perSecond ≤ d.nanoseconds then decimal perSecond 9 d.nanoseconds ++ "s"
  else if 1000000 ≤ d.nanoseconds then decimal 1000000 6 d.nanoseconds ++ "ms"
  else if 1000 ≤ d.nanoseconds then decimal 1000 3 d.nanoseconds ++ "µs"
  else toString d.nanoseconds ++ "ns"

open Json

def toJson (d : Duration) : String :=
  Text.object [("secs", Text.nat d.seconds), ("nanos", Text.nat d.subsecond)]

/-- Read a length of time. Nanoseconds may make up whole seconds, as long as the seconds fit in 64
bits; no other member is allowed. -/
def decoder : Decoder Duration := fun value => do
  let fields ← Decode.fields ["secs", "nanos"] false value
  let secs ← Decode.required (Decode.nat 0xffffffffffffffff) fields 0
  let nanos ← Decode.required (Decode.nat 0xffffffff) fields 1
  let total : Duration := ⟨secs * perSecond + nanos⟩
  if total.seconds < 0x10000000000000000 then some total else none

end Duration

end Courier

import Courier.Bytes

/-! # Hexadecimal text

Octets are shown as two lowercase digits each. Reading takes either case and refuses an odd number
of digits.
-/

namespace Courier.Hex

/-- The digit of a number below sixteen. -/
def digit (n : Nat) : Char :=
  if n < 10 then Char.ofNat (48 + n) else Char.ofNat (87 + n)

/-- The number that a digit stands for, in either case. -/
def digitValue? (c : Char) : Option Nat :=
  if '0' ≤ c ∧ c ≤ '9' then some (c.toNat - 48)
  else if 'a' ≤ c ∧ c ≤ 'f' then some (c.toNat - 87)
  else if 'A' ≤ c ∧ c ≤ 'F' then some (c.toNat - 55)
  else none

/-- Two digits for each octet, in order. -/
def digits (bytes : Bytes) : List Char :=
  bytes.flatMap fun octet => [digit (octet.toNat / 16), digit (octet.toNat % 16)]

/-- The octets that pairs of digits stand for. -/
def read? : List Char → Option Bytes
  | [] => some []
  | [_] => none
  | high :: low :: rest =>
    match digitValue? high, digitValue? low, read? rest with
    | some h, some l, some bytes => some (UInt8.ofNat (16 * h + l) :: bytes)
    | _, _, _ => none

/-- The hexadecimal text of octets. -/
def encode (bytes : Bytes) : String := String.ofList (digits bytes)

/-- The octets of a hexadecimal text. -/
def decode? (text : String) : Option Bytes := read? text.toList

/-- The first four octets at most, followed by two points: a digest short enough for a log line. -/
def short (bytes : Bytes) : String := encode (bytes.take 4) ++ ".."

/-- The fewest hexadecimal digits of a number, without sign or mark. -/
def ofNat (n : Nat) : String := String.ofList (Nat.toDigits 16 n)

end Courier.Hex

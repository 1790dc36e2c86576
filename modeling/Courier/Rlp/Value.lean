import Courier.Bytes

/-! # Recursive length prefix: what is written

A value is a string of octets or a list of values. Its encoding is a header with the length
of the payload, then the payload; a single octet below `0x80` is its own encoding. The `rlp` library
is assumed to write so whatever has a length of 64 bits.
-/

namespace Courier.Rlp

/-- What a recursive length prefix can describe. -/
inductive Value where
  | octets (bytes : Bytes)
  | list (values : List Value)

/-- The header of a payload of `length` octets: up to 55 the length is part of the mark, above it
follows the mark in the fewest octets. -/
def header (mark length : Nat) : Bytes :=
  if length ≤ 55 then [UInt8.ofNat (mark + length)]
  else UInt8.ofNat (mark + 55 + Bytes.width length) :: Bytes.minimal length

/-- The encoding of a string of octets. -/
def encodeOctets : Bytes → Bytes
  | [octet] => if octet < 0x80 then [octet] else [0x81, octet]
  | bytes => header 0x80 bytes.length ++ bytes

/-- The encoding of a list whose items are already encoded. -/
def encodeList (payload : Bytes) : Bytes := header 0xc0 payload.length ++ payload

namespace Value

mutual

def encode : Value → Bytes
  | .octets bytes => encodeOctets bytes
  | .list values => encodeList (encodeAll values)

/-- The encodings of values, one after another. -/
def encodeAll : List Value → Bytes
  | [] => []
  | value :: rest => encode value ++ encodeAll rest

end

/-- A number, in the fewest octets. -/
def nat (n : Nat) : Value := .octets (Bytes.minimal n)

end Value

end Courier.Rlp

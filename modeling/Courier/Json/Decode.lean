import Courier.Bytes
import Courier.Hex
import Courier.Json.Number
import Courier.Json.Reader

/-! # From JSON to the types of a program

A record can be written as an object, whose members may come in any order but not twice, or
as an array of its fields in their order. Unknown members are passed over or refused,
missing fields take a default or are refused, as the record prescribes.
-/

namespace Courier.Json

/-- What a value means as some type, if anything. -/
abbrev Decoder (α : Type) := Value → Option α

namespace Decode

/-- A truth value. -/
def bool : Decoder Bool
  | .bool b => some b
  | _ => none

/-- Nothing. -/
def null : Decoder Unit
  | .null => some ()
  | _ => none

def nat (bound : Nat) : Decoder Nat
  | .number n =>
    match n.value? with
    | some (.natural n) => if n ≤ bound then some n else none
    | _ => none
  | _ => none

/-- A float; whole numbers are floats too. -/
def float : Decoder Float
  | .number n =>
    match n.value? with
    | some (.natural n) => some (Float.ofNat n)
    | some (.negative n) => some (-Float.ofNat n)
    | some (.float x) => some x
    | none => none
  | _ => none

def text : Decoder (List Char)
  | .string pieces => textOf? pieces
  | _ => none

/-- A number of 8 bits. -/
def uint8 : Decoder UInt8 := fun value => (nat 0xff value).map UInt8.ofNat

/-- A number of 32 bits. -/
def uint32 : Decoder UInt32 := fun value => (nat 0xffffffff value).map UInt32.ofNat

/-- A number of 64 bits. -/
def uint64 : Decoder UInt64 := fun value => (nat 0xffffffffffffffff value).map UInt64.ofNat

def list {α : Type} (element : Decoder α) : Decoder (List α)
  | .array elements => elements.mapM element
  | _ => none

/-- Octets as an array of numbers. -/
def octets (n : Nat) : Decoder (Octets n) := fun value =>
  (list uint8 value).bind Octets.ofList?

/-- Pair up hexadecimal digits, with blanks passed over, from a digit still waiting for its other
half; a digit left over at the end is dropped. -/
def pairDigits? : (waiting : Option Nat) → List Char → Option Bytes
  | _, [] => some []
  | waiting, c :: rest =>
    if isBlank c then pairDigits? waiting rest
    else
      match Hex.digitValue? c, waiting with
      | none, _ => none
      | some digit, none => pairDigits? (some digit) rest
      | some digit, some high =>
        (pairDigits? none rest).map (UInt8.ofNat (16 * high + digit) :: ·)

/-- A number of 256 bits as a text of up to 64 hexadecimal digits, with or without a mark. -/
def word : Decoder Word := fun value => do
  let chars ← text value
  let digits :=
    match chars with
    | '0' :: 'x' :: rest => rest
    | other => other
  let length := (String.ofList digits).utf8ByteSize
  if length = 0 ∨ 64 < length then none
  else
    let bytes ← pairDigits? (if length % 2 = 1 then some 0 else none) digits
    return .ofNat 256 bytes.value

/-- The fields of a record by position, each present or missing. -/
abbrev Fields := List (Option Value)

/-- Put a member at the position of its name. -/
def place? (unknownAllowed : Bool) (names : List String) (fields : Fields) (key : String)
    (value : Value) : Option Fields :=
  match names.idxOf? key with
  | none => if unknownAllowed then some fields else none
  | some i =>
    match fields[i]? with
    | some none => some (fields.set i (some value))
    | _ => none

/-- Put all members at the positions of their names. -/
def placeAll? (unknownAllowed : Bool) (names : List String) :
    List (List Piece × Value) → Fields → Option Fields
  | [], fields => some fields
  | (key, value) :: rest, fields => do
    let key ← textOf? key
    let fields ← place? unknownAllowed names fields (String.ofList key) value
    placeAll? unknownAllowed names rest fields

def fields (names : List String) (unknownAllowed : Bool) : Decoder Fields
  | .object members => placeAll? unknownAllowed names members (names.map fun _ => none)
  | .array elements =>
    if elements.length ≤ names.length then
      some (elements.map some ++ List.replicate (names.length - elements.length) none)
    else none
  | _ => none

def required {α : Type} (decoder : Decoder α) (fields : Fields) (index : Nat) : Option α :=
  match fields[index]? with
  | some (some value) => decoder value
  | _ => none

def withDefault {α : Type} (decoder : Decoder α) (default : α) (fields : Fields)
    (index : Nat) : Option α :=
  match fields[index]? with
  | some (some value) => decoder value
  | _ => some default

/-- One of several names, written as a text or as an object whose only member is null. -/
def choice {α : Type} (options : List (String × α)) : Decoder α
  | .string pieces => (textOf? pieces).bind fun name => options.lookup (String.ofList name)
  | .object [(key, .null)] => (textOf? key).bind fun name => options.lookup (String.ofList name)
  | _ => none

end Decode

def decode? {α : Type} (decoder : Decoder α) (text : String) : Option α :=
  (read? text).bind decoder

end Courier.Json

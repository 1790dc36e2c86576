import Courier.Bytes
import Courier.Hex

/-! # Writing JSON

Values are written without blanks, records with their fields in order. The texts that are
written hold only letters and digits, so that nothing needs an escape.
-/

namespace Courier.Json.Text

/-- A number. -/
def nat (n : Nat) : String := toString n

/-- A truth value. -/
def bool (b : Bool) : String := if b then "true" else "false"

/-- A text of letters and digits. -/
def plain (text : String) : String := "\"" ++ text ++ "\""

/-- A value that may be missing. -/
def orNull {α : Type} (write : α → String) : Option α → String
  | some a => write a
  | none => "null"

/-- A list of values that are already written. -/
def array (elements : List String) : String := "[" ++ ",".intercalate elements ++ "]"

/-- A record of values that are already written. -/
def object (fields : List (String × String)) : String :=
  "\x7b" ++ ",".intercalate (fields.map fun (name, value) => plain name ++ ":" ++ value) ++ "\x7d"

def octets (bytes : Bytes) : String := array (bytes.map fun octet => nat octet.toNat)

/-- A number of 256 bits, in the fewest hexadecimal digits. -/
def word (n : Word) : String := plain ("0x" ++ Hex.ofNat n.toNat)

end Courier.Json.Text

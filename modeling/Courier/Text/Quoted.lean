import Courier.Hex
import Courier.Text.Invisible

/-! # Quoted texts in log lines

In a log line a text stands between quotes. What would end it early, break the line or not be
seen is written by an escape; everything else is written as it is.
-/

namespace Courier.Text.Quoted

/-- A character between quotes. -/
def encodeChar (c : Char) : List Char :=
  if c = '"' then ['\\', '"']
  else if c = '\\' then ['\\', '\\']
  else if c = '\n' then ['\\', 'n']
  else if c = '\r' then ['\\', 'r']
  else if c = '\t' then ['\\', 't']
  else if c = '\x00' then ['\\', '0']
  else if isInvisible c then ['\\', 'u', '\x7b'] ++ (Hex.ofNat c.toNat).toList ++ ['\x7d']
  else [c]

def encode (text : String) : String :=
  "\"" ++ String.ofList (text.toList.flatMap encodeChar) ++ "\""

end Courier.Text.Quoted

/-! # Parts of a text by bytes

A place in a text is given by the number of UTF-8 bytes before it. A place inside of a character is
no place to cut at.
-/

namespace Courier.Text

/-- How many bytes a text takes. -/
def byteSize : List Char → Nat
  | [] => 0
  | c :: rest => c.utf8Size + byteSize rest

/-- Cut a text after a number of bytes. -/
def cutAt? : (bytes : Nat) → List Char → Option (List Char × List Char)
  | 0, text => some ([], text)
  | _ + 1, [] => none
  | bytes + 1, c :: rest =>
    if c.utf8Size ≤ bytes + 1 then
      (cutAt? (bytes + 1 - c.utf8Size) rest).map fun (before, after) => (c :: before, after)
    else none

/-- The part of a text from one place to another. -/
def slice? (text : List Char) (start stop : Nat) : Option (List Char) := do
  let (_, after) ← cutAt? start text
  let (part, _) ← cutAt? (stop - start) after
  return part

end Courier.Text

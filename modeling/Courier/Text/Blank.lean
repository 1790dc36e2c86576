import Courier.Text.Block

/-! # Blank texts

A text is blank if it holds nothing but white space, as Unicode defines it.
-/

namespace Courier.Text

/-- The blocks of characters that are white space. -/
def blankBlocks : Blocks :=
  [(0x09, 0x0d), (0x20, 0x20), (0x85, 0x85), (0xa0, 0xa0), (0x1680, 0x1680), (0x2000, 0x200a),
    (0x2028, 0x2029), (0x202f, 0x202f), (0x205f, 0x205f), (0x3000, 0x3000)]

/-- Whether a character is white space. -/
def isBlank (c : Char) : Bool := blankBlocks.has c

/-- Leave out the white space at both ends. -/
def trim (text : List Char) : List Char :=
  ((text.dropWhile isBlank).reverse.dropWhile isBlank).reverse

end Courier.Text

/-! # Texts that are numbers

A number is a sign, which may be missing, and then either digits with a point and an exponent where
they are wanted, or the word for infinity or for what is no number.
-/

namespace Courier.Text

def dropSign : List Char → List Char
  | '+' :: rest => rest
  | '-' :: rest => rest
  | text => text

/-- Whether a text is an exponent or empty. -/
def isExponent : List Char → Bool
  | [] => true
  | c :: rest =>
    let digits := dropSign rest
    (c = 'e' || c = 'E') && !digits.isEmpty && digits.all Char.isDigit

/-- Whether a text is a number in decimal, without a sign. There must be a digit before or after the
point. -/
def isUnsigned (text : List Char) : Bool :=
  let (whole, rest) := text.span Char.isDigit
  match rest with
  | '.' :: rest =>
    let (fraction, rest) := rest.span Char.isDigit
    !(whole.isEmpty && fraction.isEmpty) && isExponent rest
  | _ => !whole.isEmpty && isExponent rest

/-- The words that stand for numbers without digits. -/
def numberWords : List (List Char) :=
  [['i', 'n', 'f'], ['i', 'n', 'f', 'i', 'n', 'i', 't', 'y'], ['n', 'a', 'n']]

def isNumber (text : List Char) : Bool :=
  let text := dropSign text
  isUnsigned text || numberWords.contains (text.map Char.toLower)

end Courier.Text

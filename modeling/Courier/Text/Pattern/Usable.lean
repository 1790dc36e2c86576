import Courier.Text.Pattern.Reader

/-! # Patterns that can be used

A pattern is about characters, unless it switches to bytes. What needs to know more of characters
than their order cannot be asked for: which of them are digits, white space or parts of words, and
which differ in nothing but case. What is about bytes must keep to ASCII, because whatever else it
found could be a part of a character.
-/

namespace Courier.Text

/-- What is switched on at some place of a pattern. -/
structure Modes where
  /-- Whether small and capital letters are the same. -/
  ignoreCase : Bool
  /-- Whether the pattern is about characters. -/
  unicode : Bool
  deriving DecidableEq

namespace Modes

/-- What is switched on at the beginning. -/
def initial : Modes := ⟨false, true⟩

def set (modes : Modes) (switches : Switches) : Modes :=
  ⟨switches.ignoreCase.getD modes.ignoreCase, switches.unicode.getD modes.unicode⟩

end Modes

def Literal.isAscii (literal : Literal) : Bool := literal.char.toNat < 128

/-- Whether a character can be asked for on its own. -/
def Literal.isUsable (modes : Modes) (literal : Literal) : Bool :=
  if modes.unicode then !modes.ignoreCase else literal.isAscii || !literal.isByte

def ClassMember.isUsable (modes : Modes) (member : ClassMember) : Bool :=
  match member with
  | .literal c => if modes.unicode then !modes.ignoreCase else c.isAscii
  | .range first last =>
    if modes.unicode then !modes.ignoreCase else first.isAscii && last.isAscii
  | .named complement => if modes.unicode then !modes.ignoreCase else !complement
  | .shorthand complement => !modes.unicode && !complement

mutual

def CharClass.isUsable (modes : Modes) : CharClass → Bool
  | .empty => true
  | .member member => member.isUsable modes
  | .bracketed complement members => (modes.unicode || !complement) && members.isUsable modes
  | .union parts => areUsable modes parts
  | .compared left right => left.isUsable modes && right.isUsable modes

/-- Whether all of some classes can be asked for. -/
def areUsable (modes : Modes) : List CharClass → Bool
  | [] => true
  | part :: parts => part.isUsable modes && areUsable modes parts

end

mutual

/-- What is switched on after a pattern, if the pattern can be used. Switches hold to the end of
their group, also in its later branches. -/
def Pattern.modesAfter? (modes : Modes) : Pattern → Option Modes
  | .empty => some modes
  | .literal literal => if literal.isUsable modes then some modes else none
  | .any => if modes.unicode then some modes else none
  | .place ofWord => if ofWord && modes.unicode then none else some modes
  | .shorthand complement =>
    if (ClassMember.shorthand complement).isUsable modes then some modes else none
  | .oneOf complement members =>
    if (CharClass.bracketed complement members).isUsable modes then some modes else none
  | .switch switches => some (modes.set switches)
  | .group switches inner => (inner.modesAfter? (modes.set switches)).map fun _ => modes
  | .repeated inner => inner.modesAfter? modes
  | .sequence parts => modesAfterAll? modes parts
  | .choice branches => modesAfterAll? modes branches

/-- What is switched on after some patterns, if they can be used. -/
def modesAfterAll? (modes : Modes) : List Pattern → Option Modes
  | [] => some modes
  | part :: parts => (part.modesAfter? modes).bind fun modes => modesAfterAll? modes parts

end

namespace Pattern

/-- How deep a pattern may be nested. -/
def maxHeight : Nat := 250

/-- Whether a text is a pattern that can be used. -/
def isUsable (text : List Char) : Bool :=
  match read? text with
  | some pattern => pattern.height ≤ maxHeight && (pattern.modesAfter? .initial).isSome
  | none => false

end Pattern

end Courier.Text

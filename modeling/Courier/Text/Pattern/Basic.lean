/-! # Patterns

A pattern says how texts look that one is interested in. Here are its parts, as far as it depends on
them whether the pattern can be used at all, and how deep they are nested.
-/

namespace Courier.Text

/-- A character that is asked for. -/
structure Literal where
  char : Char
  isByte : Bool
  deriving DecidableEq

/-- What a class of characters is made of in the end. -/
inductive ClassMember where
  | literal (literal : Literal)
  | range (first last : Literal)
  /-- The characters with a name, or all the others. -/
  | named (complement : Bool)
  /-- Digits, white space or the characters of words, or all the others. -/
  | shorthand (complement : Bool)
  deriving DecidableEq

/-- A class of characters. -/
inductive CharClass where
  | empty
  | member (member : ClassMember)
  /-- A class in brackets, or all the other characters. -/
  | bracketed (complement : Bool) (members : CharClass)
  | union (parts : List CharClass)
  /-- What two classes have in common, or in what they differ. -/
  | compared (left right : CharClass)

/-- What a pattern can switch on or off for the rest of a group. -/
structure Switches where
  /-- That small and capital letters are the same. -/
  ignoreCase : Option Bool
  /-- That it is about characters, and not about bytes. -/
  unicode : Option Bool
  /-- That white space and remarks stand for nothing. -/
  spaced : Option Bool
  deriving DecidableEq

def Switches.unset : Switches := ⟨none, none, none⟩

/-- A pattern. -/
inductive Pattern where
  | empty
  | literal (literal : Literal)
  /-- Any character. -/
  | any
  /-- A place in the text, perhaps the edge of a word. -/
  | place (ofWord : Bool)
  /-- Digits, white space or the characters of words, or all the others. -/
  | shorthand (complement : Bool)
  /-- A character of a class, or one of all the others. -/
  | oneOf (complement : Bool) (members : CharClass)
  | switch (switches : Switches)
  | group (switches : Switches) (inner : Pattern)
  | repeated (inner : Pattern)
  | sequence (parts : List Pattern)
  | choice (branches : List Pattern)

mutual

def CharClass.height : CharClass → Nat
  | .empty => 0
  | .member _ => 0
  | .bracketed _ members => members.height + 1
  | .union parts => heightOfClasses parts + 1
  | .compared left right => max left.height right.height + 1

/-- How deep the deepest class is nested. -/
def heightOfClasses : List CharClass → Nat
  | [] => 0
  | part :: parts => max part.height (heightOfClasses parts)

end

mutual

def Pattern.height : Pattern → Nat
  | .oneOf _ members => members.height + 1
  | .group _ inner => inner.height + 1
  | .repeated inner => inner.height + 1
  | .sequence parts => heightOfPatterns parts + 1
  | .choice branches => heightOfPatterns branches + 1
  | _ => 0

/-- How deep the deepest pattern is nested. -/
def heightOfPatterns : List Pattern → Nat
  | [] => 0
  | part :: parts => max part.height (heightOfPatterns parts)

end

namespace CharClass

def ofParts : List CharClass → CharClass
  | [] => .empty
  | [part] => part
  | parts => .union parts

end CharClass

namespace Pattern

/-- Parts one after the other. -/
def ofParts : List Pattern → Pattern
  | [] => .empty
  | [part] => part
  | parts => .sequence parts

/-- The last of some branches after the others. -/
def ofBranches : (others : List Pattern) → (last : Pattern) → Pattern
  | [], last => last
  | others, last => .choice (others ++ [last])

end Pattern

end Courier.Text

import Courier.Hex
import Courier.Text.Blank
import Courier.Text.Letter
import Courier.Text.Pattern.Basic

/-! # Reading patterns

Every reader takes characters from the front and gives back the rest. A pattern can ask that white
space and remarks be left out between its parts.

A count in braces is refused: a pattern stands in braces itself, and the first brace that closes
ends it, so that the braces of a count never close. The same holds of numbers of characters in
braces. Classes of characters by a property are refused too, since no table of properties is kept.
-/

namespace Courier.Text

/-- Leave out white space and remarks. A remark goes from a number sign to the end of the line. -/
def dropRemarks : (inRemark : Bool) → List Char → List Char
  | _, [] => []
  | true, c :: rest => dropRemarks (c ≠ '\n') rest
  | false, c :: rest =>
    if isBlank c then dropRemarks false rest
    else if c = '#' then dropRemarks true rest
    else c :: rest

def toNextPart (spaced : Bool) (text : List Char) : List Char :=
  if spaced then dropRemarks false text else text

/-- The next character that counts for a sign that is looked at in advance: white space is passed
over, and so is a number sign, but not the remark that it begins. -/
def peekPart? (spaced : Bool) (text : List Char) : Option Char :=
  if spaced then
    match text.dropWhile isBlank with
    | '#' :: rest => (rest.dropWhile isBlank).head?
    | rest => rest.head?
  else text.head?

/-- Read the number of a character, in a given count of hexadecimal digits. -/
def readCode? (spaced : Bool) : (count code : Nat) → List Char → Option (Char × List Char)
  | 0, code, text => if code.isValidChar then some (Char.ofNat code, text) else none
  | count + 1, code, text =>
    match toNextPart spaced text with
    | [] => none
    | c :: rest =>
      (Hex.digitValue? c).bind fun digit => readCode? spaced count (code * 16 + digit) rest

/-- What a character after a backslash stands for. -/
def escaped? : Char → Option Pattern
  | 'd' | 's' | 'w' => some (.shorthand false)
  | 'D' | 'S' | 'W' => some (.shorthand true)
  | 'A' | 'z' => some (.place false)
  | 'b' | 'B' | '<' | '>' => some (.place true)
  | 'a' => some (.literal ⟨'\x07', false⟩)
  | 'f' => some (.literal ⟨'\x0c', false⟩)
  | 'n' => some (.literal ⟨'\n', false⟩)
  | 'r' => some (.literal ⟨'\r', false⟩)
  | 't' => some (.literal ⟨'\t', false⟩)
  | 'v' => some (.literal ⟨'\x0b', false⟩)
  | c => if c.toNat < 128 && !c.isAlphanum then some (.literal ⟨c, false⟩) else none

/-- Read what follows a backslash. -/
def readEscape? (spaced : Bool) : List Char → Option (Pattern × List Char)
  | 'x' :: rest => (readCode? spaced 2 0 rest).map fun (c, rest) => (.literal ⟨c, true⟩, rest)
  | 'u' :: rest => (readCode? spaced 4 0 rest).map fun (c, rest) => (.literal ⟨c, false⟩, rest)
  | 'U' :: rest => (readCode? spaced 8 0 rest).map fun (c, rest) => (.literal ⟨c, false⟩, rest)
  | c :: rest => (escaped? c).map fun part => (part, rest)
  | [] => none

/-- Read a part that is no group, no class and no sign of its own. -/
def readPart? (spaced : Bool) : List Char → Option (Pattern × List Char)
  | '\\' :: rest => readEscape? spaced rest
  | '.' :: rest => some (.any, rest)
  | '^' :: rest => some (.place false, rest)
  | '$' :: rest => some (.place false, rest)
  | c :: rest => some (.literal ⟨c, false⟩, rest)
  | [] => none

/-- Read one end of a range, or what stands alone in a class. -/
def readEnd? (spaced : Bool) : List Char → Option (Pattern × List Char)
  | '\\' :: rest => readEscape? spaced rest
  | c :: rest => some (.literal ⟨c, false⟩, rest)
  | [] => none

def memberOfPart? : Pattern → Option ClassMember
  | .literal literal => some (.literal literal)
  | .shorthand complement => some (.shorthand complement)
  | _ => none

/-- The range between two parts of a pattern. -/
def memberOfEnds? : Pattern → Pattern → Option ClassMember
  | .literal first, .literal last =>
    if first.char ≤ last.char then some (.range first last) else none
  | _, _ => none

/-- Read a range or a single member of a class. A sign for a range that stands before the end of the
class, or before another such sign, is none. -/
def readMember? (spaced : Bool) (text : List Char) : Option (ClassMember × List Char) := do
  let (first, rest) ← readEnd? spaced text
  let rest := toNextPart spaced rest
  let alone := do return (← memberOfPart? first, rest)
  match rest with
  | '-' :: after =>
    let next := peekPart? spaced after
    if next = some ']' || next = some '-' then alone
    else
      let (last, rest) ← readEnd? spaced (toNextPart spaced after)
      return (← memberOfEnds? first last, rest)
  | _ => alone

def classNames : List String :=
  ["alnum", "alpha", "ascii", "blank", "cntrl", "digit", "graph", "lower", "print", "punct",
    "space", "upper", "word", "xdigit"]

/-- Read the name of a class after the bracket that opens it. -/
def readNamed? : List Char → Option (ClassMember × List Char)
  | ':' :: text =>
    let (complement, text) := match text with
      | '^' :: rest => (true, rest)
      | rest => (false, rest)
    let (name, rest) := text.span (· ≠ ':')
    match rest with
    | ':' :: ']' :: rest =>
      if classNames.contains (String.ofList name) then some (.named complement, rest) else none
    | _ => none
  | _ => none

/-- Read the sign that asks for all the other characters. -/
def readComplement : List Char → Bool × List Char
  | '^' :: rest => (true, rest)
  | text => (false, text)

/-- What has been read of a class so far. -/
structure ClassDraft where
  /-- Whether nothing but signs for ranges, which stand for themselves here, has been read. -/
  opening : Bool
  left : Option CharClass
  parts : List CharClass

namespace ClassDraft

/-- Nothing has been read yet. -/
def initial : ClassDraft := ⟨true, none, []⟩

def add (draft : ClassDraft) (part : CharClass) : ClassDraft :=
  { draft with opening := false, parts := draft.parts ++ [part] }

/-- The class if nothing else is read. -/
def close (draft : ClassDraft) : CharClass :=
  let right := CharClass.ofParts draft.parts
  match draft.left with
  | none => right
  | some left => .compared left right

/-- A sign has been read that compares what is before it with what is after it. -/
def compare (draft : ClassDraft) : ClassDraft := ⟨false, some draft.close, []⟩

end ClassDraft

def itself (c : Char) : CharClass := .member (.literal ⟨c, false⟩)

/-- Read a class up to the bracket that closes it, in at most `fuel` steps. A bracket that closes
stands for itself where the class would be empty. -/
def readClass? : (fuel : Nat) → (spaced : Bool) → ClassDraft → List Char →
    Option (CharClass × List Char)
  | 0, _, _, _ => none
  | fuel + 1, spaced, draft, text =>
    match toNextPart spaced text with
    | [] => none
    | ']' :: rest =>
      if draft.opening && draft.parts.isEmpty then
        readClass? fuel spaced (draft.add (itself ']')) rest
      else some (draft.close, rest)
    | '[' :: rest =>
      match readNamed? rest with
      | some (member, rest) => readClass? fuel spaced (draft.add (.member member)) rest
      | none => do
        let (complement, rest) := readComplement (toNextPart spaced rest)
        let (inner, rest) ← readClass? fuel spaced .initial rest
        readClass? fuel spaced (draft.add (.bracketed complement inner)) rest
    | text => do
      if draft.opening && text.head? = some '-' then
        readClass? fuel spaced { draft.add (itself '-') with opening := true } text.tail
      else
        match text with
        | '&' :: '&' :: rest => readClass? fuel spaced draft.compare rest
        | '-' :: '-' :: rest => readClass? fuel spaced draft.compare rest
        | '~' :: '~' :: rest => readClass? fuel spaced draft.compare rest
        | _ =>
          let (member, rest) ← readMember? spaced text
          readClass? fuel spaced (draft.add (.member member)) rest

/-- The letters of the switches, and the sign that goes before those to be switched off. -/
def switchLetters : List Char := ['i', 'm', 's', 'U', 'u', 'R', 'x', '-']

/-- The switches that letters stand for. None may occur twice, and the sign for off needs one. -/
def Switches.ofLetters? (letters : List Char) : Option Switches :=
  if letters.all switchLetters.contains && letters.eraseDups = letters &&
      letters.getLast? ≠ some '-' then
    let (on, off) := letters.span (· ≠ '-')
    let state (c : Char) : Option Bool :=
      if on.contains c then some true else if off.contains c then some false else none
    some ⟨state 'i', state 'u', state 'x'⟩
  else none

/-- What begins with a round bracket. -/
inductive Opening where
  | switch (switches : Switches)
  /-- A group with switches of its own, and perhaps a name. -/
  | group (switches : Switches) (name : Option (List Char))

/-- Read switches after the question mark that announces them. -/
def readSwitches? (text : List Char) : Option (Opening × List Char) :=
  let (letters, rest) := text.span fun c => c ≠ ':' && c ≠ ')'
  match rest with
  | ':' :: rest => (Switches.ofLetters? letters).map fun switches => (.group switches none, rest)
  | _ :: rest =>
    if letters.isEmpty then none
    else (Switches.ofLetters? letters).map fun switches => (.switch switches, rest)
  | [] => none

/-- Whether the name of a group may begin with a character. -/
def canBeginName (c : Char) : Bool := c = '_' || isLetter c

/-- Whether a character may stand in the name of a group. -/
def canBeInName (c : Char) : Bool :=
  c = '_' || c = '.' || c = '[' || c = ']' || isLetterOrNumeral c

def readName? (text : List Char) : Option (Opening × List Char) :=
  let (name, rest) := text.span (· ≠ '>')
  match name, rest with
  | c :: others, _ :: rest =>
    if canBeginName c && others.all canBeInName then some (.group .unset (some name), rest)
    else none
  | _, _ => none

/-- Read what follows a round bracket that opens. -/
def readOpening? : List Char → Option (Opening × List Char)
  | '?' :: 'P' :: '<' :: rest => readName? rest
  | '?' :: '<' :: rest => readName? rest
  | '?' :: rest => readSwitches? rest
  | text => some (.group .unset none, text)

/-- Add a name to those of the groups before, all of which are different. -/
def addName? (names : List (List Char)) : Option (List Char) → Option (List (List Char))
  | none => some names
  | some name => if names.contains name then none else some (name :: names)

/-- Repeat the last of some parts. Switches cannot be repeated. -/
def repeatLast? (parts : List Pattern) : Option (List Pattern) :=
  match parts.getLast? with
  | none | some (.switch _) => none
  | some part => some (parts.dropLast ++ [.repeated part])

/-- Leave out the question mark of a repetition that goes on no longer than it must. -/
def dropLazy : List Char → List Char
  | '?' :: rest => rest
  | text => text

/-- Whether a character asks for the part before it to be repeated. -/
def isRepetition (c : Char) : Bool := c = '*' || c = '+' || c = '?'

/-- Read a pattern up to its end or to the round bracket that closes its group, in at most `fuel`
steps. The names are those of the groups so far, in the whole pattern. -/
def readPattern? : (fuel : Nat) → (spaced : Bool) → (names : List (List Char)) →
    (branches parts : List Pattern) → List Char →
    Option (Pattern × List (List Char) × List Char)
  | 0, _, _, _, _, _ => none
  | fuel + 1, spaced, names, branches, parts, text =>
    match toNextPart spaced text with
    | [] => some (.ofBranches branches (.ofParts parts), names, [])
    | ')' :: rest => some (.ofBranches branches (.ofParts parts), names, ')' :: rest)
    | '|' :: rest => readPattern? fuel spaced names (branches ++ [.ofParts parts]) [] rest
    | '(' :: rest => do
      match ← readOpening? (toNextPart spaced rest) with
      | (.switch switches, rest) =>
        let spaced := switches.spaced.getD spaced
        readPattern? fuel spaced names branches (parts ++ [.switch switches]) rest
      | (.group switches name, rest) =>
        let names ← addName? names name
        let (inner, names, rest) ← readPattern? fuel (switches.spaced.getD spaced) names [] [] rest
        match rest with
        | ')' :: rest =>
          readPattern? fuel spaced names branches (parts ++ [.group switches inner]) rest
        | _ => none
    | '[' :: rest => do
      let (complement, rest) := readComplement (toNextPart spaced rest)
      let (members, rest) ← readClass? fuel spaced .initial rest
      readPattern? fuel spaced names branches (parts ++ [.oneOf complement members]) rest
    | '\x7b' :: _ => none
    | c :: rest => do
      if isRepetition c then
        readPattern? fuel spaced names branches (← repeatLast? parts) (dropLazy rest)
      else
        let (part, rest) ← readPart? spaced (c :: rest)
        readPattern? fuel spaced names branches (parts ++ [part]) rest

/-- The pattern that a whole text is; each step of the reader takes at least one character. -/
def Pattern.read? (text : List Char) : Option Pattern :=
  match readPattern? (text.length + 1) false [] [] [] text with
  | some (pattern, _, []) => some pattern
  | _ => none

end Courier.Text

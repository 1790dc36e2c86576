import Courier.Telemetry.Verbosity
import Courier.Text.Blank
import Courier.Text.Letter
import Courier.Text.Numeric
import Courier.Text.Pattern.Usable
import Courier.Text.Slice

/-! # Log directives

A directive names a level, and perhaps the part of the program, the span or the field that it is
for: `target[span{field=value}]=level`. Everything but one of the parts can be missing.

How a directive is laid out is found without the white space around it, but its parts are cut out of
the text with that white space, at the places that were found. So white space at the end belongs to
the last part, and white space at the beginning shifts all parts: what is read as the level after a
sign then has the sign in it, and is none.
-/

namespace Courier

/-- A part of a filter. -/
structure Directive where
  /-- The beginning of the names of the targets that it is for. -/
  target : Option String
  span : Option String
  /-- The field that must be there, and whether a value is asked of it. -/
  field : Option (String × Bool)
  level : Verbosity
  deriving DecidableEq

namespace Directive

/-- Where a part of a directive begins and where it ends. -/
structure Place where
  start : Nat
  stop : Nat
  deriving DecidableEq

/-- How a directive is laid out. -/
inductive Layout where
  /-- There is one part only, and no sign. -/
  | bare
  /-- The parts, and where the level begins that goes on to the end. -/
  | parts (target span field : Option Place) (level : Option Nat)
  deriving DecidableEq

namespace Layout

/-- Lay out what follows the bracket that closes, which is at a place: nothing, or a sign and a
level. -/
def ofEnd? (target span field : Option Place) (place : Nat) : List Char → Option Layout
  | [] => some (.parts target span field none)
  | '=' :: _ => some (.parts target span field (some (place + 2)))
  | _ => none

/-- Lay out what follows the bracket that opens, from a place. The name of a span may be missing
before a field, but a field may not be empty. -/
def ofSpan? (target : Option Place) (place : Nat) (text : List Char) : Option Layout :=
  let (name, rest) := text.span fun c => c ≠ ']' && c ≠ '\x7b'
  let stop := place + Text.byteSize name
  match rest with
  | ']' :: rest => ofEnd? target (some ⟨place, stop⟩) none stop rest
  | _ :: rest =>
    let span := if name.isEmpty then none else some ⟨place, stop⟩
    let (field, rest) := rest.span (· ≠ '\x7d')
    let last := stop + 1 + Text.byteSize field
    match field, rest with
    | _ :: _, _ :: ']' :: rest => ofEnd? target span (some ⟨stop + 1, last⟩) (last + 1) rest
    | _, _ => none
  | [] => none

/-- Whether the name of a target, or a level, may begin with a character. -/
def canBegin (c : Char) : Bool := c = '-' || c = ':' || c = '_' || Text.isLetterOrNumeral c

/-- Lay out a directive that has no white space around it. -/
def ofText? (text : List Char) : Option Layout :=
  match text with
  | '[' :: rest => ofSpan? none 1 rest
  | c :: _ =>
    if canBegin c then
      let (head, rest) := text.span fun c => c ≠ '=' && c ≠ '['
      let stop := Text.byteSize head
      match rest with
      | [] => some .bare
      | '[' :: rest => ofSpan? (some ⟨0, stop⟩) (stop + 1) rest
      | _ => some (.parts (some ⟨0, stop⟩) none none (some (stop + 1)))
    else none
  | [] => none

end Layout

/-- Cut out a part that may be missing. -/
def cutOut? (text : List Char) : Option Place → Option (Option (List Char))
  | none => some none
  | some place => (Text.slice? text place.start place.stop).map some

/-- Read a level that may be missing and may be empty; then everything is asked for. -/
def readLevel? (text : List Char) : Option Nat → Option Verbosity
  | none => some .trace
  | some place => do
    let (_, level) ← Text.cutAt? place text
    if level.isEmpty then return .trace else Verbosity.ofText? (String.ofList level)

/-- Whether a text is a value that can be asked of a field: a number, or a pattern for it. -/
def isValue (text : List Char) : Bool := Text.isNumber text || Text.Pattern.isUsable text

/-- Read a field. The value that is asked of it stands between the first two signs. -/
def readField? (text : List Char) : Option (String × Bool) :=
  let (name, rest) := text.span (· ≠ '=')
  match rest with
  | [] => some (String.ofList name, false)
  | _ :: rest =>
    if isValue (rest.takeWhile (· ≠ '=')) then some (String.ofList name, true) else none

/-- A directive that asks for a level alone, or for everything of a target. -/
def plain (text : String) : Directive :=
  match Verbosity.ofText? text with
  | some level => ⟨none, none, none, level⟩
  | none => ⟨some text, none, none, .trace⟩

/-- Read a directive that is laid out. -/
def ofLayout? (text : List Char) : Layout → Option Directive
  | .bare => some (plain (String.ofList text))
  | .parts target span field level => do
    let target ← cutOut? text target
    let span ← cutOut? text span
    let field ← match ← cutOut? text field with
      | none => some none
      | some field => (readField? field).map some
    let level ← readLevel? text level
    return ⟨target.map String.ofList, span.map String.ofList, field, level⟩

def read? (text : List Char) : Option Directive :=
  (Layout.ofText? (Text.trim text)).bind (ofLayout? text)

end Directive

end Courier

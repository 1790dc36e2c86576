import Courier.Telemetry.Directive

/-! # Which events are logged

A filter is a list of directives. The most particular directive that is for an event decides;
without any directive only errors are logged.
-/

namespace Courier

/-- Something that happened, as far as it matters to a filter. -/
structure Occurrence where
  level : Verbosity
  target : String
  fields : List String

namespace Directive

def isFor (directive : Directive) (event : Occurrence) : Bool :=
  directive.span.isNone && directive.target.all (fun target => event.target.startsWith target) &&
    directive.field.all fun (name, hasValue) => !hasValue && event.fields.contains name

/-- How long the target of a directive is, in bytes. Even an empty one counts for more than
none. -/
def reach (directive : Directive) : Nat :=
  match directive.target with
  | none => 0
  | some target => target.utf8ByteSize + 1

/-- Whether the field of one directive counts for at least as much as that of another: any field
counts for more than none, and of two fields the one whose name comes later. -/
def fieldAtLeast (a b : Directive) : Bool :=
  match a.field, b.field with
  | _, none => true
  | none, some _ => false
  | some (name, _), some (other, _) => other ≤ name

/-- Whether one directive is at least as particular as another, of those that are for one event:
first by the length of the target, then by the field. -/
def atLeast (a b : Directive) : Bool :=
  b.reach < a.reach || (b.reach = a.reach && a.fieldAtLeast b)

end Directive

abbrev Filter := List Directive

namespace Filter

/-- Cut a text at its commas. -/
def pieces (text : String) : List (List Char) := text.toList.splitOn ','

/-- Read the directives of a text, which stand between commas. -/
def read? (text : String) : Option Filter :=
  ((pieces text).filter (!·.isEmpty)).mapM Directive.read?

/-- The directive that decides on an event: of the equally particular ones the last. -/
def deciding? (filter : Filter) (event : Occurrence) : Option Directive :=
  (filter.filter (·.isFor event)).foldl (fun best directive =>
    match best with
    | none => some directive
    | some other => if directive.atLeast other then some directive else best) none

def enables (filter : Filter) (event : Occurrence) : Bool :=
  match filter with
  | [] => event.level.rank ≤ Verbosity.error.rank
  | _ =>
    match filter.deciding? event with
    | some directive => event.level.rank ≤ directive.level.rank
    | none => false

end Filter

end Courier

/-! # How verbose a log is -/

namespace Courier

/-- How verbose the log is, from nothing to everything. -/
inductive Verbosity where
  | off
  | error
  | warn
  | info
  | debug
  | trace
  deriving DecidableEq

namespace Verbosity

/-- All levels, each one more verbose than the one before. -/
def all : List Verbosity := [off, error, warn, info, debug, trace]

def name : Verbosity → String
  | off => "off"
  | error => "error"
  | warn => "warn"
  | info => "info"
  | debug => "debug"
  | trace => "trace"

def rank (level : Verbosity) : Nat := all.idxOf level

/-- The level with a name, in any case, or a number. -/
def ofText? (text : String) : Option Verbosity :=
  let digits := if text.startsWith "+" then text.drop 1 else text
  let number := if digits.all Char.isDigit then digits.toNat? else none
  (number.bind fun n => all[n]?).or (all.find? fun level => level.name = text.toLower)

end Verbosity

end Courier

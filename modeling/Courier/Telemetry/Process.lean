import Courier.Telemetry.Filter
import Courier.Telemetry.Settings

/-! # Reports of one process

A process registers its metrics once and keeps one log. Telemetry that is started announces
itself, and so does telemetry that is stopped; whether that is seen depends on the filter.
-/

namespace Courier

/-- The value of a field of an event. -/
inductive FieldValue where
  | text (value : String)
  | flag (value : Bool)
  deriving DecidableEq

/-- Something that happened. -/
structure Event where
  level : Verbosity
  /-- The part of the program in which it happened. -/
  target : String
  fields : List (String × FieldValue)
  deriving DecidableEq

/-- An event as far as it matters to a filter. -/
def Event.toOccurrence (event : Event) : Occurrence :=
  ⟨event.level, event.target, event.fields.map (·.1)⟩

/-- The log of a process. -/
structure Log where
  filter : Filter
  json : Bool

/-- Why telemetry cannot be started. -/
inductive TelemetryError where
  | settings (fault : SettingsFault)
  | badFilter
  /-- The process has a log already. -/
  | logInUse
  /-- The metrics are registered already. -/
  | metricsRegistered
  deriving DecidableEq

/-- The report of telemetry that cannot be started. -/
def TelemetryError.message : TelemetryError → String
  | .settings fault => fault.message
  | .badFilter => "Failed to initialize log subscriber: invalid filter directive"
  | .logInUse =>
    "Failed to initialize log subscriber: a global default trace dispatcher has already been set"
  | .metricsRegistered =>
    "Failed to initialize Prometheus metrics: Duplicate metrics collector registration attempted"

/-- What a process keeps of its reports. -/
structure Telemetry where
  registered : Bool
  log : Option Log
  /-- The events that were logged, in order. -/
  logged : List Event

namespace Telemetry

/-- A process that has just begun. -/
def initial : Telemetry := ⟨false, none, []⟩

/-- The part of the program that these events come from. -/
def target : String := "hush_telemetry"

/-- Log an event, if there is a log and its filter lets the event through. -/
def note (telemetry : Telemetry) (event : Event) : Telemetry :=
  match telemetry.log with
  | some log =>
    if log.filter.enables event.toOccurrence then
      { telemetry with logged := telemetry.logged ++ [event] }
    else telemetry
  | none => telemetry

def started (settings : TelemetrySettings) : Event :=
  ⟨.info, target, [("message", .text "telemetry initialized"),
    ("service", .text settings.serviceName), ("json", .flag settings.jsonLogs)]⟩

def stopped : Event := ⟨.info, target, [("message", .text "Shutting down telemetry...")]⟩

def registerMetrics (telemetry : Telemetry) : Except TelemetryError Telemetry :=
  if telemetry.registered then .error .metricsRegistered
  else .ok { telemetry with registered := true }

def openLog (telemetry : Telemetry) (settings : TelemetrySettings) :
    Except TelemetryError Telemetry :=
  match settings.validate with
  | .error fault => .error (.settings fault)
  | .ok () =>
    match Filter.read? settings.logLevel with
    | none => .error .badFilter
    | some filter =>
      if telemetry.log.isSome then .error .logInUse
      else .ok { telemetry with log := some ⟨filter, settings.jsonLogs⟩ }

/-- Register the metrics and open the log. The metrics stay registered if the log fails. -/
def start (telemetry : Telemetry) (settings : TelemetrySettings) :
    Telemetry × Except TelemetryError Unit :=
  match telemetry.registerMetrics with
  | .error e => (telemetry, .error e)
  | .ok telemetry =>
    match telemetry.openLog settings with
    | .error e => (telemetry, .error e)
    | .ok telemetry => (telemetry.note (started settings), .ok ())

def stop (telemetry : Telemetry) : Telemetry := telemetry.note stopped

/-- The logged events if they are written as JSON. -/
def jsonLines (telemetry : Telemetry) : List Event :=
  if (telemetry.log.map Log.json).getD false then telemetry.logged else []

end Telemetry

end Courier

import Courier.Text.Blank

/-! # How a node reports on itself

The settings come from variables of the environment; one that is not set leaves the default.
-/

namespace Courier

/-- How a node reports on itself. -/
structure TelemetrySettings where
  serviceName : String
  /-- Which lines it logs: a level, or directives for parts of the program. -/
  logLevel : String
  jsonLogs : Bool
  deriving DecidableEq

/-- What the variables of the environment are set to. -/
abbrev Environment := String → Option String

/-- What is wrong with settings. -/
inductive SettingsFault where
  | emptyServiceName
  | emptyLogLevel
  deriving DecidableEq

/-- The report of settings that cannot be used. -/
def SettingsFault.message : SettingsFault → String
  | .emptyServiceName => "Invalid configuration: service name is empty"
  | .emptyLogLevel => "Invalid configuration: log level is empty"

namespace TelemetrySettings

def standard : TelemetrySettings := ⟨"hush", "info", false⟩

/-- Whether the text of a variable means yes. Only letters of ASCII occur in the word, and no other
letter becomes one of them in lower case. -/
def isYes (text : String) : Bool := text.toLower = "true" || text = "1"

def ofEnvironment (environment : Environment) : TelemetrySettings where
  serviceName := (environment "HUSH_SERVICE_NAME").getD standard.serviceName
  logLevel :=
    ((environment "HUSH_LOG_LEVEL").or (environment "RUST_LOG")).getD standard.logLevel
  jsonLogs := ((environment "HUSH_JSON_LOGS").map isYes).getD standard.jsonLogs

def forNode (environment : Environment) (name : String) : TelemetrySettings :=
  { ofEnvironment environment with serviceName := "hush-" ++ name }

/-- Check that neither the name nor the level is missing. -/
def validate (settings : TelemetrySettings) : Except SettingsFault Unit :=
  if settings.serviceName.isEmpty then .error .emptyServiceName
  else if (Text.trim settings.logLevel.toList).isEmpty then .error .emptyLogLevel
  else .ok ()

end TelemetrySettings

end Courier

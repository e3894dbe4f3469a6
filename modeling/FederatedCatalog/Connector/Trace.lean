import FederatedCatalog.Connector.Registry
import FederatedCatalog.Path
import FederatedCatalog.Settings

namespace FederatedCatalog

inductive LogLevel
  | debug
  | info
  | warn
  | error
  deriving DecidableEq

def LogLevel.label : LogLevel → String
  | debug => "DEBUG"
  | info => "INFO"
  | warn => "WARN"
  | error => "ERROR"

/-- What a line of the log reports. -/
inductive Notice
  | resolving (schema : String) (caseSensitive : Bool)
  | schemaAlias (name : String) (target : Path)
  | tableAlias (name : String) (target : Path)
  | cached (schema : String)
  | notRegistered (connector schema : String)
  | attemptFailed (attempt limit : Nat) (connector : String) (failure : Failure)
  | givingUp (connector : String) (attempts : Nat)
  | nextAttempt (connector : String) (delay : UInt64)
  | interrupted (connector : String)
  | loadFailed (schema : String) (failure : Failure)
  | disabling (connector : String)
  | notDisabled (connector : String) (error : RegistryError)
  deriving DecidableEq

namespace Notice

def level : Notice → LogLevel
  | resolving .. | schemaAlias .. | tableAlias .. | cached .. => .debug
  | givingUp .. | nextAttempt .. => .info
  | notRegistered .. | attemptFailed .. | interrupted .. | disabling .. => .warn
  | loadFailed .. | notDisabled .. => .error

def seeOption (option : String) : String :=
  " (see SYSTEM option " ++ option ++ ")"

def text : Notice → String
  | resolving schema caseSensitive =>
    "resolving schema " ++ schema ++ " (case sensitive: " ++ toString caseSensitive ++ ")"
  | schemaAlias name target => "schema alias " ++ name ++ " resolved to " ++ target.text
  | tableAlias name target => "table alias " ++ name ++ " resolved to " ++ target.text
  | cached schema => "schema " ++ schema ++ " found in cache"
  | notRegistered connector schema =>
    "connector " ++ connector ++ " did not register a schema named " ++ schema
  | attemptFailed attempt limit connector failure =>
    "Attempt " ++ toString attempt ++ " of " ++ toString limit
      ++ " to register schemas for connector " ++ connector ++ " failed: " ++ failure.message
  | givingUp connector attempts =>
    "Giving up on connector " ++ connector ++ " after " ++ toString attempts ++ " attempts"
      ++ seeOption Settings.retryAttemptsOption
  | nextAttempt connector delay =>
    "Next attempt to register schemas for connector " ++ connector ++ " will be made in "
      ++ Text.duration (delay.toNat * Nat.pow 10 6) ++ seeOption Settings.retryDelayOption
  | interrupted connector =>
    "Interrupted while waiting to make another attempt to register schemas for connector "
      ++ connector ++ ": sleep interrupted"
  | loadFailed schema failure =>
    "Failed to load schema for " ++ schema ++ ": " ++ failure.message
  | disabling connector =>
    "The plugin " ++ connector ++ " will now be disabled" ++ seeOption Settings.autoDisableOption
  | notDisabled connector error =>
    "Could not disable " ++ connector ++ ": " ++ error.message

def line (notice : Notice) : String :=
  notice.level.label ++ " " ++ notice.text

end Notice

inductive Event
  | notice (notice : Notice)
  | called (serial : Nat)
  /-- A wait of so many milliseconds. -/
  | waited (delay : UInt64)
  | disableAsked (connector : String)
  deriving DecidableEq

abbrev Trace := Array Event

namespace Trace

def lines (trace : Trace) : List String :=
  trace.toList.filterMap fun
    | .notice notice => some notice.line
    | _ => none

def waits (trace : Trace) : List UInt64 :=
  trace.toList.filterMap fun
    | .waited delay => some delay
    | _ => none

end Trace

end FederatedCatalog

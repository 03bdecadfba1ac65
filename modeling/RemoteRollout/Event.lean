/-!
# Log events

What the service reports while it works. Operations answer their events as data, in order;
only the command line decides which of them are shown.
-/

namespace RemoteRollout

/-- How grave an event is. -/
inductive Level where
  | error
  | warn
  | info
  | debug
deriving DecidableEq, Repr, Inhabited

/-- How log records name the level. -/
def Level.name : Level → String
  | error => "ERROR"
  | warn => "WARN"
  | info => "INFO"
  | debug => "DEBUG"

/-- The part of the program that reports. -/
inductive Origin where
  | clusterMap
  | cache
  | selection
  | settings
  | service
  | command
  | replay
deriving DecidableEq, Repr, Inhabited

/-- The name filters know the part by. -/
def Origin.target : Origin → String
  | clusterMap => "gathering_conditions_core::version_map"
  | cache => "gathering_conditions_core::cache"
  | selection => "gathering_conditions_core::cohort"
  | settings => "gathering_conditions_core::config"
  | service => "gathering_conditions_core::resolver"
  | command => "gathering_conditions::cli::commands"
  | replay => "gathering_conditions::cli::commands::metrics"

/-- The value of a field of an event. -/
inductive FieldValue where
  | text (value : String)
  | count (value : Nat)
  | flag (value : Bool)
deriving DecidableEq, Repr, Inhabited

/-- An event: its message, and the fields that go with it. -/
structure Event where
  level : Level
  origin : Origin
  message : String
  fields : List (String × FieldValue) := []
deriving DecidableEq, Repr, Inhabited

end RemoteRollout

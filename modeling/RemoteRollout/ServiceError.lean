/-!
# Service errors

What a request or a start-up can fail with, the text clients see, and the codes that go with each
kind: the `HTTP` status of a response and the exit code of a command.
-/

namespace RemoteRollout

/-- A failed request or start-up. -/
inductive ServiceError where
  /-- A request parameter could not be read. -/
  | invalidArgument (param value reason : String)
  /-- No such resource, or a version below the known range. -/
  | notFound (message : String)
  /-- A resource could not be decoded. -/
  | internal (message : String)
  /-- The configuration cannot be used: the process must not serve. -/
  | configInvalid (message : String)
deriving DecidableEq, Repr, Inhabited

namespace ServiceError

/-- The classes of service errors. -/
inductive Kind where
  | invalidArgument
  | notFound
  | internal
  | configInvalid
deriving DecidableEq, Repr, Inhabited

/-- The class of an error. -/
def kind : ServiceError → Kind
  | invalidArgument .. => .invalidArgument
  | notFound .. => .notFound
  | internal .. => .internal
  | configInvalid .. => .configInvalid

/-- How log records name the class. -/
def Kind.label : Kind → String
  | invalidArgument => "InvalidArgument"
  | notFound => "NotFound"
  | internal => "Internal"
  | configInvalid => "ConfigInvalid"

/-- How responses name the class. -/
def Kind.name : Kind → String
  | invalidArgument => "invalid_argument"
  | notFound => "not_found"
  | internal => "internal"
  | configInvalid => "config_invalid"

/-- The status of an `HTTP` response. -/
def Kind.status : Kind → Nat
  | invalidArgument => 400
  | notFound => 404
  | internal | configInvalid => 500

/-- The exit code of a command: 1 for what the caller asked, 2 for what keeps the service from
starting, 3 for the rest. -/
def Kind.exitCode : Kind → Nat
  | invalidArgument | notFound => 1
  | configInvalid => 2
  | internal => 3

/-- The text clients see. -/
def text : ServiceError → String
  | invalidArgument param value reason =>
    "error during parsing param '" ++ param ++ "' with value '" ++ value ++ "': " ++ reason
  | notFound message => "not found: " ++ message
  | internal message => "internal error: " ++ message
  | configInvalid message => "invalid configuration: " ++ message

end ServiceError

end RemoteRollout

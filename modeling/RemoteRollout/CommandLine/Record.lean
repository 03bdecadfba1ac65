import RemoteRollout.Event
import RemoteRollout.Json.Printer

/-!
# Log records

The line that an event makes in the log: a `JSON` object, or plain text with the fields behind the
message.
-/

namespace RemoteRollout

/-- The value of a field as a tree. -/
def FieldValue.tree : FieldValue → Json.Tree
  | text value => .string value
  | count value => .number (.whole value)
  | flag value => .bool value

/-- The value of a field in plain text. -/
def FieldValue.plain : FieldValue → List Char
  | text value => value.toList
  | count value => Json.wholeText value
  | flag value => Json.boolText value

namespace Event

/-- The event as a tree. -/
def tree (e : Event) : Json.Tree :=
  .object [
    ("level", .string e.level.name),
    ("fields", .object (("message", .string e.message) ::
      e.fields.map fun field => (field.1, field.2.tree))),
    ("target", .string e.origin.target)]

/-- The event in plain text. -/
def plain (e : Event) : List Char :=
  (e.level.name ++ " " ++ e.origin.target ++ ": " ++ e.message).toList ++
    e.fields.flatMap fun field => ' ' :: field.1.toList ++ '=' :: field.2.plain

/-- The line of the event. -/
def line (json : Bool) (e : Event) : List Char := (if json then e.tree.compact else e.plain) ++ ['\n']

end Event

end RemoteRollout

import RemoteRollout.Event
import RemoteRollout.LogFilter.ValueTest
import RemoteRollout.Text.Utf8

/-!
# Filter directives

One directive of a log filter says how much of some events is shown. It is written
`target[span{field=value}]=level`, where all parts but one may be left out: a lone word is a level
if it can be read as one, and otherwise a target.
-/

namespace RemoteRollout

/-- How much is shown. -/
inductive Verbosity where
  | off
  | error
  | warn
  | info
  | debug
  | all
deriving DecidableEq, Repr, Inhabited

namespace Verbosity

/-- The levels of verbosity from the least to the greatest, with their names. -/
def named : List (String × Verbosity) :=
  [("off", off), ("error", error), ("warn", warn), ("info", info), ("debug", debug),
    ("trace", all)]

/-- The position in the order of verbosity. -/
def rank : Verbosity → Nat
  | off => 0
  | error => 1
  | warn => 2
  | info => 3
  | debug => 4
  | all => 5

/-- The least verbosity that shows events of a level. -/
def ofLevel : Level → Verbosity
  | .error => error
  | .warn => warn
  | .info => info
  | .debug => debug

/-- Events of this level are shown. -/
def shows (v : Verbosity) (l : Level) : Bool := (ofLevel l).rank ≤ v.rank

/-- The number that digits stand for, of which there is at least one; a `+` may come before
them. -/
def number? (cs : List Char) : Option Nat :=
  let digits :=
    match cs with
    | '+' :: rest => rest
    | cs => cs
  if digits.isEmpty || !digits.all Char.isDigit then none
  else some (digits.foldl (fun n c => n * 10 + (c.toNat - '0'.toNat)) 0)

/-- The verbosity that a text names: by its position, or by its name in whatever case. -/
def ofText (cs : List Char) : Option Verbosity :=
  match number? cs with
  | some n => (named[n]?).map Prod.snd
  | none => named.lookup (String.ofList (cs.map Char.toLower))

end Verbosity

/-- One directive of a log filter. -/
structure Directive where
  verbosity : Verbosity := .all
  /-- What the targets of the events begin with. -/
  target : Option String := none
  /-- The span that the events must lie in. -/
  span : Option String := none
  /-- The field that the events must have, and the value it must have, if one is given. -/
  field : Option (String × Option String) := none
deriving DecidableEq, Repr, Inhabited

namespace Directive

/-! ## Reading -/

/-- Why a text is no directive. -/
inductive Fault where
  | malformed
  /-- A part would begin or end inside of a character. -/
  | splitCharacter
deriving DecidableEq, Repr

/-- The part of a directive that is being read, and where it began. -/
inductive Place where
  | start
  | word (begin : Nat)
  | span (begin : Nat)
  | field (begin : Nat)
  | afterField
  | afterSpan
  | verbosity (begin : Nat)
deriving DecidableEq, Repr

/-- The characters that a directive may begin with, `[` apart. -/
def isWordStart (c : Char) : Bool :=
  Text.isLetterOrNumeral c || c == '-' || c == ':' || c == '_'

/-- A text, unless it is empty. -/
def nonempty? (cs : List Char) : Option String := if cs.isEmpty then none else some (String.ofList cs)

/-- A field, with the value it must have: what stands between the first and the second `=`. A
value that cannot be tested for is refused. -/
def fieldOfText (cs : List Char) : Except Fault (String × Option String) :=
  let name := String.ofList (cs.takeWhile (· != '='))
  match cs.dropWhile (· != '=') with
  | [] => if cs.isEmpty then .error .malformed else .ok (name, none)
  | _ :: rest =>
    let value := rest.takeWhile (· != '=')
    if ValueTest.isTest value then .ok (name, some (String.ofList value)) else .error .malformed

/-- The verbosity after an `=`; none given means that all is shown. -/
def verbosityOfText (cs : List Char) : Except Fault Verbosity :=
  if cs.isEmpty then .ok .all
  else
    match Verbosity.ofText cs with
    | some v => .ok v
    | none => .error .malformed

/-- The directive that a lone word makes. -/
def ofWord (d : Directive) (cs : List Char) : Directive :=
  match Verbosity.ofText cs with
  | some v => { d with verbosity := v }
  | none => { d with target := some (String.ofList cs) }

/-- The part of a text between two places, both given by the bytes before them. -/
def cut (text : List Char) (first last : Nat) : Except Fault (List Char) :=
  match (Text.Utf8.dropBytes? first text).bind (Text.Utf8.takeBytes? (last - first)) with
  | some cs => .ok cs
  | none => .error .splitCharacter

/-- The part of a text from a place on. -/
def cutFrom (text : List Char) (first : Nat) : Except Fault (List Char) :=
  match Text.Utf8.dropBytes? first text with
  | some cs => .ok cs
  | none => .error .splitCharacter

/-- A directive of which so many bytes have been read. -/
structure Draft where
  directive : Directive := {}
  place : Place := .start
  position : Nat := 0

/-- Reads one more character. Parts are cut out of `text` by position. -/
def Draft.step (text : List Char) (d : Draft) (c : Char) : Except Fault Draft := do
  let next := d.position + Text.Utf8.width c
  let stay : Draft := { d with position := next }
  match d.place with
  | .start =>
    if c = '[' then return { stay with place := .span next }
    else if isWordStart c then return { stay with place := .word d.position }
    else throw .malformed
  | .word begin =>
    if c ≠ '=' ∧ c ≠ '[' then return stay
    let name ← cut text begin d.position
    let place : Place := if c = '=' then .verbosity next else .span next
    return { stay with directive := { d.directive with target := some (String.ofList name) }, place }
  | .span begin =>
    if c = ']' then
      let name ← cut text begin d.position
      return { stay with
        directive := { d.directive with span := some (String.ofList name) }, place := .afterSpan }
    else if c = '\x7b' then
      let name ← cut text begin d.position
      return { stay with
        directive := { d.directive with span := nonempty? name }, place := .field next }
    else return stay
  | .field begin =>
    if c ≠ '\x7d' then return stay
    let field ← fieldOfText (← cut text begin d.position)
    return { stay with directive := { d.directive with field := some field }, place := .afterField }
  | .afterField => if c = ']' then return { stay with place := .afterSpan } else throw .malformed
  | .afterSpan => if c = '=' then return { stay with place := .verbosity next } else throw .malformed
  | .verbosity _ => return stay

/-- The directive, once the text has ended. -/
def Draft.finish (text : List Char) (d : Draft) : Except Fault Directive := do
  match d.place with
  | .word begin => return d.directive.ofWord (← cutFrom text begin)
  | .verbosity begin =>
    return { d.directive with verbosity := ← verbosityOfText (← cutFrom text begin) }
  | .afterSpan => return d.directive
  | .start | .span _ | .field _ | .afterField => throw .malformed

/-- The directive in a text. Which part a character belongs to is decided without the white space
around the text, but parts are cut out of the text as it stands: a blank before it shifts them. -/
def ofText (text : List Char) : Except Fault Directive := do
  let draft ← (Text.trimmed text).foldlM (Draft.step text) ({} : Draft)
  draft.finish text

/-! ## Deciding -/

/-- The directive can decide about an event by itself: it asks for no span, and for no value. -/
def isPlain (d : Directive) : Bool :=
  d.span.isNone &&
    match d.field with
    | some (_, some _) => false
    | _ => true

/-- The names of the fields of an event. -/
def fieldNames (e : Event) : List String := "message" :: e.fields.map Prod.fst

/-- The directive is about events such as this one. -/
def isAbout (d : Directive) (e : Event) : Bool :=
  (d.target.all fun t => t.toList.isPrefixOf e.origin.target.toList) &&
    d.field.all fun f => (fieldNames e).contains f.1

/-- Which of two directives is the more special: the one with the longer target, then the one with
a field; between equals the texts decide. -/
def compareSpecial (a b : Directive) : Ordering :=
  let length (d : Directive) : Nat := (d.target.map fun t => t.utf8ByteSize + 1).getD 0
  let fields (d : Directive) : List String := (d.field.map Prod.fst).toList
  (compare (length a) (length b)).then <|
    (compare (fields a).length (fields b).length).then <|
      (compare (a.target.getD "") (b.target.getD "")).then (compare (fields a) (fields b))

end Directive

end RemoteRollout

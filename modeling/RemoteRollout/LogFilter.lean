import RemoteRollout.LogFilter.Directive
import RemoteRollout.Text.Pieces

/-!
# Log filters

Which events are shown. A filter is a text of directives between commas; of those that are about
an event, the most special one decides, and an event that none is about is not shown.
-/

namespace RemoteRollout

/-- A log filter: its directives that can decide, the most special first. -/
structure LogFilter where
  directives : List Directive := []
deriving DecidableEq, Repr, Inhabited

namespace LogFilter

/-- The directives with one more. It takes the place of one that is equally special. -/
def insert (d : Directive) : List Directive → List Directive
  | [] => [d]
  | e :: rest =>
    match d.compareSpecial e with
    | .gt => d :: e :: rest
    | .eq => d :: rest
    | .lt => e :: insert d rest

/-- The filter of some directives, where a later one replaces an earlier one. -/
def ofDirectives (ds : List Directive) : LogFilter :=
  ⟨(ds.filter Directive.isPlain).foldl (fun sorted d => insert d sorted) []⟩

/-- The filter in a text, or the fault of its first directive that cannot be read. -/
def ofText (text : String) : Except Directive.Fault LogFilter :=
  (((Text.pieces ',' text.toList).filter (!·.isEmpty)).mapM Directive.ofText).map ofDirectives

/-- The filter that shows all but debug events. -/
def standard : LogFilter := ⟨[{ verbosity := .info }]⟩

/-- The filter in a text, or another one if the text is malformed. Nothing helps against a text
that would have to be cut inside of a character. -/
def ofTextOr (text : String) (other : Option LogFilter) : Option LogFilter :=
  match ofText text with
  | .ok f => some f
  | .error .malformed => other
  | .error .splitCharacter => none

/-- The filter of a run: that of the environment, or else of the settings, or else the standard
one; a malformed text counts as none. -/
def choose (fromEnvironment : Option String) (fromSettings : String) : Option LogFilter :=
  let others := ofTextOr fromSettings (some standard)
  match fromEnvironment with
  | none => others
  | some text => ofTextOr text others

/-- The event is shown. -/
def shows (f : LogFilter) (e : Event) : Bool :=
  match f.directives.find? (·.isAbout e) with
  | some d => d.verbosity.shows e.level
  | none => false

/-- The events that are shown. -/
def shown (f : LogFilter) (events : List Event) : List Event := events.filter f.shows

end LogFilter

end RemoteRollout

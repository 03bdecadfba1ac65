import RemoteRollout.Yaml.Fold

/-!
# Plain scalars

The text of a scalar without quotes. It ends where something follows that has a meaning of its
own, and, outside of brackets, at a line that is not indented deeply enough.
-/

namespace RemoteRollout.Yaml

/-- The character delimits items inside of brackets. -/
def isFlowIndicator (c : Char) : Bool :=
  c == ',' || c == '[' || c == ']' || c == '{' || c == '}'

/-- A plain scalar. -/
structure PlainText where
  text : List Char
  /-- The scalar is followed by a line end. -/
  broken : Bool
  rest : List Spot

/-- A text before what was read further on. -/
def PlainText.prepend (cs : List Char) : Option PlainText → Option PlainText
  | some p => some { p with text := cs ++ p.text }
  | none => none

/-- The rest of a plain scalar. Outside of brackets its lines begin at the column `indent` or
further to the right. -/
def plainText (flow : Bool) (indent : Nat) : Fold → List Spot → Option PlainText
  | fold, [] => some ⟨[], fold.broken, []⟩
  | fold, s :: rest =>
    let c := s.char
    let stop : Option PlainText := some ⟨[], fold.broken, s :: rest⟩
    if isEnd c then stop
    else if isSpace c then
      if fold.broken && s.mark.column < indent && c == '\t' then none
      else plainText flow indent (fold.addSpace c) rest
    else if isBreak c then plainText flow indent (fold.addBreak c) rest
    else if !fold.isEmpty &&
        ((!flow && s.mark.column < indent) || isDocumentMark (s :: rest) || c == '#') then stop
    else
      let next := charAt 0 rest
      if flow && c == ':' && (isFlowIndicator next || next == '?') then none
      else if (c == ':' && isGap next) || (flow && isFlowIndicator c) then stop
      else PlainText.prepend (fold.text ++ [c]) (plainText flow indent {} rest)

end RemoteRollout.Yaml

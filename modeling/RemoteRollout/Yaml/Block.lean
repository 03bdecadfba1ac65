import RemoteRollout.Yaml.Spot

/-!
# Block scalars

The text of a scalar that stands on the lines after a `|` or a `>`, all indented alike. After `|`
line ends stay as they are; after `>` a single one between two lines of text becomes a space.
-/

namespace RemoteRollout.Yaml

/-- Which line ends at the end of a block scalar are kept. -/
inductive Chomping where
  | strip
  | clip
  | keep
deriving DecidableEq, Repr

/-- What the header of a block scalar says. -/
structure BlockHeader where
  chomping : Chomping := .clip
  /-- How much deeper than its surroundings the text is indented, if that is said. -/
  increment : Option Nat := none
deriving DecidableEq, Repr

/-- The chomping indicator at the front, and what follows it. -/
def chompingMark (spots : List Spot) : Option (Chomping × List Spot) :=
  match charAt 0 spots with
  | '+' => some (.keep, spots.drop 1)
  | '-' => some (.strip, spots.drop 1)
  | _ => none

/-- The indentation indicator at the front, and what follows it; it is not zero. -/
def incrementMark (spots : List Spot) : Option (Option Nat × List Spot) :=
  let c := charAt 0 spots
  if c.isDigit then
    if c = '0' then none else some (some (c.toNat - '0'.toNat), spots.drop 1)
  else some (none, spots)

/-- The header, its indicators in either order, and what follows it. -/
def blockHeader (spots : List Spot) : Option (BlockHeader × List Spot) :=
  match chompingMark spots with
  | some (chomping, rest) => do
    let (increment, rest) ← incrementMark rest
    return ({ chomping, increment }, rest)
  | none => do
    let (increment, rest) ← incrementMark spots
    if increment.isNone then return ({}, rest)
    match chompingMark rest with
    | some (chomping, rest) => return ({ chomping, increment }, rest)
    | none => return ({ increment }, rest)

/-- The white space and the comment after a header, up to the end of the line, which is skipped. -/
def afterHeader (spots : List Spot) : Option (List Spot) :=
  let rest := (span isSpace spots).2
  let rest := if charAt 0 rest = '#' then (span (!isBreakOrEnd ·) rest).2 else rest
  match rest with
  | s :: after => if isBreak s.char then some after else if isEnd s.char then some rest else none
  | [] => some []

/-- Empty lines before a line of text. -/
structure EmptyLines where
  breaks : List Char
  /-- The column of the farthest indentation seen. -/
  deepest : Nat
  rest : List Spot

/-- The empty lines from here on, and the indentation of the line after them. The column where the
text is indented is zero as long as it is not known. -/
def emptyLines (indent : Nat) : Nat → List Char → List Spot → Option EmptyLines
  | deepest, breaks, [] => some ⟨breaks, deepest, []⟩
  | deepest, breaks, s :: rest =>
    let c := s.char
    let open_ := indent == 0 || s.mark.column < indent
    if open_ && c == ' ' then emptyLines indent deepest breaks rest
    else
      let deepest := max deepest s.mark.column
      if open_ && c == '\t' then none
      else if isBreak c then emptyLines indent deepest (breaks ++ [c]) rest
      else some ⟨breaks, deepest, s :: rest⟩

/-- What has been read of a block scalar. -/
structure BlockState where
  /-- The end of the last line of text. -/
  lineBreak : List Char := []
  /-- The empty lines after it. -/
  breaks : List Char := []
  /-- The last line of text began with white space. -/
  indented : Bool := false

/-- What stands between two lines of text. -/
def BlockState.between (literal : Bool) (s : BlockState) (indented : Bool) : List Char :=
  if !literal && s.lineBreak == ['\n'] && !s.indented && !indented then
    (if s.breaks.isEmpty then [' '] else []) ++ s.breaks
  else s.lineBreak ++ s.breaks

/-- What stands after the last line of text. -/
def BlockState.final (s : BlockState) : Chomping → List Char
  | .strip => []
  | .clip => s.lineBreak
  | .keep => s.lineBreak ++ s.breaks

/-- The lines of text from here on, at most `fuel` of them, and what follows them. -/
def blockLines (literal : Bool) (chomping : Chomping) (indent : Nat) :
    Nat → BlockState → List Spot → Option (List Char × List Spot)
  | 0, _, _ => none
  | fuel + 1, state, spots =>
    if (markOf spots).column ≠ indent ∨ isEnd (charAt 0 spots) then
      some (state.final chomping, spots)
    else do
      let indented := isSpace (charAt 0 spots)
      let (line, rest) := span (!isBreakOrEnd ·) spots
      let (lineBreak, rest) : List Char × List Spot :=
        match rest with
        | s :: after => if isBreak s.char then ([s.char], after) else ([], rest)
        | [] => ([], [])
      let empty ← emptyLines indent 0 [] rest
      let (text, rest) ← blockLines literal chomping indent fuel
        { lineBreak, breaks := empty.breaks, indented } empty.rest
      return (state.between literal indented ++ line ++ text, rest)

/-- The text of a block scalar after its `|` or `>`, and what follows it. Its surroundings are
indented up to the column before `least`. -/
def blockText (literal : Bool) (least : Nat) (spots : List Spot) :
    Option (List Char × List Spot) := do
  let (header, rest) ← blockHeader spots
  let rest ← afterHeader rest
  let known := match header.increment with
    | some n => (least - 1) + n
    | none => 0
  let empty ← emptyLines known 0 [] rest
  let indent := if known = 0 then max empty.deepest (max least 1) else known
  blockLines literal header.chomping indent (spots.length + 1) { breaks := empty.breaks } empty.rest

end RemoteRollout.Yaml

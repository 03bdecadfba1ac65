import RemoteRollout.Text.Utf8

/-!
# Places in a text

A `YAML` text as a list of spots: its characters, each with the line and the column it stands in.
Line ends are brought to one form first, and a spot without a character marks the end, so that
what is being looked at always has a place.
-/

namespace RemoteRollout.Yaml

/-- A line and a column, both counted from zero. -/
structure Mark where
  line : Nat := 0
  column : Nat := 0
  /-- How many bytes come before it in its line. -/
  offset : Nat := 0
deriving DecidableEq, Repr, Inhabited

/-- A character and its place. -/
structure Spot where
  char : Char
  mark : Mark
deriving DecidableEq, Repr, Inhabited

/-! ## Character classes -/

/-- The character that stands for the end of the text, where it cannot occur. -/
def endChar : Char := '\x00'

/-- The byte order mark. -/
def byteOrderMark : Char := '\uFEFF'

/-- The end of the text. -/
def isEnd (c : Char) : Bool := c == endChar

/-- A space or a tab. -/
def isSpace (c : Char) : Bool := c == ' ' || c == '\t'

/-- The end of a line. -/
def isBreak (c : Char) : Bool := c == '\n' || c == '\u2028' || c == '\u2029'

/-- The end of a line or of the text. -/
def isBreakOrEnd (c : Char) : Bool := isBreak c || isEnd c

/-- White space, or the end of the text. -/
def isGap (c : Char) : Bool := isSpace c || isBreakOrEnd c

/-- The character may stand in a name. -/
def isNameChar (c : Char) : Bool := c.isAlphanum || c == '-' || c == '_'

/-- The character may stand in a text. -/
def isAllowed (c : Char) : Bool :=
  let n := c.toNat
  c == '\t' || c == '\n' || c == '\r' || (0x20 ≤ n && n ≤ 0x7E) || n == 0x85 ||
    (0xA0 ≤ n && n ≤ 0xD7FF) || (0xE000 ≤ n && n ≤ 0xFFFD) || 0x10000 ≤ n

/-! ## Spots -/

/-- The text with every line end but the two Unicode separators written as one line feed. -/
def normalized : List Char → List Char
  | [] => []
  | '\r' :: '\n' :: rest => '\n' :: normalized rest
  | c :: rest => (if c = '\r' ∨ c = '\u0085' then '\n' else c) :: normalized rest

/-- The place after a character. -/
def Mark.after (m : Mark) (c : Char) : Mark :=
  if isBreak c then ⟨m.line + 1, 0, 0⟩
  else ⟨m.line, m.column + 1, m.offset + Text.Utf8.width c⟩

/-- The spots of a text that begins at this place. -/
def spotsFrom : Mark → List Char → List Spot
  | m, [] => [⟨endChar, m⟩]
  | m, c :: rest => ⟨c, m⟩ :: spotsFrom (m.after c) rest

/-- How many bytes of a text are read at once. -/
def blockSize : Nat := 16384

/-- As many characters as fit into so many bytes, and those after them. -/
def splitBlock : Nat → List Char → List Char × List Char
  | _, [] => ([], [])
  | room, c :: rest =>
    if Text.Utf8.width c ≤ room then
      let (block, after) := splitBlock (room - Text.Utf8.width c) rest
      (c :: block, after)
    else ([], c :: rest)

/-- The blocks before the first one that holds a character that is not allowed, in at most `fuel`
blocks, and whether they are the whole text. -/
def readable : Nat → List Char → List Char × Bool
  | 0, _ => ([], false)
  | fuel + 1, cs =>
    let (block, after) := splitBlock blockSize cs
    if !block.all isAllowed then ([], false)
    else if after.isEmpty then (block, true)
    else
      let (more, whole) := readable fuel after
      (block ++ more, whole)

/-- The spots of a text as far as it can be read, and whether they are all of it. -/
def spots (cs : List Char) : List Spot × Bool :=
  let (cs, whole) := readable (cs.length + 1) cs
  (spotsFrom {} (normalized cs), whole)

/-- The character after the first `n`. -/
def charAt (n : Nat) (spots : List Spot) : Char :=
  match spots[n]? with
  | some s => s.char
  | none => endChar

/-- The place of the first spot. -/
def markOf : List Spot → Mark
  | [] => {}
  | s :: _ => s.mark

/-- Three of these characters stand here, and nothing else after them. -/
def isTriple (c : Char) (spots : List Spot) : Bool :=
  charAt 0 spots == c && charAt 1 spots == c && charAt 2 spots == c && isGap (charAt 3 spots)

/-- A mark that begins or ends a document stands here, at the start of a line. -/
def isDocumentMark (spots : List Spot) : Bool :=
  (markOf spots).column == 0 && (isTriple '-' spots || isTriple '.' spots)

/-- The longest run of characters of a class, and what follows it. -/
def span (p : Char → Bool) : List Spot → List Char × List Spot
  | [] => ([], [])
  | s :: rest => if p s.char then let (cs, rest) := span p rest; (s.char :: cs, rest)
    else ([], s :: rest)

end RemoteRollout.Yaml

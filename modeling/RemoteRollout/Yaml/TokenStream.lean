import RemoteRollout.Yaml.Block
import RemoteRollout.Yaml.Plain
import RemoteRollout.Yaml.Properties
import RemoteRollout.Yaml.Quoted

/-!
# The token stream

Tokens are scanned from left to right. Whether a scalar or a collection is a key is only known at
the colon after it; until then it is kept as a possible key, and tokens wait in a queue so that a
key token can still be put before them. A possible key is given up when its line ends, or after
1024 bytes.

`tokens` answers the tokens up to the end of the text, or up to the first place where the text
cannot be scanned.
-/

namespace RemoteRollout.Yaml

/-- A place where a key without an indicator may have begun. -/
structure PossibleKey where
  /-- Nothing but a key can stand there. -/
  required : Bool
  /-- The number of the token that the key begins with. -/
  number : Nat
  mark : Mark
deriving DecidableEq, Repr, Inhabited

/-- What is known at one place of the text. -/
structure Scanner where
  spots : List Spot
  /-- The spots are all of the text. -/
  whole : Bool := true
  /-- Tokens not yet handed out. -/
  queue : List Token := []
  /-- How many tokens have been handed out. -/
  taken : Nat := 0
  /-- The columns of the open block collections, the innermost first. -/
  blocks : List Nat := []
  /-- A key may begin here. -/
  keyAllowed : Bool := true
  /-- The possible key outside of brackets and inside each open bracket, the innermost first. -/
  keys : List (Option PossibleKey) := [none]
deriving Repr, Inhabited

namespace Scanner

/-- The place in the text. -/
def mark (s : Scanner) : Mark := markOf s.spots

/-- The scanner is inside of brackets. -/
def inFlow (s : Scanner) : Bool := 1 < s.keys.length

/-- The column where the text of an inner block begins at the earliest. -/
def leastColumn (s : Scanner) : Nat :=
  match s.blocks with
  | [] => 0
  | column :: _ => column + 1

/-! ## Possible keys -/

/-- How many bytes behind the start of a possible key its colon may stand. -/
def maxKeyLength : Nat := 1024

/-- It is too late for the key's colon at this place. -/
def PossibleKey.isStale (k : PossibleKey) (m : Mark) : Bool :=
  k.mark.line < m.line || k.mark.offset + maxKeyLength < m.offset

/-- The possible keys that are not given up yet; none of those given up may be required. -/
def freshKeys (m : Mark) : List (Option PossibleKey) → Option (List (Option PossibleKey))
  | [] => some []
  | none :: rest => (freshKeys m rest).map (none :: ·)
  | some k :: rest =>
    if PossibleKey.isStale k m then
      if k.required then none else (freshKeys m rest).map (none :: ·)
    else (freshKeys m rest).map (some k :: ·)

/-- The scanner without stale keys. -/
def withFreshKeys (s : Scanner) : Option Scanner :=
  (freshKeys s.mark s.keys).map fun keys => { s with keys }

/-- The scanner without a possible key at the innermost level. -/
def withoutKey (s : Scanner) : Option Scanner :=
  match s.keys with
  | some k :: rest => if k.required then none else some { s with keys := none :: rest }
  | _ => some s

/-- The scanner with a possible key here, if one may begin here. -/
def withKeyHere (s : Scanner) : Option Scanner :=
  if s.keyAllowed then
    let key : PossibleKey :=
      { required := !s.inFlow && s.blocks.head? == some s.mark.column
        number := s.taken + s.queue.length
        mark := s.mark }
    s.withoutKey.map fun s => { s with keys := some key :: s.keys.tail }
  else some s

/-! ## Tokens and indentation -/

/-- The scanner with a token that ends before `rest` at the end of its queue. -/
def push (s : Scanner) (kind : TokenKind) (rest : List Spot) : Scanner :=
  { s with spots := rest, queue := s.queue ++ [⟨kind, s.mark, markOf rest⟩] }

/-- The scanner with a token of `n` characters at the end of its queue. -/
def pushChars (s : Scanner) (kind : TokenKind) (n : Nat) : Scanner := s.push kind (s.spots.drop n)

/-- The scanner with a token of no characters in its queue, before the token with this number. -/
def insert (s : Scanner) (kind : TokenKind) (number : Nat) (m : Mark) : Scanner :=
  { s with queue := s.queue.insertIdx (number - s.taken) ⟨kind, m, m⟩ }

/-- The scanner after a block collection of this kind has begun at this place, unless it goes on
with the one that is open, or is inside of brackets. -/
def openBlock (s : Scanner) (kind : TokenKind) (number : Nat) (m : Mark) : Scanner :=
  if s.inFlow then s
  else
    let deeper : Bool :=
      match s.blocks with
      | [] => true
      | column :: _ => column < m.column
    if deeper then { s.insert kind number m with blocks := m.column :: s.blocks } else s

/-- The block collections that stay open at this column, and how many end. -/
def endedBlocks (column : Nat) : List Nat → List Nat × Nat
  | [] => ([], 0)
  | c :: rest =>
    if column < c then let (open_, n) := endedBlocks column rest; (open_, n + 1) else (c :: rest, 0)

/-- The scanner after `n` block collections have ended, of which these remain. -/
def endBlocks (s : Scanner) (blocks : List Nat) (n : Nat) : Scanner :=
  if s.inFlow then s
  else
    { s with
      blocks
      queue := s.queue ++ List.replicate n ⟨.blockEnd, s.mark, s.mark⟩ }

/-- The scanner after the block collections that a text at this column ends. -/
def closeBlocks (s : Scanner) : Scanner :=
  let (open_, n) := endedBlocks s.mark.column s.blocks
  s.endBlocks open_ n

/-- The scanner after all block collections. -/
def closeAllBlocks (s : Scanner) : Scanner := s.endBlocks [] s.blocks.length

/-! ## Between tokens -/

/-- The text from the next token on, and whether a key may begin there. Tabs count as white space
only where no key may begin. A line may start with a byte order mark, which takes a column. -/
def skipToToken (flow : Bool) : Bool → Bool → List Spot → Bool × List Spot
  | keyAllowed, _, [] => (keyAllowed, [])
  | keyAllowed, comment, s :: rest =>
    let c := s.char
    if isBreak c then skipToToken flow (keyAllowed || !flow) false rest
    else if comment && !isEnd c then skipToToken flow keyAllowed true rest
    else if c == ' ' || ((flow || !keyAllowed) && c == '\t') then
      skipToToken flow keyAllowed false rest
    else if c == '#' then skipToToken flow keyAllowed true rest
    else if c == byteOrderMark && s.mark.column == 0 then skipToToken flow keyAllowed false rest
    else (keyAllowed, s :: rest)

/-! ## Scanning one token -/

/-- The end of the text, which counts as the start of a line. -/
def scanEnd (s : Scanner) : Option Scanner := do
  let m := s.mark
  let m : Mark := if m.column = 0 then m else ⟨m.line + 1, 0, 0⟩
  let s := { s with spots := [⟨endChar, m⟩] }
  let s ← s.closeAllBlocks.withoutKey
  return { s with keyAllowed := false }.pushChars .streamEnd 0

/-- A directive. -/
def scanDirective (s : Scanner) : Option Scanner := do
  let s ← s.closeAllBlocks.withoutKey
  let (kind, rest) ← directiveToken (s.spots.drop 1)
  return { s with keyAllowed := false }.push kind rest

/-- A mark that begins or ends a document. -/
def scanDocumentMark (s : Scanner) (kind : TokenKind) : Option Scanner := do
  let s ← s.closeAllBlocks.withoutKey
  return { s with keyAllowed := false }.pushChars kind 3

/-- An opening bracket. -/
def scanFlowStart (s : Scanner) (kind : TokenKind) : Option Scanner := do
  let s ← s.withKeyHere
  return { s with keys := none :: s.keys, keyAllowed := true }.pushChars kind 1

/-- A closing bracket. -/
def scanFlowEnd (s : Scanner) (kind : TokenKind) : Option Scanner := do
  let s ← s.withoutKey
  let keys := if s.inFlow then s.keys.tail else s.keys
  return { s with keys, keyAllowed := false }.pushChars kind 1

/-- A comma inside of brackets. -/
def scanFlowEntry (s : Scanner) : Option Scanner := do
  let s ← s.withoutKey
  return { s with keyAllowed := true }.pushChars .flowEntry 1

/-- The number of the next token. -/
def nextNumber (s : Scanner) : Nat := s.taken + s.queue.length

/-- An indicator that begins a collection of this kind where it is the first. -/
def scanBlockIndicator (s : Scanner) (kind opening : TokenKind) (keyAfter : Bool) :
    Option Scanner := do
  if !s.inFlow && !s.keyAllowed then none
  let s ← (s.openBlock opening s.nextNumber s.mark).withoutKey
  return { s with keyAllowed := keyAfter }.pushChars kind 1

/-- The colon between a key and its value. -/
def scanValue (s : Scanner) : Option Scanner :=
  match s.keys with
  | some k :: rest =>
    let s := { s with keys := none :: rest, keyAllowed := false }
    let s := (s.insert .key k.number k.mark).openBlock .blockMappingStart k.number k.mark
    some (s.pushChars .value 1)
  | _ =>
    if !s.inFlow && !s.keyAllowed then none
    else
      let s := s.openBlock .blockMappingStart s.nextNumber s.mark
      some ({ s with keyAllowed := !s.inFlow }.pushChars .value 1)

/-- A token that a key may begin with. -/
def scanKeyStart (s : Scanner) (scan : List Spot → Scanned) : Option Scanner := do
  let s ← s.withKeyHere
  let (kind, rest) ← scan s.spots
  return { s with keyAllowed := false }.push kind rest

/-- A block scalar. -/
def scanBlockScalar (s : Scanner) (style : Style) : Option Scanner := do
  let s ← s.withoutKey
  let (text, rest) ← blockText (style = .literal) s.leastColumn (s.spots.drop 1)
  return { s with keyAllowed := true }.push (.scalar style (String.ofList text)) rest

/-- A scalar between quotes. -/
def scanQuoted (s : Scanner) (q : Quotes) (style : Style) : Option Scanner :=
  s.scanKeyStart fun spots =>
    (quotedText q .text {} (spots.drop 1)).map fun (text, rest) =>
      (.scalar style (String.ofList text), rest)

/-- A scalar without quotes. -/
def scanPlain (s : Scanner) : Option Scanner := do
  let s ← s.withKeyHere
  let p ← plainText s.inFlow s.leastColumn {} s.spots
  return { s with keyAllowed := p.broken }.push (.scalar .plain (String.ofList p.text)) p.rest

/-- An anchor or an alias. -/
def scanAnchor (s : Scanner) (kind : String → TokenKind) : Option Scanner :=
  s.scanKeyStart fun spots =>
    (anchorName (spots.drop 1)).map fun (name, rest) => (kind name, rest)

/-- The character has a meaning of its own at the start of a token. -/
def isIndicator (c : Char) : Bool :=
  ['-', '?', ':', ',', '[', ']', '{', '}', '#', '&', '*', '!', '|', '>', '\'', '"', '%', '@',
    '\x60'].contains c

/-- A plain scalar can begin with these characters. -/
def beginsPlain (flow : Bool) (c next : Char) : Bool :=
  !(isGap c || isIndicator c) || (c == '-' && !isSpace next) ||
    (!flow && (c == '?' || c == ':') && !isGap next)

/-- The token that begins here. -/
def scanToken (s : Scanner) : Option Scanner :=
  let c := charAt 0 s.spots
  let next := charAt 1 s.spots
  let flow := s.inFlow
  if isEnd c then s.scanEnd
  else if s.mark.column = 0 ∧ c = '%' then s.scanDirective
  else if s.mark.column = 0 ∧ isTriple '-' s.spots then s.scanDocumentMark .documentStart
  else if s.mark.column = 0 ∧ isTriple '.' s.spots then s.scanDocumentMark .documentEnd
  else if c = '[' then s.scanFlowStart .flowSequenceStart
  else if c = '{' then s.scanFlowStart .flowMappingStart
  else if c = ']' then s.scanFlowEnd .flowSequenceEnd
  else if c = '}' then s.scanFlowEnd .flowMappingEnd
  else if c = ',' then s.scanFlowEntry
  else if c = '-' ∧ isGap next then s.scanBlockIndicator .blockEntry .blockSequenceStart true
  else if c = '?' ∧ (flow || isGap next) then
    s.scanBlockIndicator .key .blockMappingStart (!flow)
  else if c = ':' ∧ (flow || isGap next) then s.scanValue
  else if c = '*' then s.scanAnchor .reference
  else if c = '&' then s.scanAnchor .anchor
  else if c = '!' then s.scanKeyStart (tagToken flow)
  else if c = '|' ∧ !flow then s.scanBlockScalar .literal
  else if c = '>' ∧ !flow then s.scanBlockScalar .folded
  else if c = '\'' then s.scanQuoted .single .singleQuoted
  else if c = '"' then s.scanQuoted .double .doubleQuoted
  else if beginsPlain flow c next then s.scanPlain
  else none

/-- How many characters after a token have to be known before it counts. -/
def lookahead : Nat := 4

/-- The scanner after one more token has been scanned. A token that ends where the text becomes
unreadable cannot be told from a longer one. -/
def fetch (s : Scanner) : Option Scanner := do
  let (keyAllowed, spots) := skipToToken s.inFlow s.keyAllowed false s.spots
  let s ← { s with keyAllowed, spots }.withFreshKeys
  let s ← s.closeBlocks.scanToken
  if s.whole || lookahead < s.spots.length then return s else none

/-! ## Handing out tokens -/

/-- The next token may still become the start of a key. -/
def awaitsColon (s : Scanner) : Bool :=
  s.keys.any fun
    | some k => k.number == s.taken
    | none => false

/-- The tokens from here on, in at most `fuel` steps. -/
def run : Nat → Scanner → List Token
  | 0, _ => []
  | fuel + 1, s =>
    match s.queue with
    | [] =>
      match s.fetch with
      | none => []
      | some s => run fuel s
    | token :: queue =>
      match s.withFreshKeys with
      | none => []
      | some s =>
        if s.awaitsColon then
          match s.fetch with
          | none => []
          | some s => run fuel s
        else if token.kind = .streamEnd then [token]
        else token :: run fuel { s with queue, taken := s.taken + 1 }

end Scanner

/-- The tokens of a text. Every character leads to a bounded number of tokens and steps. -/
def tokens (cs : List Char) : List Token :=
  let (spots, whole) := spots cs
  Scanner.run (8 * spots.length + 8) { spots, whole }

end RemoteRollout.Yaml

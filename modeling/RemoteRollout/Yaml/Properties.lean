import RemoteRollout.Text.Characters
import RemoteRollout.Text.Utf8
import RemoteRollout.Yaml.Token

/-!
# Names, tags and directives

The tokens that stand before a node or a document: anchors and aliases, tags, and directives.
-/

namespace RemoteRollout.Yaml

/-- A token kind and what follows the token. -/
abbrev Scanned := Option (TokenKind × List Spot)

/-! ## Anchors and aliases -/

/-- The character may follow the name of an anchor. -/
def endsAnchor (c : Char) : Bool :=
  isGap c || c == '?' || c == ':' || c == ',' || c == ']' || c == '}' || c == '%' || c == '@' ||
    c == '\x60'

/-- The name of an anchor, after its indicator. -/
def anchorName (spots : List Spot) : Option (String × List Spot) :=
  let (name, rest) := span isNameChar spots
  if name.isEmpty || !endsAnchor (charAt 0 rest) then none else some (String.ofList name, rest)

/-! ## Tags -/

/-- The character may stand in a tag as it is. Commas and square brackets may only where
`brackets` says so. -/
def isTagChar (brackets : Bool) (c : Char) : Bool :=
  isNameChar c ||
    [';', '/', '?', ':', '@', '&', '=', '+', '$', '.', '%', '!', '~', '*', '\'', '(', ')'].contains
      c || (brackets && (c == ',' || c == '[' || c == ']'))

/-- How many bytes follow in the sequence that begins with this byte, going by its high bits. -/
def followers? (b : UInt8) : Option Nat :=
  let n := b.toNat
  if n < 0x80 then some 0
  else if n < 0xC0 then none
  else if n < 0xE0 then some 1
  else if n < 0xF0 then some 2
  else if n < 0xF8 then some 3
  else none

/-- The byte that two hexadecimal digits stand for. -/
def octet? (a b : Char) : Option UInt8 := do
  return UInt8.ofNat ((← Text.hexValue? a) * 16 + (← Text.hexValue? b))

/-- The bytes of a tag, in which a percent sign announces two hexadecimal digits. So many of them
in a row must go on with the sequence that an earlier one began; whether the sequence stands for a
character does not matter. -/
def tagBytes : Nat → List Char → Option (List UInt8)
  | 0, [] => some []
  | _ + 1, [] => none
  | missing, '%' :: a :: b :: rest => do
    let byte ← octet? a b
    let missing ← match missing with
      | 0 => followers? byte
      | more + 1 => (Text.Utf8.continuation? byte).map fun _ => more
    return byte :: (← tagBytes missing rest)
  | 0, c :: rest =>
    if c = '%' then none else (tagBytes 0 rest).map (Text.Utf8.encodeChar c ++ ·)
  | _ + 1, _ :: _ => none

/-- The characters of a tag's bytes; a byte that is part of none becomes a replacement
character. -/
def tagChars (bytes : List UInt8) : List Char :=
  (Text.Utf8.decode bytes).map fun
    | .char c => c
    | .stray _ => '\uFFFD'

/-- A tag, or the part of one that follows its handle. -/
def tagText (brackets : Bool) (spots : List Spot) : Option (List Char × List Spot) := do
  let (cs, rest) := span (isTagChar brackets) spots
  return (tagChars (← tagBytes 0 cs), rest)

/-- A tag counts up to its first zero character. -/
def upToZero (cs : List Char) : String := String.ofList (cs.takeWhile (· != '\x00'))

/-- A handle: an exclamation mark, and perhaps a name and another exclamation mark. -/
def tagHandle (spots : List Spot) : Option (List Char × List Spot) :=
  match spots with
  | [] => none
  | s :: rest =>
    if s.char ≠ '!' then none
    else
      let (name, rest) := span isNameChar rest
      if charAt 0 rest = '!' then some ('!' :: name ++ ['!'], rest.drop 1)
      else some ('!' :: name, rest)

/-- The tag at its exclamation mark, without what has to follow it. -/
def tagBody (spots : List Spot) : Scanned := do
  if charAt 1 spots = '<' then
    let (text, rest) ← tagText true (spots.drop 2)
    if text.isEmpty || charAt 0 rest ≠ '>' then none
    return (.tag "" (upToZero text), rest.drop 1)
  let (handle, rest) ← tagHandle spots
  if 1 < handle.length && handle.getLast? == some '!' then
    let (suffix, rest) ← tagText false rest
    if suffix.isEmpty then none
    return (.tag (String.ofList handle) (upToZero suffix), rest)
  let (more, rest) ← tagText false rest
  let suffix := upToZero (handle.tail ++ more)
  return (if suffix.isEmpty then .tag "" "!" else .tag "!" suffix, rest)

/-- The tag at its exclamation mark. -/
def tagToken (flow : Bool) (spots : List Spot) : Scanned := do
  let (kind, rest) ← tagBody spots
  let c := charAt 0 rest
  if isGap c || (flow && c == ',') then return (kind, rest) else none

/-! ## Directives -/

/-- A decimal number of at most nine digits. -/
def versionNumber (spots : List Spot) : Option (Nat × List Spot) :=
  let (ds, rest) := span Char.isDigit spots
  if ds.isEmpty || 9 < ds.length then none
  else some (ds.foldl (fun n d => n * 10 + (d.toNat - '0'.toNat)) 0, rest)

/-- The value of a version directive. -/
def versionValue (spots : List Spot) : Scanned := do
  let (major, rest) ← versionNumber (span isSpace spots).2
  if charAt 0 rest ≠ '.' then none
  let (minor, rest) ← versionNumber (rest.drop 1)
  return (.versionDirective major minor, rest)

/-- The value of a tag directive. -/
def tagDirectiveValue (spots : List Spot) : Scanned := do
  let (handle, rest) ← tagHandle (span isSpace spots).2
  if 1 < handle.length && handle.getLast? != some '!' then none
  if !isSpace (charAt 0 rest) then none
  let (text, rest) ← tagText true (span isSpace rest).2
  if text.isEmpty || !isGap (charAt 0 rest) then none
  return (.tagDirective (String.ofList handle) (upToZero text), rest)

/-- The rest of a line, which may only hold a comment. -/
def restOfLine (spots : List Spot) : Option (List Spot) :=
  let rest := (span isSpace spots).2
  let rest := if charAt 0 rest = '#' then (span (!isBreakOrEnd ·) rest).2 else rest
  if isBreak (charAt 0 rest) then some (rest.drop 1)
  else if isEnd (charAt 0 rest) then some rest
  else none

/-- The directive after its percent sign. -/
def directiveToken (spots : List Spot) : Scanned := do
  let (name, rest) := span isNameChar spots
  if !isGap (charAt 0 rest) then none
  let (kind, rest) ←
    if name = ['Y', 'A', 'M', 'L'] then versionValue rest
    else if name = ['T', 'A', 'G'] then tagDirectiveValue rest
    else none
  return (kind, ← restOfLine rest)

end RemoteRollout.Yaml

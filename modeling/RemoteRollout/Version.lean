import RemoteRollout.Text.Quoted
import RemoteRollout.Text.Pieces

/-!
# Versions

Semantic versions: their text, reading it, and their precedence. Precedence compares the three
numbers, then the pre-release: a release comes after its pre-releases, which compare identifier
by identifier, numbers before words and a longer list after its beginning. Build metadata takes
no part in it.
-/

namespace RemoteRollout

/-- One identifier of a pre-release. -/
inductive Identifier where
  | number (value : Nat)
  | word (text : List Char)
deriving DecidableEq, Repr, Inhabited

namespace Identifier

/-- The identifier as it is written. -/
def text : Identifier → List Char
  | number value => Nat.toDigits 10 value
  | word text => text

/-- Numbers compare by value and come before words, which compare character by character. -/
def order : Identifier → Identifier → Ordering
  | number a, number b => compare a b
  | number _, word _ => .lt
  | word _, number _ => .gt
  | word a, word b => compare a b

end Identifier

/-- A semantic version. -/
structure Version where
  major : Nat
  minor : Nat
  patch : Nat
  /-- The pre-release identifiers; none for a release. -/
  pre : List Identifier
  /-- The build metadata, empty if there is none. -/
  build : List Char
deriving DecidableEq, Repr, Inhabited

namespace Version

/-- The order of two pre-releases: none at all comes last. -/
def preOrder : List Identifier → List Identifier → Ordering
  | [], [] => .eq
  | [], _ :: _ => .gt
  | _ :: _, [] => .lt
  | as, bs => List.compareLex Identifier.order as bs

/-- Semantic precedence. -/
def precedence (v w : Version) : Ordering :=
  (compare v.major w.major).then <|
  (compare v.minor w.minor).then <|
  (compare v.patch w.patch).then <|
  preOrder v.pre w.pre

/-- The pre-release identifiers with dots between them. -/
def preText (v : Version) : List Char := Text.joined '.' (v.pre.map Identifier.text)

/-- The version as it is written. -/
def text (v : Version) : String :=
  toString v.major ++ "." ++ toString v.minor ++ "." ++ toString v.patch ++
    String.ofList (if v.pre.isEmpty then [] else '-' :: v.preText) ++
    String.ofList (if v.build.isEmpty then [] else '+' :: v.build)

/-- The version with its parts named, as log records show it. -/
def detail (v : Version) : String :=
  "Version \x7b major: " ++ toString v.major ++ ", minor: " ++ toString v.minor ++
    ", patch: " ++ toString v.patch ++
    (if v.pre.isEmpty then ""
      else ", pre: Prerelease(" ++ Text.quoted (String.ofList v.preText) ++ ")") ++
    (if v.build.isEmpty then ""
      else ", build: BuildMetadata(" ++ Text.quoted (String.ofList v.build) ++ ")") ++
    " \x7d"

/-- A list of versions with their parts named. -/
def detailList (vs : List Version) : String :=
  "[" ++ String.intercalate ", " (vs.map detail) ++ "]"

/-! ## Reading -/

/-- The part of a version that was being read. -/
inductive Part where
  | major
  | minor
  | patch
  | pre
  | build
deriving DecidableEq, Repr, Inhabited

/-- How messages call the part. -/
def Part.name : Part → String
  | major => "major version number"
  | minor => "minor version number"
  | patch => "patch version number"
  | pre => "pre-release identifier"
  | build => "build metadata"

/-- Why a text is no version. -/
inductive Fault where
  | empty
  | unexpectedEnd (part : Part)
  | unexpected (part : Part) (c : Char)
  | unexpectedAfter (part : Part) (c : Char)
  | leadingZero (part : Part)
  | tooLarge (part : Part)
  | emptySegment (part : Part)
deriving DecidableEq, Repr, Inhabited

/-- The wording of the fault. -/
def Fault.message : Fault → String
  | empty => "empty string, expected a semver version"
  | unexpectedEnd part => "unexpected end of input while parsing " ++ part.name
  | unexpected part c => "unexpected character " ++ Text.quotedChar c ++ " while parsing " ++ part.name
  | unexpectedAfter part c => "unexpected character " ++ Text.quotedChar c ++ " after " ++ part.name
  | leadingZero part => "invalid leading zero in " ++ part.name
  | tooLarge part => "value of " ++ part.name ++ " exceeds u64::MAX"
  | emptySegment part => "empty identifier segment in " ++ part.name

/-- The decimal value of a run of digits. -/
def digitsValue (ds : List Char) : Nat :=
  ds.foldl (fun n d => n * 10 + (d.toNat - '0'.toNat)) 0

/-- The largest version number. -/
def maxNumber : Nat := 0xFFFFFFFFFFFFFFFF

/-- A number at the front of the text, and what follows it. -/
def number (part : Part) (cs : List Char) : Except Fault (Nat × List Char) :=
  let digits := cs.takeWhile Char.isDigit
  let rest := cs.dropWhile Char.isDigit
  match digits with
  | [] =>
    match rest with
    | [] => .error (.unexpectedEnd part)
    | c :: _ => .error (.unexpected part c)
  | '0' :: _ :: _ => .error (.leadingZero part)
  | ds =>
    let value := digitsValue ds
    if value ≤ maxNumber then .ok (value, rest) else .error (.tooLarge part)

/-- The dot after a number. -/
def dot (part : Part) : List Char → Except Fault (List Char)
  | '.' :: rest => .ok rest
  | [] => .error (.unexpectedEnd part)
  | c :: _ => .error (.unexpectedAfter part c)

/-- The character may stand in an identifier. -/
def isIdentifierChar (c : Char) : Bool := c.isAlphanum || c == '-'

/-- The first fault among the identifiers of a part: an empty one, or, in a pre-release, a number
with a leading zero. -/
def segmentFault? (part : Part) (segment : List Char) : Option Fault :=
  match segment with
  | [] => some (.emptySegment part)
  | '0' :: _ :: _ =>
    if part = .pre ∧ segment.all Char.isDigit then some (.leadingZero part) else none
  | _ => none

/-- The identifiers at the front of the text, and what follows them. -/
def segments (part : Part) (cs : List Char) :
    Except Fault (List (List Char) × List Char) :=
  let run := cs.takeWhile fun c => isIdentifierChar c || c == '.'
  let rest := cs.dropWhile fun c => isIdentifierChar c || c == '.'
  let ids := Text.pieces '.' run
  match ids.findSome? (segmentFault? part) with
  | some fault => .error fault
  | none => .ok (ids, rest)

/-- A pre-release identifier from its text: a number if it has digits only. -/
def identifier (segment : List Char) : Identifier :=
  if segment.all Char.isDigit then .number (digitsValue segment) else .word segment

/-- The pre-release after the numbers, if a hyphen announces one. -/
def preRelease : List Char → Except Fault (List Identifier × List Char)
  | '-' :: rest => do
    let (ids, rest) ← segments .pre rest
    return (ids.map identifier, rest)
  | cs => return ([], cs)

/-- The build metadata, if a plus sign announces it. -/
def buildMetadata : List Char → Except Fault (List Char × List Char)
  | '+' :: rest => do
    let (ids, rest) ← segments .build rest
    return (Text.joined '.' ids, rest)
  | cs => return ([], cs)

/-- The last part that a version without further text has. -/
def lastPart (pre : List Identifier) (build : List Char) : Part :=
  if !build.isEmpty then .build else if !pre.isEmpty then .pre else .patch

/-- The version that a text spells. -/
def ofChars (cs : List Char) : Except Fault Version := do
  if cs.isEmpty then throw .empty
  let (major, rest) ← number .major cs
  let rest ← dot .major rest
  let (minor, rest) ← number .minor rest
  let rest ← dot .minor rest
  let (patch, rest) ← number .patch rest
  let (pre, rest) ← preRelease rest
  let (build, rest) ← buildMetadata rest
  match rest with
  | [] => return { major, minor, patch, pre, build }
  | c :: _ => throw (.unexpectedAfter (lastPart pre build) c)

/-- The version that a text spells. -/
def parse (s : String) : Except Fault Version := ofChars s.toList

end Version

end RemoteRollout

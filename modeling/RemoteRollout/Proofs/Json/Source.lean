import RemoteRollout.Json.Printer
import RemoteRollout.Json.StringText
import RemoteRollout.Text.Characters

/-!
# JSON as it is written

The grammar of `JSON`, on characters and apart from any reader. A `Source` is what a text says before
anyone asks for its meaning: members stand in the order of the text, keys may be repeated, and a
string literal whose escapes stand for no text has no value. `Written` relates sources to their texts,
with all their white space and spellings; numbers are written as plain whole ones.
-/

namespace RemoteRollout.Json

/-! ## String literals -/

/-- A part of a string literal: a character, or a code unit in hexadecimal. -/
inductive Piece where
  | char (c : Char)
  | unit (n : Nat)
deriving DecidableEq, Repr

namespace Piece

/-- The letters behind a backslash, and what they stand for. -/
def letters : List (Char × Char) :=
  [('"', '"'), ('\\', '\\'), ('/', '/'), ('b', '\x08'), ('f', '\x0c'), ('n', '\n'), ('r', '\r'),
    ('t', '\t')]

/-- The texts of a piece. -/
inductive Spelled : Piece → List Char → Prop where
  | plain {c : Char} (hcontrol : 0x20 ≤ c.toNat) (hquote : c ≠ '"') (hslash : c ≠ '\\') :
      Spelled (.char c) [c]
  | letter {l c : Char} (h : (l, c) ∈ letters) : Spelled (.char c) ['\\', l]
  | unit {d₁ d₂ d₃ d₄ : Char} {v₁ v₂ v₃ v₄ : Nat} (h₁ : Text.hexValue? d₁ = some v₁)
      (h₂ : Text.hexValue? d₂ = some v₂) (h₃ : Text.hexValue? d₃ = some v₃)
      (h₄ : Text.hexValue? d₄ = some v₄) :
      Spelled (.unit (((v₁ * 16 + v₂) * 16 + v₃) * 16 + v₄)) ['\\', 'u', d₁, d₂, d₃, d₄]

/-- The texts of some pieces. -/
inductive AllSpelled : List Piece → List Char → Prop where
  | nil : AllSpelled [] []
  | cons {p : Piece} {ps : List Piece} {cs rest : List Char} (h : p.Spelled cs)
      (hs : AllSpelled ps rest) : AllSpelled (p :: ps) (cs ++ rest)

/-- The characters that some pieces stand for, behind the first half of a surrogate pair if there is
one. Both halves together stand for a character, and one alone for none. -/
def charsAfter? : Option Nat → List Piece → Option (List Char)
  | none, [] => some []
  | none, .char c :: ps => (charsAfter? none ps).map (c :: ·)
  | none, .unit n :: ps =>
    if isLowSurrogate n then none
    else if isHighSurrogate n then charsAfter? (some n) ps
    else (charsAfter? none ps).map (Char.ofNat n :: ·)
  | some high, .unit n :: ps =>
    if isLowSurrogate n then
      (charsAfter? none ps).map
        (Char.ofNat (0x10000 + (high - 0xD800) * 0x400 + (n - 0xDC00)) :: ·)
    else none
  | some _, [] | some _, .char _ :: _ => none

/-- The text that some pieces stand for. -/
def text? (ps : List Piece) : Option String := (charsAfter? none ps).map String.ofList

end Piece

/-- A string literal, from quote to quote, and its value. -/
inductive Quoted : Option String → List Char → Prop where
  | intro {ps : List Piece} {cs : List Char} (h : Piece.AllSpelled ps cs) :
      Quoted (Piece.text? ps) ('"' :: cs ++ ['"'])

/-! ## Values -/

/-- A value as it is written. -/
inductive Source where
  | null
  | bool (value : Bool)
  | number (value : Number)
  | string (value : Option String)
  | list (items : List Source)
  | object (members : List (Option String × Source))
deriving Inhabited

/-- The members of an object as they are written. -/
abbrev SourceMembers := List (Option String × Source)

/-- The white space of the language. -/
def Blank (cs : List Char) : Prop := ∀ c ∈ cs, c = ' ' ∨ c = '\n' ∨ c = '\t' ∨ c = '\r'

/-- The number is whole and fits 64 bits, with or without a sign. -/
def Number.Fits : Number → Prop
  | whole n => -0x8000000000000000 ≤ n ∧ n < 0x10000000000000000
  | real _ => False

@[simp]
theorem Number.fits_whole_iff (n : Int) :
    (whole n).Fits ↔ -0x8000000000000000 ≤ n ∧ n < 0x10000000000000000 := Iff.rfl

/-- A part of a text. -/
inductive Part where
  | value (t : Source)
  /-- What follows an item of a list. -/
  | items (ts : List Source)
  | member (m : Option String × Source)
  /-- What follows a member of an object. -/
  | members (ms : SourceMembers)

/-- The texts of a part. -/
inductive Written : Part → List Char → Prop where
  | null : Written (.value .null) ['n', 'u', 'l', 'l']
  | bool (b : Bool) : Written (.value (.bool b)) (boolText b)
  | number {n : Number} (h : n.Fits) : Written (.value (.number n)) n.text
  | string {value : Option String} {cs : List Char} (h : Quoted value cs) :
      Written (.value (.string value)) cs
  | emptyList {ws : List Char} (hws : Blank ws) : Written (.value (.list [])) ('[' :: ws ++ [']'])
  | list {t : Source} {ts : List Source} {ws cs rest : List Char} (hws : Blank ws)
      (ht : Written (.value t) cs) (hts : Written (.items ts) rest) :
      Written (.value (.list (t :: ts))) ('[' :: ws ++ cs ++ rest)
  | endOfList {ws : List Char} (hws : Blank ws) : Written (.items []) (ws ++ [']'])
  | item {t : Source} {ts : List Source} {ws ws' cs rest : List Char} (hws : Blank ws)
      (hws' : Blank ws') (ht : Written (.value t) cs) (hts : Written (.items ts) rest) :
      Written (.items (t :: ts)) (ws ++ ',' :: ws' ++ cs ++ rest)
  | pair {key : Option String} {t : Source} {ks ws ws' cs : List Char} (hkey : Quoted key ks)
      (hws : Blank ws) (hws' : Blank ws') (ht : Written (.value t) cs) :
      Written (.member (key, t)) (ks ++ ws ++ ':' :: ws' ++ cs)
  | emptyObject {ws : List Char} (hws : Blank ws) :
      Written (.value (.object [])) ('{' :: ws ++ ['}'])
  | object {m : Option String × Source} {ms : SourceMembers} {ws cs rest : List Char}
      (hws : Blank ws) (hm : Written (.member m) cs) (hms : Written (.members ms) rest) :
      Written (.value (.object (m :: ms))) ('{' :: ws ++ cs ++ rest)
  | endOfObject {ws : List Char} (hws : Blank ws) : Written (.members []) (ws ++ ['}'])
  | member {m : Option String × Source} {ms : SourceMembers} {ws ws' cs rest : List Char}
      (hws : Blank ws) (hws' : Blank ws') (hm : Written (.member m) cs)
      (hms : Written (.members ms) rest) :
      Written (.members (m :: ms)) (ws ++ ',' :: ws' ++ cs ++ rest)

/-- A document: a value, with white space around it. -/
inductive Source.Document (t : Source) : List Char → Prop where
  | intro {ws cs ws' : List Char} (hws : Blank ws) (h : Written (.value t) cs) (hws' : Blank ws') :
      Document t (ws ++ cs ++ ws')

/-- The last of the members with this name. -/
def SourceMembers.get? (name : String) : SourceMembers → Option Source
  | [] => none
  | (key, t) :: ms => (SourceMembers.get? name ms).or (if key = some name then some t else none)

/-! ## Trees -/

mutual

/-- A tree as it is written, with its members in order. -/
def Tree.source : Tree → Source
  | .null => .null
  | .bool b => .bool b
  | .number n => .number n
  | .string s => .string (some s)
  | .list ts => .list (Tree.sources ts)
  | .object ms => .object (Tree.sourceMembers ms)

/-- The items of a list as they are written. -/
def Tree.sources : List Tree → List Source
  | [] => []
  | t :: ts => t.source :: Tree.sources ts

/-- The members of an object as they are written. -/
def Tree.sourceMembers : Members → SourceMembers
  | [] => []
  | (k, t) :: ms => (some k, t.source) :: Tree.sourceMembers ms

end

theorem Tree.sources_eq_map (ts : List Tree) : Tree.sources ts = ts.map Tree.source := by
  induction ts with
  | nil => rfl
  | cons t ts ih => rw [Tree.sources, ih, List.map_cons]

/-- All numbers in the tree are whole and fit 64 bits. -/
inductive Tree.NumbersFit : Tree → Prop where
  | null : NumbersFit .null
  | bool (b : Bool) : NumbersFit (.bool b)
  | number {n : Number} (h : n.Fits) : NumbersFit (.number n)
  | string (s : String) : NumbersFit (.string s)
  | list {ts : List Tree} (h : ∀ t ∈ ts, NumbersFit t) : NumbersFit (.list ts)
  | object {ms : Members} (h : ∀ m ∈ ms, NumbersFit m.2) : NumbersFit (.object ms)

namespace Tree

@[simp]
theorem numbersFit_null : NumbersFit .null := .null

@[simp]
theorem numbersFit_bool (b : Bool) : (bool b).NumbersFit := .bool b

@[simp]
theorem numbersFit_number_iff {n : Number} : (number n).NumbersFit ↔ n.Fits :=
  ⟨fun h => by cases h with | number h => exact h, .number⟩

@[simp]
theorem numbersFit_string (s : String) : (string s).NumbersFit := .string s

@[simp]
theorem numbersFit_list_iff {ts : List Tree} : (list ts).NumbersFit ↔ ∀ t ∈ ts, t.NumbersFit :=
  ⟨fun h => by cases h with | list h => exact h, .list⟩

@[simp]
theorem numbersFit_object_iff {ms : Members} :
    (object ms).NumbersFit ↔ ∀ m ∈ ms, m.2.NumbersFit :=
  ⟨fun h => by cases h with | object h => exact h, .object⟩

end Tree

/-- The keys ascend, so that none is repeated. -/
def Members.Ascending (ms : Members) : Prop := ms.Pairwise fun m n => keyOrder m.1 n.1 = .lt

instance (ms : Members) : Decidable ms.Ascending := inferInstanceAs (Decidable (List.Pairwise _ _))

/-- In all objects of the tree the keys ascend. -/
inductive Tree.Canonical : Tree → Prop where
  | null : Canonical .null
  | bool (b : Bool) : Canonical (.bool b)
  | number (n : Number) : Canonical (.number n)
  | string (s : String) : Canonical (.string s)
  | list {ts : List Tree} (h : ∀ t ∈ ts, Canonical t) : Canonical (.list ts)
  | object {ms : Members} (hkeys : ms.Ascending) (h : ∀ m ∈ ms, Canonical m.2) :
      Canonical (.object ms)

namespace Tree

@[simp]
theorem canonical_null : Canonical .null := .null

@[simp]
theorem canonical_bool (b : Bool) : (bool b).Canonical := .bool b

@[simp]
theorem canonical_number (n : Number) : (number n).Canonical := .number n

@[simp]
theorem canonical_string (s : String) : (string s).Canonical := .string s

@[simp]
theorem canonical_list_iff {ts : List Tree} : (list ts).Canonical ↔ ∀ t ∈ ts, t.Canonical :=
  ⟨fun h => by cases h with | list h => exact h, .list⟩

@[simp]
theorem canonical_object_iff {ms : Members} :
    (object ms).Canonical ↔ ms.Ascending ∧ ∀ m ∈ ms, m.2.Canonical :=
  ⟨fun h => by cases h with | object hkeys h => exact ⟨hkeys, h⟩, fun h => .object h.1 h.2⟩

end Tree

/-- Lists and objects lie in each other no deeper than this. -/
inductive Tree.NestsWithin : Nat → Tree → Prop where
  | null {d : Nat} : NestsWithin d .null
  | bool {d : Nat} (b : Bool) : NestsWithin d (.bool b)
  | number {d : Nat} (n : Number) : NestsWithin d (.number n)
  | string {d : Nat} (s : String) : NestsWithin d (.string s)
  | list {d : Nat} {ts : List Tree} (h : ∀ t ∈ ts, NestsWithin d t) : NestsWithin (d + 1) (.list ts)
  | object {d : Nat} {ms : Members} (h : ∀ m ∈ ms, NestsWithin d m.2) :
      NestsWithin (d + 1) (.object ms)

namespace Tree

variable {d : Nat}

@[simp]
theorem nestsWithin_null : NestsWithin d .null := .null

@[simp]
theorem nestsWithin_bool (b : Bool) : (bool b).NestsWithin d := .bool b

@[simp]
theorem nestsWithin_number (n : Number) : (number n).NestsWithin d := .number n

@[simp]
theorem nestsWithin_string (s : String) : (string s).NestsWithin d := .string s

@[simp]
theorem nestsWithin_list_iff {ts : List Tree} :
    (list ts).NestsWithin (d + 1) ↔ ∀ t ∈ ts, t.NestsWithin d :=
  ⟨fun h => by cases h with | list h => exact h, .list⟩

@[simp]
theorem nestsWithin_object_iff {ms : Members} :
    (object ms).NestsWithin (d + 1) ↔ ∀ m ∈ ms, m.2.NestsWithin d :=
  ⟨fun h => by cases h with | object h => exact h, .object⟩

end Tree

end RemoteRollout.Json

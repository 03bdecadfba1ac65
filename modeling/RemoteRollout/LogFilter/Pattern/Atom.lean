import RemoteRollout.Text.Characters

/-!
# Atoms of a pattern

The smallest parts of a regular expression: characters as they stand or behind a backslash, the
classes that have a letter of their own, and the places that take up no character. Where a pattern
is spaced, blanks and comments stand between its parts, and also inside of an escape.
-/

namespace RemoteRollout.Pattern

/-- The smallest parts of a pattern. -/
inductive Atom where
  /-- One character; `octet` says that it was written as two hexadecimal digits. -/
  | literal (c : Char) (octet : Bool)
  /-- Any character. -/
  | any
  /-- A start or an end, of the text or of a line. -/
  | edge
  /-- A place where a word begins or ends, or one where none does. -/
  | wordEdge
  /-- The digits, the blanks or the characters of words, or all others. -/
  | shorthand (negated : Bool)
  /-- The characters with a property that has a name of one letter, or all others. -/
  | property (name : Char)
deriving DecidableEq, Repr, Inhabited

/-! ## Blanks -/

/-- The text after blanks and comments; a comment runs up to the end of its line. -/
def skipBlanks : (comment : Bool) → List Char → List Char
  | _, [] => []
  | true, c :: rest => skipBlanks (c != '\n') rest
  | false, c :: rest =>
    if Text.isBlank c then skipBlanks false rest
    else if c = '#' then skipBlanks true rest
    else c :: rest

/-- The text from the next part on. -/
def skip (spaced : Bool) (cs : List Char) : List Char := if spaced then skipBlanks false cs else cs

/-! ## Escapes -/

/-- The number that so many hexadecimal digits stand for, after `value`. -/
def hexNumber (spaced : Bool) : Nat → (value : Nat) → List Char → Option (Nat × List Char)
  | 0, value, cs => some (value, cs)
  | _ + 1, _, [] => none
  | missing + 1, value, c :: rest => do
    hexNumber spaced missing (value * 16 + (← Text.hexValue? c)) (skip spaced rest)

/-- The character with this number, if there is one. -/
def charOfNumber? (n : Nat) : Option Char := if n.isValidChar then some (Char.ofNat n) else none

/-- A character by its number, of so many hexadecimal digits. -/
def hexEscape (spaced : Bool) (digits : Nat) (cs : List Char) : Option (Atom × List Char) := do
  let (n, rest) ← hexNumber spaced digits 0 (skip spaced cs)
  return (.literal (← charOfNumber? n) (digits == 2), rest)

/-- A property by its name. A longer name would stand in braces, which a directive cannot hold. -/
def propertyEscape (spaced : Bool) (cs : List Char) : Option (Atom × List Char) :=
  match skip spaced cs with
  | [] => none
  | name :: rest =>
    if name = '\\' ∨ name = '\x7b' then none else some (.property name, skip spaced rest)

/-- What a letter behind a backslash stands for, if it needs nothing else. -/
def letterEscape? (c : Char) : Option Atom :=
  match c with
  | 'd' | 's' | 'w' => some (.shorthand false)
  | 'D' | 'S' | 'W' => some (.shorthand true)
  | 'a' => some (.literal '\x07' false)
  | 'f' => some (.literal '\x0c' false)
  | 't' => some (.literal '\t' false)
  | 'n' => some (.literal '\n' false)
  | 'r' => some (.literal '\r' false)
  | 'v' => some (.literal '\x0b' false)
  | 'A' | 'z' => some .edge
  | 'b' | 'B' | '<' | '>' => some .wordEdge
  | _ => none

/-- The atom behind a backslash. Of `ASCII`, all but letters and digits may stand for themselves. -/
def escape (spaced : Bool) : List Char → Option (Atom × List Char)
  | [] => none
  | c :: rest =>
    if c = 'x' then hexEscape spaced 2 rest
    else if c = 'u' then hexEscape spaced 4 rest
    else if c = 'U' then hexEscape spaced 8 rest
    else if c = 'p' ∨ c = 'P' then propertyEscape spaced rest
    else
      match letterEscape? c with
      | some atom => some (atom, rest)
      | none => if 0x80 ≤ c.toNat ∨ c.isAlphanum then none else some (.literal c false, rest)

/-! ## Support -/

/-- A property with this name is known: letters, marks, numbers, punctuation, symbols, separators
and others. -/
def isKnownProperty (name : Char) : Bool :=
  ['l', 'm', 'n', 'p', 's', 'z', 'c'].contains name.toLower

/-- The atom can be matched. A word of Unicode characters has no edges, and what is left after
octets have been excluded, or one octet beyond `ASCII`, may be no text. -/
def Atom.isSupported (unicode : Bool) : Atom → Bool
  | literal c octet => unicode || !octet || c.toNat < 0x80
  | any => unicode
  | edge => true
  | wordEdge => !unicode
  | shorthand negated => unicode || !negated
  | property name => unicode && isKnownProperty name

end RemoteRollout.Pattern

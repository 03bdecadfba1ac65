import RemoteRollout.Text.Characters
import RemoteRollout.Yaml.Fold

/-!
# Quoted scalars

The text of a scalar between quotes, which may run over several lines. Between single quotes only
the quote itself is escaped, by doubling it; between double quotes a backslash begins an escape.
-/

namespace RemoteRollout.Yaml

/-- Which quotes a scalar stands between. -/
inductive Quotes where
  | single
  | double
deriving DecidableEq, Repr

/-- The quote. -/
def Quotes.char : Quotes → Char
  | single => '\''
  | double => '"'

/-- What the character before asks for. -/
inductive QuotedMode where
  | text
  /-- A single quote was read: it ends the scalar unless another one follows. -/
  | quote
  | escape
  /-- So many digits of a hexadecimal escape are missing. -/
  | hex (missing : Nat) (value : Nat)
deriving DecidableEq, Repr

/-- What an escape of one letter stands for. -/
def escapeValue? (c : Char) : Option Char :=
  match c with
  | '0' => some '\x00'
  | 'a' => some '\x07'
  | 'b' => some '\x08'
  | 't' | '\t' => some '\t'
  | 'n' => some '\n'
  | 'v' => some '\x0b'
  | 'f' => some '\x0c'
  | 'r' => some '\r'
  | 'e' => some '\x1b'
  | ' ' => some ' '
  | '"' => some '"'
  | '/' => some '/'
  | '\\' => some '\\'
  | 'N' => some '\u0085'
  | '_' => some '\u00a0'
  | 'L' => some '\u2028'
  | 'P' => some '\u2029'
  | _ => none

/-- How many digits a hexadecimal escape has. -/
def hexLength? (c : Char) : Option Nat :=
  match c with
  | 'x' => some 2
  | 'u' => some 4
  | 'U' => some 8
  | _ => none

/-- The character with this number, unless it is a surrogate or too large. -/
def charOfCode? (n : Nat) : Option Char :=
  if (0xD800 ≤ n ∧ n < 0xE000) ∨ 0x10FFFF < n then none else some (Char.ofNat n)

/-- A text before what was read further on. -/
def prepend (cs : List Char) : Option (List Char × List Spot) → Option (List Char × List Spot)
  | some (text, rest) => some (cs ++ text, rest)
  | none => none

/-- The text up to the closing quote, and what follows the quote. -/
def quotedText (q : Quotes) :
    QuotedMode → Fold → List Spot → Option (List Char × List Spot)
  | _, _, [] => none
  | .text, fold, s :: rest =>
    let c := s.char
    if isEnd c then none
    else if isSpace c then quotedText q .text (fold.addSpace c) rest
    else if isBreak c then quotedText q .text (fold.addBreak c) rest
    else if isDocumentMark (s :: rest) then none
    else if c = q.char then
      if q = .double then some (fold.text, rest)
      else prepend fold.text (quotedText q .quote {} rest)
    else if q = .double ∧ c = '\\' then prepend fold.text (quotedText q .escape {} rest)
    else prepend (fold.text ++ [c]) (quotedText q .text {} rest)
  | .quote, _, s :: rest =>
    if s.char = '\'' then prepend ['\''] (quotedText q .text {} rest) else some ([], s :: rest)
  | .escape, _, s :: rest =>
    let c := s.char
    if isBreak c then quotedText q .text .escapedBreak rest
    else
      match escapeValue? c with
      | some value => prepend [value] (quotedText q .text {} rest)
      | none =>
        match hexLength? c with
        | some n => quotedText q (.hex n 0) {} rest
        | none => none
  | .hex missing value, _, s :: rest =>
    match Text.hexValue? s.char with
    | none => none
    | some digit =>
      let value := value * 16 + digit
      if 1 < missing then quotedText q (.hex (missing - 1) value) {} rest
      else
        match charOfCode? value with
        | some c => prepend [c] (quotedText q .text {} rest)
        | none => none

end RemoteRollout.Yaml

import RemoteRollout.Text.Printable

/-!
# Quoted texts

How a text, a character or a path stands in a message: between quotes, with the characters that
could be mistaken or not be seen written as escapes. The three forms differ only in which quotes
they escape.
-/

namespace RemoteRollout.Text

/-- The hexadecimal digits of a number, in lower case and without leading zeros. -/
def hexDigits (n : Nat) : List Char := Nat.toDigits 16 n

/-- A character between quotes: itself, or an escape. -/
def escaped (isQuote : Char → Bool) (c : Char) : List Char :=
  if c = '\x00' then ['\\', '0']
  else if c = '\t' then ['\\', 't']
  else if c = '\r' then ['\\', 'r']
  else if c = '\n' then ['\\', 'n']
  else if c = '\\' || isQuote c then ['\\', c]
  else if isShown c then [c]
  else '\\' :: 'u' :: '{' :: hexDigits c.toNat ++ ['}']

/-- A text between double quotes. -/
def quoted (s : String) : String :=
  String.ofList ('"' :: s.toList.flatMap (escaped (· == '"')) ++ ['"'])

/-- A character between single quotes. -/
def quotedChar (c : Char) : String :=
  String.ofList ('\'' :: escaped (· == '\'') c ++ ['\''])

/-- The text of a path between double quotes; single quotes are escaped too. -/
def quotedPath (s : String) : String :=
  String.ofList ('"' :: s.toList.flatMap (escaped fun c => c == '"' || c == '\'') ++ ['"'])

/-- A list of texts, each between double quotes. -/
def quotedList (texts : List String) : String :=
  "[" ++ String.intercalate ", " (texts.map quoted) ++ "]"

end RemoteRollout.Text

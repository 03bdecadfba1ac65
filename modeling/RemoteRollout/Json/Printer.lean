import RemoteRollout.Json.Tree

/-!
# Writing JSON

The two texts of a `JSON` value: `compact`, without any white space, and `pretty`, with every
item and member on a line of its own and two spaces for each level.
-/

namespace RemoteRollout.Json

/-- A character inside a string: itself, or an escape if it is a quote, a backslash or a control
character. -/
def escapedChar (c : Char) : List Char :=
  if c = '"' then ['\\', '"']
  else if c = '\\' then ['\\', '\\']
  else if c = '\x08' then ['\\', 'b']
  else if c = '\x0c' then ['\\', 'f']
  else if c = '\n' then ['\\', 'n']
  else if c = '\r' then ['\\', 'r']
  else if c = '\t' then ['\\', 't']
  else if c.toNat < 0x20 then
    ['\\', 'u', '0', '0', Nat.digitChar (c.toNat / 16), Nat.digitChar (c.toNat % 16)]
  else [c]

/-- A string between double quotes. -/
def stringText (s : String) : List Char := '"' :: s.toList.flatMap escapedChar ++ ['"']

/-- A whole number in decimal digits. -/
def wholeText (n : Int) : List Char :=
  if n < 0 then '-' :: Nat.toDigits 10 n.natAbs else Nat.toDigits 10 n.natAbs

/-- A fraction: without an exponent if its first digit stands no more than five places behind
the point and no more than fifteen before the units. -/
def realText (x : Decimal.Binary64) : List Char :=
  let d := x.shortest
  x.signed (if -5 ≤ d.leading ∧ d.leading ≤ 15 then d.positional else d.scientific)

/-- The text of a number. -/
def Number.text : Number → List Char
  | whole n => wholeText n
  | real x => realText x

/-- The text of a truth value. -/
def boolText (b : Bool) : List Char :=
  if b then ['t', 'r', 'u', 'e'] else ['f', 'a', 'l', 's', 'e']

mutual

/-- The text without white space. -/
def Tree.compact : Tree → List Char
  | .null => ['n', 'u', 'l', 'l']
  | .bool b => boolText b
  | .number n => n.text
  | .string s => stringText s
  | .list [] => ['[', ']']
  | .list (t :: ts) => '[' :: t.compact ++ Tree.compactItems ts
  | .object [] => ['{', '}']
  | .object ((k, t) :: ms) => '{' :: stringText k ++ ':' :: t.compact ++ Tree.compactMembers ms

/-- What follows an item of a list. -/
def Tree.compactItems : List Tree → List Char
  | [] => [']']
  | t :: ts => ',' :: t.compact ++ Tree.compactItems ts

/-- What follows a member of an object. -/
def Tree.compactMembers : List (String × Tree) → List Char
  | [] => ['}']
  | (k, t) :: ms => ',' :: stringText k ++ ':' :: t.compact ++ Tree.compactMembers ms

end

/-- The start of a line at this level. -/
def lineStart (level : Nat) : List Char := '\n' :: List.replicate (2 * level) ' '

mutual

/-- The text with a line for every item and member, from this level on. -/
def Tree.prettyAt (level : Nat) : Tree → List Char
  | .null => ['n', 'u', 'l', 'l']
  | .bool b => boolText b
  | .number n => n.text
  | .string s => stringText s
  | .list [] => ['[', ']']
  | .list (t :: ts) =>
    '[' :: lineStart (level + 1) ++ t.prettyAt (level + 1) ++ Tree.prettyItems level ts
  | .object [] => ['{', '}']
  | .object ((k, t) :: ms) =>
    '{' :: lineStart (level + 1) ++ stringText k ++ ':' :: ' ' :: t.prettyAt (level + 1) ++
      Tree.prettyMembers level ms

/-- What follows an item of a list at this level. -/
def Tree.prettyItems (level : Nat) : List Tree → List Char
  | [] => lineStart level ++ [']']
  | t :: ts =>
    ',' :: lineStart (level + 1) ++ t.prettyAt (level + 1) ++ Tree.prettyItems level ts

/-- What follows a member of an object at this level. -/
def Tree.prettyMembers (level : Nat) : List (String × Tree) → List Char
  | [] => lineStart level ++ ['}']
  | (k, t) :: ms =>
    ',' :: lineStart (level + 1) ++ stringText k ++ ':' :: ' ' :: t.prettyAt (level + 1) ++
      Tree.prettyMembers level ms

end

/-- The text with a line for every item and member. -/
def Tree.pretty (t : Tree) : List Char := t.prettyAt 0

example : (Tree.object [("a", .list [.number (.whole (-3)), .null])]).compact =
    ['{', '"', 'a', '"', ':', '[', '-', '3', ',', 'n', 'u', 'l', 'l', ']', '}'] := by decide

end RemoteRollout.Json

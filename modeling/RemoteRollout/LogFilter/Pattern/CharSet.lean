import RemoteRollout.LogFilter.Pattern.Atom

/-!
# Sets of characters

The sets between square brackets in a pattern: characters, ranges of them, named classes and
further sets, which may also be intersected and subtracted.
-/

namespace RemoteRollout.Pattern

mutual

/-- A set between square brackets. -/
inductive CharSet where
  | mk (negated : Bool) (body : SetBody)

/-- What stands between the brackets. -/
inductive SetBody where
  | items (items : List SetItem)
  /-- The two sides of an intersection or a difference. -/
  | combined (left right : SetBody)

/-- One item of a set. -/
inductive SetItem where
  /-- An atom that stands for characters. -/
  | atom (a : Atom)
  /-- All characters from one to another, both as they were written. -/
  | range (first last : Atom)
  /-- A class with a name between colons. -/
  | named (negated : Bool)
  | nested (s : CharSet)

end

instance : Inhabited CharSet := ⟨.mk false (.items [])⟩

/-! ## Reading -/

/-- The names of classes that may stand between colons. -/
def classNames : List String :=
  ["alnum", "alpha", "ascii", "blank", "cntrl", "digit", "graph", "lower", "print", "punct",
    "space", "upper", "word", "xdigit"]

/-- A class between colons, after its opening bracket; nothing if it is none. -/
def namedClass? : List Char → Option (SetItem × List Char)
  | ':' :: cs =>
    let negated := cs.head? == some '^'
    let cs := if negated then cs.tail else cs
    let name := cs.takeWhile (· != ':')
    match cs.dropWhile (· != ':') with
    | ':' :: ']' :: rest =>
      if classNames.contains (String.ofList name) then some (.named negated, rest) else none
    | _ => none
  | _ => none

/-- An end of a range, or an item by itself. -/
def setAtom (spaced : Bool) : List Char → Option (Atom × List Char)
  | [] => none
  | '\\' :: rest => escape spaced rest
  | c :: rest => some (.literal c false, rest)

/-- The first character that is no blank and begins no comment. What stands in a comment
counts. -/
def firstVisible? : (comment : Bool) → List Char → Option Char
  | _, [] => none
  | comment, c :: rest =>
    if Text.isBlank c then firstVisible? comment rest
    else if !comment && c = '#' then firstVisible? true rest
    else some c

/-- The character that decides whether a hyphen before these characters makes a range. -/
def afterHyphen? (spaced : Bool) (cs : List Char) : Option Char :=
  if spaced then (firstVisible? false cs).or cs.head? else cs.head?

/-- The characters from one to another, which must not come before it. -/
def rangeOf? : Atom → Atom → Option SetItem
  | .literal a x, .literal b y =>
    if a ≤ b then some (.range (.literal a x) (.literal b y)) else none
  | _, _ => none

/-- The atom as an item of a set, where places are none. -/
def itemOf? : Atom → Option SetItem
  | .edge | .wordEdge | .any => none
  | a => some (.atom a)

/-- One item, or a range. -/
def setItem (spaced : Bool) (cs : List Char) : Option (SetItem × List Char) := do
  let (first, rest) ← setAtom spaced cs
  match skip spaced rest with
  | [] => none
  | '-' :: rest =>
    if [some ']', some '-'].contains (afterHyphen? spaced rest) then
      return (← itemOf? first, '-' :: rest)
    let (last, rest) ← setAtom spaced (skip spaced rest)
    return (← rangeOf? first last, rest)
  | rest => return (← itemOf? first, rest)

/-- The hyphens at the front of a set, which stand for themselves. -/
def leadingHyphens (spaced : Bool) : Nat → List Char → List SetItem × List Char
  | fuel + 1, '-' :: rest =>
    let (items, rest) := leadingHyphens spaced fuel (skip spaced rest)
    (.atom (.literal '-' false) :: items, rest)
  | _, cs => ([], cs)

/-- The front of a set, after its opening bracket: whether it is negated, and the hyphens or the
closing bracket that stand for themselves. -/
def setFront (spaced : Bool) (cs : List Char) : Bool × List SetItem × List Char :=
  let cs := skip spaced cs
  let negated := cs.head? == some '^'
  let cs := if negated then skip spaced cs.tail else cs
  match leadingHyphens spaced cs.length cs with
  | ([], ']' :: rest) => (negated, [.atom (.literal ']' false)], skip spaced rest)
  | (items, rest) => (negated, items, rest)

/-- The items so far as the right side of what stands before them. -/
def joinBody (left : Option SetBody) (items : List SetItem) : SetBody :=
  match left with
  | none => .items items.reverse
  | some left => .combined left (.items items.reverse)

mutual

/-- A set, after its opening bracket. -/
def readSet (spaced : Bool) : Nat → List Char → Option (CharSet × List Char)
  | 0, _ => none
  | fuel + 1, cs => do
    let (negated, items, rest) := setFront spaced cs
    let (body, rest) ← readBody spaced fuel none items.reverse rest
    return (.mk negated body, rest)

/-- The rest of a set: `left` stands before an operator, and the items so far, in reverse, after
it. -/
def readBody (spaced : Bool) : Nat → Option SetBody → List SetItem → List Char →
    Option (SetBody × List Char)
  | 0, _, _, _ => none
  | fuel + 1, left, items, cs =>
    match skip spaced cs with
    | [] => none
    | ']' :: rest => some (joinBody left items, rest)
    | '&' :: '&' :: rest | '-' :: '-' :: rest | '~' :: '~' :: rest =>
      readBody spaced fuel (some (joinBody left items)) [] rest
    | '[' :: rest =>
      match namedClass? rest with
      | some (item, rest) => readBody spaced fuel left (item :: items) rest
      | none => do
        let (nested, rest) ← readSet spaced fuel rest
        readBody spaced fuel left (.nested nested :: items) rest
    | rest => do
      let (item, rest) ← setItem spaced rest
      readBody spaced fuel left (item :: items) rest

end

/-! ## Nesting and support -/

/-- An item of a set can be matched; without Unicode, a set holds `ASCII` alone. -/
def Atom.isSupportedInSet (unicode : Bool) (a : Atom) : Bool :=
  a.isSupported unicode &&
    match a with
    | literal c _ => unicode || c.toNat < 0x80
    | _ => true

mutual

/-- How deep the parts of a set are nested, the set included. -/
def CharSet.depth : CharSet → Nat
  | .mk _ body => 1 + body.depth

/-- How deep the parts of a body are nested. Several items are a part of their own. -/
def SetBody.depth : SetBody → Nat
  | .items is => (if 1 < is.length then 1 else 0) + itemsDepth is
  | .combined left right => 1 + max left.depth right.depth

/-- How deep the parts of one of the items are nested at most. -/
def itemsDepth : List SetItem → Nat
  | [] => 0
  | .nested s :: rest => max s.depth (itemsDepth rest)
  | _ :: rest => itemsDepth rest

end

mutual

/-- The set can be matched. Without Unicode, no set may be negated. -/
def CharSet.isSupported (unicode : Bool) : CharSet → Bool
  | .mk negated body => (unicode || !negated) && body.isSupported unicode

/-- All parts of the body can be matched. -/
def SetBody.isSupported (unicode : Bool) : SetBody → Bool
  | .items is => areSupported unicode is
  | .combined left right => left.isSupported unicode && right.isSupported unicode

/-- All of the items can be matched. -/
def areSupported (unicode : Bool) : List SetItem → Bool
  | [] => true
  | .atom a :: rest => a.isSupportedInSet unicode && areSupported unicode rest
  | .range first last :: rest =>
    first.isSupportedInSet unicode && last.isSupportedInSet unicode && areSupported unicode rest
  | .named negated :: rest => (unicode || !negated) && areSupported unicode rest
  | .nested s :: rest => s.isSupported unicode && areSupported unicode rest

end

end RemoteRollout.Pattern

import RemoteRollout.LogFilter.Pattern.CharSet
import RemoteRollout.Text.Letter

/-!
# Patterns

The regular expressions that the value of a field may have to match. What a pattern matches is
never asked, since no event lies in a span; but a text that is no pattern makes a filter
unreadable. `isPattern` tells the two apart.

A pattern stands between braces, so it holds no closing brace, and an opening one, outside of a
set, has nothing that could end it.
-/

namespace RemoteRollout

/-- The options that a part of a pattern changes: their letters, those behind a hyphen off, the
others on. -/
abbrev OptionChange := List Char

/-- A regular expression. -/
inductive Pattern where
  | empty
  /-- The options of what follows change. -/
  | options (change : OptionChange)
  | atom (a : Pattern.Atom)
  | set (s : Pattern.CharSet)
  | repeated (p : Pattern)
  /-- A part in parentheses, with options of its own. -/
  | group (change : OptionChange) (p : Pattern)
  | concat (ps : List Pattern)
  | alternatives (ps : List Pattern)
deriving Inhabited

namespace Pattern

/-! ## Options and groups -/

/-- Whether the change turns an option on or off, if it does either. -/
def stateOf? (change : OptionChange) (letter : Char) : Option Bool :=
  if change.contains letter then some !((change.takeWhile (· != letter)).contains '-') else none

/-- What a change of options is written with. -/
def optionLetters : List Char := ['i', 'm', 's', 'U', 'u', 'R', 'x', '-']

/-- The letters of options up to the colon or parenthesis that ends them, after those seen
already, in reverse. None occurs twice, not even the hyphen, and the hyphen is not the last. -/
def readOptions (seen : List Char) : List Char → Option (OptionChange × List Char)
  | [] => none
  | c :: rest =>
    if c = ':' ∨ c = ')' then
      if seen.head? = some '-' then none else some (seen.reverse, c :: rest)
    else if seen.contains c || !optionLetters.contains c then none
    else readOptions (c :: seen) rest

/-- The text is a name of a group. -/
def isGroupName : List Char → Bool
  | [] => false
  | c :: rest =>
    (c == '_' || Text.isLetter c) &&
      rest.all fun c => ['_', '.', '[', ']'].contains c || Text.isLetterOrNumeral c

/-- What is known before a part of a pattern. -/
structure Front where
  rest : List Char
  /-- Blanks and comments count for nothing. -/
  spaced : Bool := false
  /-- The names of groups so far. -/
  names : List (List Char) := []

/-- What an opening parenthesis begins. -/
inductive Opening where
  | change (change : OptionChange)
  | group (change : OptionChange)

/-- A group with a name, after its opening angle bracket. -/
def readName (f : Front) (cs : List Char) : Option (Opening × Front) :=
  let name := cs.takeWhile (· != '>')
  match cs.dropWhile (· != '>') with
  | [] => none
  | _ :: rest =>
    if isGroupName name && !f.names.contains name then
      some (.group [], { f with rest, names := name :: f.names })
    else none

/-- What follows an opening parenthesis. Looking around is not possible. -/
def readOpening (f : Front) (cs : List Char) : Option (Opening × Front) :=
  match skip f.spaced cs with
  | '?' :: '=' :: _ | '?' :: '!' :: _ | '?' :: '<' :: '=' :: _ | '?' :: '<' :: '!' :: _ => none
  | '?' :: 'P' :: '<' :: rest | '?' :: '<' :: rest => readName f rest
  | '?' :: rest => do
    let (change, rest) ← readOptions [] rest
    let f := { f with rest := rest.tail, spaced := (stateOf? change 'x').getD f.spaced }
    if rest.head? = some ':' then return (.group change, f)
    if change.isEmpty then none else return (.change change, f)
  | rest => some (.group [], { f with rest })

/-! ## Reading -/

/-- Parts, in reverse, one after the other. -/
def concatOf : List Pattern → Pattern
  | [] => empty
  | [p] => p
  | ps => concat ps.reverse

/-- Alternatives, in reverse, of which the last is the one that ends here. -/
def alternativesOf (before : List Pattern) (parts : List Pattern) : Pattern :=
  match before with
  | [] => concatOf parts
  | before => alternatives (concatOf parts :: before).reverse

/-- The parts so far, in reverse, of which the last is repeated. -/
def repeatLast : List Pattern → Option (List Pattern)
  | [] | empty :: _ | options _ :: _ => none
  | p :: before => some (repeated p :: before)

/-- The atom that a character stands for where it has no other meaning. -/
def atomOf (c : Char) : Atom :=
  if c = '.' then .any else if c = '^' ∨ c = '$' then .edge else .literal c false

/-- The alternatives of a group, or of the whole pattern: `before` are those that have ended, and
`parts` the parts of the one being read, both in reverse. -/
def read (inGroup : Bool) : Nat → Front → (before parts : List Pattern) →
    Option (Pattern × Front)
  | 0, _, _, _ => none
  | fuel + 1, f, before, parts =>
    match skip f.spaced f.rest with
    | [] => if inGroup then none else some (alternativesOf before parts, { f with rest := [] })
    | c :: rest =>
      let after (rest : List Char) : Front := { f with rest }
      let more (p : Pattern) (f : Front) := read inGroup fuel f before (p :: parts)
      if c = ')' then
        if inGroup then some (alternativesOf before parts, after rest) else none
      else if c = '|' then read inGroup fuel (after rest) (concatOf parts :: before) []
      else if c = '(' then
        match readOpening f rest with
        | none => none
        | some (.change change, f) => more (options change) f
        | some (.group change, inner) => do
          let (p, outer) ← read true fuel inner [] []
          more (group change p) { outer with spaced := f.spaced }
      else if c = '[' then do
        let (s, rest) ← readSet f.spaced (rest.length + 1) rest
        more (set s) (after rest)
      else if c = '?' ∨ c = '*' ∨ c = '+' then do
        let parts ← repeatLast parts
        read inGroup fuel (after (if rest.head? = some '?' then rest.tail else rest)) before parts
      else if c = '\x7b' then none
      else if c = '\\' then do
        let (a, rest) ← escape f.spaced rest
        more (atom a) (after rest)
      else more (atom (atomOf c)) (after rest)

/-- The pattern in a text. -/
def ofText (cs : List Char) : Option Pattern :=
  (read false (cs.length + 1) { rest := cs } [] []).map Prod.fst

/-! ## Nesting and support -/

mutual

/-- How deep the parts of a pattern are nested. -/
def depth : Pattern → Nat
  | empty | options _ | atom _ => 0
  | set s => s.depth
  | repeated p => 1 + p.depth
  | group _ p => 1 + p.depth
  | concat ps => 1 + greatestDepth ps
  | alternatives ps => 1 + greatestDepth ps

/-- How deep the parts of one of the patterns are nested at most. -/
def greatestDepth : List Pattern → Nat
  | [] => 0
  | p :: rest => max p.depth (greatestDepth rest)

end

/-- How deep the parts of a pattern may be nested. -/
def maxDepth : Nat := 250

mutual

/-- Whether characters are those of Unicode after the pattern, if it can be matched. -/
def unicodeAfter (unicode : Bool) : Pattern → Option Bool
  | empty => some unicode
  | options change => some ((stateOf? change 'u').getD unicode)
  | atom a => if a.isSupported unicode then some unicode else none
  | set s => if s.isSupported unicode then some unicode else none
  | repeated p => unicodeAfter unicode p
  | group change p =>
    (unicodeAfter ((stateOf? change 'u').getD unicode) p).map fun _ => unicode
  | concat ps => unicodeAfterAll unicode ps
  | alternatives ps => unicodeAfterAll unicode ps

/-- Whether characters are those of Unicode after all of the patterns. -/
def unicodeAfterAll (unicode : Bool) : List Pattern → Option Bool
  | [] => some unicode
  | p :: rest => do unicodeAfterAll (← unicodeAfter unicode p) rest

end

/-- The text is a pattern that can be matched. -/
def isPattern (cs : List Char) : Bool :=
  match ofText cs with
  | none => false
  | some p => p.depth ≤ maxDepth && (unicodeAfter true p).isSome

example : isPattern "(?i)x|[a-z&&[^b]]*?".toList = true := by decide +kernel

example : isPattern "(?x) # (".toList = true ∧ isPattern "(?-u:\\b)".toList = true := by
  decide +kernel

example : isPattern "a|*".toList = false ∧ isPattern "\\b".toList = false ∧
    isPattern "[z-a]".toList = false := by decide +kernel

end Pattern

end RemoteRollout

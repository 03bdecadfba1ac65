import RemoteRollout.Decimal.Binary64
import RemoteRollout.Text.Quoted
import RemoteRollout.Yaml.Node

/-!
# What a scalar is

A plain scalar may be nothing, a truth value, a number or a string; its tag may settle which. Only
messages depend on it, and truth values: a scalar of any kind can be read as a string.
-/

namespace RemoteRollout.Yaml

/-- What a node is, as far as messages tell. -/
inductive Found where
  | nothing
  | bool (value : Bool)
  | int (value : Int)
  /-- A whole number of more than 64 bits; the flag tells whether it is negative. -/
  | bigInt (value : Int) (negative : Bool)
  | float (value : Decimal.Binary64)
  | string (value : String)
  | sequence
  | mapping
deriving DecidableEq, Repr

/-- A number in double precision, without an exponent; a finite one always has a point. -/
def floatText (x : Decimal.Binary64) : String :=
  if x.isSpecial then
    if x.fraction = 0 then (if x.isNegative then "-inf" else "inf") else "NaN"
  else String.ofList (x.signed x.shortest.positional)

/-- How messages call the node. -/
def Found.text : Found → String
  | nothing => "unit value"
  | bool b => if b then "boolean `true`" else "boolean `false`"
  | int n => "integer `" ++ toString n ++ "`"
  | bigInt n negative =>
    "integer `" ++ toString n ++ (if negative then "` as i128" else "` as u128")
  | float x => "floating point `" ++ floatText x ++ "`"
  | string s => "string " ++ Text.quoted s
  | sequence => "sequence"
  | mapping => "map"

/-! ## Truth values -/

/-- The truth value that a scalar spells. -/
def boolOf? (s : String) : Option Bool :=
  if s = "true" ∨ s = "True" ∨ s = "TRUE" then some true
  else if s = "false" ∨ s = "False" ∨ s = "FALSE" then some false
  else none

/-- The scalar spells nothing. -/
def isNull (s : String) : Bool := s = "null" || s = "Null" || s = "NULL" || s = "~"

/-! ## Numbers -/

/-- The value of a digit in some base up to sixteen. -/
def digitOf? (base : Nat) (c : Char) : Option Nat :=
  (Text.hexValue? c).bind fun n => if n < base then some n else none

/-- The value of digits in some base; there is at least one. -/
def naturalOf? (base : Nat) : List Char → Option Nat
  | [] => none
  | cs => cs.foldl (fun n c => n.bind fun n => (digitOf? base c).map (n * base + ·)) (some 0)

/-- The number is written with a leading zero that does not belong there. -/
def hasIdleZero (cs : List Char) : Bool :=
  let digits := match cs with
    | '-' :: rest | '+' :: rest => rest
    | cs => cs
  match digits with
  | '0' :: _ :: _ => digits.all Char.isDigit
  | _ => false

/-- A number written in another base than ten, after its sign. -/
def basedOf? : List Char → Option Nat
  | '0' :: 'x' :: rest => naturalOf? 16 rest
  | '0' :: 'o' :: rest => naturalOf? 8 rest
  | '0' :: 'b' :: rest => naturalOf? 2 rest
  | _ => none

/-- The size of a whole number after its sign, in any base. -/
def sizeOf? (cs digits : List Char) (fits : Nat → Bool) : Option Nat :=
  match (basedOf? digits).filter fits with
  | some n => some n
  | none => if hasIdleZero cs then none else (naturalOf? 10 digits).filter fits

/-- Half of the numbers that 64 bits hold. -/
def half64 : Nat := 0x8000000000000000

/-- Half of the numbers that 128 bits hold. -/
def half128 : Nat := 0x80000000000000000000000000000000

/-- A whole number without a minus sign below twice the bound. -/
def unsignedOf? (half : Nat) (cs : List Char) : Option Nat :=
  let digits := match cs with
    | '+' :: rest => rest
    | cs => cs
  sizeOf? cs digits (· < 2 * half)

/-- The size of a whole number with a minus sign, up to the bound. -/
def negativeOf? (half : Nat) : List Char → Option Nat
  | '-' :: digits => sizeOf? ('-' :: digits) digits (· ≤ half)
  | _ => none

/-- The whole number that a scalar spells. -/
def intOf? (cs : List Char) : Option Found :=
  match unsignedOf? half64 cs with
  | some n => some (.int n)
  | none =>
    match negativeOf? half64 cs with
    | some n => some (.int (-n))
    | none =>
      match unsignedOf? half128 cs with
      | some n => some (.bigInt n false)
      | none => (negativeOf? half128 cs).map fun n => .bigInt (-n) true

/-- Digits, perhaps a point and more digits, and perhaps an exponent: the digits as a number, how
many of them stand behind the point, and the exponent. -/
def decimalOf? (cs : List Char) : Option (Nat × Nat × Int) := do
  let whole := cs.takeWhile Char.isDigit
  let rest := cs.dropWhile Char.isDigit
  let (fraction, rest) := match rest with
    | '.' :: rest => (rest.takeWhile Char.isDigit, rest.dropWhile Char.isDigit)
    | rest => ([], rest)
  let digits ← naturalOf? 10 (whole ++ fraction)
  match rest with
  | [] => return (digits, fraction.length, 0)
  | e :: rest =>
    if e ≠ 'e' ∧ e ≠ 'E' then none
    let exponent ← match rest with
      | '-' :: ds => (naturalOf? 10 ds).map fun n => -(n : Int)
      | '+' :: ds => (naturalOf? 10 ds).map fun n => (n : Int)
      | ds => (naturalOf? 10 ds).map fun n => (n : Int)
    return (digits, fraction.length, exponent)

/-- The nearest number of double precision; nothing if it is too large. -/
def nearest? (digits places : Nat) (exponent : Int) : Option Float :=
  let power : Int := exponent - places
  let x :=
    if digits = 0 ∨ power < -100000 then 0
    else if 100000 < power then Float.ofScientific 1 false 400
    else if 0 ≤ power then Float.ofScientific digits false power.toNat
    else Float.ofScientific digits true (-power).toNat
  if x.isInf then none else some x

/-- The number in double precision that a scalar spells. -/
def floatOf? (cs : List Char) : Option Decimal.Binary64 :=
  let unsigned := match cs with
    | '+' :: rest => rest
    | cs => cs
  let (negative, size) := match unsigned with
    | '-' :: rest => (true, rest)
    | rest => (false, rest)
  if cs.head? = some '+' ∧ negative then none
  else
    let word := String.ofList unsigned
    let whole := String.ofList cs
    if word = ".inf" ∨ word = ".Inf" ∨ word = ".INF" then some ⟨0x7FF0000000000000⟩
    else if whole = "-.inf" ∨ whole = "-.Inf" ∨ whole = "-.INF" then some ⟨0xFFF0000000000000⟩
    else if whole = ".nan" ∨ whole = ".NaN" ∨ whole = ".NAN" then some ⟨0x7FF8000000000000⟩
    else do
      let (digits, places, exponent) ← decimalOf? size
      let x ← nearest? digits places exponent
      return if negative then (Decimal.Binary64.ofFloat x).negated else .ofFloat x

/-! ## Scalars -/

/-- What a scalar spells that no tag settles. -/
def untagged (s : String) : Found :=
  let cs := s.toList
  if cs.isEmpty || isNull s then .nothing
  else
    match boolOf? s with
    | some b => .bool b
    | none =>
      match intOf? cs with
      | some found => found
      | none =>
        match (if hasIdleZero cs then none else floatOf? cs) with
        | some x => .float x
        | none => .string s

/-- The tag of truth values. -/
def boolTag : String := "tag:yaml.org,2002:bool"

/-- The tag of whole numbers. -/
def intTag : String := "tag:yaml.org,2002:int"

/-- The tag of numbers with a fraction. -/
def floatTag : String := "tag:yaml.org,2002:float"

/-- The tag of nothing. -/
def nullTag : String := "tag:yaml.org,2002:null"

/-- What a tagged scalar is, or what its tag asks for. -/
def tagged (tag : String) (style : Style) (s : String) : Except String Found :=
  let or (found : Option Found) (expected : String) : Except String Found :=
    match found with
    | some f => .ok f
    | none => .error expected
  if tag = boolTag then or ((boolOf? s).map .bool) "a boolean"
  else if tag = intTag then or (intOf? s.toList) "an integer"
  else if tag = floatTag then or ((floatOf? s.toList).map .float) "a float"
  else if tag = nullTag then or (if isNull s then some .nothing else none) "null"
  else if tag.toList.head? = some '!' ∧ style = .plain then .ok (untagged s)
  else .ok (.string s)

/-- What a scalar is, or what its tag asks for. -/
def scalarFound (style : Style) (tag : Option String) (s : String) : Except String Found :=
  match tag with
  | some tag => tagged tag style s
  | none => .ok (if style = .plain then untagged s else .string s)

end RemoteRollout.Yaml

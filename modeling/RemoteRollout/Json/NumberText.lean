import RemoteRollout.Json.Fault

/-!
# Reading numbers

The parts of a number as it is written, and its value. A number without a fraction or an exponent
that fits 64 bits is whole. Any other is the significand, of which as many digits are kept as fit
64 bits, times a power of ten, in double precision; `-0` too, as whole numbers have no sign of
zero.
-/

namespace RemoteRollout.Json

/-- The byte is a decimal digit. -/
def isDigit (b : UInt8) : Bool := 0x30 ≤ b.toNat && b.toNat ≤ 0x39

/-- The value of a decimal digit. -/
def digitValue (b : UInt8) : Nat := b.toNat - 0x30

/-- The digits at the front of the text, and what follows them. -/
def digitRun (bs : List UInt8) : List UInt8 × List UInt8 :=
  (bs.takeWhile isDigit, bs.dropWhile isDigit)

/-- The parts of a number as it is written. -/
structure Literal where
  negative : Bool
  whole : List UInt8
  /-- The digits behind the point. -/
  fraction : Option (List UInt8)
  /-- Whether the exponent is negative, and its digits. -/
  exponent : Option (Bool × List UInt8)
deriving DecidableEq, Repr

namespace Literal

/-- The digits before the point, without a leading zero unless it is the only one. What stands in
the wrong place is answered as the fault. -/
def wholePart (bs : List UInt8) : Except (List UInt8) (List UInt8 × List UInt8) :=
  match digitRun bs with
  | ([], _) => .error bs
  | (d :: e :: ds, rest) =>
    if d = '0'.toUInt8 then .error (e :: ds ++ rest) else .ok (d :: e :: ds, rest)
  | (ds, rest) => .ok (ds, rest)

/-- The digits behind the point, if there is one. -/
def fractionPart (bs : List UInt8) : Except (List UInt8) (Option (List UInt8) × List UInt8) :=
  match bs with
  | [] => .ok (none, [])
  | b :: rest =>
    if b = '.'.toUInt8 then
      match digitRun rest with
      | ([], _) => .error rest
      | (ds, rest) => .ok (some ds, rest)
    else .ok (none, b :: rest)

/-- The sign at the front of an exponent. -/
def exponentSign : List UInt8 → Bool × List UInt8
  | [] => (false, [])
  | b :: rest =>
    if b = '-'.toUInt8 then (true, rest)
    else if b = '+'.toUInt8 then (false, rest)
    else (false, b :: rest)

/-- The exponent, if there is one. -/
def exponentPart (bs : List UInt8) :
    Except (List UInt8) (Option (Bool × List UInt8) × List UInt8) :=
  match bs with
  | [] => .ok (none, [])
  | b :: rest =>
    if b = 'e'.toUInt8 ∨ b = 'E'.toUInt8 then
      let (negative, rest) := exponentSign rest
      match digitRun rest with
      | ([], _) => .error rest
      | (ds, rest) => .ok (some (negative, ds), rest)
    else .ok (none, b :: rest)

/-- The number after its sign, and what follows it. -/
def scan (negative : Bool) (bs : List UInt8) : Except (List UInt8) (Literal × List UInt8) := do
  let (whole, rest) ← wholePart bs
  let (fraction, rest) ← fractionPart rest
  let (exponent, rest) ← exponentPart rest
  return ({ negative, whole, fraction, exponent }, rest)

/-! ## The value -/

/-- A significand with further digits, as long as it stays below `limit`, and the digits that did
not fit. -/
def absorb (limit : Nat) : Nat → List UInt8 → Nat × List UInt8
  | n, [] => (n, [])
  | n, d :: ds =>
    if n * 10 + digitValue d < limit then absorb limit (n * 10 + digitValue d) ds
    else (n, d :: ds)

/-- Ten to a power of at most 308. -/
def powerOfTen (n : Nat) : Float := Float.ofScientific 1 false n

/-- A number times a power of ten, in steps of at most 308 places; nothing if it is too large.
Three steps take every significand to zero. -/
def scaled : Nat → Float → Int → Option Float
  | 0, _, _ => some 0
  | fuel + 1, x, e =>
    if e.natAbs ≤ 308 then
      if 0 ≤ e then
        let y := x * powerOfTen e.natAbs
        if y.isInf then none else some y
      else some (x / powerOfTen e.natAbs)
    else if x == 0 then some x
    else if 0 ≤ e then none
    else scaled fuel (x / powerOfTen 308) (e + 308)

/-- A whole significand in double precision. -/
def ofSignificand (n : Nat) : Float := n.toUInt64.toFloat

/-- The number with its sign. -/
def signed (negative : Bool) (x : Float) : Number :=
  .real (if negative then (Decimal.Binary64.ofFloat x).negated else .ofFloat x)

/-- The digits of the significand that are kept, and the power of ten that goes with them. -/
def significand (l : Literal) : Nat × Int :=
  let (n, left) := absorb 0x10000000000000000 0 l.whole
  match l.fraction with
  | none => (n, left.length)
  | some ds =>
    let (m, unread) := absorb 0x10000000000000000 n ds
    (m, left.length - (ds.length - unread.length : Nat))

/-- The value of a number that is followed by `rest`, or the fault that it is too large. -/
def value (l : Literal) (rest : List UInt8) : Except Fault Number :=
  let (n, power) := l.significand
  let tooLarge (left : List UInt8) : Except Fault Number := .error ⟨.numberOutOfRange, left⟩
  match l.exponent with
  | some (below, ds) =>
    match absorb 0x80000000 0 ds with
    | (e, []) =>
      match scaled 4 (ofSignificand n) (if below then power - e else power + e) with
      | some x => .ok (signed l.negative x)
      | none => tooLarge rest
    | (_, _ :: left) =>
      if n ≠ 0 ∧ !below then tooLarge (left ++ rest) else .ok (signed l.negative 0)
  | none =>
    if l.fraction.isNone ∧ power = 0 then
      if !l.negative then .ok (.whole n)
      else if 0 < n ∧ n ≤ 0x8000000000000000 then .ok (.whole (-n))
      else .ok (signed true (ofSignificand n))
    else
      match scaled 4 (ofSignificand n) power with
      | some x => .ok (signed l.negative x)
      | none => tooLarge rest

end Literal

end RemoteRollout.Json

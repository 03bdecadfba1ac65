/-!
# Shortest decimals

The shortest decimal that reads back as a given binary fraction `m · 2 ^ q` of double precision:
of the numbers with the fewest digits that round to it, the nearest one, and of two equally near
the one whose last digit is even.

A number rounds to `m · 2 ^ q` if it lies between the midpoints to the two neighbours; the lower
neighbour of a power of two is only half as far away. All comparisons are exact.
-/

namespace RemoteRollout.Decimal

/-- A decimal `digits · 10 ^ exponent`. -/
structure Scaled where
  digits : Nat
  exponent : Int
deriving DecidableEq, Repr, Inhabited

/-- A positive fraction. -/
structure Fraction where
  num : Nat
  den : Nat
deriving DecidableEq, Repr, Inhabited

namespace Fraction

/-- The fraction times a power of the base. -/
def scale (f : Fraction) (base : Nat) (exponent : Int) : Fraction :=
  if 0 ≤ exponent then { f with num := f.num * Nat.pow base exponent.toNat }
  else { f with den := f.den * Nat.pow base (-exponent).toNat }

/-- The order of two fractions. -/
def compare (f g : Fraction) : Ordering := Ord.compare (f.num * g.den) (g.num * f.den)

/-- The greatest whole number that is not above the fraction. -/
def floor (f : Fraction) : Nat := f.num / f.den

/-- How many decimal places to the right the fraction below 1 has to be moved to reach 1,
looked for up to `fuel` places. -/
def placesToOne : Nat → Fraction → Nat
  | 0, _ => 0
  | fuel + 1, f => if f.den ≤ f.num then 0 else placesToOne fuel { f with num := f.num * 10 } + 1

/-- The exponent `k` with `10 ^ (k - 1) ≤ f < 10 ^ k`. -/
def magnitude (f : Fraction) : Int :=
  if f.den ≤ f.num then (Nat.toDigits 10 f.floor).length
  else 1 - (placesToOne 400 f : Int)

end Fraction

/-- The numbers that round to a binary fraction: those between two midpoints, the midpoints
included if its mantissa is even. -/
structure Interval where
  low : Fraction
  value : Fraction
  high : Fraction
  closed : Bool

namespace Interval

/-- The interval around `m · 2 ^ q`. -/
def around (m : Nat) (q : Int) : Interval :=
  let below := if m = 0x10000000000000 ∧ q ≠ -1074 then 1 else 2
  { low := Fraction.scale ⟨4 * m - below, 1⟩ 2 (q - 2)
    value := Fraction.scale ⟨4 * m, 1⟩ 2 (q - 2)
    high := Fraction.scale ⟨4 * m + 2, 1⟩ 2 (q - 2)
    closed := m % 2 = 0 }

/-- The fraction lies in the interval. -/
def contains (i : Interval) (f : Fraction) : Bool :=
  match i.low.compare f, f.compare i.high with
  | .lt, .lt => true
  | .gt, _ | _, .gt => false
  | _, _ => i.closed

/-- The neighbour of the value on the grid of multiples of `10 ^ exponent` that lies in the
interval and is nearest. -/
def onGrid? (i : Interval) (exponent : Int) : Option Scaled :=
  let scaled := i.value.scale 10 (-exponent)
  let down := scaled.floor
  let inside (d : Nat) : Bool := i.contains (Fraction.scale ⟨d, 1⟩ 10 exponent)
  match 0 < down && inside down, inside (down + 1) with
  | true, true =>
    let twice : Fraction := { scaled with num := scaled.num * 2 }
    match twice.compare ⟨2 * down + 1, 1⟩ with
    | .lt => some ⟨down, exponent⟩
    | .gt => some ⟨down + 1, exponent⟩
    | .eq => some ⟨if down % 2 = 0 then down else down + 1, exponent⟩
  | true, false => some ⟨down, exponent⟩
  | false, true => some ⟨down + 1, exponent⟩
  | false, false => none

/-- The first grid with a hit, from the coarsest of `count` on; each next one is ten times
finer. -/
def firstHit (i : Interval) : Nat → Int → Option Scaled
  | 0, _ => none
  | count + 1, exponent => (i.onGrid? exponent).or (i.firstHit count (exponent - 1))

end Interval

/-- Trailing zeros moved into the exponent, at most `fuel` of them. -/
def Scaled.trimmed : Nat → Scaled → Scaled
  | 0, d => d
  | fuel + 1, d =>
    if d.digits % 10 = 0 then Scaled.trimmed fuel ⟨d.digits / 10, d.exponent + 1⟩ else d

/-- The shortest decimal that reads back as `m · 2 ^ q`, where `m` is not zero. Seventeen digits
always suffice. -/
def shortest (m : Nat) (q : Int) : Scaled :=
  let i := Interval.around m q
  ((i.firstHit 17 (i.value.magnitude - 1)).getD ⟨m, 0⟩).trimmed 17

example : shortest 0x1999999999999A (-56) = ⟨1, -1⟩ := by decide +kernel

example : shortest 1 (-1074) = ⟨5, -324⟩ := by decide +kernel

end RemoteRollout.Decimal

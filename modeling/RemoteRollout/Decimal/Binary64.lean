import RemoteRollout.Decimal.Shortest

/-!
# Binary fractions of double precision

Numbers kept by their 64 bits, so that two of them are equal only if they are the same number with
the same sign of zero, and their texts: the shortest decimal that reads back, laid out with or
without an exponent.
-/

namespace RemoteRollout.Decimal

/-- A number of double precision. -/
structure Binary64 where
  bits : UInt64
deriving DecidableEq, Repr, Inhabited

namespace Scaled

/-- The digits of the decimal. -/
def digitChars (d : Scaled) : List Char := Nat.toDigits 10 d.digits

/-- The exponent of the decimal's first digit. -/
def leading (d : Scaled) : Int := d.digitChars.length + d.exponent - 1

/-- The decimal without an exponent, with at least one digit on each side of the point. -/
def positional (d : Scaled) : List Char :=
  let ds := d.digitChars
  if 0 ≤ d.exponent then ds ++ List.replicate d.exponent.toNat '0' ++ ['.', '0']
  else
    let places := (-d.exponent).toNat
    if places < ds.length then
      ds.take (ds.length - places) ++ '.' :: ds.drop (ds.length - places)
    else '0' :: '.' :: List.replicate (places - ds.length) '0' ++ ds

/-- The decimal with one digit before the point, if there are more, and an exponent that always
carries its sign. -/
def scientific (d : Scaled) : List Char :=
  let exponent :=
    (if d.leading < 0 then '-' else '+') :: Nat.toDigits 10 d.leading.natAbs
  match d.digitChars with
  | [] => 'e' :: exponent
  | [c] => c :: 'e' :: exponent
  | c :: cs => c :: '.' :: cs ++ 'e' :: exponent

end Scaled

namespace Binary64

/-- The bits of a number. -/
def ofFloat (x : Float) : Binary64 := ⟨x.toBits⟩

/-- The number with its sign bit set. -/
def negated (x : Binary64) : Binary64 := ⟨x.bits ||| 0x8000000000000000⟩

/-- The sign bit. -/
def isNegative (x : Binary64) : Bool := 0x8000000000000000 ≤ x.bits.toNat

/-- The eleven bits of the biased exponent. -/
def biased (x : Binary64) : Nat := x.bits.toNat / 0x10000000000000 % 0x800

/-- The fifty-two bits of the fraction. -/
def fraction (x : Binary64) : Nat := x.bits.toNat % 0x10000000000000

/-- The number is infinite, or no number at all. -/
def isSpecial (x : Binary64) : Bool := x.biased == 2047

/-- The shortest decimal that reads back as the size of a finite number. -/
def shortest (x : Binary64) : Scaled :=
  if x.biased = 0 then
    if x.fraction = 0 then ⟨0, 0⟩ else Decimal.shortest x.fraction (-1074)
  else Decimal.shortest (x.fraction + 0x10000000000000) (x.biased - 1075)

/-- The text of a number whose size is laid out by `layout`. -/
def signed (x : Binary64) (layout : List Char) : List Char :=
  if x.isNegative then '-' :: layout else layout

end Binary64

end RemoteRollout.Decimal

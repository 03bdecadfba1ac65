import RemoteRollout.LogFilter.Pattern

/-!
# Tests of a value

What a directive may ask of the value of a field: that it is a certain truth value or number, or
that it matches a pattern.
-/

namespace RemoteRollout.ValueTest

/-- The text without a sign at its front. -/
def withoutSign : List Char → List Char
  | '+' :: rest | '-' :: rest => rest
  | cs => cs

/-- Digits, at least one. -/
def isDigits (cs : List Char) : Bool := !cs.isEmpty && cs.all Char.isDigit

/-- The text is an exponent, or empty. -/
def isExponent : List Char → Bool
  | [] => true
  | c :: rest => (c == 'e' || c == 'E') && isDigits (withoutSign rest)

/-- The text is a number in decimal notation, without a sign: digits before or behind the point,
and perhaps an exponent. -/
def isDecimal (cs : List Char) : Bool :=
  let whole := cs.takeWhile Char.isDigit
  match cs.dropWhile Char.isDigit with
  | '.' :: rest =>
    !(whole.isEmpty && (rest.takeWhile Char.isDigit).isEmpty) &&
      isExponent (rest.dropWhile Char.isDigit)
  | rest => !whole.isEmpty && isExponent rest

/-- The text is a number, which may be infinite or none at all. -/
def isNumber (cs : List Char) : Bool :=
  let size := withoutSign cs
  isDecimal size ||
    ["inf", "infinity", "nan"].contains (String.ofList (size.map Char.toLower))

/-- A value can be tested for the text. The names of the two truth values are patterns. -/
def isTest (cs : List Char) : Bool := isNumber cs || Pattern.isPattern cs

example : isTest "+5".toList = true ∧ isTest "+.5e-3".toList = true ∧ isTest "+".toList = false := by
  decide +kernel

end RemoteRollout.ValueTest

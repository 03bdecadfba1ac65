/-!
# UTF-8

The bytes of a text, and the characters of a run of bytes. Reading never fails: a byte that is
no part of a well-formed sequence is kept as a stray one, so that positions stay exact.
`decode_encode` says that what was written is read back.
-/

namespace RemoteRollout.Text

/-- One step of reading bytes: a character, or a byte that belongs to none. -/
inductive Symbol where
  | char (c : Char)
  | stray (b : UInt8)
deriving DecidableEq, Repr, Inhabited

namespace Utf8

/-- The bytes of a character with this code point. -/
def encodeChar (c : Char) : List UInt8 :=
  let n := c.toNat
  if n < 0x80 then [UInt8.ofNat n]
  else if n < 0x800 then [UInt8.ofNat (0xC0 + n / 64), UInt8.ofNat (0x80 + n % 64)]
  else if n < 0x10000 then
    [UInt8.ofNat (0xE0 + n / 4096), UInt8.ofNat (0x80 + n / 64 % 64),
      UInt8.ofNat (0x80 + n % 64)]
  else
    [UInt8.ofNat (0xF0 + n / 262144), UInt8.ofNat (0x80 + n / 4096 % 64),
      UInt8.ofNat (0x80 + n / 64 % 64), UInt8.ofNat (0x80 + n % 64)]

/-- How many bytes a character takes. -/
def width (c : Char) : Nat :=
  let n := c.toNat
  if n < 0x80 then 1 else if n < 0x800 then 2 else if n < 0x10000 then 3 else 4

/-- The text after its first `n` bytes, unless they end inside of a character. -/
def dropBytes? : Nat → List Char → Option (List Char)
  | 0, cs => some cs
  | _ + 1, [] => none
  | n + 1, c :: rest => if width c ≤ n + 1 then dropBytes? (n + 1 - width c) rest else none

/-- The first `n` bytes of a text, unless they end inside of a character. -/
def takeBytes? : Nat → List Char → Option (List Char)
  | 0, _ => some []
  | _ + 1, [] => none
  | n + 1, c :: rest =>
    if width c ≤ n + 1 then (takeBytes? (n + 1 - width c) rest).map (c :: ·) else none

/-- The bytes of a text. -/
def encode (cs : List Char) : List UInt8 := cs.flatMap encodeChar

/-- The low six bits of a continuation byte, if it is one. -/
def continuation? (b : UInt8) : Option Nat :=
  if 0x80 ≤ b.toNat ∧ b.toNat < 0xC0 then some (b.toNat - 0x80) else none

/-- The code point of a two-byte sequence. -/
def pair? (a b : UInt8) : Option Nat :=
  if 0xC2 ≤ a.toNat ∧ a.toNat < 0xE0 then
    (continuation? b).map fun y => (a.toNat - 0xC0) * 64 + y
  else none

/-- The code point of a three-byte sequence: none that two bytes could hold, and no surrogate. -/
def triple? (a b c : UInt8) : Option Nat :=
  if 0xE0 ≤ a.toNat ∧ a.toNat < 0xF0 then
    match continuation? b, continuation? c with
    | some y, some z =>
      let n := (a.toNat - 0xE0) * 4096 + y * 64 + z
      if 0x800 ≤ n ∧ ¬(0xD800 ≤ n ∧ n < 0xE000) then some n else none
    | _, _ => none
  else none

/-- The code point of a four-byte sequence, up to `U+10FFFF`. -/
def quadruple? (a b c d : UInt8) : Option Nat :=
  if 0xF0 ≤ a.toNat ∧ a.toNat < 0xF5 then
    match continuation? b, continuation? c, continuation? d with
    | some y, some z, some w =>
      let n := (a.toNat - 0xF0) * 262144 + y * 4096 + z * 64 + w
      if 0x10000 ≤ n ∧ n < 0x110000 then some n else none
    | _, _, _ => none
  else none

/-- The code point of the well-formed sequence these bytes begin with, and the number of
continuation bytes it takes. -/
def sequence? (a : UInt8) (rest : List UInt8) : Option (Nat × Nat) :=
  if a.toNat < 0x80 then some (a.toNat, 0)
  else
    match rest with
    | [] => none
    | b :: rest₁ =>
      match pair? a b with
      | some n => some (n, 1)
      | none =>
        match rest₁ with
        | [] => none
        | c :: rest₂ =>
          match triple? a b c with
          | some n => some (n, 2)
          | none =>
            match rest₂ with
            | [] => none
            | d :: _ => (quadruple? a b c d).map (·, 3)

/-- The symbols of a run of bytes, of which the first `skip` belong to a character already
read. -/
def decodeFrom : Nat → List UInt8 → List Symbol
  | _, [] => []
  | skip + 1, _ :: rest => decodeFrom skip rest
  | 0, a :: rest =>
    match sequence? a rest with
    | some (n, more) => .char (Char.ofNat n) :: decodeFrom more rest
    | none => .stray a :: decodeFrom 0 rest

/-- The symbols of a run of bytes, from left to right. -/
def decode (bytes : List UInt8) : List Symbol := decodeFrom 0 bytes

/-- The text of these bytes, if they are well formed throughout. -/
def text? (bytes : List UInt8) : Option (List Char) :=
  (decode bytes).mapM fun
    | .char c => some c
    | .stray _ => none

/-- The bytes of a string. -/
def ofString (s : String) : List UInt8 := encode s.toList

private theorem toNat_ofNat_lt {n : Nat} (h : n < 256) : (UInt8.ofNat n).toNat = n := by
  simp [UInt8.toNat_ofNat', Nat.mod_eq_of_lt h]

private theorem continuation?_ofNat {y : Nat} (h : y < 64) :
    continuation? (UInt8.ofNat (0x80 + y)) = some y := by
  simp only [continuation?, toNat_ofNat_lt (show 0x80 + y < 256 by omega)]
  rw [if_pos (by omega), Nat.add_sub_cancel_left]

private theorem ofNat_toNat (c : Char) : Char.ofNat c.toNat = c := by simp

/-- The bytes of a character are read as that character, whatever follows. -/
theorem decode_encodeChar_append (c : Char) (rest : List UInt8) :
    decode (encodeChar c ++ rest) = .char c :: decode rest := by
  have hv : c.toNat < 0xD800 ∨ 0xDFFF < c.toNat ∧ c.toNat < 0x110000 := c.valid
  have hc := ofNat_toNat c
  obtain ⟨n, hn⟩ : ∃ n, c.toNat = n := ⟨_, rfl⟩
  rw [hn] at hv hc
  simp only [encodeChar, hn]
  split
  · next h =>
    have ha := toNat_ofNat_lt (show n < 256 by omega)
    simp [decode, decodeFrom, sequence?, ha, h, hc]
  · next h₁ =>
    split
    · next h =>
      have ha := toNat_ofNat_lt (show 0xC0 + n / 64 < 256 by omega)
      have hs : sequence? (UInt8.ofNat (0xC0 + n / 64))
          (UInt8.ofNat (0x80 + n % 64) :: rest) = some (n, 1) := by
        simp only [sequence?, ha, if_neg (show ¬0xC0 + n / 64 < 0x80 by omega), pair?,
          if_pos (show 0xC2 ≤ 0xC0 + n / 64 ∧ 0xC0 + n / 64 < 0xE0 by omega),
          continuation?_ofNat (show n % 64 < 64 by omega), Option.map_some]
        rw [show (0xC0 + n / 64 - 0xC0) * 64 + n % 64 = n by omega]
      simp only [decode, decodeFrom, List.cons_append, List.nil_append, hs, hc]
    · next h₂ =>
      split
      · next h =>
        have ha := toNat_ofNat_lt (show 0xE0 + n / 4096 < 256 by omega)
        have hs : sequence? (UInt8.ofNat (0xE0 + n / 4096))
            (UInt8.ofNat (0x80 + n / 64 % 64) :: UInt8.ofNat (0x80 + n % 64) :: rest) =
              some (n, 2) := by
          simp only [sequence?, ha, if_neg (show ¬0xE0 + n / 4096 < 0x80 by omega), pair?,
            if_neg (show ¬(0xC2 ≤ 0xE0 + n / 4096 ∧ 0xE0 + n / 4096 < 0xE0) by omega), triple?,
            if_pos (show 0xE0 ≤ 0xE0 + n / 4096 ∧ 0xE0 + n / 4096 < 0xF0 by omega),
            continuation?_ofNat (show n % 64 < 64 by omega),
            continuation?_ofNat (show n / 64 % 64 < 64 by omega)]
          rw [show (0xE0 + n / 4096 - 0xE0) * 4096 + n / 64 % 64 * 64 + n % 64 = n by omega,
            if_pos (by omega)]
        simp only [decode, decodeFrom, List.cons_append, List.nil_append, hs, hc]
      · next h₃ =>
        have ha := toNat_ofNat_lt (show 0xF0 + n / 262144 < 256 by omega)
        have hs : sequence? (UInt8.ofNat (0xF0 + n / 262144))
            (UInt8.ofNat (0x80 + n / 4096 % 64) :: UInt8.ofNat (0x80 + n / 64 % 64) ::
              UInt8.ofNat (0x80 + n % 64) :: rest) = some (n, 3) := by
          simp only [sequence?, ha, if_neg (show ¬0xF0 + n / 262144 < 0x80 by omega), pair?,
            if_neg (show ¬(0xC2 ≤ 0xF0 + n / 262144 ∧ 0xF0 + n / 262144 < 0xE0) by omega),
            triple?,
            if_neg (show ¬(0xE0 ≤ 0xF0 + n / 262144 ∧ 0xF0 + n / 262144 < 0xF0) by omega),
            quadruple?,
            if_pos (show 0xF0 ≤ 0xF0 + n / 262144 ∧ 0xF0 + n / 262144 < 0xF5 by omega),
            continuation?_ofNat (show n % 64 < 64 by omega),
            continuation?_ofNat (show n / 64 % 64 < 64 by omega),
            continuation?_ofNat (show n / 4096 % 64 < 64 by omega)]
          rw [show (0xF0 + n / 262144 - 0xF0) * 262144 + n / 4096 % 64 * 4096
              + n / 64 % 64 * 64 + n % 64 = n by omega, if_pos (by omega)]
          rfl
        simp only [decode, decodeFrom, List.cons_append, List.nil_append, hs, hc]

/-- What was written is read back. -/
theorem decode_encode (cs : List Char) : decode (encode cs) = cs.map .char := by
  induction cs with
  | nil => rfl
  | cons c rest ih =>
    rw [show encode (c :: rest) = encodeChar c ++ encode rest from rfl, decode_encodeChar_append, ih]
    rfl

end Utf8

end RemoteRollout.Text

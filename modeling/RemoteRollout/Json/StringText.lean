import RemoteRollout.Json.Fault
import RemoteRollout.Text.Utf8

/-!
# Reading strings

The text between the quotes of a `JSON` string is read byte by byte. A strict reading answers the
bytes the string stands for and refuses unpaired surrogates; a loose one, for values that nobody
looks at, only finds the end and checks the form of the escapes.
-/

namespace RemoteRollout.Json

/-- How a string is read. -/
inductive Reading where
  | strict
  | loose
deriving DecidableEq, Repr

/-- What the bytes read so far ask for. A high surrogate waits for its low partner. -/
inductive Expecting where
  /-- A character, a backslash or the closing quote. -/
  | text (high : Option Nat)
  /-- The letter of an escape. -/
  | escape (high : Option Nat)
  /-- The digits of a hexadecimal escape after the first `count`, whose value is known if all of
  them were digits. -/
  | hex (high : Option Nat) (count : Nat) (value : Option Nat)
deriving DecidableEq, Repr

/-- The value of a hexadecimal digit. -/
def hexValue? (b : UInt8) : Option Nat :=
  let n := b.toNat
  if 0x30 ≤ n ∧ n ≤ 0x39 then some (n - 0x30)
  else if 0x41 ≤ n ∧ n ≤ 0x46 then some (n - 0x37)
  else if 0x61 ≤ n ∧ n ≤ 0x66 then some (n - 0x57)
  else none

/-- The byte that an escape of one letter stands for. -/
def unescaped? (b : UInt8) : Option UInt8 :=
  if b = '"'.toUInt8 ∨ b = '\\'.toUInt8 ∨ b = '/'.toUInt8 then some b
  else if b = 'b'.toUInt8 then some 0x08
  else if b = 'f'.toUInt8 then some 0x0C
  else if b = 'n'.toUInt8 then some 0x0A
  else if b = 'r'.toUInt8 then some 0x0D
  else if b = 't'.toUInt8 then some 0x09
  else none

/-- The code unit is the first half of a surrogate pair. -/
def isHighSurrogate (n : Nat) : Bool := 0xD800 ≤ n && n < 0xDC00

/-- The code unit is the second half of a surrogate pair. -/
def isLowSurrogate (n : Nat) : Bool := 0xDC00 ≤ n && n < 0xE000

/-- What a code unit written in hexadecimal adds to the string: a character, or a surrogate that
still waits for its partner. -/
def codeUnit (high : Option Nat) (n : Nat) : Except Cause (List UInt8 × Option Nat) :=
  match high with
  | some h =>
    if isLowSurrogate n then
      .ok (Text.Utf8.encodeChar (Char.ofNat (0x10000 + (h - 0xD800) * 0x400 + (n - 0xDC00))), none)
    else .error .loneSurrogate
  | none =>
    if isLowSurrogate n then .error .loneSurrogate
    else if isHighSurrogate n then .ok ([], some n)
    else .ok (Text.Utf8.encodeChar (Char.ofNat n), none)

/-- The bytes of a string up to its closing quote, and what follows the quote. -/
def stringBody (reading : Reading) :
    Expecting → List UInt8 → Except Fault (List UInt8 × List UInt8)
  | _, [] => .error ⟨.endOfString, []⟩
  | .text high, b :: rest =>
    if b = '\\'.toUInt8 then stringBody reading (.escape high) rest
    else if high.isSome then .error ⟨.endOfHexEscape, rest⟩
    else if b = '"'.toUInt8 then .ok ([], rest)
    else if b.toNat < 0x20 then
      .error ⟨.controlCharacter, if reading = .strict then rest else b :: rest⟩
    else (stringBody reading (.text none) rest).map fun r => (b :: r.1, r.2)
  | .escape high, b :: rest =>
    if b = 'u'.toUInt8 then stringBody reading (.hex high 0 (some 0)) rest
    else if high.isSome then .error ⟨.endOfHexEscape, rest⟩
    else
      match unescaped? b with
      | some c => (stringBody reading (.text none) rest).map fun r => (c :: r.1, r.2)
      | none => .error ⟨.invalidEscape, rest⟩
  | .hex high count value, b :: rest =>
    let value := value.bind fun v => (hexValue? b).map (v * 16 + ·)
    if count < 3 then stringBody reading (.hex high (count + 1) value) rest
    else
      match value with
      | none => .error ⟨.invalidEscape, rest⟩
      | some n =>
        if reading = .loose then stringBody reading (.text none) rest
        else
          match codeUnit high n with
          | .error cause => .error ⟨cause, rest⟩
          | .ok (bytes, high) =>
            (stringBody reading (.text high) rest).map fun r => (bytes ++ r.1, r.2)

/-- How many bytes come before the first one that is no part of a character, if there is one. -/
def bytesBeforeStray? : List Text.Symbol → Option Nat
  | [] => none
  | .stray _ :: _ => some 0
  | .char c :: rest => (bytesBeforeStray? rest).map (Text.Utf8.width c + ·)

/-- The string whose text between the quotes begins here and is followed by `rest`, or the fault
that keeps it from being read. The place of a byte that is no part of a character is counted back
from the end of the text, in bytes that the string stands for. -/
def stringValue (bs rest : List UInt8) : Except Fault String := do
  let (bytes, _) ← stringBody .strict (.text none) bs
  match Text.Utf8.text? bytes with
  | some cs => return String.ofList cs
  | none =>
    let stray := bytes.length - (bytesBeforeStray? (Text.Utf8.decode bytes)).getD 0
    throw ⟨.invalidUtf8, bs.drop (bs.length - rest.length - stray)⟩

end RemoteRollout.Json

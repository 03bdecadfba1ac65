import RemoteRollout.Json.Printer
import RemoteRollout.Text.Quoted

/-!
# Faults of a document

Why a text is no `JSON` document, or a document no value of the wanted shape, and where. While a
document is read, a place in it is given by the bytes that are still to come; `Fault.locate` turns
it into a line and a column.
-/

namespace RemoteRollout.Json

/-- A value that is not of the wanted shape, as far as messages tell. -/
inductive Found where
  | null
  | bool (value : Bool)
  | number (value : Number)
  | string (value : String)
  | list
  | object
deriving DecidableEq, Repr

/-- How messages call the value. -/
def Found.text : Found → String
  | null => "null"
  | bool b => "boolean `" ++ String.ofList (boolText b) ++ "`"
  | number (.whole n) => "integer `" ++ String.ofList (wholeText n) ++ "`"
  | number (.real x) => "floating point `" ++ String.ofList (realText x) ++ "`"
  | string s => "string " ++ Text.quoted s
  | list => "sequence"
  | object => "map"

/-- What is wrong. -/
inductive Cause where
  | endOfValue
  | endOfList
  | endOfObject
  | endOfString
  | expectedWord
  | expectedValue
  | expectedColon
  | expectedItem
  | expectedMember
  | expectedKey
  | trailingComma
  | trailingText
  | controlCharacter
  | invalidEscape
  | endOfHexEscape
  | loneSurrogate
  | invalidUtf8
  | invalidNumber
  | numberOutOfRange
  | tooDeep
  | mismatch (found : Found) (expected : String)
  | missingField (name : String)
  | duplicateField (name : String)
  | wrongLength (length : Nat) (expected : String)
deriving DecidableEq, Repr

/-- The wording of the cause. -/
def Cause.text : Cause → String
  | endOfValue => "EOF while parsing a value"
  | endOfList => "EOF while parsing a list"
  | endOfObject => "EOF while parsing an object"
  | endOfString => "EOF while parsing a string"
  | expectedWord => "expected ident"
  | expectedValue => "expected value"
  | expectedColon => "expected `:`"
  | expectedItem => "expected `,` or `]`"
  | expectedMember => "expected `,` or `\x7d`"
  | expectedKey => "key must be a string"
  | trailingComma => "trailing comma"
  | trailingText => "trailing characters"
  | controlCharacter => "control character (\\u0000-\\u001F) found while parsing a string"
  | invalidEscape => "invalid escape"
  | endOfHexEscape => "unexpected end of hex escape"
  | loneSurrogate => "lone leading surrogate in hex escape"
  | invalidUtf8 => "invalid unicode code point"
  | invalidNumber => "invalid number"
  | numberOutOfRange => "number out of range"
  | tooDeep => "recursion limit exceeded"
  | mismatch found expected => "invalid type: " ++ found.text ++ ", expected " ++ expected
  | missingField name => "missing field `" ++ name ++ "`"
  | duplicateField name => "duplicate field `" ++ name ++ "`"
  | wrongLength length expected =>
    "invalid length " ++ toString length ++ ", expected " ++ expected

/-- A fault, with the bytes that come after its place. -/
structure Fault where
  cause : Cause
  rest : List UInt8
deriving DecidableEq, Repr

/-- A fault with its place: lines count from one, and the column is the number of bytes of the
line that come before the place. -/
structure LocatedFault where
  cause : Cause
  line : Nat
  column : Nat
deriving DecidableEq, Repr

/-- The byte that ends a line. -/
def lineEnd : UInt8 := '\n'.toUInt8

/-- The fault with its place in the document. -/
def Fault.locate (f : Fault) (document : List UInt8) : LocatedFault :=
  let before := document.take (document.length - f.rest.length)
  { cause := f.cause
    line := before.count lineEnd + 1
    column := (before.reverse.takeWhile (· != lineEnd)).length }

/-- The wording of a fault. -/
def LocatedFault.message (f : LocatedFault) : String :=
  f.cause.text ++ " at line " ++ toString f.line ++ " column " ++ toString f.column

end RemoteRollout.Json

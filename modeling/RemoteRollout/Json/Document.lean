import RemoteRollout.Json.StringText
import RemoteRollout.Json.NumberText

/-!
# Documents

A `JSON` text as a tree of nodes that keep their places, so that readers of typed values can say
where a fault is. Scanning never fails: where the text breaks off or goes wrong, the tree ends in
a node or an ending that holds the fault, and it is up to the reader whether it gets there. Some
faults depend on what is wanted from a value, so they are kept for each case: read it, skip it, or
accept no further items.
-/

namespace RemoteRollout.Json

/-- The value of a node without parts. -/
inductive Scalar where
  | null
  | bool (value : Bool)
  | number (value : Number)
  | string (value : String)
deriving DecidableEq, Repr

/-- How the items of a list, or the members of an object, end. -/
inductive Ending where
  /-- With the closing bracket; these bytes follow it. -/
  | closed (rest : List UInt8)
  /-- With a fault: for one who reads the items, who skips them, and who wanted no more. -/
  | broken (reading skipping closing : Fault)
deriving DecidableEq, Repr

/-- The key of a member. -/
structure Key where
  text : Except Fault String
  /-- The bytes from the first one on that is not white space behind the key. -/
  rest : List UInt8
deriving Repr

/-- A value in a document. Every node knows the bytes from its first one on. -/
inductive Node where
  /-- A value without parts, or the fault of one whose end is known all the same. -/
  | scalar (start : List UInt8) (value : Except Fault Scalar) (rest : List UInt8)
  | list (start : List UInt8) (items : List Node) (ending : Ending)
  | object (start : List UInt8) (members : List (Key × Node)) (ending : Ending)
  /-- No value: the fault for one who reads it, and for one who skips it. -/
  | broken (start : List UInt8) (reading skipping : Fault)
deriving Repr

namespace Node

/-- The bytes from the node's first one on. -/
def start : Node → List UInt8
  | scalar start .. | list start .. | object start .. | broken start .. => start

/-- The bytes that follow the node, if it ends. -/
def rest? : Node → Option (List UInt8)
  | scalar _ _ rest | list _ _ (.closed rest) | object _ _ (.closed rest) => some rest
  | _ => none

end Node

/-- The byte is white space. -/
def isBlank (b : UInt8) : Bool :=
  b == ' '.toUInt8 || b == '\n'.toUInt8 || b == '\t'.toUInt8 || b == '\r'.toUInt8

/-- The text without the white space at its front. -/
def afterBlank (bs : List UInt8) : List UInt8 := bs.dropWhile isBlank

/-! ## Values without parts -/

/-- The rest of a word of the language, and what follows it. -/
def word : List Char → List UInt8 → Except Fault (List UInt8)
  | [], bs => .ok bs
  | _ :: _, [] => .error ⟨.endOfValue, []⟩
  | c :: cs, b :: rest => if b = c.toUInt8 then word cs rest else .error ⟨.expectedWord, rest⟩

namespace Node

/-- The node of a word of the language. -/
def ofWord (start : List UInt8) (letters : List Char) (value : Scalar) (bs : List UInt8) : Node :=
  match word letters bs with
  | .ok rest => scalar start (.ok value) rest
  | .error fault => broken start fault fault

/-- The node of a string, whose text between the quotes begins here. -/
def ofString (start bs : List UInt8) : Node :=
  match stringBody .loose (.text none) bs with
  | .ok (_, rest) => scalar start ((stringValue bs rest).map .string) rest
  | .error skipping =>
    match stringBody .strict (.text none) bs with
    | .ok _ => broken start skipping skipping
    | .error reading => broken start reading skipping

/-- The node of a number, whose digits begin here. -/
def ofNumber (start : List UInt8) (negative : Bool) (bs : List UInt8) : Node :=
  match Literal.scan negative bs with
  | .ok (literal, rest) => scalar start ((literal.value rest).map .number) rest
  | .error at_ =>
    let skipping : Fault := ⟨.invalidNumber, at_.tail⟩
    broken start (if at_.isEmpty then ⟨.endOfValue, []⟩ else skipping) skipping

/-- The node of a value without parts that begins with this byte. -/
def ofScalar (b : UInt8) (bs : List UInt8) : Node :=
  let start := b :: bs
  if b = 'n'.toUInt8 then ofWord start ['u', 'l', 'l'] .null bs
  else if b = 't'.toUInt8 then ofWord start ['r', 'u', 'e'] (.bool true) bs
  else if b = 'f'.toUInt8 then ofWord start ['a', 'l', 's', 'e'] (.bool false) bs
  else if b = '"'.toUInt8 then ofString start bs
  else if b = '-'.toUInt8 then ofNumber start true bs
  else if isDigit b then ofNumber start false start
  else broken start ⟨.expectedValue, bs⟩ ⟨.expectedValue, bs⟩

end Node

/-- A string in the place of a key: the key and what follows it, or the faults that keep it from
being one. -/
def scanKey (bs : List UInt8) : Except Ending Key :=
  match stringBody .loose (.text none) bs with
  | .ok (_, rest) => .ok ⟨stringValue bs rest, afterBlank rest⟩
  | .error skipping =>
    match stringBody .strict (.text none) bs with
    | .ok _ => .error (.broken skipping skipping skipping)
    | .error reading => .error (.broken reading skipping reading)

/-! ## The whole tree -/

/-- A list or an object that stops at this place, whoever looks at it. -/
def Ending.stop (cause : Cause) (rest : List UInt8) : Ending :=
  .broken ⟨cause, rest⟩ ⟨cause, rest⟩ ⟨cause, rest⟩

mutual

/-- The value that begins here, after white space. -/
def scanValue : Nat → List UInt8 → Node
  | 0, bs => .broken bs ⟨.endOfValue, bs⟩ ⟨.endOfValue, bs⟩
  | fuel + 1, bs =>
    match afterBlank bs with
    | [] => .broken [] ⟨.endOfValue, []⟩ ⟨.endOfValue, []⟩
    | b :: rest =>
      if b = '['.toUInt8 then
        let (items, ending) := scanItems fuel true rest
        .list (b :: rest) items ending
      else if b = '{'.toUInt8 then
        let (members, ending) := scanMembers fuel true rest
        .object (b :: rest) members ending
      else .ofScalar b rest

/-- The items of a list from here on. -/
def scanItems : Nat → Bool → List UInt8 → List Node × Ending
  | 0, _, bs => ([], .stop .endOfList bs)
  | fuel + 1, first, bs =>
    match afterBlank bs with
    | [] => ([], .stop .endOfList [])
    | b :: rest =>
      if b = ']'.toUInt8 then ([], .closed rest)
      else if first then scanItem fuel (b :: rest)
      else if b = ','.toUInt8 then
        match afterBlank rest with
        | [] => ([], .broken ⟨.endOfValue, []⟩ ⟨.endOfValue, []⟩ ⟨.trailingText, []⟩)
        | c :: rest =>
          if c = ']'.toUInt8 then
            ([], .broken ⟨.trailingComma, rest⟩ ⟨.expectedValue, rest⟩ ⟨.trailingComma, rest⟩)
          else scanItem fuel (c :: rest)
      else ([], .broken ⟨.expectedItem, rest⟩ ⟨.expectedItem, rest⟩ ⟨.trailingText, rest⟩)

/-- The item that begins here, and those that follow it. -/
def scanItem : Nat → List UInt8 → List Node × Ending
  | 0, bs => ([], .stop .endOfList bs)
  | fuel + 1, bs =>
    let node := scanValue fuel bs
    match node.rest? with
    | none => ([node], .stop .endOfList [])
    | some rest =>
      let (items, ending) := scanItems fuel false rest
      (node :: items, ending)

/-- The members of an object from here on. -/
def scanMembers : Nat → Bool → List UInt8 → List (Key × Node) × Ending
  | 0, _, bs => ([], .stop .endOfObject bs)
  | fuel + 1, first, bs =>
    match afterBlank bs with
    | [] => ([], .stop .endOfObject [])
    | b :: rest =>
      if b = '}'.toUInt8 then ([], .closed rest)
      else if first then scanMember fuel (b :: rest)
      else if b = ','.toUInt8 then
        match afterBlank rest with
        | [] => ([], .broken ⟨.endOfValue, []⟩ ⟨.endOfObject, []⟩ ⟨.trailingComma, []⟩)
        | c :: rest =>
          if c = '}'.toUInt8 then
            ([], .broken ⟨.trailingComma, rest⟩ ⟨.expectedKey, rest⟩ ⟨.trailingComma, rest⟩)
          else scanMember fuel (c :: rest)
      else ([], .stop .expectedMember rest)

/-- The member that begins here, and those that follow it. -/
def scanMember : Nat → List UInt8 → List (Key × Node) × Ending
  | 0, bs => ([], .stop .endOfObject bs)
  | _, [] => ([], .stop .endOfObject [])
  | fuel + 1, b :: rest =>
    if b ≠ '"'.toUInt8 then ([], .stop .expectedKey rest)
    else
      match scanKey rest with
      | .error ending => ([], ending)
      | .ok key =>
        match key.rest with
        | [] => ([(key, .broken [] ⟨.endOfObject, []⟩ ⟨.endOfObject, []⟩)], .stop .endOfObject [])
        | c :: rest =>
          if c ≠ ':'.toUInt8 then
            ([(key, .broken (c :: rest) ⟨.expectedColon, rest⟩ ⟨.expectedColon, rest⟩)],
              .stop .endOfObject [])
          else
            let node := scanValue fuel rest
            match node.rest? with
            | none => ([(key, node)], .stop .endOfObject [])
            | some rest =>
              let (members, ending) := scanMembers fuel false rest
              ((key, node) :: members, ending)

end

/-- The value at the front of a text. Every step that takes no byte is followed by one that takes
some, so three steps for each byte are enough. -/
def scan (bs : List UInt8) : Node := scanValue (3 * bs.length + 3) bs

end RemoteRollout.Json

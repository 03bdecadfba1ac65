import RemoteRollout.Json.Document

/-!
# Reading typed values

Readers of documents: of plain values, of lists, of any value at all, and of records, whose fields
stand either as the members of an object or, in order, as the items of a list. A reader answers
the first fault in the order of the text. `maxDepth` bounds how deep lists and objects may lie in
each other; values that are skipped may lie deeper.
-/

namespace RemoteRollout.Json

/-- A reader: it is given how many levels it may still open, and the node. -/
abbrev Reader (α : Type) := Nat → Node → Except Fault α

/-- The levels that a document may have. -/
def maxDepth : Nat := 127

/-- The levels left inside a list or an object that begins here. -/
def descend (start : List UInt8) : Nat → Except Fault Nat
  | 0 => .error ⟨.tooDeep, start.tail⟩
  | depth + 1 => .ok depth

namespace Ending

/-- The bytes that follow, for one who has read everything there was. -/
def read : Ending → Except Fault (List UInt8)
  | closed rest => .ok rest
  | broken reading _ _ => .error reading

/-- The bytes that follow, for one who wants nothing more from a list of which these items are
left. -/
def close (left : List Node) : Ending → Except Fault (List UInt8)
  | ending =>
    match left, ending with
    | node :: _, _ => .error ⟨.trailingText, node.start.tail⟩
    | [], closed rest => .ok rest
    | [], broken _ _ closing => .error closing

end Ending

/-! ## Skipping -/

mutual

/-- The fault that one meets who skips the value. -/
def Node.skipFault? : Node → Option Fault
  | .scalar .. => none
  | .list _ items ending => Node.skipItems items ending
  | .object _ members ending => Node.skipMembers members ending
  | .broken _ _ skipping => some skipping

/-- The fault that one meets who skips the items of a list. -/
def Node.skipItems : List Node → Ending → Option Fault
  | [], .closed _ => none
  | [], .broken _ skipping _ => some skipping
  | node :: nodes, ending => node.skipFault?.or (Node.skipItems nodes ending)

/-- The fault that one meets who skips the members of an object. -/
def Node.skipMembers : List (Key × Node) → Ending → Option Fault
  | [], .closed _ => none
  | [], .broken _ skipping _ => some skipping
  | (_, node) :: members, ending => node.skipFault?.or (Node.skipMembers members ending)

end

/-- A value that nobody looks at. -/
def skip (node : Node) : Except Fault Unit :=
  match node.skipFault? with
  | some fault => .error fault
  | none => .ok ()

/-! ## Any value -/

/-- A value without parts as a tree. -/
def Scalar.tree : Scalar → Tree
  | null => .null
  | bool b => .bool b
  | number n => .number n
  | string s => .string s

mutual

/-- Any value, with the members of objects in canonical form. -/
def readTree : Nat → Node → Except Fault Tree
  | _, .scalar _ value _ => value.map Scalar.tree
  | _, .broken _ reading _ => .error reading
  | depth, .list start items ending =>
    match descend start depth with
    | .error fault => .error fault
    | .ok depth => (readTrees depth items ending).map .list
  | depth, .object start members ending =>
    match descend start depth with
    | .error fault => .error fault
    | .ok depth => (readMembers depth [] members ending).map .object

/-- The items of a list, of any value. -/
def readTrees : Nat → List Node → Ending → Except Fault (List Tree)
  | _, [], ending => ending.read.map fun _ => []
  | depth, node :: nodes, ending => do
    let tree ← readTree depth node
    let trees ← readTrees depth nodes ending
    return tree :: trees

/-- The members of an object, of any value, added to those that came before. -/
def readMembers : Nat → Members → List (Key × Node) → Ending → Except Fault Members
  | _, before, [], ending => ending.read.map fun _ => before
  | depth, before, (key, node) :: members, ending => do
    let name ← key.text
    let tree ← readTree depth node
    readMembers depth (Members.insert name tree before) members ending

end

/-! ## Values of one kind -/

/-- What messages call a scalar that was not wanted. -/
def Scalar.found : Scalar → Found
  | null => .null
  | bool b => .bool b
  | number n => .number n
  | string s => .string s

/-- The fault of a value that is not what was expected. A value without parts is read first. -/
def mismatch (expected : String) : Node → Fault
  | .scalar _ (.ok value) rest => ⟨.mismatch value.found expected, rest⟩
  | .scalar _ (.error fault) _ => fault
  | .list start _ _ => ⟨.mismatch .list expected, start⟩
  | .object start _ _ => ⟨.mismatch .object expected, start⟩
  | .broken _ reading _ => reading

/-- A string, called as messages expect it. -/
def readStringAs (expected : String) : Reader String
  | _, .scalar _ (.ok (.string s)) _ => .ok s
  | _, node => .error (mismatch expected node)

/-- A string. -/
def readString : Reader String := readStringAs "a string"

/-- A truth value. -/
def readBool : Reader Bool
  | _, .scalar _ (.ok (.bool b)) _ => .ok b
  | _, node => .error (mismatch "a boolean" node)

/-- The items of a list, each by the same reader. -/
def readItems {α : Type} (read : Node → Except Fault α) :
    List Node → Ending → Except Fault (List α)
  | [], ending => ending.read.map fun _ => []
  | node :: nodes, ending => do
    let item ← read node
    let items ← readItems read nodes ending
    return item :: items

/-- A list. -/
def readList {α : Type} (read : Reader α) : Reader (List α)
  | depth, .list start items ending => do
    let depth ← descend start depth
    readItems (read depth) items ending
  | _, node => .error (mismatch "a sequence" node)

/-! ## Records -/

/-- A field of a record, of which `σ` holds the fields read so far. -/
structure Field (σ : Type) where
  name : String
  /-- The record cannot do without the field. -/
  required : Bool
  /-- The field has been read. -/
  isSet : σ → Bool
  /-- Reads the field. -/
  read : Nat → Node → σ → Except Fault σ

/-- A field that `set` puts into a record and `get?` finds there. -/
def Field.of {σ α : Type} (name : String) (required : Bool) (get? : σ → Option α)
    (set : α → σ → σ) (read : Reader α) : Field σ where
  name := name
  required := required
  isSet draft := (get? draft).isSome
  read depth node draft := (read depth node).map (set · draft)

/-- The shape of a record: what messages call it, its fields in order, and none of them read. -/
structure Layout (σ : Type) where
  title : String
  fields : List (Field σ)
  blank : σ

namespace Layout

variable {σ : Type}

/-- What messages expect in the place of the record. -/
def expected (l : Layout σ) : String := "struct " ++ l.title

/-- What messages expect of a list in the place of the record. -/
def expectedLength (l : Layout σ) : String :=
  l.expected ++ " with " ++ toString l.fields.length ++
    (if l.fields.length = 1 then " element" else " elements")

/-- A member of an object: a field, or a member the record does not know. -/
def readMember (l : Layout σ) (depth : Nat) (draft : σ) (key : Key) (node : Node) :
    Except Fault σ := do
  let name ← key.text
  match l.fields.find? (·.name == name) with
  | none =>
    skip node
    return draft
  | some field =>
    if field.isSet draft then
      throw ⟨.duplicateField name,
        if key.rest.head? == some '}'.toUInt8 then key.rest.tail else key.rest⟩
    field.read depth node draft

/-- The members of an object. -/
def readMembers (l : Layout σ) (depth : Nat) :
    σ → List (Key × Node) → Ending → Except Fault σ
  | draft, [], ending => do
    let rest ← ending.read
    match l.fields.find? fun field => field.required && !field.isSet draft with
    | some field => throw ⟨.missingField field.name, rest⟩
    | none => return draft
  | draft, (key, node) :: members, ending => do
    let draft ← l.readMember depth draft key node
    l.readMembers depth draft members ending

/-- The items of a list as the fields from the one with this number on. -/
def readFields (l : Layout σ) (depth : Nat) :
    Nat → List (Field σ) → σ → List Node → Ending → Except Fault σ
  | _, [], draft, left, ending => (ending.close left).map fun _ => draft
  | index, field :: fields, draft, node :: nodes, ending => do
    let draft ← field.read depth node draft
    l.readFields depth (index + 1) fields draft nodes ending
  | index, field :: fields, draft, [], ending => do
    let rest ← ending.read
    if field.required then throw ⟨.wrongLength index l.expectedLength, rest⟩
    l.readFields depth (index + 1) fields draft [] ending

/-- The fields of a record. -/
def read (l : Layout σ) : Reader σ
  | depth, .object start members ending => do
    let depth ← descend start depth
    l.readMembers depth l.blank members ending
  | depth, .list start items ending => do
    let depth ← descend start depth
    l.readFields depth 0 l.fields l.blank items ending
  | _, node => .error (mismatch l.expected node)

end Layout

/-! ## Whole documents -/

/-- The value of a document, after which nothing but white space may follow. -/
def readDocument {α : Type} (read : Reader α) (document : List UInt8) : Except Fault α := do
  let node := scan document
  let value ← read maxDepth node
  match afterBlank (node.rest?.getD []) with
  | [] => return value
  | _ :: rest => throw ⟨.trailingText, rest⟩

/-- The value of a document. -/
def decode {α : Type} (read : Reader α) (document : List UInt8) : Except LocatedFault α :=
  (readDocument read document).mapError (·.locate document)

end RemoteRollout.Json

import RemoteRollout.Yaml.Resolved

/-!
# Reading typed values

Readers of nodes: of truth values and strings, of lists, and of records, which are mappings. A
reader answers the first fault in the order of the text, with the path that leads to it and its
place. An empty plain scalar is an empty list or record, and members that a record does not know
are passed over.
-/

namespace RemoteRollout.Yaml

/-- A step from a node to one inside of it. -/
inductive Step where
  | key (text : String)
  | index (n : Nat)
  /-- The value of a key that is no scalar itself. -/
  | unknown
deriving DecidableEq, Repr

/-- What is wrong with a node. -/
inductive Cause where
  | mismatch (found : Found) (expected : String)
  | badTag (text expected : String)
  | duplicateField (name : String)
deriving DecidableEq, Repr

/-- The wording of the cause. -/
def Cause.text : Cause → String
  | mismatch found expected => "invalid type: " ++ found.text ++ ", expected " ++ expected
  | badTag text expected =>
    "invalid value: string " ++ Text.quoted text ++ ", expected " ++ expected
  | duplicateField name => "duplicate field `" ++ name ++ "`"

/-- Why a text cannot be read. -/
inductive Fault where
  /-- It is no text of one document. -/
  | malformed
  /-- A node is not what is wanted there. -/
  | data (cause : Cause) (path : List Step) (mark : Mark)
deriving DecidableEq, Repr

/-- A path as messages show it, or nothing at the root. -/
def pathText (path : List Step) : String :=
  path.foldl (fun text step =>
    match step with
    | .index n => (if text.isEmpty then "." else text) ++ "[" ++ toString n ++ "]"
    | .key name => if text.isEmpty then name else text ++ "." ++ name
    | .unknown => if text.isEmpty then "?" else text ++ ".?") ""

/-- The wording of the fault. The very first place of a text is not told. -/
def Fault.message : Fault → String
  | malformed => "the text is not one well-formed document"
  | data cause path mark =>
    (if path.isEmpty then "" else pathText path ++ ": ") ++ cause.text ++
      (if mark = {} then ""
        else " at line " ++ toString (mark.line + 1) ++ " column " ++ toString (mark.column + 1))

/-- A reader: it is given the document, the path to the node, and the node. -/
abbrev Reader (α : Type) := Document → List Step → Node → Except Fault α

/-- The fault of a node that is not what was expected. -/
def mismatch (expected : String) (path : List Step) : Node → Fault
  | .scalar mark style tag _ text =>
    match scalarFound style tag text with
    | .ok found => .data (.mismatch found expected) path mark
    | .error wanted => .data (.badTag text wanted) path mark
  | .sequence mark _ _ => .data (.mismatch .sequence expected) path mark
  | .mapping mark _ _ => .data (.mismatch .mapping expected) path mark
  | .reference _ | .cut => .malformed

/-- A string, called as messages expect it: the text of any scalar. -/
def readStringAs (expected : String) : Reader String := fun d path node =>
  match d.resolve node with
  | .scalar _ _ _ _ text => .ok text
  | node => .error (mismatch expected path node)

/-- A string. -/
def readString : Reader String := readStringAs "a string"

/-- The truth value of a scalar that is plain, or literal and tagged as one. -/
def boolOfScalar? (style : Style) (tag : Option String) (text : String) : Option Bool :=
  if style = .plain ∨ (style = .literal ∧ tag = some boolTag) then boolOf? text else none

/-- A truth value. -/
def readBool : Reader Bool := fun d path node =>
  match d.resolve node with
  | .scalar mark style tag anchor text =>
    match boolOfScalar? style tag text with
    | some b => .ok b
    | none => .error (mismatch "a boolean" path (.scalar mark style tag anchor text))
  | node => .error (mismatch "a boolean" path node)

/-- The items of a list from the one with this number on. -/
def readItems {α : Type} (read : Reader α) (d : Document) (path : List Step) :
    Nat → List Node → Except Fault (List α)
  | _, [] => .ok []
  | n, node :: nodes => do
    let item ← read d (path ++ [.index n]) node
    let items ← readItems read d path (n + 1) nodes
    return item :: items

/-- A list. -/
def readList {α : Type} (read : Reader α) : Reader (List α) := fun d path node =>
  match d.resolve node with
  | .sequence _ _ items => readItems read d path 0 items
  | .scalar mark style tag anchor text =>
    if style = .plain ∧ text = "" then .ok []
    else .error (mismatch "a sequence" path (.scalar mark style tag anchor text))
  | node => .error (mismatch "a sequence" path node)

/-- A field of a record, of which `σ` holds the fields read so far. -/
structure Field (σ : Type) where
  name : String
  /-- The field has been read. -/
  isSet : σ → Bool
  /-- Reads the field. -/
  read : Document → List Step → Node → σ → Except Fault σ

/-- A field that `set` puts into a record and `get?` finds there. -/
def Field.of {σ α : Type} (name : String) (get? : σ → Option α) (set : α → σ → σ)
    (read : Reader α) : Field σ where
  name := name
  isSet draft := (get? draft).isSome
  read d path node draft := (read d path node).map (set · draft)

/-- The shape of a record: what messages call it, its fields, and none of them read. -/
structure Layout (σ : Type) where
  title : String
  fields : List (Field σ)
  blank : σ

namespace Layout

variable {σ : Type}

/-- What messages expect in the place of the record. -/
def expected (l : Layout σ) : String := "struct " ++ l.title

/-- The step to the value of a key. -/
def stepOf : Node → Step
  | .scalar _ _ _ _ text => .key text
  | _ => .unknown

/-- An entry of a mapping that begins at this place: a field, or an entry that the record does not
know. -/
def readEntry (l : Layout σ) (d : Document) (path : List Step) (mark : Mark) (draft : σ)
    (key value : Node) : Except Fault σ := do
  let name ← readStringAs "field identifier" d path key
  match l.fields.find? (·.name == name) with
  | none => if value.isCut then throw .malformed else return draft
  | some field =>
    if field.isSet draft then throw (.data (.duplicateField name) path mark)
    field.read d (path ++ [stepOf key]) value draft

/-- The entries of a mapping that begins at this place. -/
def readEntries (l : Layout σ) (d : Document) (path : List Step) (mark : Mark) :
    σ → List (Node × Node) → Except Fault σ
  | draft, [] => .ok draft
  | draft, (key, value) :: entries => do
    let draft ← l.readEntry d path mark draft key value
    l.readEntries d path mark draft entries

/-- The fields of a record. -/
def read (l : Layout σ) : Reader σ := fun d path node =>
  match d.resolve node with
  | .mapping mark _ entries => l.readEntries d path mark l.blank entries
  | .scalar mark style tag anchor text =>
    if style = .plain ∧ text = "" then .ok l.blank
    else .error (mismatch l.expected path (.scalar mark style tag anchor text))
  | node => .error (mismatch l.expected path node)

end Layout

/-- The value of a text, which holds nothing but one document. -/
def decode {α : Type} (read : Reader α) (text : String) : Except Fault α := do
  let d := Document.ofChars text.toList
  let value ← read d [] d.root
  if d.ended then return value else throw .malformed

end RemoteRollout.Yaml

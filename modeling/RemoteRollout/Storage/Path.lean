import RemoteRollout.Text.Pieces

/-!
# Paths

A path is kept as it was written; what it names is its list of components. Two spellings with
the same components name the same resource: repeated slashes, inner `.` and a trailing slash make
no difference, while `..` is never resolved. `Path.join` puts a path under a root, and
`Path.isLocal` holds of the texts that cannot climb above the root they are joined to.
-/

namespace RemoteRollout

/-- A path, as it was written. -/
structure Path where
  text : String
deriving DecidableEq, Repr, Inhabited

namespace Path

/-- One step of a path. -/
inductive Component where
  /-- The leading slash of an absolute path. -/
  | root
  /-- A `.` that a relative path begins with. -/
  | here
  /-- A `..`. -/
  | parent
  | name (text : List Char)
deriving DecidableEq, Repr, Inhabited

/-- The step that a piece between slashes stands for; an empty piece and an inner `.` stand for
none. -/
def Component.ofPiece? : List Char → Option Component
  | [] => none
  | ['.'] => none
  | ['.', '.'] => some .parent
  | piece => some (.name piece)

/-- The steps of a path text. -/
def componentsOf : List Char → List Component
  | '/' :: rest => .root :: (Text.pieces '/' rest).filterMap Component.ofPiece?
  | cs =>
    match Text.pieces '/' cs with
    | ['.'] :: rest => .here :: rest.filterMap Component.ofPiece?
    | ps => ps.filterMap Component.ofPiece?

/-- The steps of a path: what it names. -/
def components (p : Path) : List Component := componentsOf p.text.toList

/-- The text begins at the root of the file tree. -/
def isAbsoluteText (text : String) : Bool := text.toList.head? == some '/'

/-- The path under `root`. An absolute path replaces the root; otherwise one slash stands between
them, unless the root is empty or brings its own. -/
def join (root : Path) (text : String) : Path :=
  if isAbsoluteText text then ⟨text⟩
  else
    match root.text.toList.getLast? with
    | none => ⟨text⟩
    | some '/' => ⟨root.text ++ text⟩
    | some _ => ⟨root.text ++ "/" ++ text⟩

/-- Walking these steps from `depth` levels below the start never climbs above the start. -/
def staysInside : Nat → List Component → Bool
  | _, [] => true
  | _, .root :: _ => false
  | depth, .here :: rest => staysInside depth rest
  | 0, .parent :: _ => false
  | depth + 1, .parent :: rest => staysInside depth rest
  | depth, .name _ :: rest => staysInside (depth + 1) rest

/-- The text names something inside the directory it is joined to: it is not empty, not absolute,
and no `..` climbs above the start. -/
def isLocal (text : String) : Bool :=
  !text.toList.isEmpty && staysInside 0 (componentsOf text.toList)

@[simp] theorem join_empty_root (text : String) : join ⟨""⟩ text = ⟨text⟩ := by
  unfold join
  split <;> rfl

end Path

end RemoteRollout

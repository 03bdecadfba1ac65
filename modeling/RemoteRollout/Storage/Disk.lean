import RemoteRollout.Storage.FileStore
import RemoteRollout.Text.Utf8

/-!
# A disk

A tree of directories and files, seen from a working directory inside it. Paths are resolved step
by step: every step must start from a directory, also a trailing slash, a `.` or a `..`. Outside of
the working directory there is what every system has: the standard directories, and the null
device, which reads as an empty file and is none.
-/

namespace RemoteRollout

/-- The names that lead from the working directory to something. -/
abbrev Names := List String

/-- The directories and files below the working directory. -/
structure Disk where
  directories : List Names := []
  files : List (Names × Bytes) := []
deriving Inhabited

namespace Disk

/-- What a path has led to so far. -/
inductive Location where
  | inside (names : Names)
  /-- Outside of the working directory, by the names that lead there from the root. -/
  | outside (names : Names)
deriving DecidableEq, Repr

/-! ## Outside of the working directory -/

/-- Where the working directory lies: in a directory for temporary data. -/
def workingParent : Names := ["tmp"]

/-- The null device. -/
def nullDevice : Names := ["dev", "null"]

/-- The directories below the root. -/
def standardDirectories : List Names :=
  ["bin", "boot", "dev", "etc", "home", "lib", "media", "mnt", "opt", "proc", "root", "run",
    "sbin", "srv", "sys", "tmp", "usr", "var"].map fun name => [name]

/-- The directories below the one for shared data, and below the one for variable data. -/
def nestedDirectories : List Names :=
  (["bin", "lib", "local", "sbin", "share"].map fun name => ["usr", name]) ++
    ["cache", "lib", "lock", "log", "opt", "run", "spool", "tmp"].map fun name => ["var", name]

/-- There is something at these names, from the root. -/
def isKnownOutside (names : Names) : Bool :=
  names == nullDevice || standardDirectories.contains names || nestedDirectories.contains names

/-! ## Resolving paths -/

/-- The bytes of the file at these names. -/
def file? (d : Disk) (names : Names) : Option Bytes := d.files.lookup names

/-- A directory is at these names. -/
def isDirectory (d : Disk) (names : Names) : Bool := names.isEmpty || d.directories.contains names

/-- The location is a directory. -/
def Location.isDirectory (d : Disk) : Location → Bool
  | inside names => d.isDirectory names
  | outside names => names != nullDevice

/-- The longest name that a directory can hold, in bytes. -/
def maxNameLength : Nat := 255

/-- The longest path that can be resolved, in bytes. -/
def maxPathLength : Nat := 4095

/-- How many bytes a name takes. -/
def byteLength (name : List Char) : Nat := name.foldl (fun n c => n + Text.Utf8.width c) 0

/-- One step from a directory. -/
def step (d : Disk) (l : Location) (piece : List Char) : Except ReadFailure Location :=
  if !l.isDirectory d then .error .notDirectory
  else
    match piece, l with
    | [], l | ['.'], l => .ok l
    | ['.', '.'], .inside [] => .ok (.outside workingParent)
    | ['.', '.'], .inside names => .ok (.inside names.dropLast)
    | ['.', '.'], .outside names => .ok (.outside names.dropLast)
    | name, l =>
      if maxNameLength < byteLength name then .error .nameTooLong
      else
        match l with
        | .outside names =>
          let names := names ++ [String.ofList name]
          if isKnownOutside names then .ok (.outside names) else .error .noSuchFile
        | .inside names =>
          let names := names ++ [String.ofList name]
          if (d.file? names).isSome || d.isDirectory names then .ok (.inside names)
          else .error .noSuchFile

/-- What the path names. -/
def resolve (d : Disk) (p : Path) : Except ReadFailure Location :=
  let cs := p.text.toList
  if cs.contains '\x00' then .error .nulCharacter
  else if cs.isEmpty then .error .noSuchFile
  else if maxPathLength < byteLength cs then .error .nameTooLong
  else
    let start : Location := if cs.head? = some '/' then .outside [] else .inside []
    (Text.pieces '/' cs).foldlM d.step start

/-- The disk as a store. -/
def fileStore (d : Disk) : FileStore where
  read p := do
    match ← d.resolve p with
    | .outside names => if names = nullDevice then return [] else throw .isDirectory
    | .inside names =>
      match d.file? names with
      | some bytes => return bytes
      | none => throw .isDirectory
  isFile p :=
    match d.resolve p with
    | .ok (.inside names) => (d.file? names).isSome
    | _ => false

/-! ## Changes -/

/-- The names of a path below the working directory. -/
def namesOf (p : Path) : Names :=
  (Text.pieces '/' p.text.toList).foldl
    (fun names piece =>
      if piece = [] ∨ piece = ['.'] then names
      else if piece = ['.', '.'] then names.dropLast
      else names ++ [String.ofList piece])
    []

/-- All beginnings of the names, the names themselves included. -/
def beginnings (names : Names) : List Names :=
  (List.range names.length).map fun n => names.take (n + 1)

/-- The disk with a directory at these names, and all those above it. -/
def makeDirectory (d : Disk) (names : Names) : Disk :=
  { d with directories :=
      d.directories ++ (beginnings names).filter fun n => !d.directories.contains n }

/-- The disk with this file, and the directories above it. -/
def write (d : Disk) (p : Path) (bytes : Bytes) : Disk :=
  let names := namesOf p
  let d := d.makeDirectory names.dropLast
  { d with files := (names, bytes) :: d.files.filter (·.1 != names) }

/-- The disk without the file that the path names, if it names one. -/
def remove (d : Disk) (p : Path) : Disk :=
  match d.resolve p with
  | .ok (.inside names) => { d with files := d.files.filter (·.1 != names) }
  | _ => d

end Disk

end RemoteRollout

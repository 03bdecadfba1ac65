import RemoteRollout.Storage.PathTable

/-!
# File stores

Where resources are read from. A store answers the bytes of a path, or why there are none, and
whether a path is a regular file. `MemoryStore` keeps its files in a table, so that all spellings
of a path are one file.
-/

namespace RemoteRollout

/-- The content of a file. -/
abbrev Bytes := List UInt8

/-- Why a file could not be read. -/
inductive ReadFailure where
  /-- A store in memory has no such file. -/
  | absent
  /-- The operating system refused. -/
  | system (code : Nat) (description : String)
  /-- The path holds a character that no file name can have. -/
  | nulCharacter
deriving DecidableEq, Repr, Inhabited

namespace ReadFailure

/-- The wording of the failure. -/
def text : ReadFailure → String
  | absent => "entity not found"
  | system code description => description ++ " (os error " ++ toString code ++ ")"
  | nulCharacter => "file name contained an unexpected NUL byte"

/-- There is no such file or directory. -/
def noSuchFile : ReadFailure := system 2 "No such file or directory"

/-- A step of the path leads through something that is no directory. -/
def notDirectory : ReadFailure := system 20 "Not a directory"

/-- The path names a directory. -/
def isDirectory : ReadFailure := system 21 "Is a directory"

/-- The path, or a name in it, is too long. -/
def nameTooLong : ReadFailure := system 36 "File name too long"

end ReadFailure

/-- A place to read resources from. -/
structure FileStore where
  /-- The bytes of a file. -/
  read : Path → Except ReadFailure Bytes
  /-- The path names a regular file. -/
  isFile : Path → Bool

/-- Files kept in memory. -/
abbrev MemoryStore := PathTable Bytes

/-- The files in memory as a store. -/
def MemoryStore.fileStore (files : MemoryStore) : FileStore where
  read p :=
    match files.get? p with
    | some bytes => .ok bytes
    | none => .error .absent
  isFile p := files.contains p

end RemoteRollout

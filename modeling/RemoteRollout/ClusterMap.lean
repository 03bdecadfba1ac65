import RemoteRollout.Bisection
import RemoteRollout.Json.Decode
import RemoteRollout.ServiceError
import RemoteRollout.Storage.Cache
import RemoteRollout.Version.Precedence

/-!
# Cluster maps

A cluster map says which artifact a cluster of a given version is served: the one of the greatest
version that is not above it. A map is built from rows of a version and the path of an artifact
below the map's root; it is refused unless every artifact exists and the versions ascend strictly
by precedence. Building compares neighbours only; `orderFault?_eq_none_iff` says that this settles
the order of any two versions, which is what the search for an entry rests on.
-/

namespace RemoteRollout

/-- A version, and the artifact served from it on. -/
structure MapEntry where
  version : Version
  /-- The path below the map's root, as it was written. -/
  artifact : String
deriving DecidableEq, Repr, Inhabited

/-- These versions ascend strictly by precedence. -/
def Version.Ascending (vs : List Version) : Prop := vs.Pairwise fun v w => v.precedence w = .lt

/-- A table of versions and artifacts. -/
structure ClusterMap where
  root : Path
  entries : List MapEntry
  nonempty : entries ≠ []
  ascending : Version.Ascending (entries.map MapEntry.version)

/-- Why rows are no cluster map. -/
inductive MapFault where
  | empty (root : Path)
  | rowLength (row : List String)
  | version (text : String) (fault : Version.Fault)
  | notLocal (artifact : String)
  | missing (path : Path)
  | unsorted (versions : List Version)
  | duplicate (first second : Version)
deriving DecidableEq, Repr

/-- Why a cluster map could not be loaded from its file. -/
inductive LoadFault where
  | absent (path : Path)
  | undecodable (path : Path) (fault : Json.LocatedFault)
  | invalid (fault : MapFault)
deriving DecidableEq, Repr

namespace MapFault

/-- The wording of the fault. -/
def message : MapFault → String
  | empty root => "cluster map for '" ++ root.text ++ "' is empty"
  | rowLength row =>
    "cluster map row " ++ Text.quotedList row ++ " must have exactly two fields"
  | version text fault => "invalid version '" ++ text ++ "': " ++ fault.message
  | notLocal artifact => "artifact path '" ++ artifact ++ "' is not local"
  | missing path => "remote configuration '" ++ path.text ++ "' does not exist"
  | unsorted _ => "cluster map is not sorted"
  | duplicate _ second => "duplicate version '" ++ second.text ++ "' in cluster map"

/-- The versions in ascending order; equal ones keep their order. -/
def sortedVersions (vs : List Version) : List Version :=
  vs.mergeSort fun a b => (a.precedence b).isLE

/-- What log records say about the fault. -/
def details : MapFault → String × List (String × FieldValue)
  | empty root => ("cluster map is empty", [("root", .text root.text)])
  | rowLength row =>
    ("unexpected cluster map row length",
      [("len", .count row.length), ("row", .text (Text.quotedList row))])
  | version text fault =>
    ("invalid semver in cluster map",
      [("version", .text text), ("error", .text fault.message)])
  | notLocal artifact =>
    ("artifact path escapes the cohort root", [("artifact", .text artifact)])
  | missing path =>
    ("remote configuration couldn't be accessed", [("path", .text path.text)])
  | unsorted versions =>
    ("cluster map is not sorted",
      [("versions", .text (Version.detailList versions)),
        ("sorted", .text (Version.detailList (sortedVersions versions)))])
  | duplicate first second =>
    ("duplicate version in cluster map",
      [("first", .text first.text), ("second", .text second.text)])

/-- The event that reports the fault. -/
def event (f : MapFault) : Event where
  level := .error
  origin := .clusterMap
  message := f.details.1
  fields := f.details.2

/-- The error of a start-up that meets the fault. -/
def error (f : MapFault) : ServiceError := .configInvalid f.message

end MapFault

namespace LoadFault

/-- The wording of the fault. -/
def message : LoadFault → String
  | absent path => "cannot find cluster map '" ++ path.text ++ "'"
  | undecodable path fault =>
    "cannot parse cluster map '" ++ path.text ++ "': " ++ fault.message
  | invalid fault => fault.message

/-- The events that report the fault. A missing file has been reported by the cache. -/
def events : LoadFault → List Event
  | absent _ => []
  | undecodable path fault =>
    [{ level := .error, origin := .clusterMap, message := "cannot load cluster map"
       fields := [("path", .text path.text), ("error", .text fault.message)] }]
  | invalid fault => [fault.event]

/-- The error of a start-up that meets the fault. -/
def error (f : LoadFault) : ServiceError := .configInvalid f.message

end LoadFault

namespace ClusterMap

/-! ## Building -/

/-- The entry that a row stands for, unless the row is faulty by itself. -/
def entryOfRow (root : Path) (store : FileStore) : List String → Except MapFault MapEntry
  | [text, artifact] =>
    match Version.parse text with
    | .error fault => .error (.version text fault)
    | .ok version =>
      if !Path.isLocal artifact then .error (.notLocal artifact)
      else if !store.isFile (root.join artifact) then .error (.missing (root.join artifact))
      else .ok { version, artifact }
  | row => .error (.rowLength row)

/-- The entries of all rows, or the fault of the first faulty one. -/
def entriesOfRows (root : Path) (store : FileStore) :
    List (List String) → Except MapFault (List MapEntry)
  | [] => .ok []
  | row :: rows => do
    let entry ← entryOfRow root store row
    let entries ← entriesOfRows root store rows
    return entry :: entries

/-- Some version is followed by a lower one. -/
def descends : List Version → Bool
  | v :: w :: rest => v.precedence w == .gt || descends (w :: rest)
  | _ => false

/-- The first two neighbours of equal precedence. -/
def repeated? : List Version → Option (Version × Version)
  | v :: w :: rest => if v.precedence w = .eq then some (v, w) else repeated? (w :: rest)
  | _ => none

/-- The fault in the order of the versions, if there is one. -/
def orderFault? (vs : List Version) : Option MapFault :=
  if descends vs then some (.unsorted vs)
  else (repeated? vs).map fun pair => .duplicate pair.1 pair.2

/-- Neighbours that neither descend nor repeat settle the order of any two versions. -/
theorem descends_repeated_iff (vs : List Version) :
    descends vs = false ∧ repeated? vs = none ↔ Version.Ascending vs := by
  induction vs with
  | nil => simp [descends, repeated?, Version.Ascending]
  | cons v rest ih =>
    cases rest with
    | nil => simp [descends, repeated?, Version.Ascending]
    | cons w rest =>
      rw [Version.Ascending, List.pairwise_cons, ← Version.Ascending, ← ih, descends, repeated?]
      cases hvw : v.precedence w with
      | eq =>
        simp only [↓reduceIte, reduceCtorEq, and_false, false_iff, not_and]
        intro hall
        exact absurd (hvw.symm.trans (hall w List.mem_cons_self)) (by decide)
      | gt =>
        simp only [beq_self_eq_true, Bool.true_or, Bool.true_eq_false, false_and, false_iff,
          not_and]
        intro hall
        exact absurd (hvw.symm.trans (hall w List.mem_cons_self)) (by decide)
      | lt =>
        -- `w` is below all later versions, so by transitivity `v` is too.
        have hlt : (Ordering.lt == Ordering.gt) = false := rfl
        simp only [hlt, Bool.false_or, reduceCtorEq, ↓reduceIte, iff_and_self]
        intro hrest x hx
        rcases List.mem_cons.1 hx with rfl | hx
        · exact hvw
        · exact Std.TransCmp.lt_trans hvw (List.rel_of_pairwise_cons (ih.1 hrest) hx)

theorem orderFault?_eq_none_iff {vs : List Version} :
    orderFault? vs = none ↔ Version.Ascending vs := by
  rw [← descends_repeated_iff, orderFault?]
  cases descends vs <;> simp

/-- The map of these rows. -/
def build (root : Path) (rows : List (List String)) (store : FileStore) :
    Except MapFault ClusterMap :=
  match entriesOfRows root store rows with
  | .error fault => .error fault
  | .ok [] => .error (.empty root)
  | .ok (entry :: entries) =>
    match h : orderFault? ((entry :: entries).map MapEntry.version) with
    | some fault => .error fault
    | none =>
      .ok { root, entries := entry :: entries, nonempty := by simp
            ascending := orderFault?_eq_none_iff.1 h }

/-! ## Loading -/

/-- Reads the rows of a map. -/
def readRows : Json.Reader (List (List String)) := Json.readList (Json.readList Json.readString)

/-- What loading a map leads to. -/
structure Loaded where
  result : Except LoadFault ClusterMap
  cache : Cache
  events : List Event

/-- The event of a map that has been loaded from this path. -/
def validEvent (path : Path) (m : ClusterMap) : Event where
  level := .info
  origin := .clusterMap
  message := "the cluster map is valid"
  fields := [("path", .text path.text), ("entries", .count m.entries.length)]

/-- The map in these bytes, read from this path. -/
def ofBytes (root path : Path) (store : FileStore) (bytes : Bytes) : Except LoadFault ClusterMap :=
  match Json.decode readRows bytes with
  | .error fault => .error (.undecodable path fault)
  | .ok rows => (build root rows store).mapError .invalid

/-- The map in the file with this name below the root, read through the cache. -/
def load (root : Path) (mappingName : String) (store : FileStore) (cache : Cache) : Loaded :=
  let path := root.join mappingName
  match cache.get store path with
  | (none, cache, event) => { result := .error (.absent path), cache, events := [event] }
  | (some bytes, cache, event) =>
    match ofBytes root path store bytes with
    | .error fault => { result := .error fault, cache, events := event :: fault.events }
    | .ok m => { result := .ok m, cache, events := [event, validEvent path m] }

/-! ## Lookup -/

/-- The entry of the lowest version. -/
def first (m : ClusterMap) : MapEntry := m.entries.head m.nonempty

/-- The entry of the highest version. -/
def last (m : ClusterMap) : MapEntry := m.entries.getLast m.nonempty

/-- How many entries the map has. -/
def size (m : ClusterMap) : Nat := m.entries.length

/-- The entry at this place is not above the version. -/
def isWithin (m : ClusterMap) (v : Version) (place : Nat) : Bool :=
  m.entries[place]?.any fun entry => entry.version.precedence v != .gt

/-- How many entries are not above the version. -/
def rank (m : ClusterMap) (v : Version) : Nat := bisect (m.isWithin v) 0 m.size

/-- The entry of the greatest version that is not above this one. -/
def floor? (m : ClusterMap) (v : Version) : Option MapEntry :=
  match m.rank v with
  | 0 => none
  | n + 1 => m.entries[n]?

/-- The error of a request for a version below all entries. -/
def belowRange (m : ClusterMap) (v : Version) : ServiceError :=
  .notFound ("version " ++ v.text ++ " is below the known range (lowest is " ++
    m.first.version.text ++ ")")

/-- The entry that serves the version. -/
def resolve (m : ClusterMap) (v : Version) : Except ServiceError MapEntry :=
  match m.floor? v with
  | some entry => .ok entry
  | none => .error (m.belowRange v)

/-- The event of a version that has been resolved to this entry. -/
def resolvedEvent (v : Version) (entry : MapEntry) : Event where
  level := .debug
  origin := .clusterMap
  message := "resolved version"
  fields := [("query", .text v.text), ("floor", .text entry.version.text),
    ("artifact", .text entry.artifact)]

/-- The full path of an artifact. -/
def artifactPath (m : ClusterMap) (artifact : String) : Path := m.root.join artifact

end ClusterMap

end RemoteRollout

import RemoteRollout.Decimal.Binary64
import RemoteRollout.Text.Utf8

/-!
# Metrics

A counter of the remote configurations that were served, by artifact and by the version that the
artifact states. Every pair of labels belongs to a series; a series is known by a 64-bit hash of
its labels, one after the other, so that pairs with the same hash share the series of the pair
that came first.
-/

namespace RemoteRollout

/-- The counter of the pairs of labels with one hash. -/
structure Series where
  hash : UInt64
  file : String
  version : String
  value : UInt64 := 0
deriving DecidableEq, Repr, Inhabited

/-- The series of the counter, in the order in which they were first used. -/
structure Metrics where
  series : List Series := []
deriving DecidableEq, Repr, Inhabited

namespace Metrics

/-- The name of the counter. -/
def name : String := "io_gathering_remote_configuration"

/-- What the counter counts. -/
def help : String := "The number of times a remote configuration was returned"

/-- The `FNV-1a` hash of some bytes that follow those hashed to `h`. -/
def hashBytes (h : UInt64) (bs : List UInt8) : UInt64 :=
  bs.foldl (fun h b => (h ^^^ b.toUInt64) * 0x100000001b3) h

/-- The hash of a pair of labels. -/
def hashLabels (file version : String) : UInt64 :=
  hashBytes (hashBytes 0xcbf29ce484222325 (Text.Utf8.ofString file)) (Text.Utf8.ofString version)

/-- The series with one of them changed, which is added with the value zero if it is not there. -/
def changed (change : UInt64 → UInt64) (blank : Series) : List Series → List Series
  | [] => [{ blank with value := change blank.value }]
  | s :: rest =>
    if s.hash = blank.hash then { s with value := change s.value } :: rest
    else s :: changed change blank rest

/-- The series of a pair of labels before it counts anything. -/
def blank (file version : String) : Series := { hash := hashLabels file version, file, version }

/-- The metrics after one more configuration was served. -/
def record (m : Metrics) (file version : String) : Metrics :=
  ⟨changed (· + 1) (blank file version) m.series⟩

/-- The metrics after their counter was asked for, which creates its series. -/
def touch (m : Metrics) (file version : String) : Metrics :=
  ⟨changed id (blank file version) m.series⟩

/-- What the counter shows for a pair of labels. -/
def count (m : Metrics) (file version : String) : UInt64 :=
  match m.series.find? (·.hash == hashLabels file version) with
  | some s => s.value
  | none => 0

/-! ## Exposition -/

/-- The order of series: by file, then by version. -/
def seriesOrder (a b : Series) : Ordering :=
  (compare a.file.toList b.file.toList).then (compare a.version.toList b.version.toList)

/-- A character in the value of a label. -/
def labelChar (c : Char) : List Char :=
  if c = '\\' then ['\\', '\\']
  else if c = '\n' then ['\\', 'n']
  else if c = '"' then ['\\', '"']
  else [c]

/-- The value of a label between quotes. -/
def labelText (s : String) : String := String.ofList ('"' :: s.toList.flatMap labelChar ++ ['"'])

/-- The value of a sample: a whole number, of which beyond `2 ^ 53` only the digits that double
precision tells apart are shown. -/
def sampleText (value : UInt64) : String :=
  if value.toNat < 0x20000000000000 then toString value.toNat
  else
    let d := (Decimal.Binary64.ofFloat value.toFloat).shortest
    String.ofList (d.digitChars ++ List.replicate d.exponent.toNat '0')

/-- The line of a series. -/
def line (s : Series) : String :=
  name ++ "\x7bfile=" ++ labelText s.file ++ ",version=" ++ labelText s.version ++ "\x7d " ++
    sampleText s.value ++ "\n"

/-- All series, in order. -/
def sorted (m : Metrics) : List Series := m.series.mergeSort fun a b => (seriesOrder a b).isLE

/-- The exposition of the counter. -/
def text (m : Metrics) : String :=
  if m.series.isEmpty then ""
  else
    "# HELP " ++ name ++ " " ++ help ++ "\n# TYPE " ++ name ++ " counter\n" ++
      String.join (m.sorted.map line)

/-- The metrics as log records show them. -/
def detail : String := "RemoteConfigMetrics \x7b metric: \"" ++ name ++ "\", .. \x7d"

end Metrics

end RemoteRollout

import RemoteRollout.CommandLine.Record
import RemoteRollout.CommandLine.Resources
import RemoteRollout.Storage.Snapshot

/-!
# The program

Reads the arguments, the variables and the files of a run, and shows what the run leads to.
-/

namespace RemoteRollout

/-- The failure with a code of the operating system, which may come with its sign turned. -/
def ReadFailure.ofCode (code : UInt32) (details : String) : ReadFailure :=
  match min code.toNat (0x100000000 - code.toNat) with
  | 2 => .noSuchFile
  | 13 => .system 13 "Permission denied"
  | 20 => .notDirectory
  | 21 => .isDirectory
  | 36 => .nameTooLong
  | n => .system n details

/-- The failure that an error of the operating system stands for. -/
def ReadFailure.ofError : IO.Error → ReadFailure
  | .noFileOrDirectory _ code details | .inappropriateType _ code details
  | .invalidArgument _ code details | .permissionDenied _ code details
  | .resourceExhausted _ code details | .otherError code details => .ofCode code details
  | e => .system 5 (toString e)

/-- Reads one file. -/
def readPath (p : Path) : IO (Except ReadFailure Bytes) := do
  if p.text.toList.contains '\x00' then return .error .nulCharacter
  try
    return .ok (← IO.FS.readBinFile p.text).toList
  catch e =>
    return .error (.ofError e)

/-- Reads the files of a run, as far as those already read tell which they are. -/
def readResources (i : Invocation) (lookup : String → Option String) (s : Snapshot) :
    IO Snapshot :=
  (i.resources s.fileStore lookup).foldlM (fun s p => do
    if s.contains p then return s else return s.insert p (← readPath p)) s

/-- Reads all files of a run. -/
def readAll (i : Invocation) (lookup : String → Option String) : IO Snapshot :=
  (List.range Invocation.resourceRounds).foldlM (fun s _ => readResources i lookup s) {}

/-- Shows what a run leads to, and answers its exit code. -/
def Outcome.report (o : Outcome) : IO UInt32 := do
  for e in o.events do
    IO.eprint (String.ofList (e.line o.jsonLogs))
  for body in o.bodies do
    IO.eprintln (String.ofList body)
  IO.print (String.ofList o.output)
  return UInt32.ofNat o.code

end RemoteRollout

open RemoteRollout in
/-- Runs a command line. -/
def main (arguments : List String) : IO UInt32 := do
  let values ← CommandLine.variables.filterMapM fun name => do
    return (← IO.getEnv name).map (name, ·)
  let lookup (name : String) : Option String := values.lookup name
  match CommandLine.parse arguments lookup with
  | .error stop => stop.outcome.report
  | .ok invocation =>
    let files ← readAll invocation lookup
    (invocation.run files.fileStore lookup).report

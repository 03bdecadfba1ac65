import RemoteRollout.Cohort
import RemoteRollout.Settings

/-!
# Arguments

What the arguments of a command line ask for. Arguments are read from left to right: options belong
to the command they follow, the name of a command begins the next level, and two options are known
at every level: the configuration file and the switch for `JSON` logs. Of an option given at
several levels the innermost counts.
-/

namespace RemoteRollout

/-- A command, with what it is given. -/
inductive Command where
  /-- Checks the cluster maps of both cohorts. -/
  | check
  /-- Shows the rules that a request is answered. -/
  | rules (userAgent : Option String)
  /-- Shows the remote configuration that a request is answered. -/
  | remoteConfiguration (version : String) (userAgent : Option String)
  /-- Shows the path of the artifact that a cohort is served. -/
  | resolve (version : String) (cohort : Cohort)
  /-- Replays requests, and shows the counters. -/
  | metrics (versions : List String) (userAgent : Option String)
  /-- Shows the settings. -/
  | showSettings
  /-- Shows the version of the command line. -/
  | version
deriving DecidableEq, Repr, Inhabited

/-- A command, with what is common to all commands. -/
structure Invocation where
  file : Option Path
  jsonLogs : Bool
  command : Command
deriving DecidableEq, Repr, Inhabited

namespace CommandLine

/-! ## What is known -/

/-- The levels of a command line: the program itself, its commands, and the commands of these. -/
inductive Scope where
  | program
  | check
  | rules
  | remoteConfiguration
  | resolve
  | metrics
  | settings
  | showSettings
  | version
deriving DecidableEq, Repr, Inhabited

/-- The options that stand for something. -/
inductive Key where
  | file
  | jsonLogs
  | ocpVersion
  | userAgent
  | cohort
deriving DecidableEq, Repr, Inhabited

namespace Key

/-- The name of an option, without the hyphens before it. -/
def name : Key → String
  | file => "config"
  | jsonLogs => "log-json"
  | ocpVersion => "ocp-version"
  | userAgent => "user-agent"
  | cohort => "cohort"

/-- The option is a switch: it takes no value. -/
def isSwitch : Key → Bool
  | jsonLogs => true
  | _ => false

/-- The option takes this value. -/
def accepts : Key → String → Bool
  | file, value => !value.isEmpty
  | cohort, value => (Cohort.parse value).toBool
  | _, _ => true

end Key

namespace Scope

/-- The options of this level alone. -/
def ownKeys : Scope → List Key
  | rules => [.userAgent]
  | remoteConfiguration => [.ocpVersion, .userAgent]
  | resolve => [.ocpVersion, .cohort]
  | metrics => [.ocpVersion, .userAgent]
  | program | check | settings | showSettings | version => []

/-- The options of this level. -/
def keys (s : Scope) : List Key := [.file, .jsonLogs] ++ s.ownKeys

/-- The option of this name. -/
def key? (s : Scope) (name : String) : Option Key := s.keys.find? (·.name == name)

/-- The option may be given several times. -/
def repeats : Scope → Key → Bool
  | metrics, .ocpVersion => true
  | _, _ => false

/-- The commands of this level. -/
def commands : Scope → List (String × Scope)
  | program => [("check", check), ("rules", rules), ("remote-config", remoteConfiguration),
      ("resolve", resolve), ("metrics", metrics), ("config", settings), ("version", version)]
  | settings => [("show", showSettings)]
  | _ => []

end Scope

/-! ## Reading -/

/-- The options given at one level, in order, with their values; a switch has the empty one. -/
abbrev Given := List (Key × String)

/-- One level of a command line. -/
structure Stage where
  scope : Scope
  given : Given
deriving DecidableEq, Repr

/-- Why reading comes to an end before the last argument. -/
inductive Stop where
  /-- The version of the program is asked for. -/
  | version
  /-- Help is asked for. -/
  | help
  /-- The arguments are wrong. -/
  | refused
deriving DecidableEq, Repr, Inhabited

/-- An argument, by its form. -/
inductive Token where
  /-- The `--` after which there are no more options. -/
  | endOfOptions
  | long (name : String) (value : Option String)
  /-- Letters behind one hyphen. -/
  | letters (cs : List Char)
  | word (text : String)
deriving DecidableEq, Repr

/-- The form of an argument. A lone hyphen is a word. -/
def Token.ofText (text : String) : Token :=
  match text.toList with
  | ['-', '-'] => .endOfOptions
  | '-' :: '-' :: cs =>
    let value :=
      match cs.dropWhile (· != '=') with
      | [] => none
      | _ :: value => some (String.ofList value)
    .long (String.ofList (cs.takeWhile (· != '='))) value
  | '-' :: c :: cs => .letters (c :: cs)
  | _ => .word text

/-- One level of a command line while it is read. -/
structure Draft where
  scope : Scope
  given : Given := []
  /-- The option named last, and its value, as long as the option has not been taken in. -/
  open? : Option (Key × Option String) := none

namespace Draft

/-- Takes in an option with its value. -/
def take (l : Draft) (k : Key) (value : String) : Except Stop Draft :=
  if k.accepts value && (l.scope.repeats k || (l.given.lookup k).isNone) then
    .ok { l with given := l.given ++ [(k, value)], open? := none }
  else .error .refused

/-- Takes in the option named last. -/
def close (l : Draft) : Except Stop Draft :=
  match l.open? with
  | none => .ok l
  | some (_, none) => .error .refused
  | some (k, some value) => l.take k value

/-- Reads a long option. Help can be asked for at every level, the version of the program only at
its own. -/
def readLong (l : Draft) (name : String) (value : Option String) : Except Stop Draft :=
  match l.scope.key? name, value with
  | some k, none => do
    let l ← l.close
    if k.isSwitch then l.take k "" else return { l with open? := some (k, none) }
  | some k, some value => do
    let l ← l.close
    if k.isSwitch then throw .refused else l.take k value
  | none, none => do
    let _ ← l.close
    if name = "help" then throw .help
    else if name = "version" ∧ l.scope = .program then throw .version
    else throw .refused
  | none, some _ => .error .refused

/-- What letters behind one hyphen ask for: the first one counts. -/
def readLetters (l : Draft) (cs : List Char) : Stop :=
  match l.close, cs.head? with
  | .error stop, _ => stop
  | .ok _, some 'h' => .help
  | .ok _, some 'V' => if l.scope = .program then .version else .refused
  | .ok _, _ => .refused

end Draft

/-- What the names after `help` come to: help, if they lead from command to command. -/
def readHelp : Scope → List String → Stop
  | _, [] => .help
  | s, name :: rest =>
    match s.commands.lookup name with
    | some s => readHelp s rest
    | none => if name = "help" ∧ !s.commands.isEmpty then .help else .refused

/-- Reads the arguments of a level and of those inside it. The innermost level comes last. -/
def readLevel (l : Draft) : List String → Except Stop (List Stage)
  | [] => do
    let l ← l.close
    return [⟨l.scope, l.given⟩]
  | text :: rest =>
    match Token.ofText text, l.open? with
    | .endOfOptions, _ => do
      let l ← l.close
      if rest.isEmpty then return [⟨l.scope, l.given⟩] else throw .refused
    | .long name value, _ => do readLevel (← l.readLong name value) rest
    | .letters cs, _ => .error (l.readLetters cs)
    | .word value, some (k, none) => readLevel { l with open? := some (k, some value) } rest
    | .word name, _ =>
      match l.scope.commands.lookup name with
      | some inner => do
        let stages ← readLevel ⟨inner, [], none⟩ rest
        let l ← l.close
        return ⟨l.scope, l.given⟩ :: stages
      | none =>
        if name = "help" ∧ !l.scope.commands.isEmpty then .error (readHelp l.scope rest)
        else .error .refused

/-! ## Understanding -/

/-- The last value given to an option at one level. -/
def Stage.value? (s : Stage) (k : Key) : Option String := s.given.reverse.lookup k

/-- All values given to an option at one level. -/
def Stage.values (s : Stage) (k : Key) : List String :=
  (s.given.filter (·.1 == k)).map Prod.snd

/-- The command of the innermost level, if it has all it needs. -/
def Stage.command? (s : Stage) : Option Command :=
  let userAgent := s.value? .userAgent
  match s.scope with
  | .program | .settings => none
  | .check => some .check
  | .rules => some (.rules userAgent)
  | .remoteConfiguration =>
    (s.value? .ocpVersion).map fun version => .remoteConfiguration version userAgent
  | .resolve =>
    (s.value? .ocpVersion).map fun version =>
      .resolve version (((s.value? .cohort).bind fun c => (Cohort.parse c).toOption).getD .stable)
  | .metrics =>
    match s.values .ocpVersion with
    | [] => none
    | versions => some (.metrics versions userAgent)
  | .showSettings => some .showSettings
  | .version => some .version

/-- The name of the variable that holds the path of the configuration file. -/
def fileVariable : String := Settings.variablePrefix ++ "CONFIG"

/-- The path of the configuration file. At a level where no path is given the variable counts, and
then it must not be empty; a given path goes before it. -/
def filePath (stages : List Stage) (fromVariable : Option String) :
    Except Stop (Option Path) :=
  if stages.any (fun s => (s.value? .file).isNone) && fromVariable == some "" then
    .error .refused
  else
    let given := (stages.reverse.findSome? (·.value? .file)).or fromVariable
    .ok (given.map Path.mk)

/-- The invocation that some levels make. -/
def invocation (stages : List Stage) (fromVariable : Option String) : Except Stop Invocation := do
  let file ← filePath stages fromVariable
  match stages.getLast?.bind Stage.command? with
  | none => throw .refused
  | some command =>
    return { file, command, jsonLogs := stages.any fun s => (s.value? .jsonLogs).isSome }

/-- What some arguments ask for. -/
def parse (arguments : List String) (lookup : String → Option String) :
    Except Stop Invocation := do
  let stages ← readLevel ⟨.program, [], none⟩ arguments
  invocation stages (lookup fileVariable)

end CommandLine

end RemoteRollout

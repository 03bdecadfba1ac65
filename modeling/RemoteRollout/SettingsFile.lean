import RemoteRollout.Event
import RemoteRollout.SettingsText
import RemoteRollout.Storage.FileStore
import RemoteRollout.Text.Utf8

/-!
# Loading the settings

The settings of a run: those of its configuration file, or the defaults if there is none, with the
overrides of the environment. The file must be readable, `UTF-8` and free of faults before the
environment counts.
-/

namespace RemoteRollout

namespace Settings

/-- The error of a configuration file that cannot be read. -/
def unreadable (p : Path) (reason : String) : ServiceError :=
  .configInvalid ("cannot read configuration '" ++ p.text ++ "': " ++ reason)

/-- The settings in a configuration file. -/
def ofFile (store : FileStore) (p : Path) : Except ServiceError Settings :=
  match store.read p with
  | .error failure => .error (unreadable p failure.text)
  | .ok bytes =>
    match Text.Utf8.text? bytes with
    | none => .error (unreadable p "stream did not contain valid UTF-8")
    | some cs => ofText (String.ofList cs)

/-- The event of a configuration file that is about to be read. -/
def loadingEvent (p : Path) : Event where
  level := .debug
  origin := .settings
  message := "loading configuration file"
  fields := [("path", .text p.text)]

/-- The settings before the environment counts. -/
def base (store : FileStore) : Option Path → Except ServiceError Settings
  | none => .ok {}
  | some p => ofFile store p

/-- The settings of a run. -/
def load (store : FileStore) (file : Option Path) (lookup : String → Option String) :
    Except ServiceError Settings :=
  (base store file).map fun s => s.withVariables lookup

/-- What is reported while the settings are loaded. -/
def loadEvents (file : Option Path) : List Event := file.toList.map loadingEvent

end Settings

end RemoteRollout

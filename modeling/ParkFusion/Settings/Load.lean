import ParkFusion.Settings.Record
import ParkFusion.Toml.Reader

namespace ParkFusion

/-- What is found under the name of a file. -/
inductive FileContent
  | missing
  | unreadable
  | text (content : String)

/-- Why no settings were loaded. -/
inductive LoadFault
  | unreadable
  | malformed
  | refused (fault : SettingsFault)
  deriving DecidableEq, Repr

def LoadFault.message : LoadFault → String
  | unreadable => "IO error: the file cannot be read"
  | malformed => "Configuration error: the file cannot be parsed"
  | refused fault => "Configuration error: " ++ fault.message

namespace Settings

/-- The environment variable that names a settings file. -/
def fileVariable : String := "PARKFAN_CONFIG"

/-- Which file is loaded: the one given on the command line, else the one that the environment names,
else the user's own. -/
def chooseFile (argument : Option String) (env : String → Option String)
    (ownFile : Option String) : Option String :=
  match argument, (env fileVariable).filter (!Unicode.isBlankText ·) with
  | some path, _ => some path
  | none, some path => some path
  | none, none => ownFile

/-- The settings in a file. A file that is missing stands for the default settings. -/
def ofFile : FileContent → Except LoadFault Settings
  | .missing => .ok {}
  | .unreadable => .error .unreadable
  | .text content =>
    match (Toml.read? content).bind (Settings.ofDocument? .skipped) with
    | some s => .ok s
    | none => .error .malformed

/-- Completes settings that were read by those of the environment, and checks them. -/
def complete (env : String → Option String) (content : FileContent) :
    Except LoadFault Settings := do
  let s ← ofFile content
  match (s.withEnvironment env).check with
  | .ok s => return s
  | .error fault => .error (.refused fault)

end Settings

end ParkFusion

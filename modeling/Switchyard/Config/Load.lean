import Switchyard.Config.EnvironmentFile
import Switchyard.Config.Section

/-!
# Loading settings

The layers of settings from the lowest to the highest: the defaults, a file, a file of the profile, the
assignments of the environment file, and the variables that are set.
-/

namespace Switchyard

/-- What stands under a name of a directory. -/
inductive FileEntry where
  | file (content : Bytes)
  | directory

/-- A directory and the variables of a process. -/
structure Surroundings where
  files : List (String × FileEntry)
  environment : Variables

/-- Why settings do not load. A text that is not well-formed has no message of its own. -/
inductive LoadFault where
  | malformed
  | error (e : ConfigError)

namespace Surroundings

/-- Whether every document in the directory is well-formed. -/
def wellFormed (s : Surroundings) : Bool :=
  s.files.all fun (name, entry) =>
    match entry with
    | .directory => true
    | .file content =>
      !(name.endsWith ".yaml") || (Utf8.decode? content).any Yaml.isWellFormed

/-- A load error: it is only told if every document is well-formed. -/
def fault (s : Surroundings) (reason : String) : LoadFault :=
  if s.wellFormed then .error (.load reason) else .malformed

/-- Lays what stands under a name over settings. -/
def mergeEntry (s : Surroundings) (settings : Settings) : FileEntry → Except LoadFault Settings
  | .directory => .error (s.fault "Is a directory (os error 21)")
  | .file content =>
    match Utf8.decode? content with
    | none => .error (s.fault "stream did not contain valid UTF-8")
    | some text =>
      match settings.merge text with
      | .ok merged => .ok merged
      | .error (.refused reason) => .error (s.fault reason)
      | .error .malformed => .error .malformed

/-- Lays a file over settings, if there is one. -/
def mergeFile (s : Surroundings) (settings : Settings) (name : String) : Except LoadFault Settings :=
  match s.files.lookup name with
  | none => .ok settings
  | some entry => s.mergeEntry settings entry

/-- The variables that the environment file adds. -/
def addedVariables (s : Surroundings) : Variables :=
  match s.files.lookup ".env" with
  | some (.file content) => environmentFile s.environment content
  | _ => []

/-- The profile in force. -/
def activeProfile (s : Surroundings) (profile : String) : String :=
  (s.environment.lookup "AXMVC_PROFILE").getD profile

end Surroundings

namespace Settings

/-- Loads the settings of a profile. -/
def load (s : Surroundings) (profile : String) : Except LoadFault Settings :=
  match s.mergeFile {} "application.yaml" with
  | .error e => .error e
  | .ok base =>
    match s.mergeFile base s!"application-{s.activeProfile profile}.yaml" with
    | .error e => .error e
    | .ok settings =>
      match settings.override (s.environment ++ s.addedVariables) with
      | (settings, none) => .ok settings
      | (_, some e) => .error (.error e)

/-- Loads the settings of one file, without any variables. -/
def fromFile (s : Surroundings) (name : String) : Except LoadFault Settings :=
  match s.files.lookup name with
  | none => .error (s.fault "No such file or directory (os error 2)")
  | some entry => s.mergeEntry {} entry

/-- Reads the settings of a text. -/
def ofText (text : String) : Except LoadFault Settings :=
  match Settings.merge {} text with
  | .ok s => .ok s
  | .error (.refused reason) => .error (if Yaml.isWellFormed text then .error (.load reason) else .malformed)
  | .error .malformed => .error .malformed

end Settings

end Switchyard

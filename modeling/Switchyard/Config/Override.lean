import Switchyard.Config.Settings
import Switchyard.Number.Integer
import Switchyard.Text.Blank

/-!
# Overrides

Variables that replace a setting. Every other variable is passed over; the first value that does not read as
its setting ends the replacing, and what was replaced before stays so.
-/

namespace Switchyard

/-- Why settings cannot be read. -/
inductive ConfigError where
  | load (reason : String)
  | invalidOverride (name value : String)
  deriving DecidableEq, Repr

/-- The text of an error. -/
def ConfigError.message : ConfigError → String
  | .load reason => s!"Config load error: {reason}"
  | .invalidOverride name value => s!"Invalid value for {name}: '{value}'"

/-- The settings by name. -/
inductive SettingKey where
  | maxBodyBytes
  | prettyJson
  | maxMessageBytes
  deriving DecidableEq, Repr

namespace SettingKey

/-- All settings, in the order in which they are written. -/
def all : List SettingKey := [maxBodyBytes, prettyJson, maxMessageBytes]

/-- The key of a setting. -/
def key : SettingKey → String
  | maxBodyBytes => "max_body_bytes"
  | prettyJson => "pretty_json"
  | maxMessageBytes => "ws_max_message_bytes"

/-- The variable that replaces a setting. -/
def variableName : SettingKey → String
  | maxBodyBytes => "AXMVC_MAX_BODY_BYTES"
  | prettyJson => "AXMVC_PRETTY_JSON"
  | maxMessageBytes => "AXMVC_WS_MAX_MESSAGE_BYTES"

/-- The setting of a key. -/
def ofKey? (k : String) : Option SettingKey := all.find? fun s => s.key == k

/-- The setting that a variable replaces. -/
def ofVariable? (v : String) : Option SettingKey := all.find? fun s => s.variableName == v

/-- A number of bytes as a variable writes it. -/
def readSize? (value : String) : Option Nat :=
  match IntegerType.u64.read (trimBlanks value) with
  | .ok n => some n.toNat
  | .error _ => none

/-- A truth value as a variable writes it. -/
def readFlag? (value : String) : Option Bool :=
  match trimBlanks value with
  | "true" => some true
  | "false" => some false
  | _ => none

/-- Replaces a setting by what a variable holds. -/
def replace? (setting : SettingKey) (s : Settings) (value : String) : Option Settings :=
  match setting with
  | maxBodyBytes => (readSize? value).map fun n => { s with maxBodyBytes := n }
  | prettyJson => (readFlag? value).map fun b => { s with prettyJson := b }
  | maxMessageBytes => (readSize? value).map fun n => { s with maxMessageBytes := n }

end SettingKey

namespace Settings

/-- Replaces settings by variables, in order; the settings so far come with the first error. -/
def override (s : Settings) : List (String × String) → Settings × Option ConfigError
  | [] => (s, none)
  | (name, value) :: rest =>
    match SettingKey.ofVariable? name with
    | none => s.override rest
    | some setting =>
      match setting.replace? s value with
      | some s => s.override rest
      | none => (s, some (.invalidOverride name value))

end Settings

end Switchyard

import Switchyard.Config.Override
import Switchyard.Text.Quoted
import Switchyard.Yaml.Value

/-!
# Settings in a document

A document may hold settings in the mapping of one of its keys. The entries of that mapping are laid over the
settings that are there already, and then all are read again; keys of no setting are passed over.
-/

namespace Switchyard

open Yaml

/-- What a value is called in messages. -/
def Yaml.Value.called : Value → String
  | .null => "unit value"
  | .bool b => s!"boolean `{b}`"
  | .int n => s!"integer `{n}`"
  | .real x => s!"floating point `{plainReal.write x}`"
  | .text s => s!"string {quoted s}"
  | .sequence _ => "sequence"
  | .mapping _ => "map"
  | .tagged _ v => v.called

/-- A value of the wrong type. -/
def wrongType (v : Value) (expected : String) : String := s!"invalid type: {v.called}, expected {expected}"

/-- A place for the end of a message; the front of the text is not told. -/
def Yaml.Mark.told (m : Mark) : String := if m = ⟨0, 0⟩ then "" else s!" at {m.text}"

/-! ## Finding the section -/

/-- The entries of a mapping in a document. -/
abbrev Section := List (Value × Value)

/-- The key that holds settings. -/
def sectionKey : String := "mvc"

/-- Why a text gives no settings. -/
inductive MergeFault where
  /-- The text, or its value of settings, does not read. What is wrong with it is not told. -/
  | malformed
  | refused (reason : String)
  deriving DecidableEq, Repr

/-- The text of a key; keys that are no scalars have none. -/
def Yaml.Node.keyText : Node → Except MergeFault String
  | .scalar _ _ text _ => .ok text
  | .sequence mark .. => .error (.refused s!"invalid type: sequence, expected field identifier{mark.told}")
  | .mapping mark .. => .error (.refused s!"invalid type: map, expected field identifier{mark.told}")
  | .alias _ => .error .malformed

/-- The text of a key of a document, and how many references have been followed up to it. -/
def Yaml.Document.keyText (d : Document) (jumps : Nat) (key : Node) : Except MergeFault (String × Nat) :=
  match d.follow key jumps with
  | none => .error .malformed
  | some (target, jumps) => target.keyText.map (·, jumps)

/-- The value under the key of settings, of which there may be one at most. The values of other keys are passed
over: they need not read, and the references in them are not followed. -/
def Yaml.Document.sectionValue (d : Document) (mark : Mark) :
    List (Node × Node) → (jumps : Nat) → Option Value → Except MergeFault (Option Value)
  | [], _, found => .ok found
  | (k, v) :: rest, jumps, found =>
    match d.keyText jumps k with
    | .error e => .error e
    | .ok (text, jumps) =>
      if text ≠ sectionKey then d.sectionValue mark rest jumps found
      else if found.isSome then .error (.refused s!"duplicate field `{sectionKey}`{mark.told}")
      else
        match nodeValue d (nestingLimit - 1) v jumps with
        | none => .error .malformed
        | some (value, jumps) => d.sectionValue mark rest jumps (some value)

/-- The section that a value is, if it is a mapping without a tag of its own. -/
def Yaml.Value.asSection? : Value → Option Section
  | .mapping entries => some entries
  | _ => none

/-- Whether a scalar stands for no document at all. -/
def isNothing (tag : Option String) (text : String) (plain : Bool) : Bool :=
  plain && if tag = none then text.isEmpty || isNull text
    else if tag = some (coreTag "null") then isNull text else text.isEmpty

/-- The settings of a document, if it holds any. -/
def Yaml.Document.settings (d : Document) : Except MergeFault (Option Section) :=
  match d.root with
  | none => .ok none
  | some (.alias _) => .error .malformed
  | some (.mapping mark _ entries) =>
    (d.sectionValue mark entries 0 none).map (·.bind Value.asSection?)
  | some (.sequence mark ..) =>
    .error (.refused s!"invalid type: sequence, expected struct ConfigDocument{mark.told}")
  | some (.scalar mark tag text plain) =>
    if isNothing tag text plain then .ok none
    else
      match scalarValue tag text plain with
      | none => .error .malformed
      | some v => .error (.refused (wrongType v "struct ConfigDocument" ++ mark.told))

/-! ## Laying it over settings -/

/-- The settings as a section. -/
def Settings.section_ (s : Settings) : Section := [
  (.text (SettingKey.key .maxBodyBytes), .int s.maxBodyBytes),
  (.text (SettingKey.key .prettyJson), .bool s.prettyJson),
  (.text (SettingKey.key .maxMessageBytes), .int s.maxMessageBytes)]

/-- Puts a value under a key, at the place of the value that was there. -/
def Section.put (k v : Value) : Section → Section
  | [] => [(k, v)]
  | e :: rest => if k.same e.1 then (e.1, v) :: rest else e :: Section.put k v rest

/-- Lays the entries of a section over another. -/
def Section.overlay (base above : Section) : Section := above.foldl (fun base (k, v) => base.put k v) base

/-- Settings of which some have been read. -/
structure PartialSettings where
  maxBodyBytes : Option Nat := none
  prettyJson : Option Bool := none
  maxMessageBytes : Option Nat := none

/-- A number of bytes. -/
def Yaml.Value.size (v : Value) : Except String Nat :=
  match v.untagged with
  | .int n => if 0 ≤ n then .ok n.toNat else .error s!"invalid value: integer `{n}`, expected usize"
  | other => .error (wrongType other "usize")

/-- A truth value. -/
def Yaml.Value.truth (v : Value) : Except String Bool :=
  match v.untagged with
  | .bool b => .ok b
  | other => .error (wrongType other "a boolean")

/-- A key of a section. -/
def Yaml.Value.fieldName (v : Value) : Except String String :=
  match v.untagged with
  | .text s => .ok s
  | other => .error (wrongType other "field identifier")

namespace PartialSettings

/-- Whether a setting has been read. -/
def has (p : PartialSettings) : SettingKey → Bool
  | .maxBodyBytes => p.maxBodyBytes.isSome
  | .prettyJson => p.prettyJson.isSome
  | .maxMessageBytes => p.maxMessageBytes.isSome

/-- Reads a setting from its value. -/
def set (p : PartialSettings) (setting : SettingKey) (v : Value) : Except String PartialSettings :=
  match setting with
  | .maxBodyBytes => v.size.map fun n => { p with maxBodyBytes := some n }
  | .prettyJson => v.truth.map fun b => { p with prettyJson := some b }
  | .maxMessageBytes => v.size.map fun n => { p with maxMessageBytes := some n }

/-- Reads the entries of a section, in order. -/
def read (p : PartialSettings) : Section → Except String PartialSettings
  | [] => .ok p
  | (k, v) :: rest =>
    match k.fieldName with
    | .error e => .error e
    | .ok name =>
      match SettingKey.ofKey? name with
      | none => p.read rest
      | some setting =>
        if p.has setting then .error s!"duplicate field `{name}`"
        else
          match p.set setting v with
          | .error e => .error e
          | .ok p => p.read rest

/-- Settings that were not read have their defaults. -/
def complete (p : PartialSettings) : Settings :=
  let default_ : Settings := {}
  { maxBodyBytes := p.maxBodyBytes.getD default_.maxBodyBytes
    prettyJson := p.prettyJson.getD default_.prettyJson
    maxMessageBytes := p.maxMessageBytes.getD default_.maxMessageBytes }

end PartialSettings

namespace Settings

/-- Lays a section over settings. -/
def apply (s : Settings) (above : Section) : Except String Settings :=
  (PartialSettings.read {} (s.section_.overlay above)).map (·.complete)

/-- Lays the section of a text over settings. A document without settings leaves them as they are. -/
def merge (s : Settings) (text : String) : Except MergeFault Settings :=
  match document? text with
  | none => .error .malformed
  | some d =>
    match d.settings with
    | .error e => .error e
    | .ok none => .ok s
    | .ok (some above) => (s.apply above).mapError .refused

end Settings

end Switchyard

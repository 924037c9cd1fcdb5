import Switchyard.Config.Settings
import Switchyard.Json.Codec

/-!
# The state of the sample applications

Settings, the choice of a codec, a journal that methods write, and a count of injection scopes. Two codecs
besides the plain one show what happens when documents cannot be written or are no text.
-/

namespace Switchyard.Sample

/-- Which codec an application uses. -/
inductive CodecChoice where
  | plain
  | refusing
  | garbled
  deriving DecidableEq, Repr

/-- The state of an application. -/
structure Services where
  settings : Settings := {}
  codec : CodecChoice := .plain
  journal : List String := []
  /-- How many scopes were opened. -/
  scopes : Nat := 0
  deriving Repr

/-- An injection scope, numbered from one. -/
structure Scope where
  number : Nat
  deriving DecidableEq, Repr

/-- Writes and reads nothing. -/
def refusing : Codec where
  serialize v := .error (.encode s!"refused {v.compact}")
  deserialize bytes := .error (.decode s!"refused {bytes.length} bytes")

/-- Writes every document as one byte that is no text, and reads every text as its length. -/
def garbled : Codec where
  serialize _ := .ok [0xFF]
  deserialize bytes := .ok (.integer bytes.length)

namespace Services

/-- The codec of an application. -/
def jsonCodec (s : Services) : Codec :=
  match s.codec with
  | .plain => .plain s.settings.prettyJson
  | .refusing => refusing
  | .garbled => garbled

/-- Writes a line into the journal. -/
def push (s : Services) (line : String) : Services := { s with journal := s.journal ++ [line] }

/-- Opens a scope. -/
def openScope (s : Services) : Scope × Services := (⟨s.scopes + 1⟩, { s with scopes := s.scopes + 1 })

end Services

end Switchyard.Sample

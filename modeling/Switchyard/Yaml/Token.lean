import Switchyard.Yaml.Cursor

/-!
# Tokens of a YAML text

Besides the marks that are written there are tokens for what indentation says: where a sequence or a mapping
starts, which scalar is a key, and where a block ends.
-/

namespace Switchyard.Yaml

/-- A token without its place. -/
inductive TokenKind where
  | version (major minor : Nat)
  /-- A handle of tags and what it stands for. -/
  | handle (name expansion : String)
  | documentStart
  | documentEnd
  | blockSequence
  | blockMapping
  | blockEnd
  | flowSequence
  | flowSequenceEnd
  | flowMapping
  | flowMappingEnd
  | blockEntry
  | flowEntry
  | key
  | value
  | alias (name : String)
  | anchor (name : String)
  | tag (handle suffix : String)
  | scalar (text : String) (plain : Bool)
  deriving DecidableEq, Repr

/-- A token and where it starts. -/
structure Token where
  kind : TokenKind
  mark : Mark
  deriving DecidableEq, Repr

end Switchyard.Yaml

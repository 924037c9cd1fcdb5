/-!
# Settings

The limits and the style that an application runs with.
-/

namespace Switchyard

/-- The settings of an application. -/
structure Settings where
  /-- The greatest body that is read. -/
  maxBodyBytes : Nat := 2097152
  /-- The default codec writes documents on many lines. -/
  prettyJson : Bool := false
  /-- The greatest message that a socket accepts. -/
  maxMessageBytes : Nat := 65536
  deriving DecidableEq, Repr

end Switchyard

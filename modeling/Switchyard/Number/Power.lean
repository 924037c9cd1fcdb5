/-!
# Powers

The powers that number formats are about.
-/

namespace Switchyard

/-- A power of two. -/
abbrev twoTo (n : Nat) : Nat := Nat.pow 2 n

/-- A power of ten. -/
abbrev tenTo (n : Nat) : Nat := Nat.pow 10 n

end Switchyard

/-!
# Blank characters

The characters of the Unicode property White_Space, and texts without the blanks at their ends.
-/

namespace Switchyard

/-- A character of the property White_Space. -/
def isBlank (c : Char) : Bool :=
  let n := c.toNat
  (9 ≤ n && n ≤ 13) || n == 0x20 || n == 0x85 || n == 0xA0 || n == 0x1680 || (0x2000 ≤ n && n ≤ 0x200A)
    || n == 0x2028 || n == 0x2029 || n == 0x202F || n == 0x205F || n == 0x3000

/-- The characters from the first to the last that `drop` does not hold of. -/
def trimChars (drop : Char → Bool) (cs : List Char) : List Char :=
  ((cs.dropWhile drop).reverse.dropWhile drop).reverse

/-- The characters up to the last that `drop` does not hold of. -/
def trimEndChars (drop : Char → Bool) (cs : List Char) : List Char :=
  (cs.reverse.dropWhile drop).reverse

/-- A text without the blanks at both ends. -/
def trimBlanks (s : String) : String := .ofList (trimChars isBlank s.toList)

end Switchyard

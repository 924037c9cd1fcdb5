import Switchyard.Json.Basic
import Switchyard.Number.Decimal
import Switchyard.Text.Bytes

/-!
# Writing JSON

The compact form has no blanks. The pretty form puts every item and member on a line of its own, two
blanks deeper than its container; an empty container stays on one line.
-/

namespace Switchyard.Json

/-- Numbers are positional from a hundred-thousandth to below ten quadrillions. -/
def realFormat : RealFormat := ⟨-5, 16, true, "null", "null"⟩

/-- An infinity has no sign of its own in a document. -/
def renderReal (x : Binary64) : String := if x.isFinite then realFormat.write x else "null"

/-- A character inside a text: quotes, backslashes and controls are escaped. -/
def escapeChar (c : Char) : List Char :=
  if c = '"' then ['\\', '"']
  else if c = '\\' then ['\\', '\\']
  else if c = '\n' then ['\\', 'n']
  else if c = '\r' then ['\\', 'r']
  else if c = '\t' then ['\\', 't']
  else if c.toNat = 8 then ['\\', 'b']
  else if c.toNat = 12 then ['\\', 'f']
  else if c.toNat < 32 then ['\\', 'u', '0', '0', hexDigit (c.toNat / 16), hexDigit (c.toNat % 16)]
  else [c]

/-- A text between quotes. -/
def quoteChars (cs : List Char) : List Char := '"' :: (cs.flatMap escapeChar ++ ['"'])

/-- A text between quotes. -/
def quote (s : String) : List Char := quoteChars s.toList

/-- The decimal text of an integer. -/
def integerChars (n : Int) : List Char :=
  if n < 0 then '-' :: decimalDigits n.natAbs else decimalDigits n.natAbs

/-! ## Compact form -/

mutual

/-- The compact form of a value. -/
def compactChars : Json → List Char
  | .null => ['n', 'u', 'l', 'l']
  | .bool true => ['t', 'r', 'u', 'e']
  | .bool false => ['f', 'a', 'l', 's', 'e']
  | .integer n => integerChars n
  | .real x => (renderReal x).toList
  | .string s => quote s
  | .array items => '[' :: (compactItems true items ++ [']'])
  | .object members => '{' :: (compactMembers true members ++ ['}'])

/-- The items with commas between them. -/
def compactItems (first : Bool) : List Json → List Char
  | [] => []
  | v :: rest => (if first then [] else [',']) ++ (compactChars v ++ compactItems false rest)

/-- The members with commas between them. -/
def compactMembers (first : Bool) : List (String × Json) → List Char
  | [] => []
  | (name, v) :: rest =>
    (if first then [] else [',']) ++ (quote name ++ ':' :: (compactChars v ++ compactMembers false rest))

end

/-! ## Pretty form -/

/-- A new line of the given depth. -/
def newLine (depth : Nat) : List Char := '\n' :: List.replicate (2 * depth) ' '

mutual

/-- The pretty form of a value that stands at some depth. -/
def prettyChars (depth : Nat) : Json → List Char
  | .null => ['n', 'u', 'l', 'l']
  | .bool true => ['t', 'r', 'u', 'e']
  | .bool false => ['f', 'a', 'l', 's', 'e']
  | .integer n => integerChars n
  | .real x => (renderReal x).toList
  | .string s => quote s
  | .array [] => ['[', ']']
  | .array items => '[' :: (prettyItems (depth + 1) true items ++ newLine depth ++ [']'])
  | .object [] => ['{', '}']
  | .object members => '{' :: (prettyMembers (depth + 1) true members ++ newLine depth ++ ['}'])

/-- The items, each on its line. -/
def prettyItems (depth : Nat) (first : Bool) : List Json → List Char
  | [] => []
  | v :: rest =>
    (if first then [] else [',']) ++ newLine depth ++ (prettyChars depth v ++ prettyItems depth false rest)

/-- The members, each on its line. -/
def prettyMembers (depth : Nat) (first : Bool) : List (String × Json) → List Char
  | [] => []
  | (name, v) :: rest =>
    (if first then [] else [',']) ++ newLine depth
      ++ (quote name ++ ':' :: ' ' :: (prettyChars depth v ++ prettyMembers depth false rest))

end

/-- The compact text of a value. -/
def compact (v : Json) : String := .ofList v.compactChars

/-- The pretty text of a value. -/
def pretty (v : Json) : String := .ofList (v.prettyChars 0)

end Switchyard.Json

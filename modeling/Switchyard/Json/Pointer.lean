import Switchyard.Json.Basic
import Switchyard.Number.Decimal
import Switchyard.Text.Split

/-!
# Pointers

A pointer leads from a value to a part of it. It is empty, or for each step it has a slash and a token: the name of a
member or the index of an item. Tildes and slashes in a name are escaped.
-/

namespace Switchyard.Json

/-! ## Steps -/

/-- The index that a token stands for: decimal digits without a sign or a leading zero. -/
def index? (token : List Char) : Option Nat :=
  match token with
  | ['0'] => some 0
  | '0' :: _ => none
  | _ => if token.all isDigit && !token.isEmpty then some (digitsValue token) else none

/-- One step into a value. -/
def step? (v : Json) (token : List Char) : Option Json :=
  match v with
  | .object members => lookup? (.ofList token) members
  | .array items => (index? token).bind fun i => items[i]?
  | _ => none

/-- Follows tokens from a value. -/
def follow? (v : Json) : List (List Char) → Option Json
  | [] => some v
  | token :: rest => (v.step? token).bind fun w => follow? w rest

/-! ## Tokens -/

/-- Replaces every occurrence of a character. -/
def replaceChar (c : Char) (by' : List Char) (cs : List Char) : List Char :=
  cs.flatMap fun d => if d = c then by' else [d]

/-- Replaces pairs of characters, from left to right. -/
def replacePair (first second by' : Char) : List Char → List Char
  | c :: d :: rest =>
    if c = first ∧ d = second then by' :: replacePair first second by' rest
    else c :: replacePair first second by' (d :: rest)
  | cs => cs

/-- Escapes a token; the tildes come first, since an escaped slash has a tilde. -/
def escapeToken (token : List Char) : List Char :=
  replaceChar '/' ['~', '1'] (replaceChar '~' ['~', '0'] token)

/-- Resolves the escapes of a token, those of slashes first. -/
def unescapeToken (token : List Char) : List Char :=
  replacePair '~' '0' '~' (replacePair '~' '1' '/' token)

/-! ## Pointers -/

/-- The pointer of some tokens. -/
def pointerOf (tokens : List (List Char)) : List Char := tokens.flatMap fun token => '/' :: escapeToken token

/-- The part of a value that a pointer leads to. -/
def pointer? (v : Json) : (pointer : List Char) → Option Json
  | [] => some v
  | '/' :: rest => follow? v ((splitAll (· == '/') rest).map unescapeToken)
  | _ => none

end Switchyard.Json

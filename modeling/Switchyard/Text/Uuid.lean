import Switchyard.Text.Bytes
import Switchyard.Text.Split

/-!
# Universally unique identifiers

Sixteen bytes, written as five groups of hexadecimal digits. The groups may be joined without hyphens;
with hyphens they may stand in braces or after the name of their namespace.
-/

namespace Switchyard

/-- A universally unique identifier. -/
structure Uuid where
  bytes : Bytes
  deriving DecidableEq, Repr

namespace Uuid

/-- Why a text is no identifier. -/
inductive Fault where
  | character (c : Char) (index : Nat)
  | length (found : Nat)
  | groupCount (found : Nat)
  | groupLength (group expected found : Nat)
  deriving DecidableEq, Repr

/-- The wording of a fault. -/
def Fault.message : Fault → String
  | .character c index => s!"invalid character: found `{c}` at {index}"
  | .length found => s!"invalid length: found {found}"
  | .groupCount found => s!"invalid group count: expected 5, found {found}"
  | .groupLength group expected found =>
    s!"invalid group length in group {group}: expected {expected}, found {found}"

/-- The lengths of the groups. -/
def groupLengths : List Nat := [8, 4, 4, 4, 12]

/-- The text inside braces or after the namespace, the length of what stood before it, and whether nothing
was taken away. -/
def unwrap (cs : List Char) : List Char × Nat × Bool :=
  match cs with
  | '{' :: rest =>
    match beforeEnd? ['}'] rest with
    | some inner => (inner, 1, false)
    | none => (cs, 0, true)
  | _ =>
    match afterStart? "urn:uuid:".toList cs with
    | some inner => (inner, 9, false)
    | none => (cs, 0, true)

/-- The first character that is neither a hexadecimal digit nor a hyphen, with the bytes before it. -/
def foreign? (index : Nat) : List Char → Option (Char × Nat)
  | [] => none
  | c :: rest =>
    if c = '-' ∨ (hexValue? c).isSome then foreign? (index + c.utf8Size) rest else some (c, index)

/-- The first group whose length is not as expected; the last one is counted to the end of the text,
`trailing` characters of its wrapping included. -/
def wrongGroup? (trailing group : Nat) : List Nat → List (List Char) → Option Fault
  | expected :: lengths, cs :: groups =>
    if cs.length = expected then wrongGroup? trailing (group + 1) lengths groups
    else some (.groupLength group expected (if groups.isEmpty then cs.length + trailing else cs.length))
  | _, _ => none

/-- Reads an identifier. -/
def read (s : String) : Except Fault Uuid :=
  let (cs, offset, bare) := unwrap s.toList
  match foreign? offset cs with
  | some (c, index) => .error (.character c index)
  | none =>
    let groups := splitAll (· == '-') cs
    match groups with
    | [digits] =>
      if !bare then .error (.groupCount 1)
      else
        match Bytes.ofHexDigits? digits with
        | some bytes => if digits.length = 32 then .ok ⟨bytes⟩ else .error (.length digits.length)
        | none => .error (.length digits.length)
    | [_, _, _, _, _] =>
      match wrongGroup? (s.toList.length - cs.length) 0 groupLengths groups with
      | some fault => .error fault
      | none =>
        match Bytes.ofHexDigits? groups.flatten with
        | some bytes => .ok ⟨bytes⟩
        | none => .error (.length cs.length)
    | _ => .error (.groupCount groups.length)

/-- The digits in groups of the given lengths, joined by hyphens. -/
def hyphenated : List Nat → List Char → List Char
  | [], cs => cs
  | [_], cs => cs
  | n :: lengths, cs => cs.take n ++ '-' :: hyphenated lengths (cs.drop n)

/-- The five groups in lower case. -/
def text (u : Uuid) : String := .ofList (hyphenated groupLengths u.bytes.toHex.toList)

end Uuid

end Switchyard

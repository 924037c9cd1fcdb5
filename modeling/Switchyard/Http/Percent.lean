import Switchyard.Text.Split
import Switchyard.Text.Utf8

/-!
# Percent escapes and forms

A form is a list of pairs joined by ampersands, with an equals sign between name and value and a plus for
a blank. Reading never fails: an incomplete escape stands for itself, and bytes that are no text are read
as replacement characters.
-/

namespace Switchyard

/-- Resolves percent escapes; other bytes stay. -/
def percentDecode : Bytes → Bytes
  | [] => []
  | 0x25 :: h :: l :: rest =>
    match hexValue? (Char.ofNat h.toNat), hexValue? (Char.ofNat l.toNat) with
    | some h, some l => UInt8.ofNat (h * 16 + l) :: percentDecode rest
    | _, _ => 0x25 :: percentDecode (h :: l :: rest)
  | b :: rest => b :: percentDecode rest

namespace Form

/-- The text of a name or a value. -/
def decodePart (bytes : Bytes) : String :=
  Utf8.decodeLossy (percentDecode (bytes.map fun b => if b = 0x2B then 0x20 else b))

/-- The pair of one segment; without an equals sign the value is empty. -/
def decodePair (segment : Bytes) : String × String :=
  match splitFirst? (· == 0x3D) segment with
  | some (name, value) => (decodePart name, decodePart value)
  | none => (decodePart segment, "")

/-- The pairs of a form, in order; empty segments count for nothing. -/
def decode (bytes : Bytes) : List (String × String) :=
  ((splitAll (· == 0x26) bytes).filter (!·.isEmpty)).map decodePair

/-- A byte that stands for itself in a form. -/
def isPlain (b : UInt8) : Bool :=
  (0x30 ≤ b && b ≤ 0x39) || (0x41 ≤ b && b ≤ 0x5A) || (0x61 ≤ b && b ≤ 0x7A)
    || b == 0x2A || b == 0x2D || b == 0x2E || b == 0x5F

/-- The upper-case hexadecimal digit of a value. -/
def upperHexDigit (n : Nat) : Char := (hexDigit n).toUpper

/-- The written form of a byte. -/
def encodeByte (b : UInt8) : List Char :=
  if isPlain b then [Char.ofNat b.toNat]
  else if b = 0x20 then ['+']
  else ['%', upperHexDigit (b.toNat / 16), upperHexDigit (b.toNat % 16)]

/-- The written form of a name or a value. -/
def encodePart (s : String) : List Char := (Utf8.encode s).flatMap encodeByte

/-- The written form of pairs. -/
def encode (pairs : List (String × String)) : String :=
  joinWith "&" (pairs.map fun (name, value) => .ofList (encodePart name ++ '=' :: encodePart value))

end Form

end Switchyard

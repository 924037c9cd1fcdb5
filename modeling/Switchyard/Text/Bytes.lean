/-!
# Bytes

A body, a frame or a header value is a list of bytes; its written form is lower-case hexadecimal.
-/

namespace Switchyard

/-- A sequence of bytes. -/
abbrev Bytes := List UInt8

/-- The hexadecimal digit of a value below sixteen. -/
def hexDigit (n : Nat) : Char :=
  if n < 10 then Char.ofNat (48 + n) else Char.ofNat (87 + n)

/-- The value of a hexadecimal digit, in either case. -/
def hexValue? (c : Char) : Option Nat :=
  if '0' ≤ c ∧ c ≤ '9' then some (c.toNat - 48)
  else if 'a' ≤ c ∧ c ≤ 'f' then some (c.toNat - 87)
  else if 'A' ≤ c ∧ c ≤ 'F' then some (c.toNat - 55)
  else none

namespace Bytes

/-- Two hexadecimal digits for every byte. -/
def toHex (bytes : Bytes) : String :=
  .ofList (bytes.flatMap fun b => [hexDigit (b.toNat / 16), hexDigit (b.toNat % 16)])

/-- Reads pairs of hexadecimal digits; an odd digit or a foreign character has no value. -/
def ofHexDigits? : List Char → Option Bytes
  | [] => some []
  | [_] => none
  | a :: b :: rest => do
    let high ← hexValue? a
    let low ← hexValue? b
    let tail ← ofHexDigits? rest
    return UInt8.ofNat (high * 16 + low) :: tail

/-- The bytes that a hexadecimal text stands for. -/
def ofHex? (s : String) : Option Bytes := ofHexDigits? s.toList

end Bytes

end Switchyard

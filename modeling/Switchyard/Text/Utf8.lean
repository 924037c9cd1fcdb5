import Switchyard.Text.Bytes

/-!
# UTF-8

Writing characters as bytes and reading them back. Reading tells apart a sequence that is broken from
one that the end of the bytes cuts short, because an error names the place and the length of the fault.
-/

namespace Switchyard.Utf8

/-- The bytes of one character, by the number of bits it needs. -/
def encodeChar (c : Char) : Bytes :=
  let n := c.toNat
  if n < 0x80 then [UInt8.ofNat n]
  else if n < 0x800 then [UInt8.ofNat (0xC0 + n / 0x40), UInt8.ofNat (0x80 + n % 0x40)]
  else if n < 0x10000 then
    [UInt8.ofNat (0xE0 + n / 0x1000), UInt8.ofNat (0x80 + n / 0x40 % 0x40), UInt8.ofNat (0x80 + n % 0x40)]
  else
    [UInt8.ofNat (0xF0 + n / 0x40000), UInt8.ofNat (0x80 + n / 0x1000 % 0x40),
      UInt8.ofNat (0x80 + n / 0x40 % 0x40), UInt8.ofNat (0x80 + n % 0x40)]

/-- The bytes of a list of characters. -/
def encodeChars (cs : List Char) : Bytes := cs.flatMap encodeChar

/-- The bytes of a text. -/
def encode (s : String) : Bytes := encodeChars s.toList

/-! ## Reading one character -/

/-- What the front of a byte sequence holds. -/
inductive Step where
  /-- A character whose lead byte is followed by `tail` continuation bytes. -/
  | char (c : Char) (tail : Nat)
  /-- A lead byte and `tail` bytes after it that begin no character. -/
  | invalid (tail : Nat)
  /-- The start of a character that the end of the bytes cuts short. -/
  | cut
  deriving DecidableEq, Repr

/-- The least and the greatest second byte that may follow a lead byte of three or four. -/
def secondRange (lead : Nat) : Nat × Nat :=
  if lead = 0xE0 then (0xA0, 0xBF)
  else if lead = 0xED then (0x80, 0x9F)
  else if lead = 0xF0 then (0x90, 0xBF)
  else if lead = 0xF4 then (0x80, 0x8F)
  else (0x80, 0xBF)

/-- A continuation byte. -/
def isTail (b : UInt8) : Bool := 0x80 ≤ b.toNat && b.toNat ≤ 0xBF

/-- Reads the character that starts with the byte `lead`. -/
def step (lead : UInt8) (rest : Bytes) : Step :=
  let a := lead.toNat
  if a < 0x80 then .char (Char.ofNat a) 0
  else if a < 0xC2 ∨ 0xF4 < a then .invalid 0
  else
    match rest with
    | [] => .cut
    | b :: rest =>
      let range := secondRange a
      if b.toNat < range.1 ∨ range.2 < b.toNat then .invalid 0
      else if a < 0xE0 then .char (Char.ofNat ((a - 0xC0) * 0x40 + (b.toNat - 0x80))) 1
      else
        match rest with
        | [] => .cut
        | c :: rest =>
          if !isTail c then .invalid 1
          else if a < 0xF0 then
            .char (Char.ofNat ((a - 0xE0) * 0x1000 + (b.toNat - 0x80) * 0x40 + (c.toNat - 0x80))) 2
          else
            match rest with
            | [] => .cut
            | d :: _ =>
              if !isTail d then .invalid 2
              else
                .char (Char.ofNat ((a - 0xF0) * 0x40000 + (b.toNat - 0x80) * 0x1000
                  + (c.toNat - 0x80) * 0x40 + (d.toNat - 0x80))) 3

/-! ## Reading a text -/

/-- Why bytes are no text. -/
inductive Fault where
  /-- `length` bytes from `index` begin no character. -/
  | invalid (length index : Nat)
  /-- The character at `index` is cut short. -/
  | incomplete (index : Nat)
  deriving DecidableEq, Repr

/-- The index of the first byte that does not belong to a text. -/
def Fault.index : Fault → Nat
  | .invalid _ index => index
  | .incomplete index => index

/-- The wording of a fault. -/
def Fault.message : Fault → String
  | .invalid length index => s!"invalid utf-8 sequence of {length} bytes from index {index}"
  | .incomplete index => s!"incomplete utf-8 byte sequence from index {index}"

/-- Reads on after the characters `read`, given last to first; the first byte is number `index`. -/
def decodeFrom (index : Nat) (read : List Char) (bytes : Bytes) : Except Fault (List Char) :=
  match bytes with
  | [] => .ok read.reverse
  | lead :: rest =>
    match step lead rest with
    | .char c tail => decodeFrom (index + tail + 1) (c :: read) (rest.drop tail)
    | .invalid tail => .error (.invalid (tail + 1) index)
    | .cut => .error (.incomplete index)
termination_by bytes.length
decreasing_by simp only [List.length_drop, List.length_cons]; omega

/-- The characters of a byte sequence, or the first fault in it. -/
def decodeChars (bytes : Bytes) : Except Fault (List Char) := decodeFrom 0 [] bytes

/-- The text of a byte sequence, or the first fault in it. -/
def decode (bytes : Bytes) : Except Fault String := (decodeChars bytes).map .ofList

/-- The text of a byte sequence, if it is one. -/
def decode? (bytes : Bytes) : Option String := (decode bytes).toOption

/-- Reads on after the characters `read`, given last to first; a fault is read as the replacement
character. -/
def decodeLossyFrom (read : List Char) (bytes : Bytes) : List Char :=
  match bytes with
  | [] => read.reverse
  | lead :: rest =>
    match step lead rest with
    | .char c tail => decodeLossyFrom (c :: read) (rest.drop tail)
    | .invalid tail => decodeLossyFrom (Char.ofNat 0xFFFD :: read) (rest.drop tail)
    | .cut => (Char.ofNat 0xFFFD :: read).reverse
termination_by bytes.length
decreasing_by all_goals (simp only [List.length_drop, List.length_cons]; omega)

/-- The text of a byte sequence in which every fault is the replacement character. -/
def decodeLossy (bytes : Bytes) : String := .ofList (decodeLossyFrom [] bytes)

end Switchyard.Utf8

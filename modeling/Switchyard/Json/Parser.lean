import Switchyard.Json.Basic
import Switchyard.Text.Utf8

/-!
# Reading JSON

A recursive reader over bytes. A fault carries the bytes that were left when it was found, so that its
line and column follow from what had been consumed. Containers may be nested up to a fixed depth.
-/

namespace Switchyard.Json

/-- Why bytes are no JSON document. -/
inductive FaultKind where
  | endInList
  | endInObject
  | endInString
  | endInValue
  | expectedColon
  | expectedListEnd
  | expectedObjectEnd
  | expectedWord
  | expectedValue
  | invalidEscape
  | invalidNumber
  | numberOutOfRange
  | invalidCodePoint
  | controlCharacter
  | keyNotString
  | loneSurrogate
  | trailingComma
  | trailingCharacters
  | endOfHexEscape
  | tooDeep
  deriving DecidableEq, Repr

/-- The wording of a kind of fault. -/
def FaultKind.message : FaultKind → String
  | .endInList => "EOF while parsing a list"
  | .endInObject => "EOF while parsing an object"
  | .endInString => "EOF while parsing a string"
  | .endInValue => "EOF while parsing a value"
  | .expectedColon => "expected `:`"
  | .expectedListEnd => "expected `,` or `]`"
  | .expectedObjectEnd => "expected `,` or `\x7d`"
  | .expectedWord => "expected ident"
  | .expectedValue => "expected value"
  | .invalidEscape => "invalid escape"
  | .invalidNumber => "invalid number"
  | .numberOutOfRange => "number out of range"
  | .invalidCodePoint => "invalid unicode code point"
  | .controlCharacter => "control character (\\u0000-\\u001F) found while parsing a string"
  | .keyNotString => "key must be a string"
  | .loneSurrogate => "lone leading surrogate in hex escape"
  | .trailingComma => "trailing comma"
  | .trailingCharacters => "trailing characters"
  | .endOfHexEscape => "unexpected end of hex escape"
  | .tooDeep => "recursion limit exceeded"

/-- A fault and the bytes after its place. -/
structure Fault where
  kind : FaultKind
  rest : Bytes

/-- What a reader yields: a result and the bytes after it. -/
abbrev Reading (α : Type) := Except Fault (α × Bytes)

/-- A fault at the next byte, which counts as consumed. -/
def faultAt {α : Type} (kind : FaultKind) (rest : Bytes) : Except Fault α := .error ⟨kind, rest.drop 1⟩

/-- A fault after the consumed bytes. -/
def faultAfter {α : Type} (kind : FaultKind) (rest : Bytes) : Except Fault α := .error ⟨kind, rest⟩

/-- The byte of an ASCII character. -/
def byteOf (c : Char) : UInt8 := UInt8.ofNat c.toNat

/-- A byte that may stand between tokens. -/
def isSpace (b : UInt8) : Bool := b == 0x20 || b == 0x0A || b == 0x09 || b == 0x0D

/-- The bytes from the next token on. -/
def skipSpace (bytes : Bytes) : Bytes := bytes.dropWhile isSpace

/-- The value of a digit. -/
def digit? (b : UInt8) : Option Nat := if 0x30 ≤ b ∧ b ≤ 0x39 then some (b.toNat - 0x30) else none

/-! ## Words -/

/-- Reads the rest of a word. -/
def readWord (value : Json) : (word : Bytes) → Bytes → Reading Json
  | [], rest => .ok (value, rest)
  | _ :: _, [] => faultAfter .endInValue []
  | w :: word, b :: rest => if w = b then readWord value word rest else faultAfter .expectedWord rest

/-! ## Numbers

An integer that fits 64 bits is kept. Any other number is a floating-point value: the first digits, as
many as fit 64 unsigned bits, are rounded to a value, which is then scaled by a power of ten. -/

/-- The greatest number of 64 unsigned bits. -/
def significandLimit : Nat := twoTo 64 - 1

/-- The greatest number of 31 bits, the bound of exponents. -/
def exponentLimit : Int := twoTo 31 - 1

/-- Scales by a power of ten, in steps of at most 308; none if it gets too large. -/
def scale? : (fuel : Nat) → Binary64 → Int → Option Binary64
  | 0, _, _ => none
  | fuel + 1, x, e =>
    if e.natAbs ≤ 308 then
      let power : Binary64 := .ofNat (tenTo e.natAbs)
      if 0 ≤ e then
        let y := x.mul power
        if y.isFinite then some y else none
      else some (x.div power)
    else if x.isZero then some x
    else if 0 ≤ e then none
    else scale? fuel (x.div (.ofNat (tenTo 308))) (e + 308)

/-- The floating-point number of a significand and an exponent. -/
def realOfParts (negative : Bool) (significand : Nat) (exponent : Int) (rest : Bytes) : Reading Json :=
  match scale? 10 (.ofNat significand) exponent with
  | some x => .ok (.real (if negative then x.neg else x), rest)
  | none => faultAfter .numberOutOfRange rest

/-- Bounds an exponent to 32 bits. -/
def clampExponent (e : Int) : Int := max (-twoTo 31) (min exponentLimit e)

/-- The digits of an exponent; none when it passes 31 bits, with what is left from there. -/
def exponentDigits (value : Int) : Bytes → Option Int × Bytes
  | [] => (some value, [])
  | b :: rest =>
    match digit? b with
    | none => (some value, b :: rest)
    | some d => if exponentLimit < value * 10 + d then (none, rest) else exponentDigits (value * 10 + d) rest

/-- The bytes after a run of digits. -/
def skipDigits (bytes : Bytes) : Bytes := bytes.dropWhile fun b => (digit? b).isSome

/-- The part after the letter of an exponent. -/
def readExponentPart (negative : Bool) (significand : Nat) (start : Int) (bytes : Bytes) : Reading Json :=
  let (down, bytes) := match bytes with
    | 0x2B :: rest => (false, rest)
    | 0x2D :: rest => (true, rest)
    | _ => (false, bytes)
  match bytes with
  | [] => faultAfter .endInValue []
  | b :: rest =>
    match digit? b with
    | none => faultAfter .invalidNumber rest
    | some d =>
      match exponentDigits d rest with
      | (some e, rest) =>
        realOfParts negative significand (clampExponent (if down then start - e else start + e)) rest
      | (none, rest) =>
        if significand ≠ 0 ∧ !down then faultAfter .numberOutOfRange rest
        else .ok (.real (.withSign negative 0), skipDigits rest)

/-- What follows the significand: an exponent, or nothing. -/
def readScale (negative : Bool) (significand : Nat) (exponent : Int) : Bytes → Reading Json
  | 0x65 :: rest => readExponentPart negative significand exponent rest
  | 0x45 :: rest => readExponentPart negative significand exponent rest
  | rest => realOfParts negative significand exponent rest

/-- The digits after the point: the significand, how many were taken, and the rest; digits that no longer
fit are skipped. -/
def fractionDigits (significand taken : Nat) : Bytes → Nat × Nat × Bytes
  | [] => (significand, taken, [])
  | b :: rest =>
    match digit? b with
    | none => (significand, taken, b :: rest)
    | some d =>
      if significandLimit < significand * 10 + d then (significand, taken, skipDigits (b :: rest))
      else fractionDigits (significand * 10 + d) (taken + 1) rest

/-- The part after the point. -/
def readFraction (negative : Bool) (significand : Nat) (exponent : Int) (bytes : Bytes) : Reading Json :=
  let (significand', taken, rest) := fractionDigits significand 0 bytes
  let cut := match bytes with
    | [] => false
    | b :: _ => (digit? b).isSome
  if taken = 0 ∧ !cut then
    match rest with
    | [] => faultAt .endInValue []
    | _ => faultAt .invalidNumber rest
  else readScale negative significand' (exponent - taken) rest

/-- What follows the digits of an integer that does not fit. -/
def readLong (negative : Bool) (significand : Nat) (dropped : Int) : Bytes → Reading Json
  | [] => realOfParts negative significand dropped []
  | b :: rest =>
    if (digit? b).isSome then readLong negative significand (dropped + 1) rest
    else if b = 0x2E then readFraction negative significand dropped rest
    else readScale negative significand dropped (b :: rest)

/-- What follows the digits of an integer that fits 64 unsigned bits. -/
def finishNumber (negative : Bool) (significand : Nat) : Bytes → Reading Json
  | 0x2E :: rest => readFraction negative significand 0 rest
  | 0x65 :: rest => readExponentPart negative significand 0 rest
  | 0x45 :: rest => readExponentPart negative significand 0 rest
  | rest =>
    if !negative then .ok (.integer significand, rest)
    else if 0 < significand ∧ significand ≤ twoTo 63 then .ok (.integer (-(significand : Int)), rest)
    else .ok (.real (Floating.neg (.ofNat significand)), rest)

/-- The digits of an integer after the first. -/
def readDigits (negative : Bool) (significand : Nat) : Bytes → Reading Json
  | [] => finishNumber negative significand []
  | b :: rest =>
    match digit? b with
    | none => finishNumber negative significand (b :: rest)
    | some d =>
      if significandLimit < significand * 10 + d then readLong negative significand 0 (b :: rest)
      else readDigits negative (significand * 10 + d) rest

/-- A number after its sign. -/
def readNumber (negative : Bool) : Bytes → Reading Json
  | [] => faultAfter .endInValue []
  | b :: rest =>
    match digit? b with
    | none => faultAfter .invalidNumber rest
    | some 0 =>
      match rest with
      | c :: _ => if (digit? c).isSome then faultAt .invalidNumber rest else finishNumber negative 0 rest
      | [] => finishNumber negative 0 []
    | some d => readDigits negative d rest

/-! ## Texts -/

/-- The value of a hexadecimal digit. -/
def hexByte? (b : UInt8) : Option Nat := hexValue? (Char.ofNat b.toNat)

/-- Reads four hexadecimal digits. -/
def readHex : Bytes → Except Fault (Nat × Bytes)
  | a :: b :: c :: d :: rest =>
    match hexByte? a, hexByte? b, hexByte? c, hexByte? d with
    | some a, some b, some c, some d => .ok (((a * 16 + b) * 16 + c) * 16 + d, rest)
    | _, _, _, _ => faultAfter .invalidEscape rest
  | _ => faultAfter .endInString []

/-- The second half of a surrogate pair, written as an escape of its own. -/
def readLowSurrogate (high : Nat) : Bytes → Except Fault (Char × Bytes)
  | [] => faultAfter .endInString []
  | 0x5C :: [] => faultAfter .endInString []
  | 0x5C :: 0x75 :: rest => do
    let (low, rest) ← readHex rest
    if low < 0xDC00 ∨ 0xDFFF < low then faultAfter .loneSurrogate rest
    else return (Char.ofNat ((high - 0xD800) * 0x400 + (low - 0xDC00) + 0x10000), rest)
  | 0x5C :: _ :: rest => faultAfter .endOfHexEscape rest
  | _ :: rest => faultAfter .endOfHexEscape rest

/-- The character of an escape, after the backslash. -/
def readEscape : Bytes → Except Fault (Char × Bytes)
  | [] => faultAfter .endInString []
  | b :: rest =>
    if b = 0x22 then .ok ('"', rest)
    else if b = 0x5C then .ok ('\\', rest)
    else if b = 0x2F then .ok ('/', rest)
    else if b = 0x62 then .ok (Char.ofNat 8, rest)
    else if b = 0x66 then .ok (Char.ofNat 12, rest)
    else if b = 0x6E then .ok ('\n', rest)
    else if b = 0x72 then .ok ('\r', rest)
    else if b = 0x74 then .ok ('\t', rest)
    else if b = 0x75 then do
      let (n, rest) ← readHex rest
      if 0xDC00 ≤ n ∧ n ≤ 0xDFFF then faultAfter .loneSurrogate rest
      else if n < 0xD800 ∨ 0xDBFF < n then return (Char.ofNat n, rest)
      else readLowSurrogate n rest
    else faultAfter .invalidEscape rest

/-- Reads to the closing quote; `read` holds the bytes of the text so far, last to first. -/
def readTextFrom : (fuel : Nat) → (read : Bytes) → Bytes → Except Fault (String × Bytes)
  | 0, _, rest => faultAfter .endInString rest
  | _ + 1, _, [] => faultAfter .endInString []
  | fuel + 1, read, b :: rest =>
    if b = 0x22 then
      match Utf8.decode read.reverse with
      | .ok s => .ok (s, rest)
      | .error _ => faultAfter .invalidCodePoint (b :: rest)
    else if b = 0x5C then
      match readEscape rest with
      | .ok (c, rest) => readTextFrom fuel ((Utf8.encodeChar c).reverse ++ read) rest
      | .error e => .error e
    else if b < 0x20 then faultAfter .controlCharacter rest
    else readTextFrom fuel (b :: read) rest

/-- Reads a text after its opening quote. -/
def readText (bytes : Bytes) : Except Fault (String × Bytes) := readTextFrom (bytes.length + 1) [] bytes

/-! ## Values -/

/-- How deep containers may be nested, plus one. -/
def depthLimit : Nat := 128

/-- What follows an opening bracket or a further item: whether an item comes, and the bytes from it on. -/
def beforeItem (first : Bool) (bytes : Bytes) : Except Fault (Bool × Bytes) :=
  match skipSpace bytes with
  | [] => faultAt .endInList []
  | 0x5D :: rest => .ok (false, rest)
  | b :: rest =>
    if first then .ok (true, b :: rest)
    else if b = 0x2C then
      match skipSpace rest with
      | [] => faultAt .endInValue []
      | 0x5D :: rest => faultAt .trailingComma (0x5D :: rest)
      | rest => .ok (true, rest)
    else faultAt .expectedListEnd (b :: rest)

/-- What follows an opening brace or a further member: whether a member comes, and the bytes after the
quote that opens its name. -/
def beforeMember (first : Bool) (bytes : Bytes) : Except Fault (Bool × Bytes) :=
  match skipSpace bytes with
  | [] => faultAt .endInObject []
  | 0x7D :: rest => .ok (false, rest)
  | b :: rest =>
    if first then if b = 0x22 then .ok (true, rest) else faultAt .keyNotString (b :: rest)
    else if b = 0x2C then
      match skipSpace rest with
      | [] => faultAt .endInValue []
      | c :: rest =>
        if c = 0x22 then .ok (true, rest)
        else if c = 0x7D then faultAt .trailingComma (c :: rest)
        else faultAt .keyNotString (c :: rest)
    else faultAt .expectedObjectEnd (b :: rest)

/-- The bytes after the colon of a member. -/
def afterColon (bytes : Bytes) : Except Fault Bytes :=
  match skipSpace bytes with
  | [] => faultAt .endInObject []
  | 0x3A :: rest => .ok rest
  | rest => faultAt .expectedColon rest

mutual

/-- Reads a value; `depth` counts the containers that may still be opened, and one more. -/
def readValue : (fuel depth : Nat) → Bytes → Reading Json
  | 0, _, bytes => faultAt .expectedValue bytes
  | fuel + 1, depth, bytes =>
    match skipSpace bytes with
    | [] => faultAt .endInValue []
    | b :: rest =>
      if b = 0x6E then readWord .null [0x75, 0x6C, 0x6C] rest
      else if b = 0x74 then readWord (.bool true) [0x72, 0x75, 0x65] rest
      else if b = 0x66 then readWord (.bool false) [0x61, 0x6C, 0x73, 0x65] rest
      else if b = 0x2D then readNumber true rest
      else if (digit? b).isSome then readNumber false (b :: rest)
      else if b = 0x22 then (readText rest).map fun (s, rest) => (.string s, rest)
      else if b = 0x5B then
        if depth ≤ 1 then faultAt .tooDeep (b :: rest)
        else (readItems fuel (depth - 1) [] rest).map fun (items, rest) => (.array items, rest)
      else if b = 0x7B then
        if depth ≤ 1 then faultAt .tooDeep (b :: rest)
        else (readMembers fuel (depth - 1) [] rest).map fun (members, rest) => (ofMembers members, rest)
      else faultAt .expectedValue (b :: rest)

/-- Reads the items of a list after those in `read`, last to first. -/
def readItems : (fuel depth : Nat) → (read : List Json) → Bytes → Reading (List Json)
  | 0, _, _, bytes => faultAt .endInList bytes
  | fuel + 1, depth, read, bytes =>
    match beforeItem read.isEmpty bytes with
    | .error e => .error e
    | .ok (false, rest) => .ok (read.reverse, rest)
    | .ok (true, rest) =>
      match readValue fuel depth rest with
      | .error e => .error e
      | .ok (v, rest) => readItems fuel depth (v :: read) rest

/-- Reads the members of an object after those in `read`, last to first. -/
def readMembers : (fuel depth : Nat) → (read : List (String × Json)) → Bytes →
    Reading (List (String × Json))
  | 0, _, _, bytes => faultAt .endInObject bytes
  | fuel + 1, depth, read, bytes =>
    match beforeMember read.isEmpty bytes with
    | .error e => .error e
    | .ok (false, rest) => .ok (read.reverse, rest)
    | .ok (true, rest) =>
      match readText rest with
      | .error e => .error e
      | .ok (name, rest) =>
        match afterColon rest with
        | .error e => .error e
        | .ok rest =>
          match readValue fuel depth rest with
          | .error e => .error e
          | .ok (v, rest) => readMembers fuel depth ((name, v) :: read) rest

end

/-- Reads one value that all bytes belong to. -/
def readDocument (bytes : Bytes) : Except Fault Json :=
  match readValue (2 * bytes.length + 2) depthLimit bytes with
  | .error e => .error e
  | .ok (v, rest) =>
    match skipSpace rest with
    | [] => .ok v
    | rest => faultAt .trailingCharacters rest

/-- The line of a place, counted from one, and the bytes before it on that line. -/
def placeOf (consumed : Bytes) : Nat × Nat :=
  (consumed.count 0x0A + 1, (consumed.reverse.takeWhile (· != 0x0A)).length)

/-- The wording of a fault, with its place in the bytes. -/
def Fault.message (whole : Bytes) (e : Fault) : String :=
  let (line, column) := placeOf (whole.take (whole.length - e.rest.length))
  s!"{e.kind.message} at line {line} column {column}"

/-- Reads a document; a fault is its wording. -/
def parse (bytes : Bytes) : Except String Json :=
  (readDocument bytes).mapError (Fault.message bytes)

/-- Reads the document that a text holds. -/
def parseText (s : String) : Except String Json := parse (Utf8.encode s)

end Switchyard.Json

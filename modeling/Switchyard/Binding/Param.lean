import Switchyard.Json.Document
import Switchyard.Number.Scaled
import Switchyard.Text.Uuid
import Switchyard.Time.Printer
import Switchyard.Time.Reader

/-!
# Parameter types

The types that a text can be read as. Texts are kept as they are, a character has to stand alone, and any
other type ignores blanks around its text.
-/

namespace Switchyard

/-- A type of parameters. -/
inductive ParamType where
  | bool
  | integer (type : IntegerType)
  | real32
  | real64
  | char
  | string
  | uuid
  | date
  | time
  | dateTime
  | universalTime
  | offsetTime
  | bigInteger
  | bigDecimal
  /-- Letters, digits and hyphens of ASCII. -/
  | slug
  deriving DecidableEq, Repr

/-- A value of a parameter type. -/
inductive ParamValue where
  | bool (b : Bool)
  | integer (n : Int)
  | real32 (x : Binary32)
  | real64 (x : Binary64)
  | char (c : Char)
  | string (s : String)
  | uuid (u : Uuid)
  | date (d : Date)
  | time (t : TimeOfDay)
  | dateTime (t : DateTime)
  | universalTime (t : DateTime)
  | offsetTime (t : OffsetDateTime)
  | bigInteger (n : Int)
  | bigDecimal (d : Scaled)
  deriving Repr

/-- A character that a slug may hold. -/
def isSlugChar (c : Char) : Bool := c.isAlphanum || c == '-'

/-- The one character of a text. -/
def readChar (s : String) : Except String Char :=
  match s.toList with
  | [c] => .ok c
  | cs => .error s!"expected a single character, got {cs.length} characters"

/-- The truth values. -/
def readBool (s : String) : Except String Bool :=
  if s = "true" then .ok true
  else if s = "false" then .ok false
  else .error "provided string was not `true` or `false`"

/-- A moment in universal time, from a text with any offset. -/
def readUniversalTime (s : String) : Except TimeFault DateTime := do
  let t ← Time.readOffsetDateTime s
  match t.universal? with
  | some u => return u
  | none => .error .impossible

namespace ParamType

/-- Reads a text without blanks around it. -/
def readTrimmed (type : ParamType) (s : String) : Except String ParamValue :=
  match type with
  | .bool => (readBool s).map .bool
  | .integer t => ((t.read s).mapError IntegerFault.message).map .integer
  | .real32 => ((readReal s).mapError RealFault.message).map .real32
  | .real64 => ((readReal s).mapError RealFault.message).map .real64
  | .uuid => ((Uuid.read s).mapError Uuid.Fault.message).map .uuid
  | .date => ((Time.readDate s).mapError TimeFault.message).map .date
  | .time => ((Time.readTime s).mapError TimeFault.message).map .time
  | .dateTime => ((Time.readDateTime s).mapError TimeFault.message).map .dateTime
  | .universalTime => ((readUniversalTime s).mapError TimeFault.message).map .universalTime
  | .offsetTime => ((Time.readOffsetDateTime s).mapError TimeFault.message).map .offsetTime
  | .bigInteger => ((readBigInteger s.toList).mapError NumeralFault.message).map .bigInteger
  | .bigDecimal => ((Scaled.read s).mapError NumeralFault.message).map .bigDecimal
  | .char | .string | .slug => .ok (.string s)

/-- Reads a text; a refusal gives its reason. -/
def read (type : ParamType) (s : String) : Except String ParamValue :=
  match type with
  | .string => .ok (.string s)
  | .char => (readChar s).map .char
  | .slug => if s.toList.all isSlugChar then .ok (.string s) else .error "not a slug"
  | _ => type.readTrimmed (trimBlanks s)

/-- The types by their short names. -/
def named : List (String × ParamType) := [
  ("bool", .bool), ("i8", .integer .i8), ("i16", .integer .i16), ("i32", .integer .i32),
  ("i64", .integer .i64), ("i128", .integer .i128), ("isize", .integer .i64), ("u8", .integer .u8),
  ("u16", .integer .u16), ("u32", .integer .u32), ("u64", .integer .u64), ("u128", .integer .u128),
  ("usize", .integer .u64), ("f32", .real32), ("f64", .real64), ("char", .char), ("string", .string),
  ("uuid", .uuid), ("date", .date), ("time", .time), ("datetime", .dateTime), ("utc", .universalTime),
  ("offset", .offsetTime), ("bigint", .bigInteger), ("decimal", .bigDecimal), ("slug", .slug)]

/-- The type of a short name. -/
def ofName? (name : String) : Option ParamType := named.lookup name

end ParamType

/-- A number in hexadecimal digits, with zeros in front up to a width. -/
def paddedHex (width n : Nat) : String :=
  let digits := Nat.toDigits 16 n
  .ofList (List.replicate (width - digits.length) '0' ++ digits)

/-- The document of an integer: its sign and the digits of its magnitude. -/
def bigIntegerDocument (n : Int) : Json :=
  .array [.integer n.sign, .array ((words n.natAbs).map fun (w : Nat) => .integer w)]

namespace ParamValue

/-- The text of a value; a floating-point value is shown by its pattern. -/
def text : ParamValue → String
  | .bool b => toString b
  | .integer n | .bigInteger n => integerText n
  | .real32 x => paddedHex 8 x.bits
  | .real64 x => paddedHex 16 x.bits
  | .char c => .singleton c
  | .string s => s
  | .uuid u => u.text
  | .date d => d.text
  | .time t => t.text
  | .dateTime t => t.textWith " "
  | .universalTime t => t.textWith " " ++ " UTC"
  | .offsetTime t => t.text
  | .bigDecimal d => d.text

/-- A floating-point number in a document; what is not finite is null. -/
def realDocument (x : Binary64) : Json := if x.isFinite then .real x else .null

/-- The document of a value. -/
def document : ParamValue → Except Json.EncodeFault Json
  | .bool b => .ok (.bool b)
  | .integer n => Json.ofInteger n
  | .real32 x => .ok (realDocument x.convert)
  | .real64 x => .ok (realDocument x)
  | .char c => .ok (.string (.singleton c))
  | .string s => .ok (.string s)
  | .uuid u => .ok (.string u.text)
  | .date d => .ok (.string d.text)
  | .time t => .ok (.string t.text)
  | .dateTime t => .ok (.string (t.textWith "T"))
  | .universalTime t => .ok (.string (t.textWith "T" ++ "Z"))
  | .offsetTime t => .ok (.string t.documentText)
  | .bigInteger n => .ok (bigIntegerDocument n)
  | .bigDecimal d => .ok (.string d.text)

end ParamValue

end Switchyard

import Switchyard.Text.Utf8

/-!
# Headers

Header names are tokens and do not mind letter case; they are kept in lower case. A value is a line of
bytes without controls other than the tab. Values of one name keep the order in which they came.
-/

namespace Switchyard

/-- A character of a token: a method or a header name. -/
def isTokenChar (c : Char) : Bool :=
  ('0' ≤ c && c ≤ '9') || ('a' ≤ c && c ≤ 'z') || ('A' ≤ c && c ≤ 'Z')
    || ['!', '#', '$', '%', '&', '\'', '*', '+', '-', '.', '^', '_', '`', '|', '~'].contains c

/-- A text that is a token. -/
def isToken (s : String) : Bool := !s.isEmpty && s.toList.all isTokenChar

/-- The lower-case form of an ASCII text. -/
def asciiLower (s : String) : String := .ofList (s.toList.map Char.toLower)

/-- The name of a header in its kept form. -/
def headerName? (s : String) : Option String :=
  if isToken s && s.length < 65536 then some (asciiLower s) else none

/-- A byte that a header value may hold. -/
def isHeaderByte (b : UInt8) : Bool := b == 9 || (32 ≤ b && b != 127)

/-- Bytes that may be a header value. -/
def isHeaderValue (bytes : Bytes) : Bool := bytes.all isHeaderByte

/-- A byte that a header value read as a text may hold. -/
def isHeaderTextByte (b : UInt8) : Bool := b == 9 || (32 ≤ b && b < 127)

/-- The text of a header value, if all of it is visible ASCII, blanks and tabs. -/
def headerText? (value : Bytes) : Option String :=
  if value.all isHeaderTextByte then some (.ofList (value.map fun b => Char.ofNat b.toNat)) else none

/-- The headers of a request or a response. -/
structure Headers where
  entries : List (String × Bytes)
  deriving DecidableEq, Repr

namespace Headers

/-- No headers. -/
def empty : Headers := ⟨[]⟩

/-- The values of a name, in order. -/
def values (h : Headers) (name : String) : List Bytes :=
  (h.entries.filter fun e => e.1 == name).map (·.2)

/-- Whether a name occurs. -/
def contains (h : Headers) (name : String) : Bool := h.entries.any fun e => e.1 == name

/-- Adds a value after the others. -/
def append (h : Headers) (name : String) (value : Bytes) : Headers := ⟨h.entries ++ [(name, value)]⟩

/-- Takes every value of a name away. -/
def remove (h : Headers) (name : String) : Headers := ⟨h.entries.filter fun e => e.1 != name⟩

/-- Makes a value the only one of its name. -/
def insert (h : Headers) (name : String) (value : Bytes) : Headers := (h.remove name).append name value

end Headers

end Switchyard

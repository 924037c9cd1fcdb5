import Switchyard.Yaml.Token
import Switchyard.Text.Utf8

/-!
# Names, tags and directives

The tokens that are words of their own: anchors and aliases, tags, and the lines that start with a percent
sign.
-/

namespace Switchyard.Yaml

/-! ## Anchors -/

/-- Characters that may follow an anchor besides blanks. -/
def anchorEnds : List Char := ['?', ':', ',', ']', '}', '%', '@', Char.ofNat 0x60]

/-- The name of an anchor or an alias after its mark. -/
def anchorName (c : Cursor) : Option (String × Cursor) :=
  let name := c.rest.takeWhile isNameChar
  let after := c.skip name.length
  if name.isEmpty then none
  else if endsWord after.peek || after.peek.any anchorEnds.contains then some (.ofList name, after)
  else none

/-! ## Tags -/

/-- A character of tags; some marks only stand between angle brackets. -/
def isTagChar (bracketed : Bool) (c : Char) : Bool :=
  isNameChar c || [';', '/', '?', ':', '@', '&', '=', '+', '$', '.', '%', '!', '~', '*', '\'', '(', ')'].contains c
    || (bracketed && [',', '[', ']'].contains c)

/-- The bytes of a run of escapes, as many as the first one calls for. -/
def escapedBytes : (count : Nat) → List Char → Option (Bytes × List Char)
  | 0, cs => some ([], cs)
  | count + 1, '%' :: a :: b :: rest =>
    match hexValue? a, hexValue? b, escapedBytes count rest with
    | some x, some y, some (bytes, rest) => some (UInt8.ofNat (x * 16 + y) :: bytes, rest)
    | _, _, _ => none
  | _, _ => none

/-- How many bytes a character has by its first one. -/
def widthOf? (lead : Nat) : Option Nat :=
  if lead < 0x80 then some 1
  else if lead / 0x20 = 6 then some 2
  else if lead / 0x10 = 14 then some 3
  else if lead / 8 = 30 then some 4
  else none

/-- The character of a run of escapes, and what follows it. -/
def escapedChar? (cs : List Char) : Option (Char × List Char) := do
  let (lead, _) ← escapedBytes 1 cs
  let width ← widthOf? ((lead.map UInt8.toNat).headD 0)
  let (bytes, rest) ← escapedBytes width cs
  match Utf8.decode bytes with
  | .ok text => text.toList.head?.map (·, rest)
  | .error _ => none

/-- Reads the characters of a tag; the number of characters read comes with them. -/
def tagChars (bracketed : Bool) : (fuel : Nat) → List Char → Option (List Char × Nat)
  | 0, _ => none
  | _ + 1, [] => some ([], 0)
  | fuel + 1, c :: rest =>
    if !isTagChar bracketed c then some ([], 0)
    else if c = '%' then
      match escapedChar? (c :: rest) with
      | none => none
      | some (d, after) =>
        (tagChars bracketed fuel after).map fun (ds, n) => (d :: ds, n + (rest.length + 1 - after.length))
    else (tagChars bracketed fuel rest).map fun (ds, n) => (c :: ds, n + 1)

/-- Reads the characters of a tag from a place. -/
def tagText (bracketed : Bool) (c : Cursor) : Option (List Char × Cursor) :=
  (tagChars bracketed (c.rest.length + 1) c.rest).map fun (cs, n) => (cs, c.skip n)

/-- An exclamation mark, a name, and a second exclamation mark if there is one. -/
def tagHandle (c : Cursor) : Option (List Char × Cursor) :=
  if !c.sees '!' then none
  else
    let name := (c.rest.drop 1).takeWhile isNameChar
    let after := c.skip (name.length + 1)
    if after.sees '!' then some ('!' :: (name ++ ['!']), after.skip 1) else some ('!' :: name, after)

/-- A tag between angle brackets, after the exclamation mark. -/
def bracketedTag (c : Cursor) : Option (TokenKind × Cursor) := do
  let (suffix, after) ← tagText true (c.skip 2)
  if suffix.isEmpty || !after.sees '>' then none else some (.tag "" (.ofList suffix), after.skip 1)

/-- A tag with a handle, or with the default one. -/
def shortTag (c : Cursor) : Option (TokenKind × Cursor) := do
  let (handle, after) ← tagHandle c
  if 2 ≤ handle.length && handle.getLast? == some '!' then
    let (suffix, after) ← tagText false after
    if suffix.isEmpty then none else some (.tag (.ofList handle) (.ofList suffix), after)
  else
    let (more, after) ← tagText false after
    let suffix := handle.drop 1 ++ more
    some (if suffix.isEmpty then .tag "" "!" else .tag "!" (.ofList suffix), after)

/-- Reads a tag; between brackets a comma may follow it. -/
def tagToken (inFlow : Bool) (c : Cursor) : Option (TokenKind × Cursor) := do
  let (kind, after) ← if c.peekAt 1 == some '<' then bracketedTag c else shortTag c
  if endsWord after.peek || (inFlow && after.sees ',') then some (kind, after) else none

/-! ## Directives -/

/-- A number of at most nine digits. -/
def versionNumber (c : Cursor) : Option (Nat × Cursor) :=
  let digits := c.rest.takeWhile Char.isDigit
  if digits.isEmpty || 9 < digits.length then none
  else some (digits.foldl (fun n d => n * 10 + (d.toNat - 48)) 0, c.skip digits.length)

/-- The two numbers of a version. -/
def versionValue (c : Cursor) : Option (TokenKind × Cursor) := do
  let (major, c) ← versionNumber (c.skipWhile isGap)
  if !c.sees '.' then none
  else
    let (minor, c) ← versionNumber (c.skip 1)
    some (.version major minor, c)

/-- A handle and what it stands for. -/
def handleValue (c : Cursor) : Option (TokenKind × Cursor) := do
  let (name, c) ← tagHandle (c.skipWhile isGap)
  if (name != ['!'] && name.getLast? != some '!') || !c.peek.any isGap then none
  else
    let (expansion, c) ← tagText true (c.skipWhile isGap)
    if expansion.isEmpty || !endsWord c.peek then none
    else some (.handle (.ofList name) (.ofList expansion), c)

/-- Reads a directive and the rest of its line. -/
def directiveToken (c : Cursor) : Option (TokenKind × Cursor) := do
  let name := (c.rest.drop 1).takeWhile isNameChar
  let c := c.skip (name.length + 1)
  if !endsWord c.peek then none
  else
    let (kind, c) ←
      if name = ['Y', 'A', 'M', 'L'] then versionValue c
      else if name = ['T', 'A', 'G'] then handleValue c
      else none
    let c := c.skipWhile isGap
    let c := if c.sees '#' then c.skipWhile (!isBreak ·) else c
    if endsLine c.peek then some (kind, c.skipBreak) else none

end Switchyard.Yaml

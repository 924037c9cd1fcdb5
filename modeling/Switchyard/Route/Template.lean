/-!
# Route templates

A template is a sequence of literal characters and captures. A capture takes one segment of a path, or all
of the rest; doubled braces stand for themselves. Of two templates that match a path, the one that is
literal where the other captures goes first, and a segment goes before the rest.
-/

namespace Switchyard

/-- A part of a template. -/
inductive TemplatePart where
  | literal (c : Char)
  /-- One non-empty segment. -/
  | segment (name : String)
  /-- Everything that is left, which must not be empty. -/
  | rest (name : String)
  deriving DecidableEq, Repr

/-- A template as its parts. -/
abbrev Template := List TemplatePart

namespace Template

/-- A character of a template, and whether it was doubled to stand for itself. -/
structure Mark where
  char : Char
  escaped : Bool
  deriving DecidableEq

/-- Resolves doubled braces. -/
def unescape : List Char → List Mark
  | '{' :: '{' :: rest => ⟨'{', true⟩ :: unescape rest
  | '}' :: '}' :: rest => ⟨'}', true⟩ :: unescape rest
  | c :: rest => ⟨c, false⟩ :: unescape rest
  | [] => []

/-- Reads a name up to its closing brace; gives it and the rest. -/
def closeName (read : List Char) : List Mark → Option (List Char × List Mark)
  | [] => none
  | m :: rest =>
    if m.char = '}' && !m.escaped then some (read.reverse, rest)
    else if m.char = '*' || m.char = '/' then none
    else closeName (m.char :: read) rest

/-- Reads a capture after its opening brace; the first character may be a star. -/
def capture? : List Mark → Option (TemplatePart × List Mark)
  | [] => none
  | m :: rest =>
    if m.char = '}' then none
    else
      match closeName [] rest with
      | none => none
      | some (name, tail) =>
        if m.char = '*' then
          if name.isEmpty || !tail.isEmpty then none else some (.rest (.ofList name), tail)
        else some (.segment (.ofList (m.char :: name)), tail)

/-- Reads the parts of a template; a capture must end its segment. -/
def ofMarks? : (fuel : Nat) → List Mark → Option Template
  | 0, _ => some []
  | _ + 1, [] => some []
  | fuel + 1, m :: rest =>
    if m.escaped then (ofMarks? fuel rest).map (.literal m.char :: ·)
    else if m.char = '}' then none
    else if m.char = '{' then
      match capture? rest with
      | none => none
      | some (part, tail) =>
        match tail with
        | [] => some [part]
        | n :: _ => if n.char = '/' then (ofMarks? fuel tail).map (part :: ·) else none
    else (ofMarks? fuel rest).map (.literal m.char :: ·)

/-- How many segments a template captures. -/
def segmentCount (t : Template) : Nat :=
  t.countP fun
    | .segment _ => true
    | _ => false

/-- No segment of a template may start with one of these. -/
def forbiddenStart (c : Char) : Bool := c == ':' || c == '*'

/-- Whether a slash is followed by a character that no segment may start with. -/
def startsBadly : List Char → Bool
  | '/' :: c :: rest => forbiddenStart c || startsBadly (c :: rest)
  | _ :: rest => startsBadly rest
  | [] => false

/-- Reads a template: it starts with a slash and captures at most twenty-five segments. -/
def parse? (s : String) : Option Template :=
  match s.toList with
  | '/' :: rest =>
    if startsBadly ('/' :: rest) then none
    else
      match ofMarks? (s.length + 1) (unescape ('/' :: rest)) with
      | some t => if 25 < segmentCount t then none else some t
      | none => none
  | _ => none

/-! ## Matching -/

/-- The captures of a path, if the template matches it. -/
def match? : Template → List Char → Option (List (String × List Char))
  | [], [] => some []
  | [], _ :: _ => none
  | .literal _ :: _, [] => none
  | .literal c :: parts, d :: path => if c = d then match? parts path else none
  | .segment name :: parts, path =>
    let value := path.takeWhile (· != '/')
    if value.isEmpty then none
    else (match? parts (path.dropWhile (· != '/'))).map ((name, value) :: ·)
  | .rest name :: _, path => if path.isEmpty then none else some [(name, path)]

/-- How early a part is tried. -/
def rank : TemplatePart → Nat
  | .literal _ => 0
  | .segment _ => 1
  | .rest _ => 2

/-- Whether the first template goes before the second: at the first place where they differ in kind, its
part is tried earlier. -/
def before : Template → Template → Bool
  | p :: ps, q :: qs => if rank p = rank q then before ps qs else rank p < rank q
  | _, _ => false

/-- Whether two templates cannot both be routed: they differ in names only, or one captures a segment where
the other, up to there alike, captures the rest. -/
def conflicts : Template → Template → Bool
  | [], [] => true
  | .literal c :: ps, .literal d :: qs => c == d && conflicts ps qs
  | .segment _ :: ps, .segment _ :: qs => conflicts ps qs
  | .rest _ :: _, .rest _ :: _ => true
  | .segment _ :: _, .rest _ :: _ => true
  | .rest _ :: _, .segment _ :: _ => true
  | _, _ => false

end Template

end Switchyard

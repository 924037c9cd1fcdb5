import Switchyard.Text.Alphanumeric
import Switchyard.Text.Blank
import Switchyard.Text.Utf8

/-!
# Environment files

A text that assigns variables, one on a line. A value may be quoted, run over several lines inside quotes,
escape characters and refer to other variables. The first line that does not read ends the file.
-/

namespace Switchyard

/-- Variables with their values. -/
abbrev Variables := List (String × String)

namespace EnvironmentFile

/-! ## Lines -/

/-- How far a line has got. -/
inductive LineState where
  | complete
  | escape
  | strong
  | strongEscape
  | weak
  | weakEscape
  | blank
  deriving DecidableEq, Repr

/-- Where a line goes on after a character outside of quotes. -/
def LineState.outside (c : Char) : LineState :=
  if c = '\\' then .escape else if c = '"' then .weak else if c = '\'' then .strong else .complete

/-- The state after a character; a comment after a blank has none. -/
def LineState.next (c : Char) : LineState → Option LineState
  | .blank => if c = '#' then none else some (.outside c)
  | .escape => some .complete
  | .complete => some (if isBlank c && c != '\n' && c != '\r' then .blank else .outside c)
  | .weak => some (if c = '\\' then .weakEscape else if c = '"' then .complete else .weak)
  | .weakEscape => some .weak
  | .strong => some (if c = '\\' then .strongEscape else if c = '\'' then .complete else .strong)
  | .strongEscape => some .strong

/-- Reads a line up to a comment; the state is missing if there is one. -/
def scanLine (state : LineState) : List Char → List Char × Option LineState
  | [] => ([], some state)
  | c :: rest =>
    match state.next c with
    | none => ([], none)
    | some s =>
      let (read, last) := scanLine s rest
      (c :: read, last)

/-- The first line of a text with its end, and the other lines. -/
def cutLine (cs : List Char) : List Char × List Char :=
  let line := cs.takeWhile (· != '\n')
  match cs.drop line.length with
  | [] => (line, [])
  | newline :: rest => (line ++ [newline], rest)

/-- A line without its end. -/
def withoutEnd (line : List Char) : List Char :=
  match line.reverse with
  | '\n' :: '\r' :: rest => rest.reverse
  | '\n' :: rest => rest.reverse
  | _ => line

/-- A line that goes on until it is complete, and what follows it; nothing at the end of the text, and an
error if the text ends before the line is complete. -/
def nextLine : (fuel : Nat) → (read : List Char) → LineState → List Char →
    Except Unit (Option (List Char × List Char))
  | 0, _, _, _ => .error ()
  | fuel + 1, read, state, cs =>
    if cs.isEmpty then if state = .complete then .ok none else .error ()
    else
      let (line, rest) := cutLine cs
      if (read ++ line).dropWhile isBlank |>.head? |>.any (· == '#') then .ok (some ([], rest))
      else
        match scanLine state line with
        | (_, some .complete) => .ok (some (withoutEnd (read ++ line), rest))
        | (_, some state) => nextLine fuel (read ++ line) state rest
        | (kept, none) => .ok (some (read ++ kept, rest))

/-! ## Values -/

/-- A reference to a variable that is being read. -/
inductive Reference where
  | none
  /-- After a dollar sign. -/
  | bare (name : List Char)
  /-- Between braces. -/
  | braced (name : List Char)

/-- What has been read of a value. -/
structure ValueState where
  output : List Char := []
  strong : Bool := false
  weak : Bool := false
  escaped : Bool := false
  /-- Only a comment may follow. -/
  ended : Bool := false
  reference : Reference := .none

namespace ValueState

/-- Adds a character. -/
def push (s : ValueState) (c : Char) : ValueState := { s with output := s.output ++ [c] }

/-- Adds the value of a variable and ends the reference. -/
def refer (lookup : String → String) (name : List Char) (s : ValueState) : ValueState :=
  { s with output := s.output ++ (lookup (.ofList name)).toList, reference := .none }

/-- The character of an escape. -/
def unescape? (c : Char) : Option Char :=
  if ['\\', '\'', '"', '$', ' '].contains c then some c else if c = 'n' then some '\n' else none

/-- Reads a character outside of escapes, references and strong quotes. -/
def plain (s : ValueState) (c : Char) : ValueState :=
  if c = '$' then { s with reference := .bare [] }
  else if s.weak then
    if c = '"' then { s with weak := false } else if c = '\\' then { s with escaped := true } else s.push c
  else if c = '\'' then { s with strong := true }
  else if c = '"' then { s with weak := true }
  else if c = '\\' then { s with escaped := true }
  else if c = ' ' ∨ c = '\t' then { s with ended := true }
  else s.push c

/-- Reads a character; the result is nothing if the value does not read. -/
def next (lookup : String → String) (s : ValueState) (c : Char) : Option ValueState :=
  if s.escaped then (unescape? c).map fun d => { s.push d with escaped := false }
  else if s.strong then some (if c = '\'' then { s with strong := false } else s.push c)
  else
    match s.reference with
    | .none => some (s.plain c)
    | .bare name =>
      if isAlphanumeric c then some { s with reference := .bare (name ++ [c]) }
      else if c = '\x7b' ∧ name.isEmpty then some { s with reference := .braced [] }
      else
        let s := s.refer lookup name
        some (if c = '$' then { s with reference := .bare [] } else s.push c)
    | .braced name =>
      some (if c = '\x7d' then s.refer lookup name else { s with reference := .braced (name ++ [c]) })

/-- Reads the characters of a value up to a comment. -/
def run (lookup : String → String) (s : ValueState) : List Char → Option ValueState
  | [] => some s
  | c :: rest =>
    if s.ended then
      if c = ' ' ∨ c = '\t' then s.run lookup rest else if c = '#' then some s else none
    else
      match s.next lookup c with
      | none => none
      | some s => s.run lookup rest

/-- The value read; quotes and braces have to be closed. -/
def finish (lookup : String → String) (s : ValueState) : Option String :=
  if s.strong || s.weak then none
  else
    match s.reference with
    | .none => some (.ofList s.output)
    | .bare name => some (.ofList (s.refer lookup name).output)
    | .braced _ => none

end ValueState

/-! ## Assignments -/

/-- A name at the front of a line. -/
def takeName (cs : List Char) : Option (List Char × List Char) :=
  match cs with
  | c :: _ =>
    if c.isAlpha || c == '_' then
      let name := cs.takeWhile fun d => d.isAlphanum || d == '_' || d == '.'
      some (name, cs.drop name.length)
    else none
  | [] => none

/-- Passes an equals sign. -/
def takeEquals : List Char → Option (List Char)
  | '=' :: rest => some rest
  | _ => none

/-- The name of an assignment, which a word may stand in front of, and what follows the equals sign. -/
def takeTarget (cs : List Char) : Option (List Char × List Char) := do
  let (name, rest) ← takeName cs
  let rest := rest.dropWhile isBlank
  match takeEquals rest with
  | some value => some (name, value)
  | none =>
    if name ≠ "export".toList then none
    else
      let (name, rest) ← takeName rest
      let value ← takeEquals (rest.dropWhile isBlank)
      some (name, value)

/-- Reads a line into an assignment, if it holds one. -/
def readLine (lookup : String → String) (line : List Char) : Except Unit (Option (String × String)) :=
  let cs := (trimEndChars isBlank line).dropWhile isBlank
  if cs.isEmpty || cs.head? == some '#' then .ok none
  else
    match takeTarget cs with
    | none => .error ()
    | some (name, rest) =>
      let rest := rest.dropWhile isBlank
      if rest.isEmpty || rest.head? == some '#' then .ok (some (.ofList name, ""))
      else
        match (ValueState.run lookup {} rest).bind (·.finish lookup) with
        | some value => .ok (some (.ofList name, value))
        | none => .error ()

/-- What a reference stands for: a variable that is set, or else the last assignment read. -/
def resolve (set assigned : Variables) (name : String) : String :=
  ((set.lookup name).orElse fun _ => assigned.lookup name).getD ""

/-- Reads assignments up to the end of the text or the first line that does not read; variables that are set
keep their values. The result holds the variables added, in order. -/
def run (set : Variables) : (fuel : Nat) → (added assigned : Variables) → List Char → Variables
  | 0, added, _, _ => added
  | fuel + 1, added, assigned, cs =>
    match nextLine (cs.length + 1) [] .complete cs with
    | .error _ | .ok none => added
    | .ok (some (line, rest)) =>
      match readLine (resolve (set ++ added) assigned) line with
      | .error _ => added
      | .ok none => run set fuel added assigned rest
      | .ok (some (name, value)) =>
        let isSet := ((set ++ added).lookup name).isSome
        run set fuel (if isSet then added else added ++ [(name, value)]) ((name, value) :: assigned) rest

end EnvironmentFile

/-- The characters of the lines in front of the first byte that belongs to no text. -/
def EnvironmentFile.readable (content : Bytes) : List Char :=
  match Utf8.decodeChars content with
  | .ok cs => cs
  | .error fault =>
    match Utf8.decodeChars (content.take fault.index) with
    | .ok cs => (cs.reverse.dropWhile (· != '\n')).reverse
    | .error _ => []

/-- The variables that a file adds to those that are set. -/
def environmentFile (set : Variables) (content : Bytes) : Variables :=
  let cs := EnvironmentFile.readable content
  let cs := if cs.head? = some (Char.ofNat 0xFEFF) then cs.drop 1 else cs
  EnvironmentFile.run set (cs.length + 1) [] [] cs

end Switchyard

import Switchyard.Yaml.Cursor
import Switchyard.Text.Bytes

/-!
# Scalars

Plain, quoted and block scalars. Between the words of a scalar one line end is a space, and further line ends
are kept; a block scalar keeps its lines, or folds them.
-/

namespace Switchyard.Yaml

/-! ## Gaps -/

/-- What stands between two words: blanks on one line, or line ends. -/
structure Gap where
  blanks : List Char := []
  /-- A line has ended. -/
  broken : Bool := false
  first : List Char := []
  others : List Char := []

namespace Gap

/-- What a gap reads as. -/
def text (g : Gap) : List Char :=
  if g.broken then
    if g.first.head? = some '\n' then if g.others.isEmpty then [' '] else g.others else g.first ++ g.others
  else g.blanks

/-- Adds a line end. -/
def addBreak (g : Gap) (b : List Char) : Gap :=
  if g.broken then { g with others := g.others ++ b } else { g with blanks := [], first := b, broken := true }

/-- Reads on over blanks and line ends; `refuses` tells which cursors may not stand before a tab after a line
end. -/
def take (refuses : Cursor → Bool) : (fuel : Nat) → Cursor → Gap → Option (Gap × Cursor)
  | 0, _, _ => none
  | fuel + 1, c, g =>
    match c.peek with
    | none => some (g, c)
    | some b =>
      if isGap b then
        if g.broken then if b = '\t' && refuses c then none else take refuses fuel (c.skip 1) g
        else take refuses fuel (c.skip 1) { g with blanks := g.blanks ++ [b] }
      else if isBreak b then take refuses fuel c.skipBreak (g.addBreak c.breakText)
      else some (g, c)

end Gap

/-! ## Plain scalars -/

/-- The marks that end a plain scalar between brackets. -/
def flowMarks : List Char := [',', '[', ']', '{', '}']

/-- Reads a word of a plain scalar; there is none if a colon stands where it cannot be told apart. -/
def plainWord (inFlow : Bool) : List Char → Option (List Char)
  | [] => some []
  | c :: rest =>
    if endsWord (some c) then some []
    else
      let next := rest.head?
      if inFlow && c == ':' && next.any (fun d => ('?' :: flowMarks).contains d) then none
      else if (c == ':' && endsWord next) || (inFlow && flowMarks.contains c) then some []
      else (plainWord inFlow rest).map (c :: ·)

/-- A plain scalar, the place behind it, and whether a line has ended behind its last word. -/
structure PlainScalar where
  text : List Char
  after : Cursor
  broken : Bool

/-- Reads on after the words `read` and a gap; the words are indented by at least `indent`. -/
def plainFrom (inFlow : Bool) (indent : Int) : (fuel : Nat) → Cursor → List Char → Gap → Option PlainScalar
  | 0, _, _, _ => none
  | fuel + 1, c, read, g =>
    if c.atDocumentMark || c.sees '#' then some ⟨read, c, g.broken⟩
    else
      match plainWord inFlow c.rest with
      | none => none
      | some word =>
        let (read, g) := if word.isEmpty then (read, g) else (read ++ g.text ++ word, {})
        let c := c.skip word.length
        if c.peek.isNone || !endsWord c.peek then some ⟨read, c, g.broken⟩
        else
          match Gap.take (fun c => decide ((c.column : Int) < indent)) (c.rest.length + 1) c g with
          | none => none
          | some (g, c) =>
            if !inFlow && (c.column : Int) < indent then some ⟨read, c, g.broken⟩
            else plainFrom inFlow indent fuel c read g

/-- Reads a plain scalar. -/
def plainScalar (inFlow : Bool) (indent : Int) (c : Cursor) : Option PlainScalar :=
  plainFrom inFlow indent (c.rest.length + 1) c [] {}

/-! ## Quoted scalars -/

/-- The characters of escapes of one letter. -/
def shortEscapes : List (Char × Nat) := [
  ('0', 0), ('a', 7), ('b', 8), ('t', 9), ('\t', 9), ('n', 10), ('v', 11), ('f', 12), ('r', 13), ('e', 27),
  (' ', 32), ('"', 34), ('/', 47), ('\\', 92), ('N', 0x85), ('_', 0xA0), ('L', 0x2028), ('P', 0x2029)]

/-- How many digits follow the letter of a longer escape. -/
def escapeDigits? (c : Char) : Option Nat :=
  if c = 'x' then some 2 else if c = 'u' then some 4 else if c = 'U' then some 8 else none

/-- The value of hexadecimal digits. -/
def hexNumber? (cs : List Char) : Option Nat :=
  cs.foldlM (fun n c => (hexValue? c).map fun d => n * 16 + d) 0

/-- The character of an escape, by what follows the backslash, and how long that is. -/
def escape? : List Char → Option (Char × Nat)
  | [] => none
  | c :: rest =>
    match shortEscapes.lookup c, escapeDigits? c with
    | some n, _ => some (Char.ofNat n, 1)
    | none, some count =>
      if rest.length < count then none
      else
        match hexNumber? (rest.take count) with
        | none => none
        | some n => if n.isValidChar then some (Char.ofNat n, count + 1) else none
    | none, none => none

/-- A word of a quoted scalar, how many characters it is written with, and whether it ends at an escaped line
end. -/
structure QuotedWord where
  text : List Char
  length : Nat
  escapedBreak : Bool

/-- Puts a character in front of a word. -/
def QuotedWord.cons (c : Char) (length : Nat) (w : QuotedWord) : QuotedWord :=
  { w with text := c :: w.text, length := w.length + length }

/-- Reads a word between single or double quotes. -/
def quotedWord (single : Bool) : (fuel : Nat) → List Char → Option QuotedWord
  | 0, _ => none
  | _ + 1, [] => some ⟨[], 0, false⟩
  | fuel + 1, c :: rest =>
    if endsWord (some c) then some ⟨[], 0, false⟩
    else if single then
      if c = '\'' then
        if rest.head? = some '\'' then (quotedWord single fuel (rest.drop 1)).map (.cons '\'' 2)
        else some ⟨[], 0, false⟩
      else (quotedWord single fuel rest).map (.cons c 1)
    else if c = '"' then some ⟨[], 0, false⟩
    else if c = '\\' then
      if rest.head?.any isBreak then some ⟨[], 1, true⟩
      else
        match escape? rest with
        | none => none
        | some (d, length) => (quotedWord single fuel (rest.drop length)).map (.cons d (length + 1))
    else (quotedWord single fuel rest).map (.cons c 1)

/-- Reads on after the text `read`, up to the closing quote. -/
def quotedFrom (single : Bool) : (fuel : Nat) → Cursor → List Char → Option (List Char × Cursor)
  | 0, _, _ => none
  | fuel + 1, c, read =>
    if c.atDocumentMark || c.peek.isNone then none
    else
      match quotedWord single (c.rest.length + 1) c.rest with
      | none => none
      | some word =>
        let read := read ++ word.text
        let c := c.skip word.length
        let (c, g) : Cursor × Gap := if word.escapedBreak then (c.skipBreak, { broken := true }) else (c, {})
        if !word.escapedBreak && c.sees (if single then '\'' else '"') then some (read, c.skip 1)
        else
          match Gap.take (fun _ => false) (c.rest.length + 1) c g with
          | none => none
          | some (g, c) => quotedFrom single fuel c (read ++ g.text)

/-- Reads a quoted scalar from its opening quote. -/
def quotedScalar (single : Bool) (c : Cursor) : Option (List Char × Cursor) :=
  quotedFrom single (c.rest.length + 1) (c.skip 1) []

/-! ## Block scalars -/

/-- What becomes of the line ends at the end of a block scalar. -/
inductive Chomping where
  | strip
  | clip
  | keep
  deriving DecidableEq, Repr

/-- The head of a block scalar: its chomping, the indentation that it states, and its length. -/
structure BlockHead where
  chomping : Chomping
  increment : Option Nat
  length : Nat

/-- The chomping of a mark. -/
def chomping? : Option Char → Option Chomping
  | some '+' => some .keep
  | some '-' => some .strip
  | _ => none

/-- The digit of an indentation. -/
def increment? : Option Char → Option Nat
  | some c => if c.isDigit then some (c.toNat - 48) else none
  | none => none

/-- Reads a head after its indicator; an indentation of zero is refused. -/
def blockHead? (cs : List Char) : Option BlockHead :=
  let head := match chomping? cs.head?, increment? cs.head? with
    | some ch, _ =>
      match increment? cs[1]? with
      | some n => ⟨ch, some n, 2⟩
      | none => ⟨ch, none, 1⟩
    | none, some n =>
      match chomping? cs[1]? with
      | some ch => ⟨ch, some n, 2⟩
      | none => ⟨.clip, some n, 1⟩
    | none, none => ⟨.clip, none, 0⟩
  if head.increment = some 0 then none else some head

/-- Skips the rest of a line that holds blanks and a comment at most. -/
def skipToBreak? (c : Cursor) : Option Cursor :=
  let c := c.skipWhile isGap
  let c := if c.sees '#' then c.skipWhile (!isBreak ·) else c
  if endsLine c.peek then some c.skipBreak else none

/-- Empty lines in front of the text of a block scalar: their line ends, the greatest indentation, and what
follows. -/
structure BlankLines where
  breaks : List Char
  greatest : Nat
  after : Cursor

/-- Reads empty lines; an indentation that is not known yet is `none`. -/
def blankLines (indent : Option Nat) : (fuel : Nat) → Cursor → List Char → Nat → Option BlankLines
  | 0, _, _, _ => none
  | fuel + 1, c, breaks, greatest =>
    let spaces := (c.rest.takeWhile (· == ' ')).length
    let c := match indent with
      | none => c.skip spaces
      | some n => c.skip (min spaces (n - c.column))
    let greatest := max greatest c.column
    let open_ := match indent with
      | none => true
      | some n => c.column < n
    if open_ && c.sees '\t' then none
    else if c.peek.any isBreak then blankLines indent fuel c.skipBreak (breaks ++ c.breakText) greatest
    else some ⟨breaks, greatest, c⟩

/-- What has been read of a block scalar. -/
structure BlockText where
  text : List Char := []
  first : List Char := []
  others : List Char := []
  /-- The last line started with a blank. -/
  blank : Bool := false

/-- The text with the line ends after its last line, if another line follows. -/
def BlockText.joined (t : BlockText) (folded nextBlank : Bool) : List Char :=
  if folded && t.first.head? == some '\n' && !t.blank && !nextBlank then
    t.text ++ (if t.others.isEmpty then [' '] else []) ++ t.others
  else t.text ++ t.first ++ t.others

/-- Reads the lines of a block scalar. -/
def blockLines (folded : Bool) (indent : Nat) : (fuel : Nat) → Cursor → BlockText → Option (BlockText × Cursor)
  | 0, _, _ => none
  | fuel + 1, c, t =>
    match c.peek with
    | none => some (t, c)
    | some b =>
      if c.column ≠ indent then some (t, c)
      else
        let line := c.rest.takeWhile (!isBreak ·)
        let ended := c.skip line.length
        match blankLines (some indent) (ended.rest.length + 2) ended.skipBreak [] 0 with
        | none => none
        | some lines =>
          blockLines folded indent fuel lines.after
            { text := t.joined folded (isGap b) ++ line, first := ended.breakText, others := lines.breaks
              blank := isGap b }

/-- Reads a block scalar from its indicator; `parent` is the indentation around it. -/
def blockScalar (folded : Bool) (parent : Int) (c : Cursor) : Option (List Char × Cursor) := do
  let c := c.skip 1
  let head ← blockHead? c.rest
  let c ← skipToBreak? (c.skip head.length)
  let stated := head.increment.map fun n => if 0 ≤ parent then parent.toNat + n else n
  let lines ← blankLines stated (c.rest.length + 2) c [] 0
  let indent := stated.getD (max lines.greatest (max (parent + 1).toNat 1))
  let (t, after) ← blockLines folded indent (lines.after.rest.length + 2) lines.after { others := lines.breaks }
  let ending := match head.chomping with
    | .strip => []
    | .clip => t.first
    | .keep => t.first ++ t.others
  return (t.text ++ ending, after)

end Switchyard.Yaml

import Switchyard.Yaml.Name
import Switchyard.Yaml.Scalar

/-!
# The lexer

Reads a text into tokens. A scalar may turn out to be a key when a colon follows it on its line, so the places
of possible keys are remembered, one for every open bracket, and the token of the key is put in front of it
afterwards. Any fault of the text ends the reading.
-/

namespace Switchyard.Yaml

/-- A place where a key may have started. -/
structure PossibleKey where
  /-- The block has to go on with a key here. -/
  required : Bool
  /-- How many tokens stood in front of it. -/
  number : Nat
  index : Nat
  mark : Mark

/-- Whether a possible key is too far behind. -/
def PossibleKey.isStale (k : PossibleKey) (c : Cursor) : Bool :=
  k.mark.line < c.line || k.index + 1024 < c.index

/-- What the lexer knows. -/
structure Lexer where
  cursor : Cursor
  tokens : Array Token := #[]
  indent : Int := -1
  /-- The indentations of the blocks around. -/
  indents : List Int := []
  /-- A key may start at the next token. -/
  keyAllowed : Bool := true
  /-- The possible key outside of brackets, or between the innermost ones. -/
  possible : Option PossibleKey := none
  /-- The possible keys around the open brackets. -/
  outer : List (Option PossibleKey) := []

namespace Lexer

/-- Between brackets. -/
def inFlow (l : Lexer) : Bool := !l.outer.isEmpty

/-- Adds a token that starts at the cursor. -/
def push (l : Lexer) (kind : TokenKind) : Lexer :=
  { l with tokens := l.tokens.push ⟨kind, l.cursor.mark⟩ }

/-- Adds a token that starts at the cursor and ends at another. -/
def pushTo (l : Lexer) (kind : TokenKind) (after : Cursor) : Lexer :=
  { l.push kind with cursor := after }

/-- Puts a token behind a number of others. -/
def insert (l : Lexer) (number : Nat) (token : Token) : Lexer :=
  { l with tokens := l.tokens.extract 0 number ++ #[token] ++ l.tokens.extract number l.tokens.size }

/-! ## Gaps -/

/-- Skips blanks, comments and line ends; outside of brackets a key may start on a new line. -/
def skipGap (inFlow : Bool) : (fuel : Nat) → Cursor → Bool → Cursor × Bool
  | 0, c, allowed => (c, allowed)
  | fuel + 1, c, allowed =>
    let c := if c.index == 0 && c.sees (Char.ofNat 0xFEFF) then c.skip 1 else c
    let c := c.skipWhile fun b => b == ' ' || (b == '\t' && (inFlow || !allowed))
    let c := if c.sees '#' then c.skipWhile (!isBreak ·) else c
    if c.peek.any isBreak then skipGap inFlow fuel c.skipBreak (allowed || !inFlow) else (c, allowed)

/-- Goes to the next token. -/
def toToken (l : Lexer) : Lexer :=
  let (cursor, allowed) := skipGap l.inFlow (l.cursor.rest.length + 1) l.cursor l.keyAllowed
  { l with cursor := cursor, keyAllowed := allowed }

/-! ## Keys and blocks -/

/-- Forgets a possible key; one that was required is missed. -/
def dropKey (l : Lexer) : Option Lexer :=
  if l.possible.any (·.required) then none else some { l with possible := none }

/-- Forgets the possible keys that are too far behind. -/
def dropStale (l : Lexer) : Option Lexer :=
  let stale (k : Option PossibleKey) : Bool := k.any (·.isStale l.cursor)
  let missed (k : Option PossibleKey) : Bool := k.any fun k => k.isStale l.cursor && k.required
  if missed l.possible || l.outer.any missed then none
  else
    let keep (k : Option PossibleKey) := if stale k then none else k
    some { l with possible := keep l.possible, outer := l.outer.map keep }

/-- Remembers that a key may start here. -/
def saveKey (l : Lexer) : Option Lexer :=
  if !l.keyAllowed then some l
  else do
    let l ← l.dropKey
    let required := !l.inFlow && l.indent == (l.cursor.column : Int)
    return { l with possible := some ⟨required, l.tokens.size, l.cursor.index, l.cursor.mark⟩ }

/-- Opens a block at a column that is further right than the current one. -/
def openBlock (l : Lexer) (number : Nat) (kind : TokenKind) (mark : Mark) : Lexer :=
  if l.inFlow || (mark.column : Int) ≤ l.indent then l
  else { l.insert number ⟨kind, mark⟩ with indent := mark.column, indents := l.indent :: l.indents }

/-- Closes blocks whose indentation is greater than `column`. -/
def closeInner (column : Int) : List Int → Lexer → Lexer
  | [], l => l
  | i :: rest, l =>
    if l.indent ≤ column then l else closeInner column rest { l.push .blockEnd with indent := i, indents := rest }

/-- Closes the blocks that end at a column. -/
def closeBlocks (l : Lexer) (column : Int) : Lexer :=
  if l.inFlow then l else closeInner column l.indents l

/-! ## Tokens -/

/-- A token of the document, in front of which all blocks end. -/
def outside (l : Lexer) (kind : TokenKind) (after : Cursor) : Option Lexer := do
  let l ← (l.closeBlocks (-1)).dropKey
  return { l.pushTo kind after with keyAllowed := false }

/-- An opening bracket. -/
def openBracket (l : Lexer) (kind : TokenKind) : Option Lexer := do
  let l ← l.saveKey
  return { l.pushTo kind (l.cursor.skip 1) with
    outer := l.possible :: l.outer, possible := none, keyAllowed := true }

/-- A closing bracket. -/
def closeBracket (l : Lexer) (kind : TokenKind) : Option Lexer := do
  let l ← l.dropKey
  let l := match l.outer with
    | [] => l
    | k :: outer => { l with possible := k, outer := outer }
  return { l.pushTo kind (l.cursor.skip 1) with keyAllowed := false }

/-- A comma. -/
def flowEntry (l : Lexer) : Option Lexer := do
  let l ← l.dropKey
  return { l.pushTo .flowEntry (l.cursor.skip 1) with keyAllowed := true }

/-- A hyphen. -/
def blockEntry (l : Lexer) : Option Lexer := do
  if !l.inFlow && !l.keyAllowed then none
  else
    let l ← (l.openBlock l.tokens.size .blockSequence l.cursor.mark).dropKey
    return { l.pushTo .blockEntry (l.cursor.skip 1) with keyAllowed := true }

/-- A question mark. -/
def explicitKey (l : Lexer) : Option Lexer := do
  if !l.inFlow && !l.keyAllowed then none
  else
    let l ← (l.openBlock l.tokens.size .blockMapping l.cursor.mark).dropKey
    return { l.pushTo .key (l.cursor.skip 1) with keyAllowed := !l.inFlow }

/-- A colon: what may have been a key is one. -/
def value (l : Lexer) : Option Lexer :=
  match l.possible with
  | some k =>
    let l := (l.insert k.number ⟨.key, k.mark⟩).openBlock k.number .blockMapping k.mark
    some { l.pushTo .value (l.cursor.skip 1) with possible := none, keyAllowed := false }
  | none =>
    if !l.inFlow && !l.keyAllowed then none
    else
      let l := l.openBlock l.tokens.size .blockMapping l.cursor.mark
      some { l.pushTo .value (l.cursor.skip 1) with keyAllowed := !l.inFlow }

/-- A token that may start a key. -/
def word (l : Lexer) (read : Cursor → Option (TokenKind × Cursor)) : Option Lexer := do
  let l ← l.saveKey
  let (kind, after) ← read l.cursor
  return { l.pushTo kind after with keyAllowed := false }

/-- A block scalar. -/
def block (l : Lexer) (folded : Bool) : Option Lexer := do
  let l ← l.dropKey
  let (text, after) ← blockScalar folded l.indent l.cursor
  return { l.pushTo (.scalar (.ofList text) false) after with keyAllowed := true }

/-- A plain scalar; a key may follow it on a new line. -/
def plain (l : Lexer) : Option Lexer := do
  let l ← l.saveKey
  let s ← plainScalar l.inFlow (l.indent + 1) l.cursor
  return { l.pushTo (.scalar (.ofList s.text) true) s.after with keyAllowed := s.broken }

/-- Characters that start no plain scalar. -/
def indicators : List Char :=
  ['-', '?', ':', ',', '[', ']', '{', '}', '#', '&', '*', '!', '|', '>', '\'', '"', '%', '@', Char.ofNat 0x60]

/-- Whether a plain scalar may start with `c` in front of `next`. -/
def startsPlain (inFlow : Bool) (c : Char) (next : Option Char) : Bool :=
  (!endsWord (some c) && !indicators.contains c) || (c == '-' && !next.any isGap)
    || (!inFlow && (c == '?' || c == ':') && !endsWord next)

/-- Reads the token that starts with `c`. -/
def token (l : Lexer) (c : Char) : Option Lexer :=
  let next := l.cursor.peekAt 1
  if c = '%' ∧ l.cursor.column = 0 then
    match directiveToken l.cursor with
    | none => none
    | some (kind, after) => l.outside kind after
  else if l.cursor.atDocumentMark then
    l.outside (if c = '-' then .documentStart else .documentEnd) (l.cursor.skip 3)
  else if c = '[' then l.openBracket .flowSequence
  else if c = '{' then l.openBracket .flowMapping
  else if c = ']' then l.closeBracket .flowSequenceEnd
  else if c = '}' then l.closeBracket .flowMappingEnd
  else if c = ',' then l.flowEntry
  else if c = '-' ∧ endsWord next then l.blockEntry
  else if c = '?' ∧ (l.inFlow ∨ endsWord next) then l.explicitKey
  else if c = ':' ∧ (l.inFlow ∨ endsWord next) then l.value
  else if c = '*' then l.word fun c => (anchorName (c.skip 1)).map fun (n, after) => (.alias n, after)
  else if c = '&' then l.word fun c => (anchorName (c.skip 1)).map fun (n, after) => (.anchor n, after)
  else if c = '!' then l.word (tagToken l.inFlow)
  else if (c = '|' ∨ c = '>') ∧ !l.inFlow then l.block (c == '>')
  else if c = '\'' ∨ c = '"' then
    l.word fun cur => (quotedScalar (c == '\'') cur).map fun (t, after) => (.scalar (.ofList t) false, after)
  else if startsPlain l.inFlow c next then l.plain
  else none

/-- Reads tokens up to the end of the text. -/
def run : (fuel : Nat) → Lexer → Option (List Token)
  | 0, _ => none
  | fuel + 1, l =>
    match l.toToken.dropStale with
    | none => none
    | some l =>
      match l.cursor.peek with
      | none =>
        match (l.closeBlocks (-1)).dropKey with
        | none => none
        | some l => some l.tokens.toList
      | some c =>
        match (l.closeBlocks l.cursor.column).token c with
        | none => none
        | some l => run fuel l

end Lexer

/-- The tokens of a text. -/
def tokens? (cs : List Char) : Option (List Token) :=
  if cs.all isAllowed then Lexer.run (cs.length + 1) { cursor := .start cs } else none

end Switchyard.Yaml

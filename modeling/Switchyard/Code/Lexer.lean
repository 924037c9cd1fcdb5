import Switchyard.Code.Literal
import Switchyard.Code.Token
import Switchyard.Text.Quoted

/-!
# From text to tokens

Blanks and comments separate tokens. A comment that documents what follows is read as the attribute that it
abbreviates.
-/

namespace Switchyard.Code

/-! ## Comments -/

/-- What follows a block comment, in which comments may be nested. -/
def blockEnd? : (depth : Nat) → List Char → Option (List Char)
  | depth, '/' :: '*' :: rest => blockEnd? (depth + 1) rest
  | depth, '*' :: '/' :: rest => if depth ≤ 1 then some rest else blockEnd? (depth - 1) rest
  | depth, _ :: rest => blockEnd? depth rest
  | _, [] => none

/-- What a text begins with. -/
def startsWith (cs : List Char) (start : String) : Bool := start.toList.isPrefixOf cs

/-- A comment up to the end of the line that documents nothing. -/
def isPlainLine (cs : List Char) : Bool :=
  startsWith cs "//" && (!startsWith cs "///" || startsWith cs "////") && !startsWith cs "//!"

/-- A block comment that documents nothing. -/
def isPlainBlock (cs : List Char) : Bool :=
  startsWith cs "/*" && (!startsWith cs "/**" || startsWith cs "/***") && !startsWith cs "/*!"

/-- Whether a character separates tokens; the marks of text direction do, too. -/
def isSeparator (c : Char) : Bool := isBlank c || c.toNat == 0x200E || c.toNat == 0x200F

/-- What follows blanks and comments. -/
def skipBlanks : (fuel : Nat) → List Char → List Char
  | 0, cs => cs
  | _, [] => []
  | fuel + 1, c :: rest =>
    let cs := c :: rest
    if isPlainLine cs then skipBlanks fuel (cs.dropWhile (· != '\n'))
    else if startsWith cs "/**/" then skipBlanks fuel (cs.drop 4)
    else if isPlainBlock cs then
      match blockEnd? 0 cs with
      | some after => skipBlanks fuel after
      | none => cs
    else if isSeparator c then skipBlanks fuel rest
    else cs

/-- The text of a line up to its end. -/
def lineText (cs : List Char) : List Char × List Char :=
  let text := cs.takeWhile (· != '\n')
  let rest := cs.dropWhile (· != '\n')
  match rest, beforeEnd? ['\r'] text with
  | _ :: _, some short => (short, rest)
  | _, _ => (text, rest)

/-- The text between two places, the second of which is given by what follows. -/
def textBefore (cs rest : List Char) : List Char := cs.take (cs.length - rest.length)

/-- Whether a comment documents what encloses it, its text, and what follows. -/
def documentation? (cs : List Char) : Option (Bool × List Char × List Char) :=
  let block : Option (List Char × List Char) := (blockEnd? 0 cs).map fun rest =>
    (((textBefore cs rest).drop 3).dropLast.dropLast, rest)
  if startsWith cs "//!" then some (true, lineText (cs.drop 3))
  else if startsWith cs "/*!" then block.map (true, ·)
  else if startsWith cs "///" then if startsWith cs "////" then none else some (false, lineText (cs.drop 3))
  else if startsWith cs "/**" && !startsWith cs "/***" then block.map (false, ·)
  else none

/-- A carriage return stands only before a line feed. -/
def pairedReturns : List Char → Bool
  | [] => true
  | c :: rest => (c ≠ '\r' || rest.head? == some '\n') && pairedReturns rest

/-- The attribute that a documenting comment abbreviates. -/
def documentationTokens (enclosing : Bool) (text : List Char) (p : Position) : List Token :=
  let content := [.word "doc" p, .mark '=' false p, .literal (literal (.ofList text)) p]
  let group := Token.group .bracket content p p
  if enclosing then [.mark '#' false p, .mark '!' false p, group] else [.mark '#' false p, group]

/-! ## Words and marks -/

/-- The words that cannot be written as raw identifiers. -/
def neverRaw : List String := ["_", "super", "self", "Self", "crate"]

/-- An identifier, which may be a raw one, and what follows. -/
def anyIdentifier? (cs : List Char) : Option (List Char × List Char) :=
  match cs with
  | 'r' :: '#' :: rest =>
    match identifier? rest with
    | some (name, rest) => if neverRaw.contains (.ofList name) then none else some ('r' :: '#' :: name, rest)
    | none => none
  | _ => identifier? cs

/-- The starts of text literals: no identifier begins like them. -/
def literalStarts : List String := ["r\"", "r#\"", "r##", "b\"", "b'", "br\"", "br#", "c\"", "cr\"", "cr#"]

/-- The characters that are marks. -/
def markChars : List Char := "~!@#$%^&*-=+|;:,<.>/?'".toList

/-- Whether a text begins with a mark. -/
def isMark (cs : List Char) : Bool :=
  match cs with
  | [] => false
  | c :: _ => !startsWith cs "//" && !startsWith cs "/*" && markChars.contains c

/-- A token that is no group, and what follows. -/
def leaf? (cs : List Char) (p : Position) : Option (Token × List Char) :=
  match literalEnd? cs with
  | some rest => some (.literal (.ofList (textBefore cs rest)) p, rest)
  | none =>
    match cs with
    | [] => none
    | c :: rest =>
      if isMark cs then
        if c = '\'' then
          match anyIdentifier? rest with
          | none => none
          | some (_, after) =>
            if after.head? == some '\'' || (after.head? == some '#' && !startsWith rest "r#") then none
            else some (.mark c true p, rest)
        else some (.mark c (isMark rest) p, rest)
      else if literalStarts.any (startsWith cs) then none
      else (anyIdentifier? cs).map fun (name, rest) => (.word (.ofList name) p, rest)

/-! ## Token forests -/

/-- The tokens up to the end or to a closing delimiter, and where that is. -/
def forest? : (fuel : Nat) → Position → List Char → Option (List Token × Position × List Char)
  | 0, _, _ => none
  | fuel + 1, start, text =>
    let cs := skipBlanks text.length text
    let p := start.after (textBefore text cs)
    match documentation? cs with
    | some (enclosing, comment, rest) =>
      if pairedReturns comment then do
        let (tokens, stop) ← forest? fuel (p.after (textBefore cs rest)) rest
        some (documentationTokens enclosing comment p ++ tokens, stop)
      else none
    | none =>
      match cs with
      | [] => some ([], p, [])
      | c :: rest =>
        match Delimiter.ofOpening? c with
        | some d => do
          let (inner, close, rest) ← forest? fuel (p.next c) rest
          match rest with
          | [] => none
          | e :: rest =>
            if Delimiter.ofClosing? e = some d then do
              let (tokens, stop) ← forest? fuel (close.next e) rest
              some (.group d inner p close :: tokens, stop)
            else none
        | none =>
          if (Delimiter.ofClosing? c).isSome then some ([], p, cs)
          else do
            let (token, rest) ← leaf? cs p
            let (tokens, stop) ← forest? fuel (p.after (textBefore cs rest)) rest
            some (token :: tokens, stop)

/-- The tokens of a text. -/
def tokenize? (text : String) : Option (List Token) :=
  let cs := text.toList
  let cs := match cs with
    | c :: rest => if c.toNat = 0xFEFF then rest else cs
    | [] => []
  match forest? (cs.length + 1) .start cs with
  | some (tokens, _, []) => some tokens
  | _ => none

end Switchyard.Code

import Switchyard.Text.Bytes

/-!
# Tokens

Program text as a forest: words, marks and literals, and groups of tokens between delimiters. A token knows
where it starts. Pieces are the texts of tokens, delimiters being pieces of their own.
-/

namespace Switchyard.Code

/-- A place in a text: lines count from one, columns from zero in characters. -/
structure Position where
  line : Nat
  column : Nat
  deriving DecidableEq, Repr

namespace Position

/-- Where a text starts. -/
def start : Position := ⟨1, 0⟩

/-- The place after a character. -/
def next (p : Position) (c : Char) : Position :=
  if c = '\n' then ⟨p.line + 1, 0⟩ else ⟨p.line, p.column + 1⟩

/-- The place after some characters. -/
def after (p : Position) (cs : List Char) : Position := cs.foldl next p

/-- Line and column. -/
def text (p : Position) : String := s!"{p.line}:{p.column}"

end Position

/-- What encloses a group. -/
inductive Delimiter where
  | parenthesis
  | bracket
  | brace
  deriving DecidableEq, Repr

namespace Delimiter

/-- The piece that opens a group. -/
def opening : Delimiter → String
  | .parenthesis => "("
  | .bracket => "["
  | .brace => "\x7b"

/-- The piece that closes a group. -/
def closing : Delimiter → String
  | .parenthesis => ")"
  | .bracket => "]"
  | .brace => "\x7d"

/-- The delimiter that a character opens. -/
def ofOpening? (c : Char) : Option Delimiter :=
  match c with
  | '(' => some .parenthesis
  | '[' => some .bracket
  | '{' => some .brace
  | _ => none

/-- The delimiter that a character closes. -/
def ofClosing? (c : Char) : Option Delimiter :=
  match c with
  | ')' => some .parenthesis
  | ']' => some .bracket
  | '}' => some .brace
  | _ => none

/-- The name of a delimiter in a message. -/
def label : Delimiter → String
  | .parenthesis => "parentheses"
  | .bracket => "square brackets"
  | .brace => "curly braces"

end Delimiter

/-- A token and where it starts. -/
inductive Token where
  /-- An identifier or a keyword. -/
  | word (text : String) (position : Position)
  /-- A punctuation character; it is joint if another one follows at once. -/
  | mark (char : Char) (joint : Bool) (position : Position)
  /-- A number, a character or a text, as it is written. -/
  | literal (text : String) (position : Position)
  /-- The tokens between delimiters, and where the closing one stands. -/
  | group (delimiter : Delimiter) (inner : List Token) (position close : Position)
  deriving Repr

/-- The texts of tokens. -/
abbrev Pieces := List String

namespace Token

/-- Where a token starts. -/
def position : Token → Position
  | .word _ p => p
  | .mark _ _ p => p
  | .literal _ p => p
  | .group _ _ p _ => p

mutual

/-- The pieces of a token. -/
def pieces : Token → Pieces
  | .word s _ => [s]
  | .mark c _ _ => [c.toString]
  | .literal s _ => [s]
  | .group d inner _ _ => d.opening :: (piecesOf inner ++ [d.closing])

/-- The pieces of tokens in a row. -/
def piecesOf : List Token → Pieces
  | [] => []
  | t :: rest => t.pieces ++ piecesOf rest

end

mutual

/-- The number of tokens that a token is made of. -/
def count : Token → Nat
  | .group _ inner _ _ => countOf inner + 1
  | _ => 1

/-- The number of tokens that a row is made of. -/
def countOf : List Token → Nat
  | [] => 0
  | t :: rest => t.count + countOf rest

end

end Token

/-- Pieces in one line, a space between neighbours. -/
def shownPieces (pieces : Pieces) : String := " ".intercalate pieces

end Switchyard.Code

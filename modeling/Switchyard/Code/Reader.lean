import Switchyard.Code.Token

/-!
# Reading tokens

A reader takes tokens from the front of a row. What is wrong is said with the place of the offending token;
a fault at the end of the row has no place until the group that ended is known.
-/

namespace Switchyard.Code

/-- What is wrong with a row of tokens, and where; without a place it is the end of the row. -/
structure Fault where
  message : String
  position : Option Position
  deriving Repr

/-- Takes a value from the front of a row of tokens. -/
abbrev Reader := StateT (List Token) (Except Fault)

/-- The fault of a row that was to begin otherwise. -/
def Fault.unexpected (expected : String) (tokens : List Token) : Fault :=
  match tokens with
  | [] => ⟨"unexpected end of input, " ++ expected, none⟩
  | t :: _ => ⟨expected, some t.position⟩

/-- Fails where the tokens at hand begin. -/
def refuse {α : Type} (expected : String) : Reader α := fun tokens => .error (.unexpected expected tokens)

/-- Fails where the tokens at hand begin, with the same words at their end. -/
def refusePlain {α : Type} (message : String) : Reader α := fun tokens =>
  .error ⟨message, tokens.head?.map Token.position⟩

/-- The wording of what may come next. -/
def expectation (choices : List String) : String :=
  match choices with
  | [one] => "expected " ++ one
  | [one, other] => "expected " ++ one ++ " or " ++ other
  | _ => "expected one of: " ++ ", ".intercalate choices

/-! ## Looking ahead -/

/-- Whether the tokens begin with marks that stand next to each other. -/
def startsWithMarks : List Char → List Token → Bool
  | [], _ => true
  | [c], .mark d _ _ :: _ => c == d
  | c :: cs, .mark d joint _ :: rest => c == d && joint && startsWithMarks cs rest
  | _, _ => false

/-- Whether the tokens begin with an operator. -/
def beginsMarks (marks : String) (tokens : List Token) : Bool := startsWithMarks marks.toList tokens

/-- Whether the tokens begin with a word. -/
def beginsWord (word : String) (tokens : List Token) : Bool :=
  match tokens with
  | .word s _ :: _ => s == word
  | _ => false

/-- Whether the tokens begin with any word. -/
def beginsAnyWord (tokens : List Token) : Bool :=
  match tokens with
  | .word .. :: _ => true
  | _ => false

/-- Whether the tokens begin with a group. -/
def beginsGroup (d : Delimiter) (tokens : List Token) : Bool :=
  match tokens with
  | .group e _ _ _ :: _ => d == e
  | _ => false

/-- Whether the tokens begin with a lifetime. -/
def beginsLifetime (tokens : List Token) : Bool :=
  match tokens with
  | .mark '\'' _ _ :: .word .. :: _ => true
  | _ => false

/-- The tokens after a lifetime. -/
def afterLifetime (tokens : List Token) : List Token := tokens.drop 2

/-- Whether the tokens begin with a literal; truth values are literals, and a number may be negative. -/
def beginsLiteral (tokens : List Token) : Bool :=
  match tokens with
  | .literal .. :: _ => true
  | .word s _ :: _ => s == "true" || s == "false"
  | .mark '-' _ _ :: .literal s _ :: _ => s.toList.head?.any Char.isDigit
  | _ => false

/-- The words that are no identifiers. -/
def keywords : List String := [
  "_", "abstract", "as", "async", "await", "become", "box", "break", "const", "continue", "crate", "do", "dyn",
  "else", "enum", "extern", "false", "final", "fn", "for", "if", "impl", "in", "let", "loop", "macro", "match",
  "mod", "move", "mut", "override", "priv", "pub", "ref", "return", "Self", "self", "static", "struct", "super",
  "trait", "true", "try", "type", "typeof", "unsafe", "unsized", "use", "virtual", "where", "while", "yield"]

/-- Whether the tokens begin with an identifier. -/
def beginsIdentifier (tokens : List Token) : Bool :=
  match tokens with
  | .word s _ :: _ => !keywords.contains s
  | _ => false

/-! ## Taking tokens -/

/-- Takes an operator. -/
def takeMarks (marks : String) : Reader Unit := fun tokens =>
  if beginsMarks marks tokens then .ok ((), tokens.drop marks.length)
  else refusePlain s!"expected `{marks}`" tokens

/-- Takes an operator if it is there. -/
def takeMarks? (marks : String) : Reader Bool := fun tokens =>
  if beginsMarks marks tokens then .ok (true, tokens.drop marks.length) else .ok (false, tokens)

/-- Takes a word. -/
def takeWord (word : String) : Reader Unit := fun tokens =>
  if beginsWord word tokens then .ok ((), tokens.drop 1) else refuse s!"expected `{word}`" tokens

/-- Takes a word if it is there. -/
def takeWord? (word : String) : Reader Bool := fun tokens =>
  if beginsWord word tokens then .ok (true, tokens.drop 1) else .ok (false, tokens)

/-- Takes any word. -/
def takeAnyWord : Reader (String × Position)
  | .word s p :: rest => .ok ((s, p), rest)
  | tokens => refuse "expected ident" tokens

/-- Takes an identifier. -/
def takeIdentifier : Reader (String × Position)
  | .word s p :: rest =>
    if keywords.contains s then .error ⟨s!"expected identifier, found keyword `{s}`", some p⟩
    else .ok ((s, p), rest)
  | tokens => refuse "expected identifier" tokens

/-- Takes a lifetime. -/
def takeLifetime : Reader Unit := fun tokens =>
  if beginsLifetime tokens then .ok ((), afterLifetime tokens) else refuse "expected lifetime" tokens

/-- Takes a lifetime if it is there. -/
def takeLifetime? : Reader Unit := fun tokens =>
  .ok ((), if beginsLifetime tokens then afterLifetime tokens else tokens)

/-- Takes a literal. -/
def takeLiteral : Reader Unit := fun tokens =>
  match tokens with
  | .literal .. :: rest => .ok ((), rest)
  | .word .. :: rest => if beginsLiteral tokens then .ok ((), rest) else refuse "expected literal" tokens
  | .mark .. :: _ :: rest => if beginsLiteral tokens then .ok ((), rest) else refuse "expected literal" tokens
  | _ => refuse "expected literal" tokens

/-- Takes any token. -/
def takeAny : Reader Token
  | t :: rest => .ok (t, rest)
  | [] => refuse "expected a token" []

/-- The tokens before a place, which is given by what follows. -/
def tokensBefore (tokens rest : List Token) : List Token := tokens.take (tokens.length - rest.length)

/-- Also gives the tokens that were taken. -/
def withTokens {α : Type} (r : Reader α) : Reader (α × List Token) := fun tokens => do
  let (a, rest) ← r tokens
  .ok ((a, tokensBefore tokens rest), rest)

/-- The result of a reader on a whole row, whose end has a place. -/
def readAll {α : Type} (r : Reader α) (close : Position) (left : String) (tokens : List Token) :
    Except Fault α :=
  match r tokens with
  | .error f => .error { f with position := f.position.or (some close) }
  | .ok (a, []) => .ok a
  | .ok (_, t :: _) => .error ⟨left, some t.position⟩

/-- Reads the inside of a group. -/
def takeGroup {α : Type} (d : Delimiter) (r : Reader α) : Reader α := fun tokens =>
  match tokens with
  | .group e inner _ close :: rest =>
    if d = e then (readAll r close s!"unexpected token, expected `{d.closing}`" inner).map (·, rest)
    else refuse s!"expected {d.label}" tokens
  | _ => refuse s!"expected {d.label}" tokens

/-- Takes a group of any kind, whatever it holds. -/
def takeAnyGroup : Reader Delimiter
  | .group d _ _ _ :: rest => .ok (d, rest)
  | tokens => refuse "expected delimiter" tokens

/-- Leaves what is there. -/
def takeRest : Reader (List Token) := fun tokens => .ok (tokens, [])

end Switchyard.Code

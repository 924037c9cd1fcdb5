import Switchyard.Code.Expression
import Switchyard.Code.Literal

/-!
# Attributes

What is written between `#[` and `]`: a path, alone, with tokens in a group, or with a value.
-/

namespace Switchyard.Code

/-- What follows the path of an attribute. -/
inductive AttributeContent where
  | bare
  /-- The tokens of a group, and where it is closed. -/
  | list (tokens : List Token) (close : Position)
  /-- A value after an equals sign, given if it is a text. -/
  | value (equals : Position) (text : Option String)
  deriving Repr

/-- An attribute. -/
structure Attribute where
  /-- The attribute is about what encloses it. -/
  isInner : Bool
  /-- The names of the path. -/
  path : List String
  /-- The path begins with a double colon. -/
  isGlobal : Bool
  content : AttributeContent
  /-- Where the attribute starts, and where its path does. -/
  position : Position
  pathPosition : Position
  /-- The attribute as it is written. -/
  tokens : List Token
  deriving Repr

namespace Attribute

/-- The name of an attribute whose path is a single one. -/
def name? (a : Attribute) : Option String :=
  match a.isGlobal, a.path with
  | false, [name] => some name
  | _, _ => none

/-- Whether an attribute has a name. -/
def isNamed (name : String) (a : Attribute) : Bool := a.name? == some name

/-- The head of an attribute in a message. -/
def label (a : Attribute) : String :=
  let mark := if a.isInner then "#!" else "#"
  let path := (if a.isGlobal then "::" else "") ++ "::".intercalate a.path
  s!"{mark}[{path}(...)]"

/-- Reads the tokens that an attribute is given in a group. -/
def arguments {α : Type} (a : Attribute) (r : Reader α) : Except Fault α :=
  match a.content with
  | .bare => .error ⟨s!"expected attribute arguments in parentheses: {a.label}", some a.pathPosition⟩
  | .value equals _ => .error ⟨s!"expected parentheses: {a.label}", some equals⟩
  | .list tokens close => readAll r close "unexpected token" tokens

/-- The text of an attribute that has one as its value. -/
def text? (a : Attribute) : Option String :=
  match a.content with
  | .value _ text => text
  | _ => none

end Attribute

/-- Takes a string literal and gives its text. -/
def takeString : Reader (String × Position) := fun tokens =>
  match tokens with
  | .literal s p :: rest =>
    match stringValue? s with
    | some text => .ok ((text, p), rest)
    | none => refuse "expected string literal" tokens
  | _ => refuse "expected string literal" tokens

/-- Takes the names of an attribute's path; keywords are no names unless a path may begin with them. -/
def takeAttributePath : (fuel : Nat) → Reader (List String)
  | 0 => refusePlain "too deep"
  | fuel + 1 => do
    let tokens ← get
    let (name, _) ← if beginsOneOf pathWords tokens then takeAnyWord else takeIdentifier
    if ← takeMarks? "::" then
      if (← get).isEmpty then refuse "expected path segment after `::`"
      return name :: (← takeAttributePath fuel)
    else return [name]

/-- Takes what follows an attribute's path. -/
def takeAttributeContent : Reader AttributeContent := fun tokens =>
  match tokens with
  | .group _ inner _ close :: rest => .ok (.list inner close, rest)
  | .mark '=' _ p :: rest =>
    match rest with
    | [.literal s _] => .ok (.value p (stringValue? s), [])
    | .mark '#' _ q :: .group .bracket .. :: _ => .error ⟨"unexpected attribute inside of attribute", some q⟩
    | _ => (takeExpr rest).map fun (_, rest) => (.value p none, rest)
  | _ => .ok (.bare, tokens)

/-- Takes the inside of an attribute. -/
def takeAttributeBody : Reader (List String × Bool × Position × AttributeContent) := do
  let tokens ← get
  let isGlobal ← takeMarks? "::"
  let start := ((← get).head?.map Token.position).getD .start
  let path ← if beginsWord "unsafe" tokens then do
      let (name, _) ← takeAnyWord
      pure [name]
    else takeAttributePath (tokens.length + 1)
  return (path, isGlobal, start, ← takeAttributeContent)

/-- Takes an attribute, whose mark is there. -/
def takeAttribute (isInner : Bool) : Reader Attribute := fun tokens => do
  let (((path, isGlobal, start, content), written), rest) ← (withTokens do
    takeMarks "#"
    if isInner then takeMarks "!"
    takeGroup .bracket takeAttributeBody) tokens
  let position := (tokens.head?.map Token.position).getD .start
  .ok (⟨isInner, path, isGlobal, content, position, start, written⟩, rest)

/-- Takes the attributes of what follows. -/
def takeOuterAttributes : (fuel : Nat) → Reader (List Attribute)
  | 0 => pure []
  | fuel + 1 => do
    if beginsMarks "#" (← get) then
      let first ← takeAttribute false
      return first :: (← takeOuterAttributes fuel)
    else return []

/-- Takes the attributes of what encloses the tokens. -/
def takeInnerAttributes : (fuel : Nat) → Reader (List Attribute)
  | 0 => pure []
  | fuel + 1 => do
    let tokens ← get
    if beginsMarks "#" tokens && beginsMarks "!" (tokens.drop 1) then
      let first ← takeAttribute true
      return first :: (← takeInnerAttributes fuel)
    else return []

/-- Takes as many outer attributes as there are. -/
def takeAttributes : Reader (List Attribute) := do takeOuterAttributes (← get).length

end Switchyard.Code

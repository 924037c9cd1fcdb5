import Switchyard.Code.Lexer
import Switchyard.Code.Method

/-!
# Blocks of methods

The block that gives a type its methods. Members other than methods are kept as they are written.
-/

namespace Switchyard.Code

/-- A member of a block. -/
inductive Member where
  | method (method : Method)
  | other (tokens : List Token)

/-- The pieces of a member. -/
def Member.pieces : Member → Pieces
  | .method m => m.pieces
  | .other tokens => Token.piecesOf tokens

/-- A block of members for a type. -/
structure Block where
  attributes : List Attribute
  /-- What precedes the type. -/
  head : List Token
  /-- Where the generic parameters start, if there are any. -/
  generics : Option Position
  /-- Where the trait starts that the block is about, if there is one. -/
  trait : Option Position
  type : TypeExpr
  /-- The conditions. -/
  tail : List Token
  members : List Member

namespace Block

/-- The pieces of a block. -/
def pieces (b : Block) : Pieces :=
  attributePieces (b.attributes.filter (!·.isInner)) ++ Token.piecesOf b.head ++ b.type.pieces
    ++ Token.piecesOf b.tail ++ Delimiter.brace.opening :: (attributePieces (b.attributes.filter (·.isInner))
      ++ b.members.flatMap Member.pieces ++ [Delimiter.brace.closing])

end Block

/-- Whether generic parameters follow, and not a type between brackets. -/
def beginsGenerics (tokens : List Token) : Bool :=
  let second := tokens.drop 1
  let next (rest : List Token) : Bool :=
    beginsMarks ">" rest || beginsMarks "," rest || (beginsMarks ":" rest && !beginsMarks "::" rest)
      || beginsMarks "=" rest
  beginsMarks "<" tokens
    && (beginsMarks ">" second || beginsMarks "#" second || (beginsLifetime second && next (second.drop 2))
      || (beginsIdentifier second && next (second.drop 1)) || beginsWord "const" second)

/-- Takes a constant. -/
def takeConstant : Reader Unit := do
  takeWord "const"
  if !(← takeWord? "_") then
    let _ ← takeIdentifier
  let _ ← takeGenerics?
  takeMarks ":"
  let _ ← takeType
  if ← takeMarks? "=" then
    let _ ← takeExpr
  let _ ← takeWhere?
  takeMarks ";"

/-- Takes the type that a member stands for. -/
def takeMemberType : Reader Unit := do
  takeWord "type"
  let _ ← takeIdentifier
  let _ ← takeGenerics?
  if ← takeMarks? ":" then takeBoundList endsConditions (fuelFor (← get))
  let _ ← takeWhere?
  if ← takeMarks? "=" then
    let _ ← takeType
  let _ ← takeWhere?
  takeMarks ";"

/-- Takes a call of a macro; one in braces needs no semicolon. -/
def takeInvocation : Reader Unit := do
  let _ ← takeMarks? "::"
  let _ ← takeAttributePath ((← get).length + 1)
  takeMarks "!"
  if (← takeAnyGroup) != .brace then takeMarks ";"

/-- Takes a member. -/
def takeMember : Reader Member := do
  let (method, written) ← withTokens do
    let attributes ← takeAttributes
    let start ← get
    let (visibility, isDefault) ← (do
      let visibility ← takeVisibility
      let isDefault ← if beginsMarks "!" ((← get).drop 1) then pure false else takeWord? "default"
      return (visibility, isDefault))
    let tokens ← get
    if beginsSignature tokens then
      set start
      takeMethod attributes
    else if beginsWord "const" tokens then
      takeConstant
      return none
    else if beginsWord "type" tokens then
      takeMemberType
      return none
    else if visibility.isEmpty && !isDefault && beginsPath tokens && !beginsMarks "<" tokens then
      takeInvocation
      return none
    else refuse "expected a member"
  return match method with
    | some m => .method m
    | none => .other written

/-- Takes the members up to the end of the row. -/
def takeMembers : (fuel : Nat) → Reader (List Member)
  | 0 => pure []
  | fuel + 1 => do
    if (← get).isEmpty then return []
    let first ← takeMember
    return first :: (← takeMembers fuel)

/-- Takes a block. -/
def takeImpl : Reader Block := do
  let attributes ← takeAttributes
  let (_, head) ← withTokens do
    let _ ← takeWord? "default"
    let _ ← takeWord? "unsafe"
    takeWord "impl"
  let generics ← if beginsGenerics (← get) then takeGenerics? else pure []
  let negative ← takeMarks? "!"
  let first ← takeType
  let (trait, type) ← if beginsWord "for" (← get) then do
      takeWord "for"
      match first.form with
      | .path _ => pure (some first.position, ← takeType)
      | _ => refuse "expected trait path"
    else pure (none, first)
  if negative && trait.isNone then refuse "inherent impls cannot be negative"
  let tail ← takeWhere?
  let (inner, members) ← takeGroup .brace do
    let inner ← takeInnerAttributes (← get).length
    return (inner, ← takeMembers (← get).length)
  return { attributes := attributes ++ inner, head, generics := generics.head?.map Token.position, trait, type,
           tail, members }

/-- Reads a whole text. -/
def readText? {α : Type} (r : Reader α) (text : String) : Option α := do
  match readAll r .start "unexpected token" (← tokenize? text) with
  | .ok a => some a
  | .error _ => none

end Switchyard.Code

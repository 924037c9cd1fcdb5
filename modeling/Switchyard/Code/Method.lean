import Switchyard.Code.Attribute

/-!
# Methods

The signature of a method with its inputs, and its body, which is kept as it is written.
-/

namespace Switchyard.Code

/-- What an input of a method is. -/
inductive InputKind where
  /-- The method's object, with or without a written type. -/
  | receiver (typed : Bool)
  /-- A value, with the name that it is bound to if its pattern is one. -/
  | value (name : Option String) (type : TypeExpr)
  /-- Any number of further inputs. -/
  | variadic

/-- An input of a method. -/
structure Input where
  attributes : List Attribute
  kind : InputKind
  /-- The input as it is written, without its attributes. -/
  tokens : List Token
  /-- A comma follows. -/
  comma : Bool

namespace Input

/-- Where an input starts, its attributes included. -/
def position (i : Input) : Position :=
  match i.attributes, i.tokens with
  | a :: _, _ => a.position
  | [], t :: _ => t.position
  | [], [] => .start

/-- Whether an input is the method's object. -/
def isReceiver (i : Input) : Bool :=
  match i.kind with
  | .receiver _ => true
  | _ => false

/-- The pieces of an input. -/
def pieces (i : Input) : Pieces :=
  Token.piecesOf (i.attributes.flatMap Attribute.tokens) ++ Token.piecesOf i.tokens
    ++ (if i.comma then [","] else [])

end Input

/-- The head of a method. -/
structure Signature where
  /-- What precedes the name. -/
  head : List Token
  isAsync : Bool
  name : String
  namePosition : Position
  /-- The generic parameters with their brackets, if there are any. -/
  generics : List Token
  inputs : List Input
  result : Option TypeExpr
  /-- The result and the conditions, as they are written. -/
  tail : List Token

namespace Signature

/-- The pieces of a signature. -/
def pieces (s : Signature) : Pieces :=
  Token.piecesOf s.head ++ s.name :: Token.piecesOf s.generics
    ++ "(" :: (s.inputs.flatMap Input.pieces ++ ")" :: Token.piecesOf s.tail)

/-- Whether a method takes its object. -/
def hasReceiver (s : Signature) : Bool := s.inputs.head?.any Input.isReceiver

end Signature

/-- A method. -/
structure Method where
  /-- The attributes of the method, those inside of its body included. -/
  attributes : List Attribute
  visibility : List Token
  signature : Signature
  body : List Token

/-- The pieces of attributes. -/
def attributePieces (attributes : List Attribute) : Pieces :=
  attributes.flatMap fun a => Token.piecesOf a.tokens

namespace Method

/-- The name of a method. -/
def name (m : Method) : String := m.signature.name

/-- The pieces of a method. -/
def pieces (m : Method) : Pieces :=
  attributePieces (m.attributes.filter (!·.isInner)) ++ Token.piecesOf m.visibility ++ m.signature.pieces
    ++ Delimiter.brace.opening :: (attributePieces (m.attributes.filter (·.isInner))
      ++ Token.piecesOf m.body ++ [Delimiter.brace.closing])

end Method

/-! ## Generic parameters and conditions -/

/-- Takes bounds up to what may follow them. -/
def takeBoundList (ends : List Token → Bool) : (fuel : Nat) → Reader Unit
  | 0 => pure ()
  | fuel + 1 => do
    let tokens ← get
    if tokens.isEmpty || ends tokens then return
    let _ ← readBound (fuelFor tokens)
    if ← takeMarks? "+" then takeBoundList ends fuel

/-- Takes a generic parameter. -/
def takeGeneric : Reader Unit := do
  let tokens ← get
  let fuel := fuelFor tokens
  let ends (tokens : List Token) : Bool :=
    beginsMarks "," tokens || beginsMarks ">" tokens || beginsMarks "=" tokens
  skipAttributes fuel
  let tokens ← get
  if beginsLifetime tokens then
    takeLifetime
    if ← takeMarks? ":" then takeBoundList ends fuel
  else if beginsIdentifier tokens || beginsWord "_" tokens then
    let _ ← takeAnyWord
    if ← takeMarks? ":" then takeBoundList ends fuel
    if ← takeMarks? "=" then
      let _ ← takeType
  else if beginsWord "const" tokens then
    takeWord "const"
    let _ ← takeIdentifier
    takeMarks ":"
    let _ ← takeType
    if ← takeMarks? "=" then readConstant fuel
  else refuse (expectation ["lifetime", "identifier", "`const`"])

/-- Takes generic parameters up to the closing bracket. -/
def takeGenerics : (fuel : Nat) → Reader Unit
  | 0 => pure ()
  | fuel + 1 => do
    if beginsMarks ">" (← get) then return
    takeGeneric
    if beginsMarks ">" (← get) then return
    takeMarks ","
    takeGenerics fuel

/-- Takes the generic parameters between brackets; empty brackets count for nothing. -/
def takeGenerics? : Reader (List Token) := do
  let tokens ← get
  if !beginsMarks "<" tokens then return []
  let (_, written) ← withTokens do
    takeMarks "<"
    takeGenerics tokens.length
    takeMarks ">"
  return if written.length ≤ 2 then [] else written

/-- Whether a condition cannot follow. -/
def endsConditions (tokens : List Token) : Bool :=
  tokens.isEmpty || beginsGroup .brace tokens || beginsMarks "," tokens || beginsMarks ";" tokens
    || (beginsMarks ":" tokens && !beginsMarks "::" tokens) || beginsMarks "=" tokens

/-- Takes the conditions of a where clause, and tells whether there are any. -/
def takeConditions : (fuel : Nat) → Reader Bool
  | 0 => pure false
  | fuel + 1 => do
    let tokens ← get
    if endsConditions tokens then return false
    if beginsLifetime tokens && beginsMarks ":" (afterLifetime tokens) then
      takeLifetime
    else
      let _ ← takeBinder? (fuelFor tokens)
      let _ ← takeType
    takeMarks ":"
    takeBoundList endsConditions (fuelFor tokens)
    if ← takeMarks? "," then
      let _ ← takeConditions fuel
    return true

/-- Takes a where clause if it is there; without conditions it counts for nothing. -/
def takeWhere? : Reader (List Token) := do
  let tokens ← get
  if !beginsWord "where" tokens then return []
  let (filled, written) ← withTokens do
    takeWord "where"
    takeConditions tokens.length
  return if filled then written else []

/-! ## Inputs -/

/-- Takes the method's object. -/
def takeReceiver : Reader InputKind := do
  if ← takeMarks? "&" then
    takeLifetime?
    let _ ← takeWord? "mut"
    takeWord "self"
    return .receiver false
  else
    let _ ← takeWord? "mut"
    takeWord "self"
    if ← takeMarks? ":" then
      let _ ← takeType
      return .receiver true
    else return .receiver false

/-- Tries a reader, and takes nothing if it fails. -/
def attempt {α : Type} (r : Reader α) : Reader (Option α) := fun tokens =>
  match r tokens with
  | .ok (a, rest) => .ok (some a, rest)
  | .error _ => .ok (none, tokens)

/-- Whether a type follows where a pattern is expected. -/
def beginsUnnamed (tokens : List Token) : Bool := beginsIdentifier tokens && beginsMarks "<" (tokens.drop 1)

/-- Takes a value with its pattern and type. A type with arguments may stand alone; the pattern that it lacks
is given as tokens. -/
def takeValue : Reader (InputKind × List Token) := do
  let tokens ← get
  if beginsUnnamed tokens then
    let position := (tokens.head?.map Token.position).getD .start
    return (.value none (← takeType), [.word "_" position, .mark ':' false position])
  let pattern ← takePattern
  takeMarks ":"
  if ← takeMarks? "..." then return (.variadic, [])
  let name := match pattern with
    | .name s => some s
    | _ => none
  return (.value name (← takeType), [])

/-- Takes the inputs of a method; its object may only be the first of them. -/
def takeInputs (isFirst : Bool) : (fuel : Nat) → Reader (List Input)
  | 0 => pure []
  | fuel + 1 => do
    if (← get).isEmpty then return []
    let attributes ← takeAttributes
    let start ← get
    let ((kind, implied), taken) ← withTokens do
      if ← takeMarks? "..." then pure (.variadic, [])
      else
        match ← attempt takeReceiver with
        | some kind => if isFirst then pure (kind, []) else refuse "unexpected method receiver"
        | none => takeValue
    let written := implied ++ taken
    let last := match kind with
      | .variadic => true
      | _ => false
    if start.length = taken.length then return [⟨attributes, kind, written, false⟩]
    takeMarks ","
    if last && !(← get).isEmpty then refuse "unexpected token"
    return ⟨attributes, kind, written, true⟩ :: (← takeInputs false fuel)

/-! ## Methods -/

/-- Takes a signature. -/
def takeSignature : Reader Signature := do
  let (isAsync, head) ← withTokens do
    let isAsync ← takeQualifiers
    takeWord "fn"
    return isAsync
  let (name, namePosition) ← takeIdentifier
  let generics ← takeGenerics?
  let inputs ← takeGroup .parenthesis fun tokens => takeInputs true tokens.length tokens
  let (result, written) ← withTokens do
    if ← takeMarks? "->" then return some (← takeType)
    else return none
  let conditions ← takeWhere?
  return { head, isAsync, name, namePosition, generics, inputs, result, tail := written ++ conditions }

/-- Takes a method after its attributes; a method without a body is none. -/
def takeMethod (attributes : List Attribute) : Reader (Option Method) := do
  let (_, visibility) ← withTokens do
    let _ ← takeVisibility
    takeWord? "default"
  let signature ← takeSignature
  if ← takeMarks? ";" then return none
  let (inner, body) ← takeGroup .brace do
    let inner ← takeInnerAttributes (← get).length
    let (_, body) ← withTokens takeStatements
    return (inner, body)
  return some { attributes := attributes ++ inner, visibility, signature, body }

end Switchyard.Code

import Switchyard.Code.Reader
import Switchyard.Code.TypeExpr

/-!
# Reading types

Types, paths and bounds from tokens. The fuel bounds how deep a type is nested; the number of tokens is
always enough.
-/

namespace Switchyard.Code

/-- What a type may begin with. -/
def typeStarts : List String := [
  "`for`", "parentheses", "`fn`", "`unsafe`", "`extern`", "identifier", "`::`", "`<`", "`dyn`",
  "square brackets", "`*`", "`&`", "`!`", "`impl`", "`_`", "lifetime"]

/-- Words that begin a path though they are no identifiers. -/
def pathWords : List String := ["super", "self", "Self", "crate"]

/-- Whether the tokens begin with one of some words. -/
def beginsOneOf (words : List String) (tokens : List Token) : Bool := words.any (beginsWord · tokens)

/-- Whether the tokens begin with a path. -/
def beginsPath (tokens : List Token) : Bool :=
  beginsIdentifier tokens || beginsOneOf pathWords tokens || beginsMarks "::" tokens || beginsMarks "<" tokens

/-- Whether another bound follows a plus sign. -/
def beginsBound (tokens : List Token) : Bool :=
  beginsAnyWord tokens || beginsMarks "::" tokens || beginsMarks "?" tokens || beginsLifetime tokens
    || beginsGroup .parenthesis tokens

/-- Takes attributes without looking into them. -/
def skipAttributes : (fuel : Nat) → Reader Unit
  | 0 => pure ()
  | fuel + 1 => do
    if beginsMarks "#" (← get) then
      takeMarks "#"
      let _ ← takeGroup .bracket takeRest
      skipAttributes fuel

/-- Takes the lifetimes of a binder, up to the closing bracket. -/
def takeLifetimes : (fuel : Nat) → Reader Unit
  | 0 => pure ()
  | fuel + 1 => do
    if !beginsMarks ">" (← get) then
      takeLifetime
      if !beginsMarks ">" (← get) then
        takeMarks ","
        takeLifetimes fuel

/-- Takes a binder of lifetimes if it is there. -/
def takeBinder? (fuel : Nat) : Reader Bool := do
  if beginsWord "for" (← get) then
    takeWord "for"
    takeMarks "<"
    takeLifetimes fuel
    takeMarks ">"
    return true
  return false

/-- Whether all names of a path are without arguments. -/
def isPlainPath (segments : List Segment) : Bool :=
  segments.all fun s => match s.arguments with
    | .none => true
    | _ => false

/-- Whether a bound is a trait. -/
def isTrait : Bound → Bool
  | .trait _ => true
  | .other => false

mutual

/-- Takes a type. -/
def readType : (fuel : Nat) → (plus : Bool) → Reader TypeExpr
  | 0, _ => refusePlain "too deep"
  | fuel + 1, plus => do
    let (form, tokens) ← withTokens (readForm fuel plus)
    return .mk tokens form

/-- Takes the form of a type; with `plus`, bounds may follow one another. -/
def readForm : (fuel : Nat) → (plus : Bool) → Reader TypeForm
  | 0, _ => refusePlain "too deep"
  | fuel + 1, plus => do
    let bound ← takeBinder? fuel
    let tokens ← get
    if bound && !(beginsIdentifier tokens || beginsOneOf ("fn" :: "unsafe" :: "extern" :: pathWords) tokens) then
      refuse (expectation ["identifier", "`fn`", "`unsafe`", "`extern`", "`super`", "`self`", "`Self`", "`crate`"])
    else if beginsGroup .parenthesis tokens then
      let form ← takeGroup .parenthesis (readParens fuel)
      match form with
      | .parens (.mk _ (.path _)) =>
        if plus && beginsMarks "+" (← get) then
          takeMarks "+"
          let _ ← readBounds fuel true
          return .object
        else return form
      | _ => return form
    else if beginsOneOf ["fn", "unsafe", "extern"] tokens then
      let _ ← takeWord? "unsafe"
      if ← takeWord? "extern" then
        if beginsLiteral (← get) then takeLiteral
      takeWord "fn"
      takeGroup .parenthesis (readPointerInputs fuel)
      readResult fuel
      return .other
    else if beginsPath tokens then
      let qualified := beginsMarks "<" tokens
      let segments ← readPath fuel false
      let after ← get
      if qualified then return .other
      else if beginsMarks "!" after && !beginsMarks "!=" after && isPlainPath segments then
        takeMarks "!"
        let _ ← takeAnyGroup
        return .other
      else if plus && beginsMarks "+" after then
        takeMarks "+"
        if beginsBound (← get) then
          let _ ← readBounds fuel true
        return .object
      else if bound then return .object
      else return .path segments
    else if beginsWord "dyn" tokens then
      takeWord "dyn"
      let bounds ← readBounds fuel plus
      if bounds.any isTrait then return .object
      else throw ⟨"at least one trait is required for an object type", tokens.head?.map Token.position⟩
    else if beginsGroup .bracket tokens then
      takeGroup .bracket do
        let _ ← readType fuel true
        if ← takeMarks? ";" then
          if (← get).isEmpty then refuse "expected an expression"
          let _ ← takeRest
      return .other
    else if beginsMarks "*" tokens then
      takeMarks "*"
      if beginsOneOf ["const", "mut"] (← get) then
        let _ ← takeAnyWord
        let _ ← readType fuel false
        return .other
      else refuse (expectation ["`const`", "`mut`"])
    else if beginsMarks "&" tokens then
      takeMarks "&"
      takeLifetime?
      let isMut ← takeWord? "mut"
      return .reference isMut (← readType fuel false)
    else if beginsMarks "!" tokens then
      takeMarks "!"
      return .never
    else if beginsWord "impl" tokens then
      takeWord "impl"
      let bounds ← readBounds fuel plus
      if bounds.any isTrait then return .some bounds
      else throw ⟨"at least one trait must be specified", tokens.head?.map Token.position⟩
    else if beginsWord "_" tokens then
      let _ ← takeAnyWord
      return .other
    else if beginsLifetime tokens then
      let bounds ← readBounds fuel plus
      if bounds.any isTrait then return .object
      else throw ⟨"at least one trait is required for an object type", tokens.head?.map Token.position⟩
    else refuse (expectation typeStarts)

/-- Takes what stands between parentheses in a type. -/
def readParens : (fuel : Nat) → Reader TypeForm
  | 0 => refusePlain "too deep"
  | fuel + 1 => do
    let tokens ← get
    if tokens.isEmpty then return .tuple []
    else if beginsMarks "?" tokens || beginsLifetime tokens then
      let _ ← readBounds fuel true
      return .object
    else
      let first ← readType fuel true
      if beginsMarks "," (← get) then
        takeMarks ","
        return .tuple (first :: (← readTypes fuel))
      else return .parens first

/-- Takes the types up to the end of the row. -/
def readTypes : (fuel : Nat) → Reader (List TypeExpr)
  | 0 => refusePlain "too deep"
  | fuel + 1 => do
    if (← get).isEmpty then return []
    let first ← readType fuel true
    if (← get).isEmpty then return [first]
    takeMarks ","
    return first :: (← readTypes fuel)

/-- Takes the inputs of a function pointer, which may have names. -/
def readPointerInputs : (fuel : Nat) → Reader Unit
  | 0 => refusePlain "too deep"
  | fuel + 1 => do
    skipAttributes fuel
    let tokens ← get
    if tokens.isEmpty then return
    let after := tokens.drop 1
    if (beginsIdentifier tokens || beginsOneOf ["_", "self"] tokens) && beginsMarks ":" after
        && !beginsMarks "::" after then
      let _ ← takeAnyWord
      takeMarks ":"
    if beginsMarks "..." (← get) then takeMarks "..."
    else
      let _ ← readType fuel true
    if (← get).isEmpty then return
    takeMarks ","
    readPointerInputs fuel

/-- Takes the result of a function pointer or bound, which may be missing. -/
def readResult : (fuel : Nat) → Reader Unit
  | 0 => refusePlain "too deep"
  | fuel + 1 => do
    if beginsMarks "->" (← get) then
      takeMarks "->"
      let _ ← readType fuel false

/-- Takes a path; in an expression, angle brackets follow a double colon. -/
def readPath : (fuel : Nat) → (expression : Bool) → Reader (List Segment)
  | 0, _ => refusePlain "too deep"
  | fuel + 1, expression => do
    if beginsMarks "<" (← get) then
      takeMarks "<"
      let _ ← readType fuel true
      if ← takeWord? "as" then
        let _ ← readPath fuel false
      takeMarks ">"
      takeMarks "::"
    else
      let _ ← takeMarks? "::"
    readSegments fuel expression

/-- Takes names with double colons between them. -/
def readSegments : (fuel : Nat) → (expression : Bool) → Reader (List Segment)
  | 0, _ => refusePlain "too deep"
  | fuel + 1, expression => do
    let first ← readSegment fuel expression
    let tokens ← get
    if beginsMarks "::" tokens && !beginsGroup .parenthesis (tokens.drop 2) then
      takeMarks "::"
      return first :: (← readSegments fuel expression)
    else return [first]

/-- Takes a name with its arguments. -/
def readSegment : (fuel : Nat) → (expression : Bool) → Reader Segment
  | 0, _ => refusePlain "too deep"
  | fuel + 1, expression => do
    let tokens ← get
    if beginsOneOf ["super", "self", "crate", "try"] tokens then
      let (name, _) ← takeAnyWord
      return .mk name .none
    else
      let (name, _) ← if beginsWord "Self" tokens then takeAnyWord else takeIdentifier
      let after ← get
      if (!expression && beginsMarks "<" after && !beginsMarks "<=" after)
          || (beginsMarks "::" after && beginsMarks "<" (after.drop 2)) then
        let _ ← takeMarks? "::"
        takeMarks "<"
        let arguments ← readArguments fuel
        takeMarks ">"
        return .mk name (.angled arguments)
      else return .mk name .none

/-- Takes arguments up to the closing bracket. -/
def readArguments : (fuel : Nat) → Reader (List Argument)
  | 0 => refusePlain "too deep"
  | fuel + 1 => do
    if beginsMarks ">" (← get) then return []
    let first ← readArgument fuel
    if beginsMarks ">" (← get) then return [first]
    takeMarks ","
    return first :: (← readArguments fuel)

/-- Takes a constant argument: a literal, a name or a block. -/
def readConstant : (fuel : Nat) → Reader Unit
  | 0 => refusePlain "too deep"
  | _ + 1 => do
    let tokens ← get
    if beginsLiteral tokens then takeLiteral
    else if beginsGroup .brace tokens then
      let _ ← takeGroup .brace takeRest
    else
      let _ ← takeIdentifier

/-- Takes an argument. -/
def readArgument : (fuel : Nat) → Reader Argument
  | 0 => refusePlain "too deep"
  | fuel + 1 => do
    let tokens ← get
    if beginsLifetime tokens && !beginsMarks "+" (afterLifetime tokens) then
      takeLifetime
      return .other
    else if beginsLiteral tokens || beginsGroup .brace tokens then
      readConstant fuel
      return .other
    else
      let type ← readType fuel true
      let single := match type.form with
        | .path [.mk name _] => if beginsMarks "::" tokens then none else some name
        | _ => none
      match single with
      | none => return .type type
      | some name =>
        if ← takeMarks? "=" then
          let after ← get
          if beginsLiteral after || beginsGroup .brace after then
            readConstant fuel
            return .other
          else return .member name (← readType fuel true)
        else if ← takeMarks? ":" then
          readConstraint fuel
          return .other
        else return .type type

/-- Takes the bounds of an associated type, up to a comma or the closing bracket. -/
def readConstraint : (fuel : Nat) → Reader Unit
  | 0 => refusePlain "too deep"
  | fuel + 1 => do
    let tokens ← get
    if beginsMarks "," tokens || beginsMarks ">" tokens then return
    let _ ← readBound fuel
    if ← takeMarks? "+" then readConstraint fuel

/-- Takes bounds; with `plus`, as many as plus signs join. -/
def readBounds : (fuel : Nat) → (plus : Bool) → Reader (List Bound)
  | 0, _ => refusePlain "too deep"
  | fuel + 1, plus => do
    let first ← readBound fuel
    if plus && beginsMarks "+" (← get) then
      takeMarks "+"
      if beginsBound (← get) then return first :: (← readBounds fuel plus)
      else return [first]
    else return [first]

/-- Takes a bound. -/
def readBound : (fuel : Nat) → Reader Bound
  | 0 => refusePlain "too deep"
  | fuel + 1 => do
    let tokens ← get
    if beginsLifetime tokens then
      takeLifetime
      return .other
    else if beginsWord "use" tokens then
      takeWord "use"
      takeMarks "<"
      let _ ← readArguments fuel
      takeMarks ">"
      return .other
    else if beginsGroup .parenthesis tokens then takeGroup .parenthesis (readTrait fuel)
    else readTrait fuel

/-- Takes a trait, which may be relaxed, bind lifetimes and have the form of a call. -/
def readTrait : (fuel : Nat) → Reader Bound
  | 0 => refusePlain "too deep"
  | fuel + 1 => do
    let _ ← takeBinder? fuel
    let _ ← takeMarks? "?"
    let _ ← takeBinder? fuel
    if beginsMarks "<" (← get) then
      let _ ← takeIdentifier
    let segments ← readPath fuel false
    let after ← get
    let last := segments.getLast?.map Segment.arguments
    let bare := match last with
      | some .none => true
      | _ => false
    if bare && (beginsGroup .parenthesis after || (beginsMarks "::" after && beginsGroup .parenthesis (after.drop 2)))
    then
      let _ ← takeMarks? "::"
      let _ ← takeGroup .parenthesis (readTypes fuel)
      readResult fuel
      let name := (segments.getLast?.map Segment.name).getD ""
      return .trait (segments.dropLast ++ [.mk name .call])
    else return .trait segments

end

/-- Fuel for any reader on a row of tokens: every level of nesting takes a token, and no more than four
readers call each other without taking one. -/
def fuelFor (tokens : List Token) : Nat := 8 * Token.countOf tokens + 16

/-- Takes a type in which bounds may follow one another. -/
def takeType : Reader TypeExpr := fun tokens => readType (fuelFor tokens) true tokens

end Switchyard.Code

import Switchyard.Code.TypeReader

/-!
# Reading patterns

A pattern is kept as it is written. What is known of it is whether it is a name, and whether it stands for
any number of elements. The blocks of constants are taken without looking into them.
-/

namespace Switchyard.Code

/-- What is known of a pattern. -/
inductive PatternForm where
  /-- A name, which may be bound to what a further pattern describes. -/
  | name (identifier : String)
  /-- What is left of a sequence. -/
  | rest
  /-- A range without one of its ends. -/
  | openRange
  | other
  deriving DecidableEq, Repr

/-- Whether a bar between alternatives follows. -/
def beginsBar (tokens : List Token) : Bool :=
  beginsMarks "|" tokens && !beginsMarks "||" tokens && !beginsMarks "|=" tokens

/-- Whether a colon follows that stands alone. -/
def beginsColon (tokens : List Token) : Bool := beginsMarks ":" tokens && !beginsMarks "::" tokens

/-- Whether no end of a range follows. -/
def endsRange (tokens : List Token) : Bool :=
  tokens.isEmpty || beginsMarks "|" tokens || beginsMarks "=" tokens || beginsColon tokens
    || beginsMarks "," tokens || beginsMarks ";" tokens || beginsWord "if" tokens

/-- Takes the end of a range, and tells whether there is one. -/
def readRangeEnd (fuel : Nat) : Reader Bool := do
  let tokens ← get
  if endsRange tokens then return false
  if beginsLiteral tokens then takeLiteral
  else if beginsWord "const" tokens then
    takeWord "const"
    let _ ← takeGroup .brace takeRest
  else if beginsPath tokens then
    let _ ← readPath fuel true
  else refuse (expectation ["literal", "identifier", "`::`", "`<`", "`self`", "`Self`", "`super`", "`crate`", "`const`"])
  return true

/-- Takes the dots of a range and its end, if dots follow. -/
def readRangeAfter (fuel : Nat) : Reader PatternForm := do
  if !beginsMarks ".." (← get) then return .other
  let closed ← if ← takeMarks? "..=" then pure true else takeMarks? "..."
  if !closed then takeMarks ".."
  if ← readRangeEnd fuel then return .other
  if closed then refusePlain "expected range upper bound"
  return .openRange

/-- Takes a range without a start, or the dots that stand for what is left. -/
def readRangeBefore (fuel : Nat) : Reader PatternForm := do
  let closed ← takeMarks? "..="
  if !closed then takeMarks ".."
  if ← readRangeEnd fuel then return .openRange
  if closed then refusePlain "expected range upper bound"
  return .rest

/-- Takes a name, which may be borrowed or changeable. -/
def takeBoundName : Reader String := do
  let _ ← takeWord? "ref"
  let _ ← takeWord? "mut"
  let (name, _) ← if beginsWord "self" (← get) then takeAnyWord else takeIdentifier
  return name

/-- Whether a path follows, and not a name to bind. -/
def beginsPathPattern (tokens : List Token) : Bool :=
  let after := tokens.drop 1
  (beginsIdentifier tokens && (beginsMarks "::" after || beginsMarks "!" after || beginsGroup .brace after
      || beginsGroup .parenthesis after || beginsMarks ".." after))
    || (beginsWord "self" tokens && beginsMarks "::" after)
    || beginsMarks "::" tokens || beginsMarks "<" tokens || beginsOneOf ["Self", "super", "crate"] tokens

mutual

/-- Takes a pattern without alternatives. -/
def readPattern : (fuel : Nat) → Reader PatternForm
  | 0 => refusePlain "too deep"
  | fuel + 1 => do
    let tokens ← get
    if beginsPathPattern tokens then readPathPattern fuel
    else if beginsWord "_" tokens then
      let _ ← takeAnyWord
      return .other
    else if beginsWord "box" tokens then
      let _ ← takeAnyWord
      let _ ← readPattern fuel
      return .other
    else if beginsMarks "-" tokens || beginsLiteral tokens || beginsWord "const" tokens then
      let _ ← readRangeEnd fuel
      readRangeAfter fuel
    else if beginsOneOf ["ref", "mut", "self"] tokens || beginsIdentifier tokens then
      let name ← takeBoundName
      if ← takeMarks? "@" then
        let _ ← readPattern fuel
      return .name name
    else if beginsMarks "&" tokens then
      takeMarks "&"
      let _ ← takeWord? "mut"
      let _ ← readPattern fuel
      return .other
    else if beginsGroup .parenthesis tokens then
      takeGroup .parenthesis (readPatterns fuel)
      return .other
    else if beginsGroup .bracket tokens then
      takeGroup .bracket (readElements fuel)
      return .other
    else if beginsMarks ".." tokens && !beginsMarks "..." tokens then readRangeBefore fuel
    else refuse "expected a pattern"

/-- Takes a pattern that begins with a path: a call, a structure, a range or the path alone. -/
def readPathPattern : (fuel : Nat) → Reader PatternForm
  | 0 => refusePlain "too deep"
  | fuel + 1 => do
    let qualified := beginsMarks "<" (← get)
    let segments ← readPath fuel true
    let after ← get
    if !qualified && beginsMarks "!" after && !beginsMarks "!=" after && isPlainPath segments then
      takeMarks "!"
      let _ ← takeAnyGroup
      return .other
    else if beginsGroup .brace after then
      takeGroup .brace (readFields fuel)
      return .other
    else if beginsGroup .parenthesis after then
      takeGroup .parenthesis (readPatterns fuel)
      return .other
    else readRangeAfter fuel

/-- Takes a pattern with its alternatives. -/
def readAlternatives : (fuel : Nat) → Reader PatternForm
  | 0 => refusePlain "too deep"
  | fuel + 1 => do
    let led ← takeMarks? "|"
    let first ← readPattern fuel
    if led || beginsBar (← get) then
      readBars fuel
      return .other
    return first

/-- Takes the alternatives after the first. -/
def readBars : (fuel : Nat) → Reader Unit
  | 0 => refusePlain "too deep"
  | fuel + 1 => do
    if beginsBar (← get) then
      takeMarks "|"
      let _ ← readPattern fuel
      readBars fuel

/-- Takes patterns with commas between them, up to the end of the row. -/
def readPatterns : (fuel : Nat) → Reader Unit
  | 0 => refusePlain "too deep"
  | fuel + 1 => do
    if (← get).isEmpty then return
    let _ ← readAlternatives fuel
    if (← get).isEmpty then return
    takeMarks ","
    readPatterns fuel

/-- Takes the patterns of elements, among which no range may be open. -/
def readElements : (fuel : Nat) → Reader Unit
  | 0 => refusePlain "too deep"
  | fuel + 1 => do
    if (← get).isEmpty then return
    if (← readAlternatives fuel) = .openRange then
      refusePlain "range pattern is not allowed unparenthesized inside slice pattern"
    if (← get).isEmpty then return
    takeMarks ","
    readElements fuel

/-- Takes the patterns of a structure's members. -/
def readFields : (fuel : Nat) → Reader Unit
  | 0 => refusePlain "too deep"
  | fuel + 1 => do
    if (← get).isEmpty then return
    skipAttributes fuel
    if ← takeMarks? ".." then return
    let tokens ← get
    if beginsOneOf ["box", "ref", "mut"] tokens then
      let _ ← takeWord? "box"
      let _ ← takeWord? "ref"
      let _ ← takeWord? "mut"
      let _ ← takeIdentifier
    else
      match tokens with
      | .literal .. :: _ =>
        takeLiteral
        takeMarks ":"
        let _ ← readAlternatives fuel
      | _ =>
        let _ ← takeIdentifier
        if ← takeMarks? ":" then
          let _ ← readAlternatives fuel
    if (← get).isEmpty then return
    takeMarks ","
    readFields fuel

end

/-- Takes the pattern of an input. -/
def takePattern : Reader PatternForm := fun tokens => readPattern (fuelFor tokens) tokens

end Switchyard.Code

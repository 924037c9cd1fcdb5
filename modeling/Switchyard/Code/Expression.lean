import Switchyard.Code.Item
import Switchyard.Code.Pattern

/-!
# Reading expressions

An expression is kept as it is written. What is known of it is whether it is a plain name or an assignment,
whether it ends with a block, and whether it is a comparison. The statements of blocks are read as well; the
items among them are taken as they are.
-/

namespace Switchyard.Code

/-- What is known of an expression. -/
inductive ExprForm where
  /-- A name without path and arguments. -/
  | name (identifier : String)
  /-- An assignment, with the place of the assigned value. -/
  | assignment (target value : ExprForm) (position : Position)
  /-- A block, or what ends with one; as a statement it needs no semicolon. -/
  | block
  /-- A comparison, after which no other one may follow. -/
  | comparison
  | other
  deriving Repr

/-- Whether an expression is a block, or ends with one. -/
def ExprForm.isBlock : ExprForm → Bool
  | .block => true
  | _ => false

/-- Whether an expression is a comparison. -/
def ExprForm.isComparison : ExprForm → Bool
  | .comparison => true
  | _ => false

/-- An expression, as it is written. -/
structure Expr where
  tokens : List Token
  form : ExprForm
  deriving Repr

/-- The operators between two operands, the longer ones before those that they begin with. -/
def binaryOperators : List String := [
  "<<=", ">>=", "&&", "||", "<<", ">>", "==", "<=", "!=", ">=", "+=", "-=", "*=", "/=", "%=", "^=", "&=", "|=",
  "+", "-", "*", "/", "%", "^", "&", "|", "<", ">"]

/-- The operator that the tokens begin with; the arrow of a match arm is none. -/
def operator? (tokens : List Token) : Option String :=
  binaryOperators.find? (beginsMarks · tokens)

/-- Whether an assignment follows. -/
def beginsAssignment (tokens : List Token) : Bool := beginsMarks "=" tokens && !beginsMarks "=>" tokens

/-- The operators of comparisons. -/
def comparisonOperators : List String := ["==", "<=", "!=", ">=", "<", ">"]

/-- The operators that bind more loosely than comparisons. -/
def looseOperators : List String :=
  ["&&", "||", "<<=", ">>=", "+=", "-=", "*=", "/=", "%=", "^=", "&=", "|="]

/-- What is known of an expression to which an operator and an operand are added. -/
def ExprForm.after (first : ExprForm) (op : String) : ExprForm :=
  if comparisonOperators.contains op then .comparison
  else if looseOperators.contains op then .other
  else if first.isComparison then .comparison
  else .other

/-- Whether a range ends with its dots; `literal` tells whether a structure may follow. -/
def endsOpenRange (literal : Bool) (tokens : List Token) : Bool :=
  tokens.isEmpty || (beginsMarks "." tokens && !beginsMarks ".." tokens) || beginsWord "as" tokens
    || (!literal && beginsGroup .brace tokens)
    || [",", ";", "?", "=", "+", "/", "%", "^", ">", "<=", "!=", "-=", "*=", "&=", "|=", "<<="].any
      (beginsMarks · tokens)

/-- Whether an expression may begin so. -/
def beginsExpr (tokens : List Token) : Bool :=
  (beginsAnyWord tokens && !beginsWord "as" tokens) || beginsLiteral tokens || beginsLifetime tokens
    || [Delimiter.parenthesis, .bracket, .brace].any (beginsGroup · tokens)
    || (beginsMarks "!" tokens && !beginsMarks "!=" tokens)
    || (beginsMarks "-" tokens && !beginsMarks "-=" tokens && !beginsMarks "->" tokens)
    || (beginsMarks "*" tokens && !beginsMarks "*=" tokens)
    || (beginsMarks "|" tokens && !beginsMarks "|=" tokens)
    || (beginsMarks "&" tokens && !beginsMarks "&=" tokens)
    || (beginsMarks "<" tokens && !beginsMarks "<=" tokens && !beginsMarks "<<=" tokens)
    || ["..", "::", "#"].any (beginsMarks · tokens)

/-- Whether an expression follows that ends early after its block, as a statement does. -/
def beginsBlock (tokens : List Token) : Bool :=
  let second := tokens.drop 1
  beginsOneOf ["if", "while", "loop", "match", "unsafe"] tokens || beginsGroup .brace tokens
    || beginsLifetime tokens || (beginsWord "for" tokens && !beginsMarks "<" second)
    || (beginsOneOf ["try", "const"] tokens && beginsGroup .brace second)

/-- What follows a cast though it may not. -/
def afterCast? (tokens : List Token) : Option String :=
  let second := tokens.drop 1
  let third := tokens.drop 2
  if beginsMarks "." tokens && !beginsMarks ".." tokens then
    some (if beginsWord "await" second then "`.await`"
      else if beginsIdentifier second && (beginsGroup .parenthesis third || beginsMarks "::" third) then
        "a method call"
      else "a field access")
  else if beginsMarks "?" tokens then some "`?`"
  else if beginsGroup .bracket tokens then some "indexing"
  else if beginsGroup .parenthesis tokens then some "a function call"
  else none

/-- Takes attributes of what encloses the tokens, without looking into them. -/
def skipInnerAttributes : (fuel : Nat) → Reader Unit
  | 0 => pure ()
  | fuel + 1 => do
    let tokens ← get
    if beginsMarks "#" tokens && beginsMarks "!" (tokens.drop 1) then
      takeMarks "#"
      takeMarks "!"
      let _ ← takeGroup .bracket takeRest
      skipInnerAttributes fuel

/-- Whether a call in braces follows that no member or question mark follows. -/
def beginsBracedCall (tokens : List Token) : Bool :=
  match afterCallMark? (if beginsMarks "::" tokens then tokens.drop 2 else tokens) with
  | none => false
  | some rest =>
    let after := rest.drop 1
    beginsGroup .brace rest
      && !((beginsMarks "." after && !beginsMarks ".." after) || beginsMarks "?" after)

mutual

/-- Takes an expression; `literal` tells whether a structure may be written out at its end. -/
def readExpr : (fuel : Nat) → (literal : Bool) → Reader ExprForm
  | 0, _ => refusePlain "too deep"
  | fuel + 1, literal => do
    let first ← readOperand fuel literal
    readOperators fuel literal first

/-- Takes the operators and operands that follow one. -/
def readOperators : (fuel : Nat) → (literal : Bool) → ExprForm → Reader ExprForm
  | 0, _, _ => refusePlain "too deep"
  | fuel + 1, literal, first => do
    let tokens ← get
    match operator? tokens with
    | some op =>
      if first.isComparison && comparisonOperators.contains op then
        refusePlain "comparison operators cannot be chained"
      takeMarks op
      let _ ← readOperand fuel literal
      readOperators fuel literal (first.after op)
    | none =>
      if beginsAssignment tokens then
        takeMarks "="
        let start := ((← get).head?.map Token.position).getD .start
        return .assignment first (← readExpr fuel literal) start
      else if beginsMarks ".." tokens then
        readRange fuel literal
        return .other
      else if beginsWord "as" tokens then
        takeWord "as"
        let _ ← readType fuel false
        match afterCast? (← get) with
        | some what => refusePlain s!"casts cannot be followed by {what}"
        | none => readOperators fuel literal (if first.isComparison then .comparison else .other)
      else return first

/-- Takes a range from its dots on. -/
def readRange : (fuel : Nat) → (literal : Bool) → Reader Unit
  | 0, _ => refusePlain "too deep"
  | fuel + 1, literal => do
    let closed := beginsMarks "..=" (← get)
    takeMarks (if closed then "..=" else "..")
    if !closed && endsOpenRange literal (← get) then return
    let first ← readOperand fuel literal
    let _ ← readOperators fuel literal first

/-- Takes an operand with the signs before it. -/
def readOperand : (fuel : Nat) → (literal : Bool) → Reader ExprForm
  | 0, _ => refusePlain "too deep"
  | fuel + 1, literal => do
    skipAttributes fuel
    let tokens ← get
    if beginsMarks "&" tokens then
      takeMarks "&"
      if beginsWord "raw" (← get) && beginsOneOf ["mut", "const"] ((← get).drop 1) then
        let _ ← takeAnyWord
        let _ ← takeAnyWord
      else
        let _ ← takeWord? "mut"
      let _ ← readOperand fuel literal
      return .other
    else if beginsMarks "*" tokens || beginsMarks "!" tokens || beginsMarks "-" tokens then
      let _ ← takeAny
      let _ ← readOperand fuel literal
      return .other
    else
      let first ← readAtom fuel literal
      readTrailers fuel first

/-- Takes calls, members, indices and question marks. -/
def readTrailers : (fuel : Nat) → ExprForm → Reader ExprForm
  | 0, _ => refusePlain "too deep"
  | fuel + 1, first => do
    let tokens ← get
    if beginsGroup .parenthesis tokens then
      takeGroup .parenthesis (readExprs fuel)
      readTrailers fuel .other
    else if beginsGroup .bracket tokens then
      takeGroup .bracket do
        let _ ← readExpr fuel true
      readTrailers fuel .other
    else if beginsMarks "?" tokens then
      takeMarks "?"
      readTrailers fuel .other
    else if beginsMarks "." tokens && !beginsMarks ".." tokens then
      takeMarks "."
      match ← get with
      | .literal .. :: _ => takeLiteral
      | after =>
        if beginsWord "await" after then
          let _ ← takeAnyWord
        else if beginsIdentifier after then
          let _ ← takeAnyWord
          if beginsMarks "::" (← get) then
            takeMarks "::"
            takeMarks "<"
            let _ ← readArguments fuel
            takeMarks ">"
            if !beginsGroup .parenthesis (← get) then refuse "expected parentheses"
        else refuse "expected identifier or integer"
      readTrailers fuel .other
    else return first

/-- Takes expressions with commas between them, up to the end of the row. -/
def readExprs : (fuel : Nat) → Reader Unit
  | 0 => refusePlain "too deep"
  | fuel + 1 => do
    if (← get).isEmpty then return
    let _ ← readExpr fuel true
    if (← get).isEmpty then return
    takeMarks ","
    readExprs fuel

/-- Takes the members of a structure that is written out. -/
def readMembers : (fuel : Nat) → Reader Unit
  | 0 => refusePlain "too deep"
  | fuel + 1 => do
    skipAttributes fuel
    let tokens ← get
    if tokens.isEmpty then return
    if beginsMarks ".." tokens then
      takeMarks ".."
      if !(← get).isEmpty then
        let _ ← readExpr fuel true
    else
      match tokens with
      | .literal .. :: _ => takeLiteral
      | _ =>
        if beginsIdentifier tokens then
          let _ ← takeAnyWord
        else refuse "expected identifier or integer"
      if ← takeMarks? ":" then
        let _ ← readExpr fuel true
      if (← get).isEmpty then return
      takeMarks ","
      readMembers fuel

/-- Takes an operand that no sign precedes and no call follows. -/
def readAtom : (fuel : Nat) → (literal : Bool) → Reader ExprForm
  | 0, _ => refusePlain "too deep"
  | fuel + 1, literal => do
    let tokens ← get
    let after := tokens.drop 1
    if beginsLiteral tokens then
      takeLiteral
      return .other
    else if beginsOneOf ["try", "unsafe", "const"] tokens && beginsGroup .brace after then
      let _ ← takeAnyWord
      readBlock fuel
      return .block
    else if beginsWord "async" tokens
        && (beginsGroup .brace after || (beginsWord "move" after && beginsGroup .brace (tokens.drop 2))) then
      let _ ← takeAnyWord
      let _ ← takeWord? "move"
      readBlock fuel
      return .other
    else if beginsMarks "|" tokens || beginsOneOf ["move", "static", "const"] tokens
        || (beginsWord "async" tokens && (beginsMarks "|" after || beginsWord "move" after))
        || (beginsWord "for" tokens && beginsMarks "<" after) then
      readClosure fuel literal
      return .other
    else if beginsPath tokens then
      let qualified := beginsMarks "<" tokens || beginsMarks "::" tokens
      let segments ← readPath fuel true
      let rest ← get
      if beginsMarks "!" rest && !beginsMarks "!=" rest && isPlainPath segments then
        takeMarks "!"
        let _ ← takeAnyGroup
        return .other
      else if literal && beginsGroup .brace rest then
        takeGroup .brace (readMembers fuel)
        return .other
      else
        match segments with
        | [.mk name .none] => return if qualified then .other else .name name
        | _ => return .other
    else if beginsGroup .parenthesis tokens then
      takeGroup .parenthesis (readExprs fuel)
      return .other
    else if beginsGroup .bracket tokens then
      takeGroup .bracket (readArray fuel)
      return .other
    else if beginsGroup .brace tokens then
      readBlock fuel
      return .block
    else if beginsWord "continue" tokens then
      let _ ← takeAnyWord
      takeLifetime?
      return .other
    else if beginsWord "break" tokens then
      let _ ← takeAnyWord
      if beginsLifetime (← get) && beginsMarks ":" (afterLifetime (← get)) then
        refusePlain "parentheses required"
      takeLifetime?
      let value ← get
      if beginsExpr value && (literal || !beginsGroup .brace value) then
        let _ ← readExpr fuel true
      return .other
    else if beginsOneOf ["return", "yield"] tokens then
      let _ ← takeAnyWord
      if beginsExpr (← get) then
        let _ ← readExpr fuel true
      return .other
    else if beginsWord "let" tokens then
      let _ ← takeAnyWord
      let _ ← readAlternatives fuel
      takeMarks "="
      let _ ← readExpr fuel literal
      return .other
    else if beginsWord "if" tokens then
      readConditional fuel
      return .block
    else if beginsWord "while" tokens then
      let _ ← takeAnyWord
      let _ ← readExpr fuel false
      readBlock fuel
      return .block
    else if beginsWord "match" tokens then
      let _ ← takeAnyWord
      let _ ← readExpr fuel false
      takeGroup .brace do
        skipInnerAttributes fuel
        readArms fuel
      return .block
    else if beginsWord "for" tokens then
      let _ ← takeAnyWord
      let _ ← readAlternatives fuel
      takeWord "in"
      let _ ← readExpr fuel false
      readBlock fuel
      return .block
    else if beginsWord "loop" tokens then
      let _ ← takeAnyWord
      readBlock fuel
      return .block
    else if beginsMarks ".." tokens then
      readRange fuel literal
      return .other
    else if beginsWord "_" tokens then
      let _ ← takeAnyWord
      return .other
    else if beginsLifetime tokens then
      takeLifetime
      takeMarks ":"
      let labeled ← get
      if beginsOneOf ["while", "for", "loop"] labeled || beginsGroup .brace labeled then readAtom fuel literal
      else refusePlain "expected loop or block expression"
    else refuse "expected an expression"

/-- Takes what stands between square brackets: elements, or one element and its count. -/
def readArray : (fuel : Nat) → Reader Unit
  | 0 => refusePlain "too deep"
  | fuel + 1 => do
    if (← get).isEmpty then return
    let _ ← readExpr fuel true
    let tokens ← get
    if tokens.isEmpty then return
    else if beginsMarks "," tokens then
      takeMarks ","
      readExprs fuel
    else if beginsMarks ";" tokens then
      takeMarks ";"
      let _ ← readExpr fuel true
    else refuse "expected `,` or `;`"

/-- Takes a closure. -/
def readClosure : (fuel : Nat) → (literal : Bool) → Reader Unit
  | 0, _ => refusePlain "too deep"
  | fuel + 1, literal => do
    let _ ← takeBinder? fuel
    let _ ← takeWord? "const"
    let _ ← takeWord? "static"
    let _ ← takeWord? "async"
    let _ ← takeWord? "move"
    takeMarks "|"
    readClosureInputs fuel
    takeMarks "|"
    if ← takeMarks? "->" then
      let _ ← readType fuel true
      readBlock fuel
    else
      let _ ← readExpr fuel literal

/-- Takes the inputs of a closure, up to the closing bar. -/
def readClosureInputs : (fuel : Nat) → Reader Unit
  | 0 => refusePlain "too deep"
  | fuel + 1 => do
    if beginsMarks "|" (← get) then return
    skipAttributes fuel
    let _ ← readPattern fuel
    if ← takeMarks? ":" then
      let _ ← readType fuel true
    if beginsMarks "|" (← get) then return
    takeMarks ","
    readClosureInputs fuel

/-- Takes a conditional with all its branches. -/
def readConditional : (fuel : Nat) → Reader Unit
  | 0 => refusePlain "too deep"
  | fuel + 1 => do
    takeWord "if"
    let _ ← readExpr fuel false
    readBlock fuel
    if ← takeWord? "else" then
      if beginsWord "if" (← get) then readConditional fuel
      else if beginsGroup .brace (← get) then readBlock fuel
      else refuse (expectation ["`if`", "curly braces"])

/-- Takes an expression that ends early after a block. -/
def readEarly : (fuel : Nat) → Reader ExprForm
  | 0 => refusePlain "too deep"
  | fuel + 1 => do
    skipAttributes fuel
    if !beginsBlock (← get) then readExpr fuel true
    else
      let first ← readAtom fuel true
      let after ← get
      if (beginsMarks "." after && !beginsMarks ".." after) || beginsMarks "?" after then
        let whole ← readTrailers fuel first
        readOperators fuel true whole
      else return first

/-- Takes the arms of a choice. -/
def readArms : (fuel : Nat) → Reader Unit
  | 0 => refusePlain "too deep"
  | fuel + 1 => do
    if (← get).isEmpty then return
    skipAttributes fuel
    let _ ← readAlternatives fuel
    if ← takeWord? "if" then
      let _ ← readExpr fuel true
    takeMarks "=>"
    let result ← readEarly fuel
    if !result.isBlock && !(← get).isEmpty then takeMarks ","
    else
      let _ ← takeMarks? ","
    readArms fuel

/-- Takes a block. -/
def readBlock : (fuel : Nat) → Reader Unit
  | 0 => refusePlain "too deep"
  | fuel + 1 => takeGroup .brace do
    skipInnerAttributes fuel
    readStatements fuel

/-- Takes the statements up to the end of the row. -/
def readStatements : (fuel : Nat) → Reader Unit
  | 0 => refusePlain "too deep"
  | fuel + 1 => do
    if ← takeMarks? ";" then readStatements fuel
    else if !(← get).isEmpty then
      let isOpen ← readStatement fuel
      if isOpen && !(← get).isEmpty then refusePlain "unexpected token, expected `;`"
      readStatements fuel

/-- Takes a statement, and tells whether only the end may follow it. -/
def readStatement : (fuel : Nat) → Reader Bool
  | 0 => refusePlain "too deep"
  | fuel + 1 => do
    skipAttributes fuel
    let tokens ← get
    if beginsBracedCall tokens then
      set (((afterCallMark? (if beginsMarks "::" tokens then tokens.drop 2 else tokens)).getD []).drop 1)
      let _ ← takeMarks? ";"
      return false
    else if beginsWord "let" tokens then
      readLocal fuel
      return false
    else if beginsItem tokens then
      takeItem
      return false
    else
      let form ← readEarly fuel
      if ← takeMarks? ";" then return false
      return !form.isBlock

/-- Takes the declaration of a local name. -/
def readLocal : (fuel : Nat) → Reader Unit
  | 0 => refusePlain "too deep"
  | fuel + 1 => do
    takeWord "let"
    let _ ← readPattern fuel
    if ← takeMarks? ":" then
      let _ ← readType fuel true
    if ← takeMarks? "=" then
      let value ← readExpr fuel true
      if !value.isBlock then
        if ← takeWord? "else" then readBlock fuel
    takeMarks ";"

end

/-- Takes an expression. -/
def takeExpr : Reader Expr := fun tokens => do
  let ((form, taken), rest) ← withTokens (readExpr (fuelFor tokens) true) tokens
  .ok (⟨taken, form⟩, rest)

/-- Takes the statements of a body. -/
def takeStatements : Reader Unit := fun tokens => readStatements (fuelFor tokens) tokens

end Switchyard.Code

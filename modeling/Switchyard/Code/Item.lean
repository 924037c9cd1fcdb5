import Switchyard.Code.TypeReader

/-!
# Items

Declarations among the statements of a body. They are taken as they are written, without looking into them.
-/

namespace Switchyard.Code

/-- Takes how far a member is visible. -/
def takeVisibility : Reader (List Token) := do
  if !beginsWord "pub" (← get) then return []
  let (_, written) ← withTokens do
    takeWord "pub"
    match ← get with
    | .group .parenthesis inner _ _ :: _ =>
      if beginsWord "in" inner || (inner.length = 1 && beginsOneOf ["crate", "self", "super"] inner) then
        let _ ← takeAnyGroup
    | _ => pure ()
  return written

/-- Takes the words before `fn`, and tells whether one of them is `async`. -/
def takeQualifiers : Reader Bool := do
  let _ ← takeWord? "const"
  let isAsync ← takeWord? "async"
  let _ ← takeWord? "unsafe"
  if ← takeWord? "extern" then
    match ← get with
    | .literal .. :: _ => takeLiteral
    | _ => pure ()
  return isAsync

/-- Whether a signature follows. -/
def beginsSignature (tokens : List Token) : Bool :=
  match (do let _ ← takeQualifiers; takeWord "fn" : Reader Unit) tokens with
  | .ok _ => true
  | .error _ => false

/-- Whether a word may be a name of a plain path. -/
def isPathName (s : String) : Bool := !keywords.contains s || pathWords.contains s

/-- The tokens after the exclamation mark, if the tokens begin with a plain path and one. -/
def afterCallMark? : List Token → Option (List Token)
  | .word s _ :: .mark ':' _ _ :: .mark ':' _ _ :: rest => if isPathName s then afterCallMark? rest else none
  | .word s _ :: .mark '!' _ _ :: rest => if isPathName s then some rest else none
  | _ => none

/-- Whether the definition of a macro follows. -/
def beginsMacro (tokens : List Token) : Bool :=
  match afterCallMark? tokens with
  | some rest => beginsIdentifier rest || beginsWord "try" rest
  | none => false

/-- Whether a constant follows, and neither a block nor a closure. -/
def beginsConstant (tokens : List Token) : Bool :=
  let second := tokens.drop 1
  beginsWord "const" tokens
    && !(beginsGroup .brace second || beginsOneOf ["static", "move"] second || beginsMarks "|" second
      || (beginsWord "async" second && !beginsOneOf ["unsafe", "extern", "fn"] (tokens.drop 2)))

/-- Whether an item follows, and no expression. -/
def beginsItem (tokens : List Token) : Bool :=
  let second := tokens.drop 1
  beginsOneOf ["pub", "extern", "use", "fn", "mod", "type", "struct", "enum", "trait", "impl", "macro"] tokens
    || (beginsWord "crate" tokens && !beginsMarks "::" second)
    || (beginsWord "static" tokens && (beginsWord "mut" second || beginsIdentifier second))
    || beginsConstant tokens
    || (beginsWord "unsafe" tokens && !beginsGroup .brace second)
    || (beginsWord "async" tokens && beginsOneOf ["unsafe", "extern", "fn"] second)
    || (beginsWord "union" tokens && beginsIdentifier second)
    || (beginsWord "auto" tokens && beginsWord "trait" second)
    || (beginsWord "default" tokens && beginsOneOf ["unsafe", "impl"] second)
    || beginsMacro tokens

/-- The tokens after an item, which ends with a semicolon or, if it may, with a group of braces. -/
def afterItem? (braced : Bool) : List Token → Option (List Token)
  | [] => none
  | t :: rest =>
    if beginsMarks ";" [t] || (braced && beginsGroup .brace [t]) then some rest else afterItem? braced rest

/-- Takes an item. -/
def takeItem : Reader Unit := do
  let _ ← takeVisibility
  let tokens ← get
  if beginsMacro tokens then
    set ((afterCallMark? tokens).getD [])
    let _ ← takeAnyWord
    if (← takeAnyGroup) != .brace then takeMarks ";"
  else
    let single := beginsOneOf ["use", "type", "static", "const"] tokens
      || (beginsWord "extern" tokens && beginsWord "crate" (tokens.drop 1))
    match afterItem? (beginsSignature tokens || !single) tokens with
    | some rest => set rest
    | none =>
      set ([] : List Token)
      refuse "expected `;`"

end Switchyard.Code

import Switchyard.Code.Attribute
import Switchyard.Controller.Problem

/-!
# Options of a controller

The arguments of the attribute that makes a block of methods a controller: the type of the state, the prefix
of all paths, the accessor that the controller is obtained from, and the path of its socket. Of an option
that is given twice the last value counts.
-/

namespace Switchyard

open Code

/-- A path and where it is written. -/
structure PlacedPath where
  path : String
  position : Position
  deriving Repr

/-- The arguments of a controller. -/
structure Options where
  /-- The type of the state. -/
  state : Option Pieces := none
  /-- What all paths begin with. -/
  base : Option String := none
  /-- The accessor of the injector that gives the controller. -/
  inject : Option String := none
  socket : Option PlacedPath := none
  deriving Repr

/-- A cause as a fault of the tokens at a place. -/
def Cause.fault (cause : Cause) (position : Position) : Fault := ⟨cause.message, some position⟩

/-- Whether a path starts with a slash. -/
def startsWithSlash (path : String) : Bool := path.toList.head? == some '/'

/-- Takes the names of a nested argument's path, and tells whether it begins with a double colon. -/
def takeNestedPath : Reader (Bool × List String × Position) := do
  let isGlobal ← takeMarks? "::"
  let tokens ← get
  match tokens with
  | .word name p :: rest =>
    set rest
    return (isGlobal, name :: (← more rest.length), p)
  | [] => refuse "expected nested attribute"
  | _ =>
    if beginsLiteral tokens then refuse "unexpected literal in nested attribute, expected ident"
    else refuse "unexpected token in nested attribute, expected ident"
where
  /-- Takes the names that follow double colons. -/
  more : Nat → Reader (List String)
    | 0 => pure []
    | fuel + 1 => do
      if ← takeMarks? "::" then
        let (name, _) ← takeAnyWord
        return name :: (← more fuel)
      else return []

/-- Takes arguments with commas between them; `one` takes what follows an argument's path. -/
def takeNested {α : Type} (one : α → Bool → List String → Position → Reader α) : (fuel : Nat) → α → Reader α
  | 0, a => pure a
  | fuel + 1, a => do
    let (isGlobal, path, p) ← takeNestedPath
    let a ← one a isGlobal path p
    if (← get).isEmpty then return a
    takeMarks ","
    if (← get).isEmpty then return a
    takeNested one fuel a

/-- Takes arguments up to the end of the row; there may be none. -/
def takeArguments {α : Type} (one : α → Bool → List String → Position → Reader α) (a : α) : Reader α := do
  let tokens ← get
  if tokens.isEmpty then return a
  takeNested one tokens.length a

namespace Options

/-- Takes a path, which starts with a slash unless it may be empty and is. -/
def takePath (mayBeEmpty : Bool) : Reader PlacedPath := do
  takeMarks "="
  let (path, p) ← takeString
  if (mayBeEmpty && path.isEmpty) || startsWithSlash path then return ⟨path, p⟩
  else throw (Cause.relativePath.fault p)

/-- Takes what follows the name of an option. -/
def takeOption (o : Options) (isGlobal : Bool) (path : List String) (p : Position) : Reader Options :=
  match isGlobal, path with
  | false, ["state"] => do
    takeMarks "="
    let type ← takeType
    return { o with state := some type.pieces }
  | false, ["path"] => do
    let placed ← takePath true
    return { o with base := some placed.path }
  | false, ["inject"] => do
    takeMarks "="
    let (name, _) ← takeIdentifier
    return { o with inject := some name }
  | false, ["ws"] => do
    let placed ← takePath false
    return { o with socket := some placed }
  | _, _ => throw (Cause.unknownOption.fault p)

/-- The options that tokens say. -/
def ofTokens (tokens : List Token) : Except Problem Options :=
  match readAll (takeArguments takeOption {}) .start "unexpected token" tokens with
  | .ok o => .ok o
  | .error f => .error (.ofFault f)

end Options

end Switchyard

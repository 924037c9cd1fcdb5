import Switchyard.Code.Method
import Switchyard.Controller.Problem

/-!
# Results of methods

How the result of a method is dealt with, as far as its declared type tells: whether there is one, whether
the call has to be awaited, whether it may fail, and whether the result executes itself.
-/

namespace Switchyard

/-- How a result is executed. -/
inductive Shape where
  | void
  | syncAction
  | syncValue
  | asyncAction
  | asyncValue
  deriving DecidableEq, Repr

/-- The name of a shape. -/
def Shape.name : Shape → String
  | .void => "void"
  | .syncAction => "sync_action"
  | .syncValue => "sync_value"
  | .asyncAction => "async_action"
  | .asyncValue => "async_value"

/-- What is done with the result of a method. -/
structure Returns where
  shape : Shape
  /-- The method may fail, and its error becomes the invocation's. -/
  fallible : Bool
  /-- The call is awaited. -/
  awaited : Bool
  deriving DecidableEq, Repr

namespace Code

/-! ## Looking into types -/

mutual

/-- A trait object, by itself, borrowed or in a smart pointer. -/
def TypeExpr.isObject : TypeExpr → Bool
  | .mk _ form => form.isObject

/-- Whether a form is that of a trait object. -/
def TypeForm.isObject : TypeForm → Bool
  | .object => true
  | .reference _ t => t.isObject
  | .parens t => t.isObject
  | .path segments => lastIsObject segments
  | _ => false

/-- Whether the last name of a path is a smart pointer around a trait object. -/
def lastIsObject : List Segment → Bool
  | [] => false
  | s :: rest => if rest.isEmpty then s.isObject else lastIsObject rest

/-- Whether a name is a smart pointer around a trait object. -/
def Segment.isObject : Segment → Bool
  | .mk name arguments => ["Box", "Arc", "Rc"].contains name && arguments.anyObject

/-- Whether some argument is a trait object. -/
def Arguments.anyObject : Arguments → Bool
  | .angled list => someObject list
  | _ => false

/-- Whether some argument of a list is a trait object. -/
def someObject : List Argument → Bool
  | [] => false
  | a :: rest => a.isObject || someObject rest

/-- Whether an argument is a trait object. -/
def Argument.isObject : Argument → Bool
  | .type t => t.isObject
  | _ => false

end

mutual

/-- The empty tuple, in any number of parentheses. -/
def TypeExpr.isUnit : TypeExpr → Bool
  | .mk _ form => form.isUnit

/-- Whether a form is that of the empty tuple. -/
def TypeForm.isUnit : TypeForm → Bool
  | .tuple elements => elements.isEmpty
  | .parens t => t.isUnit
  | _ => false

end

/-- The value that a bound promises for later. -/
def Bound.output? (b : Bound) : Option TypeExpr :=
  match b.segment? with
  | some (.mk name (.angled arguments)) =>
    if name = "Future" then
      arguments.findSome? fun a => match a with
        | .member member t => if member = "Output" then some t else none
        | _ => none
    else none
  | _ => none

namespace TypeExpr

/-- The value of a fallible result. -/
def success? (t : TypeExpr) : Option TypeExpr :=
  match t.segment? with
  | some (.mk name (.angled (.type inner :: _))) => if name = "Result" then some inner else none
  | _ => none

/-- The value that is promised for later. -/
def output? (t : TypeExpr) : Option TypeExpr :=
  match t.form with
  | .some bounds => bounds.findSome? Bound.output?
  | _ => none

end TypeExpr

end Code

open Code

/-- The problem of a type. -/
def typeProblem {α : Type} (t : TypeExpr) (cause : Cause) : Except Problem α := .error ⟨cause, t.position⟩

/-- Whether a result executes itself. -/
def executesItself (t : TypeExpr) (kind : HandlerKind) (marked : Bool) : Except Problem Bool :=
  if t.isObject then typeProblem t .traitObject
  else
    match t.form with
    | .never => typeProblem t .never
    | .some bounds =>
      let names := (bounds.filterMap Bound.segment?).map Segment.name
      if names.contains kind.trait then .ok true
      else if names.contains kind.other.trait then typeProblem t (.otherKind kind.other.trait kind)
      else if names.contains "Future" then typeProblem t .nestedFuture
      else typeProblem t (.otherTrait kind)
    | _ =>
      if marked then .ok true
      else
        match t.name? with
        | none => .ok false
        | some name =>
          if kind.results.contains name then .ok true
          else if kind.other.results.contains name then typeProblem t (.otherKind name kind)
          else .ok false

/-- The shape of a result by whether it executes itself and is awaited. -/
def Shape.of (executes awaited : Bool) : Shape :=
  match executes, awaited with
  | true, false => .syncAction
  | true, true => .asyncAction
  | false, false => .syncValue
  | false, true => .asyncValue

/-- What is done with a value, once nothing is left to wait for. -/
def classifyValue (t : TypeExpr) (kind : HandlerKind) (marked awaited : Bool) : Except Problem Returns :=
  let value := t.success?.getD t
  let fallible := t.success?.isSome
  if value.output?.isSome then
    typeProblem value (if awaited then .nestedFuture else .fallibleFuture)
  else if value.isUnit then .ok ⟨.void, fallible, awaited⟩
  else (executesItself value kind marked).map fun executes => ⟨.of executes awaited, fallible, awaited⟩

/-- What is done with the result of a method; `marked` tells that it is declared to execute itself. -/
def classify (result : Option TypeExpr) (isAsync : Bool) (kind : HandlerKind) (marked : Bool) :
    Except Problem Returns :=
  match result with
  | none => .ok ⟨.void, false, isAsync⟩
  | some t =>
    match t.output? with
    | some output => if isAsync then typeProblem t .asyncFuture else classifyValue output kind marked true
    | none => classifyValue t kind marked isAsync

end Switchyard

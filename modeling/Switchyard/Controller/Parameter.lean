import Switchyard.Binding.BoundValue
import Switchyard.Code.Method
import Switchyard.Controller.Options

/-!
# Parameters

What the inputs of a handler are filled with. A value is bound from the request or the message by a plan;
contexts, sessions and documents are handed over as a whole.
-/

namespace Switchyard

open Code

/-- Where a parameter's value comes from, and what it is made into. -/
structure BindingPlan where
  sources : List Source
  key : String
  arity : Arity
  /-- The type of one value. -/
  element : TypeExpr
  /-- The type that the values are collected in. -/
  collection : Option TypeExpr

/-- What a parameter is filled with. -/
inductive Role where
  | bound (plan : BindingPlan)
  | context (isMut : Bool)
  /-- The body of the request, or the text of the message. -/
  | document (type : TypeExpr)
  | session
  | eventContext

/-- A parameter of a handler. -/
structure Parameter where
  role : Role
  position : Position

namespace Parameter

/-- The plan of a parameter that is bound. -/
def plan? (p : Parameter) : Option BindingPlan :=
  match p.role with
  | .bound plan => some plan
  | _ => none

/-- Whether a parameter is a whole document. -/
def isDocument (p : Parameter) : Bool :=
  match p.role with
  | .document _ => true
  | _ => false

end Parameter

/-! ## Types -/

/-- The types that collect values. -/
def collectionTypes : List String := ["Vec", "VecDeque", "HashSet", "BTreeSet", "LinkedList", "BinaryHeap"]

/-- The type of the elements of a collection, and whether they may be missing. -/
def elementOf? (t : TypeExpr) : Option (TypeExpr × Bool) :=
  (t.argument? collectionTypes).map fun item =>
    match item.argument? ["Option"] with
    | some inner => (inner, true)
    | none => (item, false)

/-- The arity of a type, the type of one value, and the type of the collection. -/
def arityOf (t : TypeExpr) : Arity × TypeExpr × Option TypeExpr :=
  match t.argument? ["Option"] with
  | some inner =>
    match elementOf? inner with
    | some (element, nullable) => (.optionalCollection nullable, element, some inner)
    | none => (.optional, inner, none)
  | none =>
    match elementOf? t with
    | some (element, nullable) => (.collection nullable, element, some t)
    | none => (.scalar, t, none)

/-! ## Attributes -/

/-- What the attributes of an input say. -/
structure Binding where
  constraint : Option (Constraint × Position) := none
  name : Option String := none
  isDocument : Bool := false

namespace Binding

/-- Takes what follows a name in the list of sources. -/
def takeSource (b : Binding) (isGlobal : Bool) (path : List String) (p : Position) : Reader Binding :=
  match isGlobal, path with
  | false, ["name"] => do
    takeMarks "="
    let (text, _) ← takeString
    return { b with name := some text }
  | false, [source] =>
    match Constraint.ofName? source with
    | some c => return { b with constraint := some (c, p) }
    | none => throw (Cause.unknownSource.fault p)
  | _, _ => throw (Cause.noSource.fault p)

/-- What one more attribute says. -/
def add (b : Binding) (a : Attribute) : Except Fault Binding :=
  match a.name? with
  | some "from" => a.arguments (takeArguments takeSource b)
  | some "named" => (a.arguments takeString).map fun (text, _) => { b with name := some text }
  | some "from_json" => .ok { b with isDocument := true }
  | _ => .ok b

/-- What attributes say, the later ones overriding the earlier. -/
def ofAttributes (attributes : List Attribute) : Except Fault Binding := attributes.foldlM add {}

/-- Whether an attribute says how a parameter is filled. -/
def isBinding (a : Attribute) : Bool := a.isNamed "from" || a.isNamed "named" || a.isNamed "from_json"

end Binding

/-! ## Roles -/

/-- The name of an identifier, without the mark that it is raw. -/
def plainName (name : String) : String :=
  match afterStart? ['r', '#'] name.toList with
  | some cs => .ofList cs
  | none => name

/-- The event whose context a type is. -/
def eventOfContext? (name : String) : Option Event := Event.all.find? fun e => e.contextType == name

/-- The role of a parameter that is borrowed. -/
def borrowedRole (isMut : Bool) (target : TypeExpr) (mount : Mount) (contextSeen : Bool) : Except Cause Role :=
  let name := target.name?.getD ""
  match mount with
  | .action _ =>
    if name = "HttpContext" then if contextSeen then .error .secondContext else .ok (.context isMut)
    else .error .borrowed
  | .event event _ =>
    if name = "WsSession" ∧ isMut = false then .ok .session
    else if (eventOfContext? name).isSome then
      if name = event.contextType ∧ isMut = false then .ok .eventContext else .error (.otherContext event)
    else .error .borrowed

/-- Whether a type is a context or a session, and not borrowed. -/
def isOwnedContext (t : TypeExpr) : Bool :=
  match t.name? with
  | some name => name == "HttpContext" || name == "WsSession" || (eventOfContext? name).isSome
  | none => false

/-- Whether a whole document is at hand. -/
def Mount.hasDocument : Mount → Bool
  | .action _ => true
  | .event e _ => e == .message

/-- The role of a parameter that is bound. -/
def boundRole (name : Option String) (t : TypeExpr) (binding : Binding) (mount : Mount) (position : Position) :
    Except Problem Role :=
  match binding.name.or (name.map plainName) with
  | none => .error ⟨.pattern, position⟩
  | some key =>
    let (constraint, place) := binding.constraint.getD (.any, position)
    match resolve constraint key mount with
    | .error e => .error ⟨.plan e, place⟩
    | .ok sources =>
      let (arity, element, collection) := arityOf t
      .ok (.bound { sources, key, arity, element, collection })

/-- The role of a parameter that has a type. -/
def roleOf (name : Option String) (t : TypeExpr) (binding : Binding) (mount : Mount) (contextSeen : Bool)
    (position : Position) : Except Problem Role :=
  match t.form with
  | .reference isMut target =>
    match borrowedRole isMut target mount contextSeen with
    | .ok role => .ok role
    | .error cause => .error ⟨cause, position⟩
  | .some _ => .error ⟨.anonymousType, position⟩
  | _ =>
    if isOwnedContext t then .error ⟨.ownedContext, position⟩
    else if binding.isDocument then
      if mount.hasDocument then .ok (.document t) else .error ⟨.noDocument, position⟩
    else boundRole name t binding mount position

/-- Whether a role is that of an action's context. -/
def Role.isContext : Role → Bool
  | .context _ => true
  | _ => false

/-- Whether a role is bound by a plan. -/
def Role.isBound : Role → Bool
  | .bound _ => true
  | _ => false

/-- The parameter of an input, and whether an action's context has been seen by then. -/
def parameterOf (i : Input) (name : Option String) (t : TypeExpr) (mount : Mount) (contextSeen : Bool) :
    Bool × Except Problem Parameter :=
  let position := i.position
  match Binding.ofAttributes i.attributes with
  | .error f => (contextSeen, .error (.ofFault f))
  | .ok binding =>
    match roleOf name t binding mount contextSeen position with
    | .error p => (contextSeen, .error p)
    | .ok role =>
      (contextSeen || role.isContext,
        if !role.isBound && (binding.constraint.isSome || binding.name.isSome) then .error ⟨.notBound, position⟩
        else .ok ⟨role, position⟩)

/-- The parameters of inputs, and what is wrong with the others. -/
def parametersOf (mount : Mount) : (contextSeen : Bool) → List Input → List (Except Problem Parameter)
  | _, [] => []
  | contextSeen, i :: rest =>
    match i.kind with
    | .receiver typed =>
      let others := parametersOf mount contextSeen rest
      if typed then .error ⟨.typedReceiver, i.position⟩ :: others else others
    | .variadic => parametersOf mount contextSeen rest
    | .value name t =>
      let (contextSeen, parameter) := parameterOf i name t mount contextSeen
      parameter :: parametersOf mount contextSeen rest

end Switchyard

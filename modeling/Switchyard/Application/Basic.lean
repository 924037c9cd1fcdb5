import Switchyard.Binding.BoundValue
import Switchyard.Config.Settings
import Switchyard.Controller.Basic
import Switchyard.Socket.Session

/-!
# Applications

An application knows what the methods and the interceptors of its controllers do. Its state is threaded
through everything that runs, and whatever runs may add lines to the log.
-/

namespace Switchyard

/-- The state of an application, and what was logged. -/
structure World (S : Type) where
  state : S
  log : List LogLine

namespace World

variable {S : Type}

/-- Adds lines to the log. -/
def note (w : World S) (lines : List LogLine) : World S := { w with log := w.log ++ lines }

/-- Replaces the state. -/
def withState (w : World S) (state : S) : World S := { w with state }

end World

/-- A line of the log: its level, what it says, and its fields. -/
def logLine (level message : String) (fields : List (String × String)) : LogLine :=
  " ".intercalate (level :: message :: fields.map fun f => s!"{f.1}={f.2}")

/-- A method of a controller. -/
structure MethodName where
  controller : String
  method : String
  deriving DecidableEq, Repr

/-- The fields that name a method in the log. -/
def MethodName.fields (m : MethodName) : List (String × String) :=
  [("action", m.method), ("controller", m.controller)]

/-- A controller at hand. -/
inductive Instance (K : Type) where
  | default
  /-- Obtained by an accessor of a scope. -/
  | injected (scope : K) (accessor : String)
  deriving Repr

/-- An interceptor at hand. -/
inductive Prepared (K : Type) where
  | made (expression : Code.Pieces)
  /-- Obtained by an accessor of a scope. -/
  | injected (scope : K) (accessor : String)
  deriving Repr

/-- What a method is called with, in the order of its parameters. -/
inductive CallArgument (V : Type) where
  | bound (value : BoundValue V)
  | document (value : V)
  | context
  | session
  deriving Repr

/-- What arrives: the head of a request and its body, whose chunks may end in a failure. -/
structure Incoming where
  head : RequestHead
  chunks : List Bytes
  broken : Bool

/-- The result of something that can fail, with what it left of a context and of the state. -/
abbrev Effect (C S α : Type) := C → S → Except HttpError α × C × S

/-- An effect that leaves the state alone. -/
def Effect.ofContext {C S α : Type} (effect : C → Except HttpError α × C) : Effect C S α := fun ctx state =>
  let (result, ctx) := effect ctx
  (result, ctx, state)

/-- What a method does when it is called. -/
abbrev MethodCall (K V R C S : Type) := Instance K → MethodName → List (CallArgument V) → Effect C S R

/-- An application. -/
structure Application where
  /-- The state. -/
  State : Type
  /-- The scopes of injection, one for each dispatch that needs one. -/
  Scope : Type
  /-- The values that methods take. -/
  Value : Type
  /-- What methods return. -/
  Reply : Type
  settings : State → Settings
  codec : State → Codec
  openScope : State → Scope × State
  /-- How a text is read as a value of a type. -/
  read : Code.TypeExpr → TextReader Value
  /-- How a document is read as a value of a type; a refusal gives its reason. -/
  decode : Code.TypeExpr → Json → Except String Value
  before : Prepared Scope → MethodName → Effect HttpContext State Unit
  after : Prepared Scope → MethodName → AfterContext → State → AfterContext × State
  act : MethodCall Scope Value Reply HttpContext State
  handle : MethodCall Scope Value Reply EventContext State
  /-- Executes what an action returned. -/
  execute : Shape → Reply → Effect HttpContext State Unit
  /-- Executes what a handler returned. -/
  send : Shape → Reply → Effect EventContext State Unit

end Switchyard

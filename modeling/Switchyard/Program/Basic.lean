import Switchyard.Controller.Basic

/-!
# Dispatch programs

What happens when a request reaches an action, or an event a handler, as a list of steps. A controller
and its interceptors are obtained first; an invocation then binds the parameters from left to right, calls
the method and executes its result.
-/

namespace Switchyard

/-- How the value of a parameter is made. -/
inductive ValueCode where
  | bound (plan : BindingPlan)
  /-- The whole body or message. -/
  | document (type : Code.TypeExpr)

namespace ValueCode

/-- Whether a value is bound by a plan. -/
def isBound : ValueCode → Bool
  | .bound _ => true
  | .document _ => false

/-- Whether a value is bound from the message. -/
def usesMessage : ValueCode → Bool
  | .bound plan => plan.sources.contains .message
  | .document _ => false

end ValueCode

/-- An argument of the method's call. -/
inductive ArgumentCode where
  /-- The value of the parameter with a number. -/
  | value (index : Nat)
  | context (isMut : Bool)
  | session
  deriving DecidableEq, Repr

/-- Where a program runs. -/
inductive Site where
  | action
  | event (event : Event)
  deriving DecidableEq, Repr

/-- How a method is called. -/
structure Invocation where
  site : Site
  method : String
  /-- The values that are made, by the numbers of their parameters. -/
  values : List (Nat × ValueCode)
  arguments : List ArgumentCode
  returns : Returns

namespace Invocation

/-- Whether some value is bound by a plan. -/
def needsBinder (i : Invocation) : Bool := i.values.any fun v => v.2.isBound

/-- Whether the message is decoded for the values that are bound. -/
def decodesMessage (i : Invocation) : Bool := i.values.any fun v => v.2.usesMessage

end Invocation

/-- The value that a parameter needs to be made. -/
def Parameter.value? (p : Parameter) : Option ValueCode :=
  match p.role with
  | .bound plan => some (.bound plan)
  | .document type => some (.document type)
  | _ => none

/-- The argument that a parameter with a number stands for. -/
def Parameter.argument (index : Nat) (p : Parameter) : ArgumentCode :=
  match p.role with
  | .bound _ => .value index
  | .document _ => .value index
  | .context isMut => .context isMut
  | .eventContext => .context false
  | .session => .session

/-- The values of parameters, which are numbered from `index`. -/
def valuesFrom (index : Nat) : List Parameter → List (Nat × ValueCode)
  | [] => []
  | p :: rest =>
    match p.value? with
    | some v => (index, v) :: valuesFrom (index + 1) rest
    | none => valuesFrom (index + 1) rest

/-- The arguments of parameters, which are numbered from `index`. -/
def argumentsFrom (index : Nat) : List Parameter → List ArgumentCode
  | [] => []
  | p :: rest => p.argument index :: argumentsFrom (index + 1) rest

/-- The invocation of a method. -/
def invocationOf (site : Site) (method : String) (params : List Parameter) (returns : Returns) : Invocation :=
  { site, method, values := valuesFrom 0 params, arguments := argumentsFrom 0 params, returns }

/-- How a controller is obtained. -/
inductive Acquisition where
  | openInjector
  /-- Obtains the controller from the injector, or makes the default one. -/
  | construct (accessor : Option String)
  deriving DecidableEq, Repr

/-- A step of an action's program. -/
inductive ActionStep where
  /-- Decodes the request, or answers why not. -/
  | openContext
  | announce
  | acquire (acquisition : Acquisition)
  | prepareBefore (index : Nat) (interceptor : Interceptor)
  | prepareAfter (index : Nat) (interceptor : Interceptor)
  /-- Runs so many interceptors, and answers the error of the first that fails. -/
  | guard (count : Nat)
  /-- Invokes the method and keeps how it went. -/
  | attempt (invocation : Invocation)
  /-- Answers the error that was kept, if there is one. -/
  | report
  /-- Runs so many interceptors, and answers the error that is left, if there is one. -/
  | settle (count : Nat)
  | respond

/-- A step of a handler's program. -/
inductive HandlerStep where
  | acquire (acquisition : Acquisition)
  /-- Invokes the method; a failure ends the program. -/
  | invoke (invocation : Invocation)
  | finish

/-- The steps that number the interceptors of a list. -/
def prepareFrom (step : Nat → Interceptor → ActionStep) (index : Nat) : List Interceptor → List ActionStep
  | [] => []
  | i :: rest => step index i :: prepareFrom step (index + 1) rest

/-- The steps that obtain the controller. -/
def acquisitions (inject : Option String) (needsInjector : Bool) : List Acquisition :=
  (if needsInjector || inject.isSome then [.openInjector] else []) ++ [.construct inject]

namespace Controller

/-- The program of an action. -/
def actionProgram (c : Controller) (a : Action) : List ActionStep :=
  [.openContext, .announce]
    ++ (acquisitions c.inject a.needsInjector).map .acquire
    ++ prepareFrom .prepareBefore 0 a.before
    ++ prepareFrom .prepareAfter 0 a.after
    ++ (if a.before.isEmpty then [] else [.guard a.before.length])
    ++ [.attempt (invocationOf .action a.name a.params a.returns)]
    ++ (if a.after.isEmpty then [.report] else [.settle a.after.length])
    ++ [.respond]

/-- The program of an event's handler. -/
def handlerProgram (c : Controller) (h : Handler) : List HandlerStep :=
  (acquisitions c.inject false).map .acquire
    ++ [.invoke (invocationOf (.event h.event) h.name h.params h.returns), .finish]

end Controller

end Switchyard

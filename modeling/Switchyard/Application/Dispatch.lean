import Switchyard.Application.Invocation

/-!
# Running programs

A program runs step by step on the variables that earlier steps bound. A step that needs a variable that is
not bound has no meaning, and neither has a program that ends without an answer.
-/

namespace Switchyard

/-! ## Obtaining a controller -/

/-- The variables of a controller and what it is obtained from. -/
structure Holder (K : Type) where
  scope : Option K := none
  controller : Option (Instance K) := none

/-- Takes a step that obtains a controller. -/
def Acquisition.run? (app : Application) (h : Holder app.Scope) (state : app.State) :
    Acquisition → Option (Holder app.Scope × app.State)
  | .openInjector =>
    let (scope, state) := app.openScope state
    some ({ h with scope := some scope }, state)
  | .construct none => some ({ h with controller := some .default }, state)
  | .construct (some accessor) =>
    h.scope.map fun scope => ({ h with controller := some (.injected scope accessor) }, state)

/-! ## Interceptors -/

/-- The interceptor at hand, if what it needs is. -/
def Interceptor.prepare? {K : Type} (scope : Option K) : Interceptor → Option (Prepared K)
  | .made expression => some (.made expression)
  | .injected accessor => scope.map fun k => .injected k accessor

/-- Runs interceptors up to the first that fails. -/
def Application.runBefore (app : Application) (name : MethodName) :
    List (Prepared app.Scope) → Effect HttpContext app.State Unit
  | [], ctx, state => (.ok (), ctx, state)
  | i :: rest, ctx, state =>
    match app.before i name ctx state with
    | (.error e, ctx, state) => (.error e, ctx, state)
    | (.ok (), ctx, state) => app.runBefore name rest ctx state

/-- Runs every interceptor, each on what the one before it left. -/
def Application.runAfter (app : Application) (name : MethodName) :
    List (Prepared app.Scope) → AfterContext → app.State → AfterContext × app.State
  | [], ctx, state => (ctx, state)
  | i :: rest, ctx, state =>
    let (ctx, state) := app.after i name ctx state
    app.runAfter name rest ctx state

/-! ## Actions -/

/-- The variables of an action's program. -/
structure Locals (K : Type) extends Holder K where
  context : Option HttpContext := none
  before : List (Nat × Prepared K) := []
  after : List (Nat × Prepared K) := []
  outcome : Option (Except HttpError Unit) := none

/-- What a step comes to. -/
inductive StepResult (app : Application) where
  | next (locals : Locals app.Scope) (world : World app.State)
  | answered (response : Response) (world : World app.State)
  /-- A variable is not bound. -/
  | stuck

/-- Answers with an error, which may be logged. -/
def StepResult.fail {app : Application} (e : HttpError) (world : World app.State) : StepResult app :=
  .answered e.render (world.note e.log)

/-- The interceptors with the numbers below a count, if all of them are prepared. -/
def numbered? {K : Type} (prepared : List (Nat × Prepared K)) (count : Nat) : Option (List (Prepared K)) :=
  (List.range count).mapM fun n => prepared.lookup n

namespace ActionStep

variable (app : Application) (name : MethodName) (incoming : Incoming)

/-- Decodes a request. -/
def enter (world : World app.State) : Except HttpError HttpContext :=
  HttpContext.ofChunks incoming.head incoming.chunks incoming.broken (app.settings world.state).maxBodyBytes
    (app.codec world.state)

/-- Takes a step. -/
def run (locals : Locals app.Scope) (world : World app.State) : ActionStep → StepResult app
  | .openContext =>
    match enter app incoming world with
    | .ok ctx => .next { locals with context := some ctx } world
    | .error e => .fail e world
  | .announce =>
    match locals.context with
    | some ctx =>
      .next locals (world.note [logLine "DEBUG" "dispatching"
        (name.fields ++ [("method", ctx.request.method), ("uri", ctx.request.uri.text)])])
    | none => .stuck
  | .acquire a =>
    match a.run? app locals.toHolder world.state with
    | some (holder, state) => .next { locals with toHolder := holder } (world.withState state)
    | none => .stuck
  | .prepareBefore n i =>
    match i.prepare? locals.scope with
    | some p => .next { locals with before := locals.before ++ [(n, p)] } world
    | none => .stuck
  | .prepareAfter n i =>
    match i.prepare? locals.scope with
    | some p => .next { locals with after := locals.after ++ [(n, p)] } world
    | none => .stuck
  | .guard count =>
    match locals.context, numbered? locals.before count with
    | some ctx, some interceptors =>
      match app.runBefore name interceptors ctx world.state with
      | (.ok (), ctx, state) => .next { locals with context := some ctx } (world.withState state)
      | (.error e, _, state) =>
        .fail e ((world.withState state).note [logLine "DEBUG" "before-interceptor halted dispatch"
          (name.fields ++ [("error", e.text)])])
    | _, _ => .stuck
  | .attempt i =>
    match locals.context, locals.controller with
    | some ctx, some controller =>
      match i.run? app.readers (app.act controller name) app.execute ctx world.state with
      | some (outcome, ctx, state) =>
        .next { locals with context := some ctx, outcome := some outcome } (world.withState state)
      | none => .stuck
    | _, _ => .stuck
  | .report =>
    match locals.outcome with
    | some (.ok ()) => .next locals world
    | some (.error e) =>
      .fail e (world.note [logLine "DEBUG" "action failed" (name.fields ++ [("error", e.text)])])
    | none => .stuck
  | .settle count =>
    match locals.context, locals.outcome, numbered? locals.after count with
    | some ctx, some outcome, some interceptors =>
      let error := match outcome with
        | .ok () => none
        | .error e => some e
      let (left, state) := app.runAfter name interceptors ⟨ctx, error⟩ world.state
      let world := world.withState state
      match left.error with
      | none => .next { locals with context := some left.http } world
      | some e =>
        .fail e (world.note [logLine "WARN" "error left after interceptors" (name.fields ++ [("error", e.text)])])
    | _, _, _ => .stuck
  | .respond =>
    match locals.context with
    | some ctx => .answered ctx.response world
    | none => .stuck

/-- Takes steps until one answers. -/
def runAll? (locals : Locals app.Scope) (world : World app.State) :
    List ActionStep → Option (Response × World app.State)
  | [] => none
  | step :: rest =>
    match step.run app name incoming locals world with
    | .next locals world => runAll? locals world rest
    | .answered response world => some (response, world)
    | .stuck => none

end ActionStep

/-- Runs an action on a request. -/
def Controller.dispatch? (c : Controller) (a : Action) (app : Application) (incoming : Incoming)
    (world : World app.State) : Option (Response × World app.State) :=
  ActionStep.runAll? app ⟨c.name, a.name⟩ incoming {} world (c.actionProgram a)

/-! ## Handlers -/

/-- What a handler comes to. -/
abbrev HandlerResult (app : Application) := Except HttpError Unit × EventContext × app.State

namespace HandlerStep

variable (app : Application) (name : MethodName)

/-- Takes steps until the handler ends or fails. -/
def runAll? (holder : Holder app.Scope) (ctx : EventContext) (state : app.State) :
    List HandlerStep → Option (HandlerResult app)
  | [] => none
  | .acquire a :: rest =>
    match a.run? app holder state with
    | some (holder, state) => runAll? holder ctx state rest
    | none => none
  | .invoke i :: rest =>
    match holder.controller with
    | none => none
    | some controller =>
      match i.run? app.readers (app.handle controller name) app.send ctx state with
      | some (.ok (), ctx, state) => runAll? holder ctx state rest
      | some (.error e, ctx, state) => some (.error e, ctx, state)
      | none => none
  | .finish :: _ => some (.ok (), ctx, state)

end HandlerStep

/-- Runs a handler on what an event brings. -/
def Controller.handle? (c : Controller) (h : Handler) (app : Application) (ctx : EventContext)
    (state : app.State) : Option (HandlerResult app) :=
  HandlerStep.runAll? app ⟨c.name, h.name⟩ {} ctx state (c.handlerProgram h)

end Switchyard

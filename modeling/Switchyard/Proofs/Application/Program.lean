import Switchyard.Application.Dispatch
import Switchyard.Proofs.Application.Invocation

/-!
# The program of an action without its variables

The program of an action is a list of steps on numbered variables. Taken together they are simpler: a
controller and its interceptors are obtained from one scope, the before-interceptors run, then the attempt,
then the after-interceptors, and what is left is answered.

Main result: `dispatch?_eq`; in particular a program is never stuck, since a scope is open whenever something is
obtained from it (`exists_obtained`).
-/

namespace Switchyard

/-! ## What a program obtains -/

/-- The error that an outcome is. -/
def failure? : Except HttpError Unit → Option HttpError
  | .ok () => none
  | .error e => some e

/-- What is answered after the last interceptor: the error that is left, or else the response. -/
def AfterContext.answer (ctx : AfterContext) : Response :=
  match ctx.error with
  | none => ctx.http.response
  | some e => e.render

/-- What a dispatch has at hand when its interceptors start. -/
structure Obtained (app : Application) where
  controller : Instance app.Scope
  before : List (Prepared app.Scope)
  after : List (Prepared app.Scope)
  state : app.State

/-- Opens a scope if one is needed. -/
def Application.scopeIf (app : Application) (needed : Bool) (state : app.State) : Option app.Scope × app.State :=
  if needed then (some (app.openScope state).1, (app.openScope state).2) else (none, state)

/-- The controller at hand, if what it is obtained from is. -/
def instance? {K : Type} (scope : Option K) : (inject : Option String) → Option (Instance K)
  | none => some .default
  | some accessor => scope.map fun k => .injected k accessor

/-- Obtains a controller and its interceptors, all from one scope. -/
def Application.obtain? (app : Application) (inject : Option String) (before after : List Interceptor)
    (state : app.State) : Option (Obtained app) :=
  let (scope, state) := app.scopeIf ((before ++ after).any Interceptor.isInjected || inject.isSome) state
  (instance? scope inject).bind fun controller =>
    (before.mapM (Interceptor.prepare? scope)).bind fun before =>
      (after.mapM (Interceptor.prepare? scope)).map fun after => { controller, before, after, state }

/-! ## Steps of the program -/

section Program

variable (app : Application) (name : MethodName) (incoming : Incoming)

/-- Numbers a list from `n` on. -/
def numberFrom {α : Type} (n : Nat) : List α → List (Nat × α)
  | [] => []
  | a :: rest => (n, a) :: numberFrom (n + 1) rest

theorem mapM_lookup_numberFrom {α : Type} : ∀ (list : List α) (n : Nat) (before : List (Nat × α)),
    (∀ v ∈ before, v.1 < n) →
      (List.range' n list.length).mapM (fun k => (before ++ numberFrom n list).lookup k) = some list
  | [], _, _, _ => rfl
  | a :: rest, n, before, hlt => by
    have ih := mapM_lookup_numberFrom rest (n + 1) (before ++ [(n, a)]) (lt_succ_of_append a hlt)
    rw [List.append_assoc, List.singleton_append] at ih
    rw [List.length_cons, List.range'_succ, List.mapM_cons, numberFrom, lookup_append_of_lt hlt, ih]
    simp

theorem numbered?_numberFrom {K : Type} (list : List (Prepared K)) :
    numbered? (numberFrom 0 list) list.length = some list := by
  have h := mapM_lookup_numberFrom list 0 [] (by simp)
  rwa [List.nil_append, ← List.range_eq_range'] at h

/-- Obtaining the controller opens a scope iff it is needed, and is stuck iff the scope is missing. -/
theorem runAll?_acquisitions (inject : Option String) (needed : Bool) (locals : Locals app.Scope)
    (world : World app.State) (rest : List ActionStep) (hscope : locals.scope = none) :
    ActionStep.runAll? app name incoming locals world ((acquisitions inject needed).map .acquire ++ rest) =
      (instance? (app.scopeIf (needed || inject.isSome) world.state).1 inject).bind fun controller =>
        ActionStep.runAll? app name incoming
          { locals with
            scope := (app.scopeIf (needed || inject.isSome) world.state).1
            controller := some controller }
          (world.withState (app.scopeIf (needed || inject.isSome) world.state).2) rest := by
  obtain ⟨⟨scope, held⟩, ctx, before, after, outcome⟩ := locals
  obtain rfl : scope = none := hscope
  cases inject <;> cases needed <;>
    simp [acquisitions, Application.scopeIf, instance?, ActionStep.runAll?, ActionStep.run, Acquisition.run?,
      World.withState]

/-- Preparing interceptors puts all of them down by their numbers, and is stuck iff one cannot be prepared. -/
theorem runAll?_prepareFrom (step : Nat → Interceptor → ActionStep)
    (put : Locals app.Scope → List (Nat × Prepared app.Scope) → Locals app.Scope)
    (hput : ∀ locals, put locals [] = locals)
    (hputs : ∀ locals l₁ l₂, put (put locals l₁) l₂ = put locals (l₁ ++ l₂))
    (hscope : ∀ locals l, (put locals l).scope = locals.scope)
    (hstep : ∀ n i locals world, ActionStep.run app name incoming locals world (step n i) =
      match i.prepare? locals.scope with
      | some p => .next (put locals [(n, p)]) world
      | none => .stuck)
    (world : World app.State) (rest : List ActionStep) :
    ∀ (is : List Interceptor) (n : Nat) (locals : Locals app.Scope),
      ActionStep.runAll? app name incoming locals world (prepareFrom step n is ++ rest) =
        (is.mapM (Interceptor.prepare? locals.scope)).bind fun prepared =>
          ActionStep.runAll? app name incoming (put locals (numberFrom n prepared)) world rest
  | [], n, locals => by simp [prepareFrom, numberFrom, hput]
  | i :: is, n, locals => by
    rw [prepareFrom, List.cons_append, ActionStep.runAll?, hstep, List.mapM_cons]
    cases hp : i.prepare? locals.scope with
    | none => rfl
    | some p =>
      simp only
      rw [runAll?_prepareFrom step put hput hputs hscope hstep world rest is (n + 1), hscope]
      cases is.mapM (Interceptor.prepare? locals.scope) with
      | none => rfl
      | some prepared => simp [numberFrom, hputs]

theorem runAll?_prepareBefore (is : List Interceptor) (locals : Locals app.Scope) (world : World app.State)
    (rest : List ActionStep) :
    ActionStep.runAll? app name incoming locals world (prepareFrom .prepareBefore 0 is ++ rest) =
      (is.mapM (Interceptor.prepare? locals.scope)).bind fun prepared =>
        ActionStep.runAll? app name incoming { locals with before := locals.before ++ numberFrom 0 prepared } world
          rest :=
  runAll?_prepareFrom app name incoming .prepareBefore (fun locals l => { locals with before := locals.before ++ l })
    (fun _ => by simp) (fun _ _ _ => by simp) (fun _ _ => rfl) (fun _ _ _ _ => rfl) world rest is 0 locals

theorem runAll?_prepareAfter (is : List Interceptor) (locals : Locals app.Scope) (world : World app.State)
    (rest : List ActionStep) :
    ActionStep.runAll? app name incoming locals world (prepareFrom .prepareAfter 0 is ++ rest) =
      (is.mapM (Interceptor.prepare? locals.scope)).bind fun prepared =>
        ActionStep.runAll? app name incoming { locals with after := locals.after ++ numberFrom 0 prepared } world
          rest :=
  runAll?_prepareFrom app name incoming .prepareAfter (fun locals l => { locals with after := locals.after ++ l })
    (fun _ => by simp) (fun _ _ _ => by simp) (fun _ _ => rfl) (fun _ _ _ _ => rfl) world rest is 0 locals

end Program

/-! ## The whole program -/

section Whole

variable (app : Application)

/-- The attempt of an action. -/
def Application.attempt (name : MethodName) (controller : Instance app.Scope) (params : List Parameter)
    (shape : Shape) : Effect HttpContext app.State Unit :=
  invoke app.readers params shape (app.act controller name) app.execute

/-- What is logged about the error that is left, by whether interceptors could have left it. -/
def leftLines (name : MethodName) (intercepted : Bool) (left : AfterContext) : List LogLine :=
  match left.error with
  | none => []
  | some e =>
    (if intercepted then logLine "WARN" "error left after interceptors" (name.fields ++ [("error", e.text)])
      else logLine "DEBUG" "action failed" (name.fields ++ [("error", e.text)])) :: e.log

/-- The dispatch of an action without the variables of its program. -/
def Application.dispatch? (c : Controller) (a : Action) (incoming : Incoming) (world : World app.State) :
    Option (Response × World app.State) :=
  let name : MethodName := ⟨c.name, a.name⟩
  match ActionStep.enter app incoming world with
  | .error e => some (e.render, world.note e.log)
  | .ok ctx =>
    let world := world.note [logLine "DEBUG" "dispatching"
      (name.fields ++ [("method", ctx.request.method), ("uri", ctx.request.uri.text)])]
    (app.obtain? c.inject a.before a.after world.state).map fun o =>
      match app.runBefore name o.before ctx o.state with
      | (.error e, _, state) =>
        (e.render, (world.withState state).note (logLine "DEBUG" "before-interceptor halted dispatch"
          (name.fields ++ [("error", e.text)]) :: e.log))
      | (.ok (), ctx, state) =>
        let (outcome, ctx, state) := app.attempt name o.controller a.params a.returns.shape ctx state
        let (left, state) := app.runAfter name o.after ⟨ctx, failure? outcome⟩ state
        (left.answer, (world.withState state).note (leftLines name (!a.after.isEmpty) left))

variable {app}

@[simp] theorem World.note_nil {S : Type} (w : World S) : w.note [] = w := by simp [World.note]

@[simp] theorem World.note_note {S : Type} (w : World S) (l₁ l₂ : List LogLine) :
    (w.note l₁).note l₂ = w.note (l₁ ++ l₂) := by simp [World.note]

@[simp] theorem World.withState_withState {S : Type} (w : World S) (s₁ s₂ : S) :
    (w.withState s₁).withState s₂ = w.withState s₂ := rfl

@[simp] theorem World.withState_state {S : Type} (w : World S) (s : S) : (w.withState s).state = s := rfl

@[simp] theorem World.note_state {S : Type} (w : World S) (l : List LogLine) : (w.note l).state = w.state := rfl

theorem length_of_prepare {K : Type} {scope : Option K} :
    ∀ {is : List Interceptor} {prepared : List (Prepared K)},
      is.mapM (Interceptor.prepare? scope) = some prepared → prepared.length = is.length
  | [], _, h => by simp at h; subst h; rfl
  | i :: is, prepared, h => by
    rw [List.mapM_cons] at h
    cases hi : i.prepare? scope with
    | none => rw [hi] at h; cases h
    | some p =>
      cases hr : is.mapM (Interceptor.prepare? scope) with
      | none => rw [hi, hr] at h; cases h
      | some rest =>
        rw [hi, hr] at h
        obtain rfl : p :: rest = prepared := by simpa using h
        simp [length_of_prepare hr]

variable (name : MethodName) (incoming : Incoming)

/-- The guard runs the before-interceptors; without any there is no guard, and nothing would run. -/
theorem runAll?_guard (locals : Locals app.Scope) (world : World app.State) (rest : List ActionStep)
    {ctx : HttpContext} {is : List Interceptor} {prepared : List (Prepared app.Scope)}
    (hctx : locals.context = some ctx) (hbefore : locals.before = numberFrom 0 prepared)
    (hlength : prepared.length = is.length) :
    ActionStep.runAll? app name incoming locals world
        ((if is.isEmpty then [] else [.guard is.length]) ++ rest) =
      match app.runBefore name prepared ctx world.state with
      | (.ok (), ctx, state) =>
        ActionStep.runAll? app name incoming { locals with context := some ctx } (world.withState state) rest
      | (.error e, _, state) =>
        some (e.render, (world.withState state).note (logLine "DEBUG" "before-interceptor halted dispatch"
          (name.fields ++ [("error", e.text)]) :: e.log)) := by
  cases is with
  | nil =>
    obtain rfl : prepared = [] := List.length_eq_zero_iff.1 hlength
    obtain ⟨holder, held, before, after, outcome⟩ := locals
    obtain rfl : held = some ctx := hctx
    rfl
  | cons i is =>
    have hcount : numbered? locals.before (i :: is).length = some prepared := by
      rw [hbefore, ← hlength, numbered?_numberFrom]
    simp only [List.isEmpty_cons, Bool.false_eq_true, if_false, List.singleton_append, ActionStep.runAll?,
      ActionStep.run, hctx, hcount]
    rcases app.runBefore name prepared ctx world.state with ⟨e | ⟨⟩, ctx₁, state₁⟩
    · simp [StepResult.fail]
    · rfl

theorem runAll?_attempt (locals : Locals app.Scope) (world : World app.State) (rest : List ActionStep)
    (method : String) (params : List Parameter) (returns : Returns) {ctx : HttpContext}
    {controller : Instance app.Scope} (hctx : locals.context = some ctx)
    (hcontroller : locals.controller = some controller) :
    ActionStep.runAll? app name incoming locals world
        (.attempt (invocationOf .action method params returns) :: rest) =
      match app.attempt name controller params returns.shape ctx world.state with
      | (outcome, ctx, state) =>
        ActionStep.runAll? app name incoming { locals with context := some ctx, outcome := some outcome }
          (world.withState state) rest := by
  simp only [ActionStep.runAll?, ActionStep.run, hctx, hcontroller, run?_invocationOf, Application.attempt]

/-- The program ends with the after-interceptors, and the error or the response that is left; without any the
error of the attempt is left. -/
theorem runAll?_settle (locals : Locals app.Scope) (world : World app.State) {ctx : HttpContext}
    {outcome : Except HttpError Unit} {is : List Interceptor} {prepared : List (Prepared app.Scope)}
    (hctx : locals.context = some ctx) (houtcome : locals.outcome = some outcome)
    (hafter : locals.after = numberFrom 0 prepared) (hlength : prepared.length = is.length) :
    ActionStep.runAll? app name incoming locals world
        ((if is.isEmpty then [.report] else [.settle is.length]) ++ [.respond]) =
      match app.runAfter name prepared ⟨ctx, failure? outcome⟩ world.state with
      | (left, state) => some (left.answer, (world.withState state).note (leftLines name (!is.isEmpty) left)) := by
  cases is with
  | nil =>
    obtain rfl : prepared = [] := List.length_eq_zero_iff.1 hlength
    rcases outcome with e | ⟨⟩ <;>
      simp [ActionStep.runAll?, ActionStep.run, houtcome, hctx, Application.runAfter, failure?, leftLines,
        AfterContext.answer, StepResult.fail, World.withState]
  | cons i is =>
    have hcount : numbered? locals.after (i :: is).length = some prepared := by
      rw [hafter, ← hlength, numbered?_numberFrom]
    rcases outcome with e | ⟨⟩
    all_goals
      simp only [List.isEmpty_cons, Bool.false_eq_true, if_false, List.singleton_append, ActionStep.runAll?,
        ActionStep.run, hctx, houtcome, hcount, failure?]
      rcases app.runAfter name prepared _ world.state with ⟨⟨http, _ | left⟩, state₁⟩
      · simp [leftLines, AfterContext.answer]
      · simp [leftLines, AfterContext.answer, StepResult.fail]

/-- The program of an action does what its dispatch says. -/
theorem dispatch?_eq (c : Controller) (a : Action) (world : World app.State) :
    c.dispatch? a app incoming world = app.dispatch? c a incoming world := by
  simp only [Controller.dispatch?, Controller.actionProgram, List.append_assoc, List.cons_append, List.nil_append,
    Application.dispatch?]
  rw [ActionStep.runAll?, ActionStep.run]
  cases ActionStep.enter app incoming world with
  | error e => rfl
  | ok ctx =>
    simp only
    rw [ActionStep.runAll?, ActionStep.run]
    simp only
    rw [runAll?_acquisitions _ _ _ _ _ _ _ _ rfl]
    -- from here on everything is obtained from one scope, which both sides open alike
    simp only [Application.obtain?, Action.needsInjector, World.note_state]
    generalize app.scopeIf ((a.before ++ a.after).any Interceptor.isInjected || c.inject.isSome) world.state = opened
    obtain ⟨scope, state⟩ := opened
    cases instance? scope c.inject with
    | none => rfl
    | some controller =>
      simp only [Option.bind_some, runAll?_prepareBefore, runAll?_prepareAfter]
      cases hbefore : a.before.mapM (Interceptor.prepare? scope) with
      | none => rfl
      | some before =>
        cases hafter : a.after.mapM (Interceptor.prepare? scope) with
        | none => rfl
        | some after =>
          simp only [Option.bind_some, Option.map_some, List.nil_append]
          rw [runAll?_guard _ _ _ _ _ rfl rfl (length_of_prepare hbefore), World.withState_state]
          rcases app.runBefore ⟨c.name, a.name⟩ before ctx state with ⟨e | ⟨⟩, ctx₁, state₁⟩
          · rfl
          · simp only
            rw [runAll?_attempt _ _ _ _ _ _ _ _ rfl rfl]
            simp only
            rw [runAll?_settle _ _ _ _ rfl rfl rfl (length_of_prepare hafter)]
            rfl

theorem exists_prepared {K : Type} (scope : Option K) : ∀ (is : List Interceptor),
    (∀ i ∈ is, i.isInjected → scope.isSome) → ∃ prepared, is.mapM (Interceptor.prepare? scope) = some prepared
  | [], _ => ⟨[], rfl⟩
  | i :: rest, h => by
    obtain ⟨prepared, hrest⟩ := exists_prepared scope rest fun j hj => h j (List.mem_cons_of_mem _ hj)
    obtain ⟨p, hp⟩ : ∃ p, i.prepare? scope = some p := by
      cases i with
      | made expression => exact ⟨_, rfl⟩
      | injected accessor =>
        obtain ⟨k, rfl⟩ := Option.isSome_iff_exists.1 (h _ List.mem_cons_self rfl)
        exact ⟨_, rfl⟩
    exact ⟨p :: prepared, by rw [List.mapM_cons, hp, hrest]; rfl⟩

/-- A controller and its interceptors can always be obtained: whatever needs a scope has one opened. -/
theorem exists_obtained (inject : Option String) (before after : List Interceptor) (state : app.State) :
    ∃ o, app.obtain? inject before after state = some o := by
  rw [Application.obtain?]
  cases hneeded : (before ++ after).any Interceptor.isInjected || inject.isSome with
  | false =>
    obtain ⟨hnone, hinject⟩ := Bool.or_eq_false_iff.1 hneeded
    have hno : ∀ i ∈ before ++ after, i.isInjected → (none : Option app.Scope).isSome := fun i hi hinjected =>
      absurd hinjected (List.any_eq_false.1 hnone i hi)
    obtain rfl : inject = none := Option.isSome_eq_false_iff.1 hinject |> Option.isNone_iff_eq_none.1
    obtain ⟨prepared, hbefore⟩ := exists_prepared none before fun i hi => hno i (List.mem_append_left _ hi)
    obtain ⟨prepared', hafter⟩ := exists_prepared none after fun i hi => hno i (List.mem_append_right _ hi)
    simp [Application.scopeIf, instance?, hbefore, hafter]
  | true =>
    obtain ⟨prepared, hbefore⟩ := exists_prepared (some (app.openScope state).1) before fun _ _ _ => rfl
    obtain ⟨prepared', hafter⟩ := exists_prepared (some (app.openScope state).1) after fun _ _ _ => rfl
    cases inject <;> simp [Application.scopeIf, instance?, hbefore, hafter]

end Whole

end Switchyard

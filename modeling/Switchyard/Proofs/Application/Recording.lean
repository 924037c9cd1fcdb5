import Switchyard.Application.Dispatch

/-!
# Recording calls

`Application.recording` does what an application does, and its state also keeps a record of the calls that were
made into it: which interceptor or method was called, with what, and what came of it. Whatever program runs,
the record is the trace of its calls.
-/

namespace Switchyard

/-- An effect that also writes entries into a record, by what it saw and what came of it. -/
def Effect.recording {C S α L : Type} (entries : C → Except HttpError α → List L) (effect : Effect C S α) :
    Effect C (S × List L) α := fun ctx state =>
  let (result, ctx', after) := effect ctx state.1
  (result, ctx', (after, state.2 ++ entries ctx result))

theorem Effect.recording_eq {C S α L : Type} (entries : C → Except HttpError α → List L) {effect : Effect C S α}
    {ctx ctx' : C} {state state' : S} {result : Except HttpError α} (record : List L)
    (h : effect ctx state = (result, ctx', state')) :
    effect.recording entries ctx (state, record) = (result, ctx', (state', record ++ entries ctx result)) := by
  rw [Effect.recording, h]

/-- A call into an application while an action is dispatched: the method it is about, what it was given and
what came of it. -/
inductive Call (app : Application) where
  | before (name : MethodName) (interceptor : Prepared app.Scope) (result : Except HttpError Unit)
  | act (name : MethodName) (controller : Instance app.Scope) (arguments : List (CallArgument app.Value))
    (result : Except HttpError app.Reply)
  | execute (shape : Shape) (reply : app.Reply) (result : Except HttpError Unit)
  /-- With the error that the interceptor saw, and the one that it left. -/
  | after (name : MethodName) (interceptor : Prepared app.Scope) (seen left : Option HttpError)

/-- An application that keeps a record of its calls. -/
abbrev Application.recording (app : Application) : Application where
  State := app.State × List (Call app)
  Scope := app.Scope
  Value := app.Value
  Reply := app.Reply
  settings state := app.settings state.1
  codec state := app.codec state.1
  openScope state := ((app.openScope state.1).1, ((app.openScope state.1).2, state.2))
  read := app.read
  decode := app.decode
  before i name := (app.before i name).recording fun _ result => [.before name i result]
  after i name ctx state :=
    let (left, after) := app.after i name ctx state.1
    (left, (after, state.2 ++ [.after name i ctx.error left.error]))
  act controller name arguments :=
    (app.act controller name arguments).recording fun _ result => [.act name controller arguments result]
  handle controller name arguments := (app.handle controller name arguments).recording fun _ _ => []
  execute shape reply := (app.execute shape reply).recording fun _ result => [.execute shape reply result]
  send shape reply := (app.send shape reply).recording fun _ _ => []

/-! ## Calls with a record -/

namespace Application

variable {app : Application} {name : MethodName} {ctx ctx' : HttpContext} {state state' : app.State}

theorem recording_before {i : Prepared app.Scope} {result : Except HttpError Unit} (calls : List (Call app))
    (h : app.before i name ctx state = (result, ctx', state')) :
    app.recording.before i name ctx (state, calls) = (result, ctx', (state', calls ++ [.before name i result])) :=
  Effect.recording_eq (fun _ result => [.before name i result]) calls h

theorem recording_after {i : Prepared app.Scope} {seen left : AfterContext} (calls : List (Call app))
    (h : app.after i name seen state = (left, state')) :
    app.recording.after i name seen (state, calls) =
      (left, (state', calls ++ [.after name i seen.error left.error])) := by
  simp only [h]

end Application

end Switchyard

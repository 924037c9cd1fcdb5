import Switchyard.Application.Basic
import Switchyard.Program.Basic

/-!
# Running invocations

An invocation makes its values from left to right and stops at the first that fails; only when all are made is
the method called. Nothing is decoded that no value asks for.
-/

namespace Switchyard

/-- A context that values are made from. -/
class Carrier (C : Type) where
  request : C → Request
  codec : C → Codec
  /-- The body of the request, or the message. -/
  content : C → Bytes

instance : Carrier HttpContext where
  request ctx := ctx.request
  codec ctx := ctx.codec
  content ctx := ctx.request.body

instance : Carrier EventContext where
  request ctx := ctx.session.request
  codec ctx := ctx.session.codec
  content ctx := Utf8.encode ctx.payload.content

variable {C S V R : Type} [Carrier C]

/-- The document that a context brings. -/
def Carrier.document (ctx : C) : Except HttpError Json :=
  ((codec ctx).deserialize (content ctx)).mapError .ofCodec

/-- How texts and documents are read as values. -/
structure ValueReaders (V : Type) where
  read : Code.TypeExpr → TextReader V
  decode : Code.TypeExpr → Json → Except String V

/-- The readers of an application. -/
def Application.readers (app : Application) : ValueReaders app.Value := ⟨app.read, app.decode⟩

/-- Makes a value; `message` is the decoded message, if there is one. -/
def ValueCode.make (readers : ValueReaders V) (ctx : C) (message : Option Json) :
    ValueCode → Except HttpError (CallArgument V)
  | .bound plan =>
    let binder := (Carrier.request ctx).binder message
    match binder.bind (readers.read plan.element) plan.arity plan.sources plan.key with
    | .ok value => .ok (.bound value)
    | .error e => .error (.ofBind e)
  | .document type =>
    match Carrier.document ctx with
    | .error e => .error e
    | .ok v =>
      match readers.decode type v with
      | .ok value => .ok (.document value)
      | .error reason => .error (.ofCodec (.decode reason))

/-- Makes values from left to right. -/
def makeValues (readers : ValueReaders V) (ctx : C) (message : Option Json) :
    List (Nat × ValueCode) → Except HttpError (List (Nat × CallArgument V))
  | [] => .ok []
  | (n, code) :: rest =>
    match code.make readers ctx message with
    | .error e => .error e
    | .ok value =>
      match makeValues readers ctx message rest with
      | .error e => .error e
      | .ok values => .ok ((n, value) :: values)

namespace Invocation

/-- The message that the values are made from: it is decoded once, and only if a value needs it. -/
def message (i : Invocation) (ctx : C) : Except HttpError (Option Json) :=
  if i.decodesMessage then (Carrier.document ctx).map some else .ok none

/-- Makes the values of an invocation. -/
def bind (i : Invocation) (readers : ValueReaders V) (ctx : C) :
    Except HttpError (List (Nat × CallArgument V)) :=
  match i.message ctx with
  | .error e => .error e
  | .ok message => makeValues readers ctx message i.values

/-- The arguments of the call, if every value that one stands for was made. -/
def callArguments? (values : List (Nat × CallArgument V)) : List ArgumentCode → Option (List (CallArgument V))
  | [] => some []
  | code :: rest => do
    let argument ← match code with
      | .value n => values.lookup n
      | .context _ => some .context
      | .session => some .session
    return argument :: (← callArguments? values rest)

/-- Runs an invocation: `call` calls the method, and `execute` executes its result. There is no result if a
value was used that was not made. -/
def run? (i : Invocation) (readers : ValueReaders V) (call : List (CallArgument V) → Effect C S R)
    (execute : Shape → R → Effect C S Unit) (ctx : C) (state : S) :
    Option (Except HttpError Unit × C × S) :=
  match i.bind readers ctx with
  | .error e => some (.error e, ctx, state)
  | .ok values =>
    (callArguments? values i.arguments).map fun arguments =>
      match call arguments ctx state with
      | (.error e, ctx, state) => (.error e, ctx, state)
      | (.ok reply, ctx, state) =>
        if i.returns.shape = .void then (.ok (), ctx, state)
        else execute i.returns.shape reply ctx state

end Invocation

end Switchyard

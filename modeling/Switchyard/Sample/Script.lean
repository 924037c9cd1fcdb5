import Switchyard.Application.Invocation
import Switchyard.Sample.Services
import Switchyard.Socket.Endpoint
import Switchyard.Text.Quoted

/-!
# Scripted handlers

A handler that takes a list of steps, in order, until one fails. Steps send, fail, or write into the journal
what the event has brought; a step that asks for something the event does not bring does nothing.
-/

namespace Switchyard.Sample.Script

/-- A step of a script. -/
abbrev Step := EventHandler Services

/-- Takes steps up to the first that fails. -/
def run : List Step → Step
  | [], ctx, s => (.ok (), ctx, s)
  | step :: rest, ctx, s =>
    match step ctx s with
    | (.ok (), ctx, s) => run rest ctx s
    | failed => failed

/-- Writes a line that the event tells, if it tells one. -/
def journal (line : EventContext → Option String) : Step := fun ctx s =>
  (.ok (), ctx, ((line ctx).map s.push).getD s)

/-- Writes a line that may not come about. -/
def journalTry (line : EventContext → Except HttpError (Option String)) : Step := fun ctx s =>
  match line ctx with
  | .ok line => journal (fun _ => line) ctx s
  | .error e => (.error e, ctx, s)

/-- Sends to the session. -/
def send (sending : EventContext → Session.Sending) : Step := fun ctx s =>
  let (result, ctx) := ctx.send (sending ctx)
  (result, ctx, s)

/-- Fails. -/
def fail (e : HttpError) : Step := fun ctx s => (.error e, ctx, s)

/-- Sends the text of a message back. -/
def echo : Step := send fun ctx => Session.send (.text ctx.payload.content)

/-- Closes the socket. -/
def close (code : Nat) (reason : String) : Step := send fun _ => Session.send (.close (some ⟨code, reason⟩))

/-! ## Lines of the journal -/

/-- Whether the socket is open. -/
def openLine (ctx : EventContext) : String := s!"open:{ctx.session.outbox.isOpen}"

/-- The request that opened the socket. -/
def requestLine (ctx : EventContext) : String := s!"{ctx.session.request.method} {ctx.session.request.uri.text}"

/-- A header of that request. -/
def headerLine (name : String) (ctx : EventContext) : String :=
  s!"header:{quotedOption (ctx.session.request.headerValues name).head?}"

/-- The data of a binary message. -/
def dataLine (ctx : EventContext) : Option String :=
  match ctx.payload with
  | .binary data => some s!"data:{data.length}:{data.isEmpty}:{data.toHex}"
  | _ => none

/-- The error that is handled. -/
def errorLine (ctx : EventContext) : Option String :=
  match ctx.payload with
  | .failure e => some s!"error:{e.status.code}:{e.text}"
  | _ => none

/-- How the socket was closed. -/
def closedLine (ctx : EventContext) : Option String :=
  match ctx.payload with
  | .closed code reason => some s!"closed:{code}:{reason}"
  | _ => none

/-- The message as a document. -/
def valueLine (ctx : EventContext) : Except HttpError (Option String) :=
  match ctx.payload with
  | .text _ => (Carrier.document ctx).map fun v => some s!"value:{v.compact}"
  | _ => .ok none

/-- The message read and written again by `recode`, which is given the codec and the bytes. -/
def recodedLine (recode : Codec → Bytes → Except CodecError String) (ctx : EventContext) :
    Except HttpError (Option String) :=
  match ctx.payload with
  | .text s => ((recode ctx.session.codec (Utf8.encode s)).mapError .ofCodec).map fun t => some s!"as:{t}"
  | _ => .ok none

/-- What a binding comes to; a message is decoded for it. -/
def boundLine (bind : Binder → String) (ctx : EventContext) : Except HttpError (Option String) :=
  let line (message : Option Json) : Option String := some s!"bind:{bind (ctx.session.request.binder message)}"
  match ctx.payload with
  | .text _ => (Carrier.document ctx).map fun v => line (some v)
  | _ => .ok (line none)

/-- An endpoint of scripts. -/
def endpoint (scripts : List (Event × List Step)) : Endpoint Services := fun event => (scripts.lookup event).map run

end Switchyard.Sample.Script

import Switchyard.Application.Basic
import Switchyard.Socket.Frame

/-!
# Endpoints

An endpoint has a handler for some of the events of a socket. The life of a connection is: it is opened, then
messages arrive, then it ends, by itself or because it breaks. A handler that fails is followed by the handler
of errors, whose own failure is only logged.
-/

namespace Switchyard

/-- What a handler of an event does. -/
abbrev EventHandler (S : Type) := Effect EventContext S Unit

/-- The handlers of the events that have one. -/
abbrev Endpoint (S : Type) := Event → Option (EventHandler S)

/-- A connection while it lasts, and how it will be reported to have ended. -/
structure Life (S : Type) where
  session : Session
  world : World S
  status : Nat := CloseFrame.noStatus
  reason : String := ""
  /-- The other side has closed the connection. -/
  closing : Bool := false

namespace Life

variable {S : Type}

/-- Adds a line to the log. -/
def note (l : Life S) (level message : String) (fields : List (String × String)) : Life S :=
  { l with world := l.world.note [logLine level message fields] }

/-- Runs a handler. -/
def run (l : Life S) (handler : EventHandler S) (payload : Payload) : Except HttpError Unit × Life S :=
  let (result, ctx, state) := handler ⟨l.session, payload⟩ l.world.state
  (result, { l with session := ctx.session, world := l.world.withState state })

/-- The writer takes a step; `written` tells whether what it hands over is written. -/
def wrote (l : Life S) (written : Bool) : Life S :=
  { l with session := { l.session with outbox := (l.session.outbox.step written).2 } }

end Life

/-- What happens to an open connection. -/
inductive Happening where
  | message (m : Message)
  | fault (f : TransportFault)
  /-- The writer takes a step. -/
  | writing (written : Bool)

namespace Endpoint

variable {S : Type} (e : Endpoint S)

/-- Hands an error to its handler. -/
def fail (error : HttpError) (l : Life S) : Life S :=
  match e .error with
  | none => l.note "WARN" "unhandled websocket error" [("error", error.text)]
  | some handler =>
    match (l.note "WARN" "websocket handler failed" [("error", error.text)]).run handler (.failure error) with
    | (.ok (), l) => l
    | (.error again, l) => l.note "ERROR" "websocket error handler failed" [("error", again.text)]

/-- Hands what an event brings to its handler, if there is one. -/
def call (payload : Payload) (l : Life S) : Life S :=
  match e payload.event with
  | none => l
  | some handler =>
    match l.run handler payload with
    | (.ok (), l) => l
    | (.error error, l) => e.fail error l

/-- The connection is open. -/
def opened (l : Life S) : Life S :=
  e.call .connected (l.note "DEBUG" "websocket connected" [("uri", l.session.request.uri.text)])

/-- A message arrives. -/
def arrived (m : Message) (l : Life S) : Life S :=
  match m with
  | .text s => e.call (.text s) l
  | .binary data => e.call (.binary data) l
  | .close (some f) => { l with status := f.code, reason := f.reason, closing := true }
  | .close none => { l with closing := true }
  | .ping _ | .pong _ => l

/-- The connection breaks. -/
def broke (fault : TransportFault) (l : Life S) : Life S :=
  if l.closing then l
  else e.fail (.internal s!"websocket transport error: {fault.message}") { l with status := CloseFrame.abnormal }

/-- The connection has ended. -/
def ended (l : Life S) : Life S :=
  let l := e.call (.closed l.status l.reason) l
  l.note "DEBUG" "websocket disconnected" [("status", toString l.status)]

/-- Reads an open connection to its end, or to the first fault. -/
def read : List Happening → Life S → Life S
  | [], l => l
  | .message m :: rest, l => read rest (e.arrived m l)
  | .fault f :: _, l => e.broke f l
  | .writing written :: rest, l => read rest (l.wrote written)

/-- The life of a connection. -/
def live (happenings : List Happening) (l : Life S) : Life S := e.ended (e.read happenings (e.opened l))

end Endpoint

end Switchyard

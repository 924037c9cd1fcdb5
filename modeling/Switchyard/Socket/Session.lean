import Switchyard.Http.Context
import Switchyard.Socket.Event
import Switchyard.Socket.Outbox

/-!
# Sessions

A session is one connection to a socket: the request that opened it, the codec of its documents and the
messages that go out. A handler of an event sees the session and what the event brought.
-/

namespace Switchyard

/-- A connection to a socket. -/
structure Session where
  request : Request
  codec : Codec
  outbox : Outbox

/-- Sending to a socket that is closed fails. -/
def HttpError.socketClosed : HttpError := .internal "ws closed"

namespace Session

/-- What sending does to a session. -/
abbrev Sending := Session → Except HttpError Unit × Session

/-- Sends a message. -/
def send (m : Message) : Sending := fun s =>
  match s.outbox.send? m with
  | some o => (.ok (), { s with outbox := o })
  | none => (.error .socketClosed, s)

/-- The text of a document in a codec. -/
def documentText (codec : Codec) (document : Except Json.EncodeFault Json) : Except HttpError String :=
  match encodeDocument codec document with
  | .error e => .error e
  | .ok bytes => (Utf8.decode bytes).mapError fun f => .internal s!"codec produced invalid UTF-8: {f.message}"

/-- Sends a document; one that cannot be written is not sent. -/
def sendDocument (document : Except Json.EncodeFault Json) : Sending := fun s =>
  match documentText s.codec document with
  | .error e => (.error e, s)
  | .ok text => s.send (.text text)

/-- The text that shows a session with its number. -/
def shown (s : Session) (id : String) : String := s!"WsSession \x7b id: {id}, uri: {s.request.uri.text} \x7d"

end Session

/-- What an event brings. -/
inductive Payload where
  | connected
  | text (content : String)
  | binary (data : Bytes)
  | failure (error : HttpError)
  | closed (code : Nat) (reason : String)

namespace Payload

/-- The event that brings a payload. -/
def event : Payload → Event
  | .connected => .connect
  | .text _ => .message
  | .binary _ => .binaryMessage
  | .failure _ => .error
  | .closed .. => .disconnect

/-- The text of a message; nothing else has one. -/
def content : Payload → String
  | .text s => s
  | _ => ""

end Payload

/-- What a handler of an event sees. -/
structure EventContext where
  session : Session
  payload : Payload

namespace EventContext

/-- Sends to the session. -/
def send (action : Session.Sending) (ctx : EventContext) : Except HttpError Unit × EventContext :=
  let (result, session) := action ctx.session
  (result, { ctx with session })

end EventContext

/-! ## Results of handlers -/

/-- A result of a handler. -/
inductive SocketResult where
  | text (content : String)
  | binary (data : Bytes)
  | document (document : Except Json.EncodeFault Json)

/-- Sends a result. -/
def SocketResult.execute : SocketResult → Session.Sending
  | .text s => Session.send (.text s)
  | .binary data => Session.send (.binary data)
  | .document d => Session.sendDocument d

end Switchyard

import Switchyard.Sample.Values
import Switchyard.Text.LetterCase

/-!
# Controllers with sockets

Rooms in which one can chat, a socket that takes commands, and one that echoes loudly.
-/

namespace Switchyard.Sample

/-- Sends to the session of an event. -/
def sending (m : Message) : HandlerCall := fun ctx s =>
  let (result, ctx) := ctx.send (Session.send m)
  (result.map fun _ => .nothing, ctx, s)

namespace Rooms

/-- The controller. -/
def declaration : Declaration where
  options := "state = Services, path = \"/rooms\", ws = \"/\x7broom\x7d/socket\", inject = chat"
  block := [
    "impl ChatController \x7b",
    "    #[get(\"/\x7broom\x7d\")]",
    "    fn describe(&self, room: String) -> Value \x7b\x7d",
    "    #[ws_connect]",
    "    fn joined(&self, room: String, #[from(query)] user: Option<String>, session: &WsSession)",
    "        -> WsTextResult \x7b\x7d",
    "    #[ws_message]",
    "    async fn said(&self, text: String, times: Option<u8>, tags: Vec<String>, #[from(path)] room: String)",
    "        -> Value \x7b\x7d",
    "    #[ws_binary_message]",
    "    fn bytes(&self, ctx: &WsBinaryMessageContext) -> WsBinaryResult \x7b\x7d",
    "    #[ws_error]",
    "    fn failed(&self, ctx: &WsErrorContext) -> Result<(), WsError> \x7b\x7d",
    "    #[ws_disconnect]",
    "    fn left(&self, ctx: &WsDisconnectContext) \x7b\x7d",
    "\x7d"]

/-- A text so many times. -/
def repeated (s : String) (times : Nat) : String := .ofList (List.replicate times s.toList).flatten

/-- The actions. -/
def call (method : String) (arguments : Arguments) : ActionCall :=
  match method, arguments with
  | "describe", [.bound (.scalar room)] => returning (.ofJson (.object [("room", valueJson room)]))
  | _, _ => unknownMethod method

/-- The handlers. -/
def handle (method : String) (arguments : Arguments) : HandlerCall :=
  match method, arguments with
  | "joined", [.bound (.scalar (.param (.string room))), .bound (.optional user), .session] => fun ctx s =>
    let user := match user with
      | some (.param (.string name)) => name
      | _ => "guest"
    (.ok (.message (.text s!"welcome {user} to {room}")), ctx,
      s.push s!"connected:{room}:{ctx.session.request.uri.path}")
  | "said", [.bound (.scalar (.param (.string text))), .bound (.optional times), .bound (.list tags),
      .bound (.scalar room)] =>
    let times := match times with
      | some (.param (.integer n)) => n.toNat
      | _ => 1
    returning (.ofJson (.ofMembers [("room", valueJson room), ("echo", .string (repeated text times)),
      ("tags", .array (tags.map valueJson))]))
  | "bytes", [.context] => fun ctx s =>
    let data := match ctx.payload with
      | .binary data => data
      | _ => []
    (.ok (.message (.binary data.reverse)), ctx, s)
  | "failed", [.context] => fun ctx s =>
    match ctx.payload with
    | .failure e => sending (.text s!"error {e.status.code}") ctx (s.push s!"error:{e.text}")
    | _ => (.ok .nothing, ctx, s)
  | "left", [.context] => fun ctx s =>
    match ctx.payload with
    | .closed code reason => (.ok .nothing, ctx, s.push s!"closed:{code}:{reason}")
    | _ => (.ok .nothing, ctx, s)
  | _, _ => unknownMethod method

end Rooms

namespace Commands

/-- The controller. -/
def declaration : Declaration where
  options := "ws = \"/commands\""
  block := [
    "impl CommandController \x7b",
    "    #[ws_message]",
    "    fn command(&self, #[from_json] command: Command, ctx: &WsMessageContext)",
    "        -> Result<WsTextResult, HttpError> \x7b\x7d",
    "\x7d"]

/-- The handlers. -/
def handle (method : String) (arguments : Arguments) : HandlerCall :=
  match method, arguments with
  | "command", [.document (.command op), .context] => fun ctx s =>
    match op with
    | "ping" => (.ok (.message (.text "pong")), ctx, s)
    | "raw" => (.ok (.message (.text ctx.payload.content)), ctx, s)
    | other => (.error (.badRequest s!"unknown op {other}"), ctx, s)
  | _, _ => unknownMethod method

end Commands

namespace Echo

/-- The controller. -/
def declaration : Declaration where
  options := "ws = \"/echo\""
  block := [
    "impl EchoController \x7b",
    "    #[ws_message]",
    "    fn echo(&self, text: String) -> Shout \x7b\x7d",
    "\x7d"]

/-- A document that sends itself in upper-case letters. -/
def shout (text : String) : Reply where
  sending := some (Session.send (.text (upperText text)))
  document := .ok (.object [("text", .string text)])

/-- The handlers. -/
def handle (method : String) (arguments : Arguments) : HandlerCall :=
  match method, arguments with
  | "echo", [.bound (.scalar (.param (.string text)))] => returning (shout text)
  | _, _ => unknownMethod method

end Echo

end Switchyard.Sample

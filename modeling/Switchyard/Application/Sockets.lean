import Switchyard.Application.Router
import Switchyard.Socket.Connection

/-!
# Opening sockets

The handlers of a controller as an endpoint, and what becomes of a request that asks for a socket.
-/

namespace Switchyard

/-- The error of a handler whose program is stuck. -/
def HttpError.stuckHandler : HttpError := .internal "the handler is stuck"

/-- The handlers of a controller. -/
def Controller.endpoint (c : Controller) (app : Application) : Endpoint app.State := fun event =>
  (c.handlers.find? fun h => h.event == event).map fun h ctx state =>
    (c.handle? h app ctx state).getD (.error .stuckHandler, ctx, state)

/-- Opens a connection to an endpoint, unless the handshake is refused. -/
def Endpoint.connect {S : Type} (e : Endpoint S) (limit : Nat) (codec : Codec) (head : RequestHead)
    (world : World S) : Except Response (Connection S) :=
  match handshakeFault? head.method head.headers true with
  | some fault => .error fault.response
  | none => .ok (.start e limit ⟨.decode head [], codec, .empty⟩ world)

/-- Opens a connection to an application, or answers the request otherwise. There is no answer if a program is
stuck. -/
def Application.connect? (app : Application) (router : Router) (head : RequestHead) (world : World app.State) :
    Option (Except Response (Connection app.State)) :=
  let otherwise := (app.serve? router ⟨head, [], false⟩ world).map fun (response, _) => .error response
  match router.find? head.uri.path.toList with
  | none => otherwise
  | some (found, captures) =>
    match found.target? head.method with
    | some (.socket c) =>
      some ((c.endpoint app).connect (app.settings world.state).maxMessageBytes (app.codec world.state)
        { head with captures } world)
    | _ => otherwise

end Switchyard

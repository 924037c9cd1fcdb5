/-!
# Socket events

What can happen to a socket, and be handled.
-/

namespace Switchyard

/-- An event in the life of a socket. -/
inductive Event where
  | connect
  | message
  | binaryMessage
  | error
  | disconnect
  deriving DecidableEq, Repr

namespace Event

/-- Every event, in the order in which an endpoint lists them. -/
def all : List Event := [.connect, .message, .binaryMessage, .error, .disconnect]

/-- The short name of an event. -/
def label : Event → String
  | .connect => "connect"
  | .message => "message"
  | .binaryMessage => "binary_message"
  | .error => "error"
  | .disconnect => "disconnect"

/-- The name of the event as an attribute. -/
def marker (e : Event) : String := "ws_" ++ e.label

/-- The type of the context that a handler of the event may take. -/
def contextType : Event → String
  | .connect => "WsConnectContext"
  | .message => "WsMessageContext"
  | .binaryMessage => "WsBinaryMessageContext"
  | .error => "WsErrorContext"
  | .disconnect => "WsDisconnectContext"

/-- The method that gives an endpoint its handler of the event. -/
def builder (e : Event) : String := "on_" ++ e.label

/-- The event of a short name. -/
def ofLabel? (name : String) : Option Event := all.find? fun e => e.label == name

/-- The event of an attribute name. -/
def ofMarker? (name : String) : Option Event := all.find? fun e => e.marker == name

end Event

end Switchyard

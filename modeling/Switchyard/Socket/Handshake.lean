import Switchyard.Http.Error
import Switchyard.Text.Split

/-!
# Handshakes

A socket is opened by a request that asks for an upgrade in its headers. The first thing that is missing
decides how the request is refused; without a connection that can be upgraded it is refused at last.
-/

namespace Switchyard

/-- Why a handshake is refused. -/
inductive HandshakeFault where
  | method
  | connection
  | upgrade
  | version
  | key
  | notUpgradable
  deriving DecidableEq, Repr

namespace HandshakeFault

/-- The code of a refusal. -/
def status : HandshakeFault → Status
  | .method => .methodNotAllowed
  | .notUpgradable => .upgradeRequired
  | _ => .badRequest

/-- The wording of a refusal. -/
def message : HandshakeFault → String
  | .method => "Request method must be `GET`"
  | .connection => "Connection header did not include 'upgrade'"
  | .upgrade => "`Upgrade` header did not include 'websocket'"
  | .version => "`Sec-WebSocket-Version` header did not include '13'"
  | .key => "`Sec-WebSocket-Key` header missing"
  | .notUpgradable => "WebSocket request couldn't be upgraded since no upgrade state was present"

/-- The response of a refusal. -/
def response (f : HandshakeFault) : Response :=
  ⟨f.status, ⟨[(contentType, Utf8.encode "text/plain; charset=utf-8")]⟩, Utf8.encode f.message⟩

end HandshakeFault

/-- The first value of a header in lower case, if it is a text. -/
def lowerValue? (headers : Headers) (name : String) : Option String :=
  (headers.values name).head?.bind fun bytes => (Utf8.decode? bytes).map asciiLower

/-- Whether a text occurs in another. -/
def occursIn (part : List Char) : List Char → Bool
  | [] => part.isEmpty
  | c :: rest => (afterStart? part (c :: rest)).isSome || occursIn part rest

/-- Why a request does not open a socket, if it does not; `upgradable` tells whether its connection can be
handed over. -/
def handshakeFault? (method : String) (headers : Headers) (upgradable : Bool) : Option HandshakeFault :=
  if method ≠ "GET" then some .method
  else if !((lowerValue? headers "connection").any fun s => occursIn "upgrade".toList s.toList) then
    some .connection
  else if lowerValue? headers "upgrade" ≠ some "websocket" then some .upgrade
  else if lowerValue? headers "sec-websocket-version" ≠ some "13" then some .version
  else if !headers.contains "sec-websocket-key" then some .key
  else if !upgradable then some .notUpgradable
  else none

end Switchyard

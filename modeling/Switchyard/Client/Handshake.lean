import Switchyard.Http.Request

/-!
# Asking for a socket

The request with which a client opens a socket.
-/

namespace Switchyard

/-- The headers that ask for a socket. -/
def handshakeHeaders : Headers :=
  [("host", "localhost"), ("connection", "Upgrade"), ("upgrade", "websocket"), ("sec-websocket-version", "13"),
    ("sec-websocket-key", "AAAAAAAAAAAAAAAAAAAAAA==")].foldl
    (fun h (name, value) => h.append name (Utf8.encode value)) Headers.empty

/-- The head of a request for a socket, with further headers. -/
def handshakeHead (uri : Uri) (headers : Headers) : RequestHead :=
  ⟨"GET", uri, headers.entries.foldl (fun h (name, value) => h.append name value) handshakeHeaders, []⟩

end Switchyard

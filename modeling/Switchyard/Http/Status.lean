/-!
# Status codes

A status code is a number of three digits, shown with its standard reason.
-/

namespace Switchyard

/-- A status code. -/
structure Status where
  code : Nat
  deriving DecidableEq, Repr

namespace Status

/-- The standard reasons. -/
def reasons : List (Nat × String) := [
  (100, "Continue"), (101, "Switching Protocols"), (102, "Processing"), (103, "Early Hints"),
  (200, "OK"), (201, "Created"), (202, "Accepted"), (203, "Non Authoritative Information"),
  (204, "No Content"), (205, "Reset Content"), (206, "Partial Content"), (207, "Multi-Status"),
  (208, "Already Reported"), (226, "IM Used"),
  (300, "Multiple Choices"), (301, "Moved Permanently"), (302, "Found"), (303, "See Other"),
  (304, "Not Modified"), (305, "Use Proxy"), (307, "Temporary Redirect"), (308, "Permanent Redirect"),
  (400, "Bad Request"), (401, "Unauthorized"), (402, "Payment Required"), (403, "Forbidden"),
  (404, "Not Found"), (405, "Method Not Allowed"), (406, "Not Acceptable"),
  (407, "Proxy Authentication Required"), (408, "Request Timeout"), (409, "Conflict"), (410, "Gone"),
  (411, "Length Required"), (412, "Precondition Failed"), (413, "Payload Too Large"),
  (414, "URI Too Long"), (415, "Unsupported Media Type"), (416, "Range Not Satisfiable"),
  (417, "Expectation Failed"), (418, "I'm a teapot"), (421, "Misdirected Request"),
  (422, "Unprocessable Entity"), (423, "Locked"), (424, "Failed Dependency"), (425, "Too Early"),
  (426, "Upgrade Required"), (428, "Precondition Required"), (429, "Too Many Requests"),
  (431, "Request Header Fields Too Large"), (451, "Unavailable For Legal Reasons"),
  (500, "Internal Server Error"), (501, "Not Implemented"), (502, "Bad Gateway"),
  (503, "Service Unavailable"), (504, "Gateway Timeout"), (505, "HTTP Version Not Supported"),
  (506, "Variant Also Negotiates"), (507, "Insufficient Storage"), (508, "Loop Detected"),
  (510, "Not Extended"), (511, "Network Authentication Required")]

/-- The code and its reason. -/
def text (s : Status) : String :=
  let reason := (reasons.lookup s.code).getD "<unknown status code>"
  s!"{s.code} {reason}"

/-- The code blames the server. -/
def isServerError (s : Status) : Bool := 500 ≤ s.code && s.code < 600

/-- The code reports success. -/
def isSuccess (s : Status) : Bool := 200 ≤ s.code && s.code < 300

/-- The codes that results and errors carry. -/
def ok : Status := ⟨200⟩
def created : Status := ⟨201⟩
def accepted : Status := ⟨202⟩
def noContent : Status := ⟨204⟩
def found : Status := ⟨302⟩
def seeOther : Status := ⟨303⟩
def permanentRedirect : Status := ⟨308⟩
def badRequest : Status := ⟨400⟩
def unauthorized : Status := ⟨401⟩
def forbidden : Status := ⟨403⟩
def notFound : Status := ⟨404⟩
def methodNotAllowed : Status := ⟨405⟩
def gone : Status := ⟨410⟩
def payloadTooLarge : Status := ⟨413⟩
def teapot : Status := ⟨418⟩
def upgradeRequired : Status := ⟨426⟩
def internalError : Status := ⟨500⟩
def unavailable : Status := ⟨503⟩

end Status

end Switchyard

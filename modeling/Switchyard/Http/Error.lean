import Switchyard.Http.Header
import Switchyard.Http.Status
import Switchyard.Json.Codec

/-!
# Errors of a dispatch

Whatever fails while a request is handled ends up as one of these errors, which is then rendered: as its
own document, or as a document that holds the message. An error that blames the server is logged.
-/

namespace Switchyard

/-- What goes back to the client. -/
structure Response where
  status : Status
  headers : Headers
  body : Bytes
  deriving DecidableEq, Repr

/-- A line of the log. -/
abbrev LogLine := String

/-- An error of a dispatch. -/
inductive HttpError where
  | notFound (message : String)
  | unauthorized (message : String)
  | forbidden (message : String)
  | badRequest (message : String)
  | payloadTooLarge (message : String)
  | internal (message : String)
  | custom (status : Status) (body : Json)

/-- The header of a body's type. -/
def contentType : String := "content-type"

/-- A response that is a JSON document. -/
def Response.json (status : Status) (body : Json) : Response :=
  ⟨status, ⟨[(contentType, Utf8.encode "application/json")]⟩, Utf8.encodeChars body.compactChars⟩

/-- A response that is a document with a message. -/
def Response.error (status : Status) (message : String) : Response :=
  .json status (.object [("error", .string message)])

namespace HttpError

/-- The code that an error is rendered with. -/
def status : HttpError → Status
  | .notFound _ => .notFound
  | .unauthorized _ => .unauthorized
  | .forbidden _ => .forbidden
  | .badRequest _ => .badRequest
  | .payloadTooLarge _ => .payloadTooLarge
  | .internal _ => .internalError
  | .custom status _ => status

/-- The kind of an error. -/
def kind : HttpError → String
  | .notFound _ => "NotFound"
  | .unauthorized _ => "Unauthorized"
  | .forbidden _ => "Forbidden"
  | .badRequest _ => "BadRequest"
  | .payloadTooLarge _ => "PayloadTooLarge"
  | .internal _ => "Internal"
  | .custom _ _ => "Custom"

/-- The text of an error. -/
def text : HttpError → String
  | .notFound message => s!"Not Found: {message}"
  | .unauthorized message => s!"Unauthorized: {message}"
  | .forbidden message => s!"Forbidden: {message}"
  | .badRequest message => s!"Bad Request: {message}"
  | .payloadTooLarge message => s!"Payload Too Large: {message}"
  | .internal message => s!"Internal Error: {message}"
  | .custom status body => s!"Custom Error ({status.text}): {body.compact}"

/-- The rendered error. -/
def render : HttpError → Response
  | .custom status body => .json status body
  | .notFound message => .error .notFound message
  | .unauthorized message => .error .unauthorized message
  | .forbidden message => .error .forbidden message
  | .badRequest message => .error .badRequest message
  | .payloadTooLarge message => .error .payloadTooLarge message
  | .internal message => .error .internalError message

/-- What rendering an error logs. -/
def log (e : HttpError) : List LogLine :=
  if e.status.isServerError then
    [s!"ERROR request failed error={e.text} status={e.status.text}"]
  else []

/-- A codec that cannot read blames the request, one that cannot write blames the server. -/
def ofCodec : CodecError → HttpError
  | .decode reason => .badRequest s!"invalid JSON: {reason}"
  | .encode reason => .internal s!"failed to encode JSON: {reason}"

end HttpError

end Switchyard

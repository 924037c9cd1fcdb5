import Switchyard.Binding.Binder
import Switchyard.Http.Percent
import Switchyard.Http.Uri
import Switchyard.Text.Blank

/-!
# Requests

A request is decoded once: the captures of its path, the pairs of its query and its cookies, in the order
in which they came, so that a repeated key keeps every place.
-/

namespace Switchyard

/-- What arrives: method, target and headers, with the captures of the route that matched. -/
structure RequestHead where
  method : String
  uri : Uri
  headers : Headers
  /-- Captures as they stand in the path. -/
  captures : List (String × List Char)

/-- A decoded request. -/
structure Request where
  method : String
  uri : Uri
  headers : Headers
  pathParams : List (String × String)
  query : List (String × String)
  cookies : List (String × String)
  body : Bytes

/-! ## Cookies -/

/-- The cookie of one segment; a segment without an equals sign holds none. -/
def cookieOfSegment? (segment : List Char) : Option (String × String) :=
  (splitFirst? (· == '=') (trimChars isBlank segment)).map fun (name, value) =>
    (.ofList (trimChars isBlank name), .ofList (trimChars (· == '"') (trimChars isBlank value)))

/-- The cookies of one line. -/
def cookiesOfLine (line : String) : List (String × String) :=
  (splitAll (· == ';') line.toList).filterMap cookieOfSegment?

/-- The cookies of a request; a line that is no text is skipped. -/
def parseCookies (headers : Headers) : List (String × String) :=
  ((headers.values "cookie").filterMap headerText?).flatMap cookiesOfLine

/-! ## Captures -/

/-- The text of a capture, its escapes resolved. -/
def decodeCapture? (value : List Char) : Option String :=
  Utf8.decode? (percentDecode (Utf8.encodeChars value))

/-- The texts of all captures; if one is no text, none is available. -/
def decodeCaptures (captures : List (String × List Char)) : List (String × String) :=
  (captures.mapM fun c => (decodeCapture? c.2).map fun text => (c.1, text)).getD []

/-! ## Decoding -/

namespace Request

/-- Decodes a request. -/
def decode (head : RequestHead) (body : Bytes) : Request where
  method := head.method
  uri := head.uri
  headers := head.headers
  pathParams := decodeCaptures head.captures
  query := (head.uri.query.map fun q => Form.decode (Utf8.encode q)).getD []
  cookies := parseCookies head.headers
  body := body

/-- The values of a name among pairs. -/
def valuesOf (pairs : List (String × String)) (name : String) : List String :=
  (pairs.filter fun p => p.1 == name).map (·.2)

/-- The value that the path captured under a name. -/
def pathParam? (r : Request) (name : String) : Option String := r.pathParams.lookup name

/-- The values of a name in the query. -/
def queryValues (r : Request) (name : String) : List String := valuesOf r.query name

/-- The values of a header that are texts; letter case does not matter. -/
def headerValues (r : Request) (name : String) : List String :=
  match headerName? name with
  | none => []
  | some name => (r.headers.values name).filterMap headerText?

/-- The values of a cookie. -/
def cookieValues (r : Request) (name : String) : List String := valuesOf r.cookies name

/-- Occurrences of a key: none at all is not the same as an empty list. -/
def occurrences (values : List String) : Option (List (Option String)) :=
  if values.isEmpty then none else some (values.map some)

/-- The binder of a request, with the document of a message if there is one. -/
def binder (r : Request) (message : Option Json) : Binder
  | .path, key => (r.pathParam? key).map fun v => [some v]
  | .query, key => occurrences (r.queryValues key)
  | .header, key => occurrences (r.headerValues key)
  | .cookie, key => occurrences (r.cookieValues key)
  | .message, key => message.bind fun document => messageField document key

end Request

/-! ## Buffering a body -/

/-- Collects the chunks of a body after those in `read`, last to first, while `room` bytes are left. -/
def collectBody (limit room : Nat) (broken : Bool) (read : List Bytes) : List Bytes → Except HttpError Bytes
  | [] => if broken then .error (.badRequest "failed to read request body") else .ok read.reverse.flatten
  | chunk :: rest =>
    if room < chunk.length then .error (.payloadTooLarge s!"request body exceeds {limit} bytes")
    else collectBody limit (room - chunk.length) broken (chunk :: read) rest

/-- Collects a body of at most `limit` bytes; `broken` tells that the chunks end in a failure. -/
def bufferBody (limit : Nat) (chunks : List Bytes) (broken : Bool) : Except HttpError Bytes :=
  collectBody limit limit broken [] chunks

end Switchyard

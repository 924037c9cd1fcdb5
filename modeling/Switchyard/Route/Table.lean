import Switchyard.Binding.Source
import Switchyard.Json.Basic

/-!
# Route tables

What an application reports of its routes and sockets.
-/

namespace Switchyard

/-- A bound parameter of a route, as the request offers it. -/
structure ParamInfo where
  name : String
  /-- The source that is asked first on this route. -/
  source : Source
  required : Bool
  /-- The key may occur more than once. -/
  repeated : Bool
  deriving DecidableEq, Repr

/-- A route. -/
structure RouteInfo where
  method : String
  path : String
  controller : String
  action : String
  /-- The first line of the action's documentation. -/
  summary : Option String
  /-- The other lines of it. -/
  description : Option String
  params : List ParamInfo
  /-- The action reads a document from the body. -/
  jsonBody : Bool
  deriving DecidableEq, Repr

/-- A socket and the events that it handles. -/
structure EndpointInfo where
  path : String
  controller : String
  events : List String
  deriving DecidableEq, Repr

namespace ParamInfo

/-- The document of a parameter. -/
def document (p : ParamInfo) : Json :=
  .ofMembers [("name", .string p.name), ("source", .string p.source.name), ("required", .bool p.required),
    ("repeated", .bool p.repeated)]

end ParamInfo

namespace RouteInfo

/-- The document of a route. -/
def document (r : RouteInfo) : Json :=
  .ofMembers [("method", .string r.method), ("path", .string r.path), ("controller", .string r.controller),
    ("action", .string r.action), ("summary", .ofText? r.summary), ("description", .ofText? r.description),
    ("params", .array (r.params.map ParamInfo.document)), ("json_body", .bool r.jsonBody)]

end RouteInfo

namespace EndpointInfo

/-- The document of a socket. -/
def document (e : EndpointInfo) : Json :=
  .ofMembers [("path", .string e.path), ("controller", .string e.controller), ("events", .ofTexts e.events)]

end EndpointInfo

end Switchyard

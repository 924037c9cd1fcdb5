import Switchyard.Json.Printer
import Switchyard.Route.Table
import Switchyard.Text.LetterCase

/-!
# OpenAPI documents

The routes of an application as an OpenAPI document: one operation for each method of each path. The types
of values are not described, so their schemas stay open.
-/

namespace Switchyard.OpenApi

/-- The head of a document. -/
structure Config where
  title : String
  version : String
  description : Option String
  deriving Repr

/-- A path without the stars that mark what captures the rest. -/
def pathChars : List Char → List Char
  | '{' :: '*' :: rest => '{' :: pathChars rest
  | c :: rest => c :: pathChars rest
  | [] => []

/-- The path of a route in the document. -/
def pathOf (path : String) : String := .ofList (pathChars path.toList)

/-- The schema of a value: open, or a list of open ones. -/
def schema (repeated : Bool) : Json :=
  if repeated then .ofMembers [("type", .string "array"), ("items", .object [])] else .object []

/-- The document of a parameter. -/
def parameter (p : ParamInfo) : Json :=
  .ofMembers [("name", .string p.name), ("in", .string p.source.name), ("required", .bool p.required),
    ("schema", schema p.repeated)]

/-- A member that is left out when there is no value. -/
def optionalMember (name : String) (value : Option Json) : List (String × Json) :=
  value.toList.map fun v => (name, v)

/-- An object with a description alone. -/
def described (text : String) : Json := .object [("description", .string text)]

/-- The body of a request that is a document. -/
def requestBody : Json :=
  .ofMembers [("required", .bool true),
    ("content", .object [("application/json", .object [("schema", .object [])])])]

/-- The responses that every operation has. -/
def responses : Json :=
  .ofMembers [("200", described "Successful response"), ("400", described "Parameter binding failed")]

/-- The operation of a route. -/
def operation (r : RouteInfo) (id : String) : Json :=
  .ofMembers <|
    [("operationId", .string id), ("tags", .ofTexts [r.controller])]
    ++ optionalMember "summary" (r.summary.map .string)
    ++ optionalMember "description" (r.description.map .string)
    ++ (if r.params.isEmpty then [] else [("parameters", .array (r.params.map parameter))])
    ++ (if r.jsonBody then [("requestBody", requestBody)] else [])
    ++ [("responses", responses)]

/-- The name of the operation of a route of which `earlier` routes share controller and action. -/
def operationId (r : RouteInfo) (earlier : Nat) : String :=
  let base := s!"{r.controller}_{r.action}"
  if earlier = 0 then base else s!"{base}_{earlier + 1}"

/-- How many routes belong to the same action. -/
def sameAction (routes : List RouteInfo) (r : RouteInfo) : Nat :=
  routes.countP fun s => s.controller == r.controller && s.action == r.action

/-- Adds an operation to the paths; one of the same path and method is replaced. -/
def addOperation (paths : List (String × Json)) (path method : String) (op : Json) : List (String × Json) :=
  let methods := match Json.lookup? path paths with
    | some (.object methods) => methods
    | _ => []
  Json.insertMember path (.object (Json.insertMember method op methods)) paths

/-- Adds the operations of routes to the paths; `earlier` holds the routes before them. -/
def addRoutes (paths : List (String × Json)) (earlier : List RouteInfo) : List RouteInfo → List (String × Json)
  | [] => paths
  | r :: rest =>
    let op := operation r (operationId r (sameAction earlier r))
    addRoutes (addOperation paths (pathOf r.path) (lowerText r.method) op) (r :: earlier) rest

/-- The document of a route table. -/
def document (config : Config) (routes : List RouteInfo) : Json :=
  .ofMembers [("openapi", .string "3.1.0"),
    ("info", .ofMembers ([("title", .string config.title), ("version", .string config.version)]
      ++ optionalMember "description" (config.description.map .string))),
    ("paths", .object (addRoutes [] [] routes))]

end Switchyard.OpenApi

import Switchyard.Application.Router
import Switchyard.Route.OpenApi
import Switchyard.Sample.Audited
import Switchyard.Sample.Books
import Switchyard.Sample.Greeter
import Switchyard.Sample.Params
import Switchyard.Sample.Shapes
import Switchyard.Sample.Sockets

/-!
# The sample applications

Each application has some of the controllers. They share what their methods do, and the kind of their state.
-/

namespace Switchyard.Sample

/-- What the methods of all controllers do. -/
def act : MethodCall Scope Value Reply HttpContext Services := fun self name arguments =>
  match name.controller with
  | "Greeter" => Greeter.call self name.method arguments
  | "Resource" => Resource.call name.method arguments
  | "AuditedController" => Audited.call name.method arguments
  | "ShapeController" => Shapes.call name.method arguments
  | "ParamController" => Params.call name.method arguments
  | "BookController" => Books.call name.method arguments
  | "ChatController" => Rooms.call name.method arguments
  | _ => unknownMethod name.method

/-- What the handlers of all controllers do. -/
def handle : MethodCall Scope Value Reply EventContext Services := fun _ name arguments =>
  match name.controller with
  | "ChatController" => Rooms.handle name.method arguments
  | "CommandController" => Commands.handle name.method arguments
  | "EchoController" => Echo.handle name.method arguments
  | _ => unknownMethod name.method

/-- The methods of the samples as an application. -/
def application : Application where
  State := Services
  Scope := Scope
  Value := Value
  Reply := Reply
  settings s := s.settings
  codec := Services.jsonCodec
  openScope := Services.openScope
  read := readValue
  decode := decodeValue
  before := beforeCall
  after := afterCall
  act := act
  handle := handle
  execute shape reply := .ofContext (reply.execute shape)
  send shape reply := .ofContext (reply.send shape)

/-- The controllers of an application, and whether its settings can be chosen. -/
structure Suite where
  declarations : List Declaration
  configurable : Bool

/-- The sample of a name. -/
def named? : String → Option Suite
  | "greeter" => some ⟨[Greeter.declaration, Resource.declaration], true⟩
  | "audited" => some ⟨[Audited.declaration], true⟩
  | "shapes" => some ⟨[Shapes.declaration], false⟩
  | "params" => some ⟨[Params.declaration], true⟩
  | "books" => some ⟨[Books.declaration], false⟩
  | "rooms" => some ⟨[Rooms.declaration], true⟩
  | "sockets" => some ⟨[Commands.declaration, Echo.declaration], false⟩
  | _ => none

/-- The controllers of a sample. -/
def Suite.controllers? (s : Suite) : Option (List Controller) :=
  s.declarations.mapM fun d => d.controller?.toOption

/-- What a sample reports of its routes. -/
def routeTable (controllers : List Controller) : List RouteInfo := controllers.flatMap Controller.routeTable

/-- What a sample reports of its sockets. -/
def endpoints (controllers : List Controller) : List EndpointInfo :=
  controllers.filterMap Controller.endpointInfo?

/-- The router of controllers, with the document that describes them at a path. -/
def router? (controllers : List Controller) (documented : Option (String × OpenApi.Config)) : Option Router := do
  let r ← Router.ofControllers? controllers
  match documented with
  | none => return r
  | some (path, config) => r.add? path [(.get, .document (OpenApi.document config (routeTable controllers)))]

end Switchyard.Sample

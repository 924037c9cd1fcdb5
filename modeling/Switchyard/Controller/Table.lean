import Switchyard.Controller.Basic
import Switchyard.Route.Table

/-!
# Tables of a controller

What a controller reports of its routes and its socket, and what it registers with a router: every path once,
in the order of the paths, with the actions that its verbs lead to.
-/

namespace Switchyard

/-- The first line of documentation that is not empty, and the others. -/
def summaryOf (docs : List String) : Option (String × Option String) :=
  match docs.dropWhile String.isEmpty with
  | [] => none
  | summary :: rest =>
    let description := trimBlanks ("\n".intercalate rest)
    some (summary, if description.isEmpty then none else some description)

/-- The source under which a parameter is documented on a path: the path if it captures the key, else the
first other source of the plan. -/
def documentedSource (plan : BindingPlan) (path : String) : Source :=
  if captures path plan.key && plan.sources.contains .path then .path
  else (plan.sources.find? (· != .path)).getD .path

/-- How a parameter is documented on a path. -/
def paramInfo (path : String) (plan : BindingPlan) : ParamInfo :=
  ⟨plan.key, documentedSource plan path, plan.arity.isRequired, plan.arity.isRepeated⟩

/-- What is reported of a route. -/
def routeInfo (controller : String) (a : Action) (r : Route) : RouteInfo where
  method := r.verb.method
  path := r.path
  controller := controller
  action := a.name
  summary := (summaryOf a.docs).map Prod.fst
  description := (summaryOf a.docs).bind Prod.snd
  params := (a.params.filterMap Parameter.plan?).map (paramInfo r.path)
  jsonBody := a.params.any Parameter.isDocument

/-- A path and the actions that its verbs lead to. -/
structure Registration where
  path : String
  actions : List (Verb × String)
  deriving DecidableEq, Repr

/-- Puts an action to its path among registrations that are sorted by path. -/
def register (path : String) (entry : Verb × String) : List Registration → List Registration
  | [] => [⟨path, [entry]⟩]
  | r :: rest =>
    if path = r.path then { r with actions := r.actions ++ [entry] } :: rest
    else if path < r.path then ⟨path, [entry]⟩ :: r :: rest
    else r :: register path entry rest

namespace Controller

/-- The routes of a controller, as it reports them. -/
def routeTable (c : Controller) : List RouteInfo :=
  c.actions.flatMap fun a => a.routes.map (routeInfo c.name a)

/-- The verbs and paths of all actions, with the names of the actions. -/
def entries (c : Controller) : List (String × Verb × String) :=
  c.actions.flatMap fun a => a.routes.map fun r => (r.path, r.verb, a.name)

/-- What a controller registers, the socket apart. -/
def registrations (c : Controller) : List Registration :=
  c.entries.foldl (fun table e => register e.1 e.2 table) []

/-- What a controller reports of its socket. -/
def endpointInfo? (c : Controller) : Option EndpointInfo :=
  c.endpoint?.map fun path => ⟨path, c.name, c.handlers.map (·.event.label)⟩

end Controller

end Switchyard

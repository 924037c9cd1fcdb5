import Switchyard.Application.Dispatch
import Switchyard.Controller.Table
import Switchyard.Route.Template
import Switchyard.Socket.Handshake

/-!
# Routers

A router finds what a request leads to: first the path, of which the most literal counts, then the verb. A
response to a request of a known path tells its length; a request without a body in its answer is answered
as if it had one, and then the body is taken away.
-/

namespace Switchyard

/-- What a verb of a path leads to. -/
inductive Target where
  | action (controller : Controller) (action : Action)
  | socket (controller : Controller)
  | document (body : Json)

/-- A path with what its verbs lead to. -/
structure RoutedPath where
  path : String
  template : Template
  targets : List (Verb × Target)
  /-- The methods that are named to those who ask for another one. -/
  allowed : List String

/-- The paths of an application. -/
abbrev Router := List RoutedPath

/-- The methods that verbs answer to, each once: who can get can also ask for the head. -/
def allowedMethods (verbs : List Verb) : List String :=
  let methods := verbs.flatMap fun v => if v = .get then ["GET", "HEAD"] else [v.method]
  methods.foldl (fun seen m => if seen.contains m then seen else seen ++ [m]) []

/-- Adds a path with its verbs. It is refused if it is no template, if a verb is taken there, or if another
template cannot be told apart from it. -/
def Router.add? (r : Router) (path : String) (targets : List (Verb × Target)) : Option Router :=
  let allowed := allowedMethods (targets.map Prod.fst)
  let extend (p : RoutedPath) : RoutedPath :=
    if p.path = path then { p with targets := p.targets ++ targets, allowed := p.allowed ++ allowed } else p
  match Template.parse? path with
  | none => none
  | some template =>
    match r.find? fun p => p.path == path with
    | some found =>
      if targets.any fun t => found.targets.any fun u => u.1 == t.1 then none else some (r.map extend)
    | none =>
      if r.any fun p => p.template.conflicts template then none else some (r ++ [⟨path, template, targets, allowed⟩])

namespace Controller

/-- The action of a name. -/
def action? (c : Controller) (name : String) : Option Action := c.actions.find? fun a => a.name == name

/-- What the verbs of a registration lead to. -/
def targets (c : Controller) (r : Registration) : List (Verb × Target) :=
  r.actions.filterMap fun (verb, name) => (c.action? name).map fun a => (verb, .action c a)

/-- Adds what a controller registers to a router. -/
def mount? (c : Controller) (r : Router) : Option Router := do
  let r ← c.registrations.foldlM (fun r registration => r.add? registration.path (c.targets registration)) r
  match c.endpoint? with
  | some path => r.add? path [(.get, .socket c)]
  | none => return r

end Controller

/-- The router of controllers. -/
def Router.ofControllers? (controllers : List Controller) : Option Router :=
  controllers.foldlM (fun r c => c.mount? r) []

/-! ## Finding -/

/-- The more literal of two matches. -/
def preferred (a b : RoutedPath × List (String × List Char)) : RoutedPath × List (String × List Char) :=
  if b.1.template.before a.1.template then b else a

/-- The path that a request leads to, with its captures. -/
def Router.find? (r : Router) (path : List Char) : Option (RoutedPath × List (String × List Char)) :=
  match r.filterMap fun p => (p.template.match? path).map fun captures => (p, captures) with
  | [] => none
  | first :: rest => some (rest.foldl preferred first)

/-- What a method of a path leads to; the head is taken from what can be got. -/
def RoutedPath.target? (p : RoutedPath) (method : String) : Option Target :=
  let named (name : String) : Option Target := (p.targets.find? fun t => t.1.method == name).map Prod.snd
  (named method).or (if method = "HEAD" then named "GET" else none)

/-! ## Answering -/

/-- The response to a path that leads nowhere. -/
def Response.unmatched : Response := ⟨.notFound, .empty, []⟩

/-- The response to a method that a path does not have. -/
def RoutedPath.refusal (p : RoutedPath) : Response :=
  ⟨.methodNotAllowed, ⟨[("allow", Utf8.encode (",".intercalate p.allowed))]⟩, []⟩

/-- The response with its length, and without the body if the method has none. -/
def Response.finished (r : Response) (method : String) : Response :=
  if method = "CONNECT" && r.status.isSuccess then { r with body := [] }
  else
    let headers := if r.headers.contains "content-length" then r.headers
      else r.headers.append "content-length" (Utf8.encode (toString r.body.length))
    { r with headers, body := if method = "HEAD" then [] else r.body }

namespace Application

variable (app : Application)

/-- Answers from a target. -/
def answer? (target : Target) (incoming : Incoming) (world : World app.State) :
    Option (Response × World app.State) :=
  match target with
  | .action c a => c.dispatch? a app incoming world
  | .socket _ =>
    match handshakeFault? incoming.head.method incoming.head.headers false with
    | some fault => some (fault.response, world)
    | none => none
  | .document body => some (.json .ok body, world)

/-- Answers a request. There is no answer if a program is stuck. -/
def serve? (router : Router) (incoming : Incoming) (world : World app.State) :
    Option (Response × World app.State) :=
  let method := incoming.head.method
  match router.find? incoming.head.uri.path.toList with
  | none => some (.unmatched, world)
  | some (found, captures) =>
    match found.target? method with
    | none => some (found.refusal.finished method, world)
    | some target =>
      let incoming := { incoming with head := { incoming.head with captures } }
      (app.answer? target incoming world).map fun (response, world) => (response.finished method, world)

end Application

end Switchyard

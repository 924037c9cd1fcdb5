import Switchyard.Program.Words

/-!
# Generated code

What stands in place of a controller's block: the block without the attributes that were read, the programs
of its actions and handlers as functions, and the tables that it is registered by.
-/

namespace Switchyard

open Code

/-! ## The path of the library -/

/-- What is known of the package that uses the library. -/
structure Manifest where
  name : String
  /-- The packages that it depends on, with the names that it uses for them. -/
  dependencies : List (String × String)
  deriving Repr

/-- The name of a package as an identifier. -/
def packageIdentifier (name : String) : String := name.map fun c => if c = '-' then '_' else c

/-- The path of a package, if the manifest has it. -/
def Manifest.find? (m : Manifest) (package : String) : Option Pieces :=
  if m.name = package then some ["crate"]
  else (m.dependencies.lookup package).map fun name => [":", ":", packageIdentifier name]

/-- The path of the library: of the whole package, else of its core; without either it is that of the core. -/
def libraryPath (m : Option Manifest) : Pieces :=
  let found := m.bind fun m => (m.find? "axmvc").or (m.find? "axmvc-core")
  found.getD [":", ":", "axmvc_core"]

/-! ## Functions -/

namespace Controller

/-- The name of an action's function. -/
def actionFunction (c : Controller) (action : String) : String :=
  s!"__axmvc_{plainName c.name}_{plainName action}"

/-- The name of the function that opens the socket. -/
def endpointFunction (c : Controller) : String := s!"__axmvc_ws_{plainName c.name}"

/-- The name of an event's function. -/
def eventFunction (c : Controller) (e : Event) : String := s!"{c.endpointFunction}_{e.label}"

/-- What the code of a method refers to. -/
def scope (c : Controller) (root : Pieces) (method : String) : Scope :=
  { root, state := c.state, type := c.type.pieces, controller := c.name, method }

/-- The head of a function that takes the state and a request. -/
def functionHead (s : Scope) (name : String) : List Word :=
  say "# [ allow ( non_snake_case ) ] async fn" ++ [.text name, .text "("]
    ++ s.path "http : : State (" ++ [.bind .state] ++ say ") :" ++ s.path "http : : State <" ++ quote s.state
    ++ say "> ," ++ [.bind .request] ++ say ":" ++ s.path "http : : Request , ) - >" ++ s.path "http : : Response"

/-- The function of an action. -/
def actionWords (c : Controller) (root : Pieces) (a : Action) : List Word :=
  let s := c.scope root a.name
  functionHead s (c.actionFunction a.name) ++ say "\x7b" ++ (c.actionProgram a).flatMap (actionStepWords s) ++ say "\x7d"

/-- The function of a handler. -/
def handlerWords (c : Controller) (root : Pieces) (h : Handler) : List Word :=
  let s := c.scope root h.name
  say "# [ allow ( non_snake_case ) ] async fn" ++ [.text (c.eventFunction h.event), .text "(", .bind .state,
      .text ":"] ++ quote c.state ++ say "," ++ [.bind .context] ++ say ":" ++ s.path ("ws : : " ++ h.event.contextType)
    ++ say ", ) - > : : core : : result : : Result < ( ) ," ++ s.path "error : : HttpError > \x7b"
    ++ (c.handlerProgram h).flatMap (handlerStepWords s) ++ say "\x7d"

/-- The functions of the socket's events and the function that opens it. -/
def endpointWords (c : Controller) (root : Pieces) : List Word :=
  if c.endpoint?.isNone then []
  else
    let s := c.scope root ""
    c.handlers.flatMap (c.handlerWords root)
      ++ functionHead s c.endpointFunction ++ say "\x7b" ++ s.path "ws : : WsEndpoint : : <" ++ quote c.state
      ++ say "> : : new ( )"
      ++ c.handlers.flatMap (fun h =>
        say "." ++ [.text h.event.builder, .text "(", .text (c.eventFunction h.event), .text ")"])
      ++ say ". accept (" ++ [.use .state, .text ",", .use .request] ++ say ") . await \x7d"

/-! ## Tables -/

/-- A text that may be missing. -/
def optionWords : Option String → List Word
  | some text => say ": : core : : option : : Option : : Some (" ++ [.text (literal text), .text ")"]
  | none => say ": : core : : option : : Option : : None"

/-- The code of a documented parameter. -/
def paramInfoWords (s : Scope) (p : ParamInfo) : List Word :=
  s.path "meta : : ParamInfo : : new (" ++ [.text (literal p.name), .text ","] ++ sourceWords s p.source
    ++ say "," ++ [.text (toString p.required), .text ",", .text (toString p.repeated), .text ")"]

/-- The code of a reported route. -/
def routeInfoWords (s : Scope) (r : RouteInfo) : List Word :=
  s.path "meta : : RouteInfo : : new ("
    ++ between [.text ","] ([r.method, r.path, r.controller, r.action].map fun t => [.text (literal t)])
    ++ say ")"
    ++ (if r.summary.isSome then
      say ". with_docs (" ++ optionWords r.summary ++ say "," ++ optionWords r.description ++ say ")" else [])
    ++ (if r.params.isEmpty then []
      else say ". with_params ( vec ! [" ++ between [.text ","] (r.params.map (paramInfoWords s)) ++ say "] )")
    ++ (if r.jsonBody then say ". with_json_body ( )" else [])

/-- The code of a registration. -/
def registrationWords (c : Controller) (s : Scope) (r : Registration) : List Word :=
  let entry (e : Verb × String) : List Word :=
    s.path ("http : : routing : : MethodFilter : : " ++ e.1.method) ++ say ","
      ++ [.text (c.actionFunction e.2)]
  match r.actions with
  | [] => []
  | first :: rest =>
    say ". route (" ++ [.text (literal r.path), .text ","] ++ s.path "http : : routing : : on (" ++ entry first
      ++ say ")" ++ rest.flatMap (fun e => say ". on (" ++ entry e ++ say ")") ++ say ")"

/-- The code that registers a controller and reports what it has. -/
def tableWords (c : Controller) (root : Pieces) : List Word :=
  let s := c.scope root ""
  say "impl" ++ s.path "controller : : Controller <" ++ quote c.state ++ say "> for" ++ quote c.type.pieces
    ++ say "\x7b fn routes ( ) - >" ++ s.path "http : : Router <" ++ quote c.state ++ say "> \x7b"
    ++ s.path "http : : Router : : new ( )" ++ c.registrations.flatMap (c.registrationWords s)
    ++ (match c.endpoint? with
      | some path => say ". route (" ++ [.text (literal path), .text ","] ++ s.path "http : : routing : : get ("
          ++ [.text c.endpointFunction] ++ say ") )"
      | none => [])
    ++ say "\x7d fn route_table ( ) - > : : std : : vec : : Vec <" ++ s.path "meta : : RouteInfo > \x7b vec ! ["
    ++ between [.text ","] (c.routeTable.map (routeInfoWords s)) ++ say "] \x7d"
    ++ say "fn endpoint ( ) - > : : core : : option : : Option <" ++ s.path "meta : : EndpointInfo > \x7b"
    ++ (match c.endpointInfo? with
      | some e => say ": : core : : option : : Option : : Some (" ++ s.path "meta : : EndpointInfo : : new ("
          ++ [.text (literal e.path), .text ",", .text (literal e.controller)] ++ say ", vec ! ["
          ++ between [.text ","] (e.events.map fun t => [.text (literal t)]) ++ say "] , ) )"
      | none => optionWords none)
    ++ say "\x7d \x7d"

/-- All that is generated for a controller. -/
def output (c : Controller) (root : Pieces) : List Word :=
  quote c.block.pieces ++ c.actions.flatMap (c.actionWords root) ++ c.endpointWords root ++ c.tableWords root

end Controller

/-! ## Sections -/

/-- Cuts pieces after every group in braces that is in no other group; `read` holds the pieces of the section
so far, last to first. -/
def sectionsFrom (depth : Nat) (read : Pieces) : Pieces → List Pieces
  | [] => if read.isEmpty then [] else [read.reverse]
  | p :: rest =>
    if ["(", "[", "\x7b"].contains p then sectionsFrom (depth + 1) (p :: read) rest
    else if p = "\x7d" ∧ depth = 1 then (p :: read).reverse :: sectionsFrom 0 [] rest
    else if [")", "]", "\x7d"].contains p then sectionsFrom (depth - 1) (p :: read) rest
    else sectionsFrom depth (p :: read) rest

/-- The sections of code. -/
def sections (pieces : Pieces) : List Pieces := sectionsFrom 0 [] pieces

/-- The sections that are generated for a controller. -/
def Controller.sections (c : Controller) (root : Pieces) : List Pieces :=
  Switchyard.sections ((c.output root).map Word.piece)

end Switchyard

import Switchyard.Controller.Basic

/-!
# From blocks to controllers

The attributes of a block and of its methods say which methods answer what. Reading goes on after a problem,
so that all problems of a block are reported together; a controller results only if there is none.
-/

namespace Switchyard

open Code

/-! ## Attributes -/

/-- The verb of an attribute. -/
def verbOf? (a : Attribute) : Option Verb := a.name?.bind Verb.ofMarker?

/-- The event of an attribute. -/
def eventOf? (a : Attribute) : Option Event := a.name?.bind Event.ofMarker?

/-- Whether an attribute declares an interceptor. -/
def isInterceptor (a : Attribute) : Bool := a.isNamed "before" || a.isNamed "after"

/-- Whether an attribute is about routing. -/
def isRouting (a : Attribute) : Bool :=
  (verbOf? a).isSome || (eventOf? a).isSome || isInterceptor a || a.isNamed "action"

/-- The lines of a text, without the ends that mark them. -/
def textLines (s : String) : List String :=
  let segments := splitAll (· == '\n') s.toList
  let segments := if segments.getLast? == some [] then segments.dropLast else segments
  segments.map fun line => .ofList ((beforeEnd? ['\r'] line).getD line)

/-- The lines of documentation. -/
def docLines (attributes : List Attribute) : List String :=
  (attributes.filter (·.isNamed "doc")).flatMap fun a =>
    match a.text? with
    | some text => (textLines text).map trimBlanks
    | none => []

/-- The interceptor of an attribute. -/
def interceptorOf (a : Attribute) : Except Problem Interceptor :=
  match a.arguments takeExpr with
  | .error f => .error (.ofFault f)
  | .ok e =>
    match e.form with
    | .assignment (.name "inject") value position =>
      match value with
      | .name accessor => .ok (.injected accessor)
      | _ => .error ⟨.notAnAccessor, position⟩
    | _ => .ok (.made (Token.piecesOf e.tokens))

/-- The interceptors of a name; a problem with one of them leaves none. -/
def interceptorsOf (attributes : List Attribute) (name : String) : List Problem × List Interceptor :=
  match (attributes.filter (·.isNamed name)).mapM interceptorOf with
  | .ok list => ([], list)
  | .error p => ([p], [])

/-- The template of a route; without one the route is the root. -/
def templateOf (a : Attribute) : Except Problem String :=
  match a.content with
  | .bare => .ok "/"
  | _ =>
    match a.arguments takeString with
    | .error f => .error (.ofFault f)
    | .ok (text, p) =>
      if text.isEmpty || startsWithSlash text then .ok text else .error ⟨.relativeTemplate, p⟩

/-- The route of an attribute. -/
def routeOf? (base : String) (a : Attribute) : Option (Except Problem Route) :=
  (verbOf? a).map fun verb =>
    (templateOf a).map fun template => ⟨verb, joinPath base template, a.position⟩

/-! ## Methods -/

/-- What the attributes of a method say. -/
structure Annotations where
  routes : List Route
  /-- The events, and where they are declared. -/
  events : List (Event × Position)
  /-- The result is declared to execute itself. -/
  marked : Bool
  docs : List String
  before : List Interceptor
  after : List Interceptor

/-- What attributes say, and what is wrong with them. -/
def annotationsOf (base : String) (attributes : List Attribute) : List Problem × Annotations :=
  let (wrongRoutes, routes) := sortOut (attributes.filterMap (routeOf? base))
  let (wrongBefore, before) := interceptorsOf attributes "before"
  let (wrongAfter, after) := interceptorsOf attributes "after"
  (wrongRoutes ++ wrongBefore ++ wrongAfter,
    { routes
      events := attributes.filterMap fun a => (eventOf? a).map (·, a.position)
      marked := attributes.any (·.isNamed "action")
      docs := docLines attributes
      before, after })

/-- What is wrong with the signature of a handler. -/
def signatureProblems (s : Signature) : List Problem :=
  (match s.generics.head? with
    | some t => [⟨.genericHandler, t.position⟩]
    | none => []) ++
  (if s.hasReceiver then [] else [⟨.noReceiver, s.namePosition⟩])

/-- A method without the attributes that say how its parameters are filled. -/
def withoutBindings (m : Method) : Method :=
  let strip (i : Input) : Input :=
    match i.kind with
    | .value .. => { i with attributes := i.attributes.filter (!Binding.isBinding ·) }
    | _ => i
  { m with signature := { m.signature with inputs := m.signature.inputs.map strip } }

/-- What the methods of a block have in common. -/
structure Setting where
  base : String
  socketPath : Option String
  before : List Interceptor
  after : List Interceptor

/-- What has been read of a block. -/
structure Progress where
  problems : List Problem := []
  actions : List Action := []
  handlers : List Handler := []
  members : List Member := []

namespace Progress

/-- Notes problems. -/
def note (p : Progress) (problems : List Problem) : Progress := { p with problems := p.problems ++ problems }

/-- Keeps a member of the block. -/
def keep (p : Progress) (m : Member) : Progress := { p with members := p.members ++ [m] }

/-- Reads a handler of an event. -/
def addHandler (p : Progress) (setting : Setting) (m : Method) (marked : Bool) (event : Event)
    (position : Position) : Progress :=
  match setting.socketPath with
  | none => (p.note [⟨.noSocketPath event, position⟩]).keep (.method m)
  | some path =>
    if p.handlers.any (·.event == event) then (p.note [⟨.secondHandler event, position⟩]).keep (.method m)
    else
      let s := m.signature
      let (wrong, params) := sortOut (parametersOf (.event event path) false s.inputs)
      let p := (p.note wrong).keep (.method (withoutBindings m))
      match classify s.result s.isAsync .handler marked with
      | .error e => p.note [e]
      | .ok returns => { p with handlers := p.handlers ++ [⟨event, s.name, params, returns⟩] }

/-- Reads an action. -/
def addAction (p : Progress) (setting : Setting) (m : Method) (a : Annotations) : Progress :=
  let s := m.signature
  let (wrong, params) := sortOut (parametersOf (.action (a.routes.map Route.path)) false s.inputs)
  let p := (p.note wrong).keep (.method (withoutBindings m))
  match classify s.result s.isAsync .action a.marked with
  | .error e => p.note [e]
  | .ok returns =>
    { p with actions := p.actions ++
        [⟨s.name, a.docs, a.routes, params, returns, setting.before ++ a.before, setting.after ++ a.after⟩] }

/-- Reads a method. -/
def addMethod (p : Progress) (setting : Setting) (m : Method) : Progress :=
  let (wrong, a) := annotationsOf setting.base m.attributes
  let p := p.note wrong
  let m := { m with attributes := m.attributes.filter (!isRouting ·) }
  let place := m.signature.namePosition
  let intercepted := !a.before.isEmpty || !a.after.isEmpty
  match a.events with
  | [] =>
    if a.routes.isEmpty then
      (if a.marked || intercepted then p.note [⟨.unrouted, place⟩] else p).keep (.method m)
    else (p.note (signatureProblems m.signature)).addAction setting m a
  | (event, position) :: others =>
    let p := p.note (signatureProblems m.signature)
    let p := if a.routes.isEmpty then p else p.note [⟨.bothKinds, place⟩]
    let p := match others with
      | (_, second) :: _ => p.note [⟨.manyEvents, second⟩]
      | [] => p
    let p := if intercepted then p.note [⟨.interceptedHandler, place⟩] else p
    p.addHandler setting m a.marked event position

/-- Reads a member of the block. -/
def addMember (p : Progress) (setting : Setting) (m : Member) : Progress :=
  match m with
  | .method method => p.addMethod setting method
  | .other _ => p.keep m

end Progress

/-! ## Blocks -/

/-- The routes whose verb and path occur before. -/
def repeatedRoutes : (seen : List (Verb × String)) → List Route → List Problem
  | _, [] => []
  | seen, r :: rest =>
    if seen.contains (r.verb, r.path) then
      ⟨.duplicateRoute r.verb r.path, r.position⟩ :: repeatedRoutes seen rest
    else repeatedRoutes ((r.verb, r.path) :: seen) rest

/-- What is wrong with the path of the socket. -/
def socketProblems (socket : Option PlacedPath) (path : Option String) (actions : List Action)
    (handlers : List Handler) : List Problem :=
  match socket, path with
  | some placed, some path =>
    let taken := (actions.flatMap Action.routes).any fun r => r.verb == .get && r.path == path
    if !handlers.isEmpty && taken then [⟨.socketCollision path, placed.position⟩] else []
  | _, _ => []

namespace Controller

/-- The controller that a block declares under its options, or all that is wrong with it. -/
def ofBlock (options : Options) (b : Block) : Except (List Problem) Controller :=
  match b.trait, b.generics, b.type.name? with
  | some position, _, _ => .error [⟨.traitBlock, position⟩]
  | none, some position, _ => .error [⟨.genericController, position⟩]
  | none, none, none => .error [⟨.unnamedType, b.type.position⟩]
  | none, none, some name =>
    let base := options.base.getD ""
    let socketPath := options.socket.map fun placed => joinPath base placed.path
    let (wrongBefore, before) := interceptorsOf b.attributes "before"
    let (wrongAfter, after) := interceptorsOf b.attributes "after"
    let setting : Setting := { base, socketPath, before, after }
    let start : Progress := { problems := wrongBefore ++ wrongAfter }
    let p := b.members.foldl (fun p m => p.addMember setting m) start
    let problems := p.problems ++ repeatedRoutes [] (p.actions.flatMap Action.routes)
      ++ socketProblems options.socket socketPath p.actions p.handlers
    if problems.isEmpty then
      .ok { name, type := b.type, state := options.state.getD ["(", ")"], inject := options.inject, socketPath
            actions := p.actions, handlers := p.handlers
            block := { b with
              attributes := b.attributes.filter (!isInterceptor ·)
              members := p.members } }
    else .error problems

/-- Why texts are no controller. -/
inductive ReadError where
  /-- A text is not made of tokens, or the tokens are no block. -/
  | unreadable
  | problems (list : List Problem)

/-- The controller that two texts declare: the options, and the block. -/
def ofTexts (options block : String) : Except ReadError Controller :=
  match tokenize? options, readText? takeImpl block with
  | some tokens, some b =>
    match Options.ofTokens tokens with
    | .error p => .error (.problems [p])
    | .ok options =>
      match ofBlock options b with
      | .error list => .error (.problems list)
      | .ok c => .ok c
  | _, _ => .error .unreadable

end Controller

end Switchyard

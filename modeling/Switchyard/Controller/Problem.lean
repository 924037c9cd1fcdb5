import Switchyard.Binding.Plan
import Switchyard.Code.Reader
import Switchyard.Route.Verb

/-!
# Problems of a controller

Why a block of methods is no controller, and where. All problems of a block are collected, so that one run
shows them together.
-/

namespace Switchyard

/-- What an action or a handler answers. -/
inductive HandlerKind where
  | action
  | handler
  deriving DecidableEq, Repr

namespace HandlerKind

/-- The other kind. -/
def other : HandlerKind → HandlerKind
  | .action => .handler
  | .handler => .action

/-- The trait of results that execute themselves. -/
def trait : HandlerKind → String
  | .action => "ActionResult"
  | .handler => "WsActionResult"

/-- The types of results that are known to execute themselves. -/
def results : HandlerKind → List String
  | .action => ["JsonResult", "ContentResult", "StatusCodeResult", "RedirectResult"]
  | .handler => ["WsJsonResult", "WsTextResult", "WsBinaryResult"]

/-- The name of a kind in a message. -/
def label : HandlerKind → String
  | .action => "an HTTP action"
  | .handler => "a WebSocket handler"

end HandlerKind

/-- Why a block is no controller. -/
inductive Cause where
  /-- Tokens that do not fit; the wording is the reader's. -/
  | reading (message : String)
  | unknownOption
  | relativePath
  | relativeTemplate
  | traitBlock
  | genericController
  | unnamedType
  | notAnAccessor
  | unrouted
  | genericHandler
  | noReceiver
  | typedReceiver
  | bothKinds
  | manyEvents
  | interceptedHandler
  | noSocketPath (event : Event)
  | secondHandler (event : Event)
  | duplicateRoute (verb : Verb) (path : String)
  | socketCollision (path : String)
  | noSource
  | unknownSource
  | plan (error : PlanError)
  | secondContext
  | otherContext (event : Event)
  | borrowed
  | anonymousType
  | ownedContext
  | noDocument
  | pattern
  | notBound
  | asyncFuture
  | nestedFuture
  | fallibleFuture
  | traitObject
  | never
  | otherKind (name : String) (kind : HandlerKind)
  | otherTrait (kind : HandlerKind)
  deriving Repr

/-- The wording of a cause. -/
def Cause.message : Cause → String
  | .reading message => message
  | .unknownOption => "unknown `routes` argument; expected `state`, `path`, `inject` or `ws`"
  | .relativePath => "paths must start with `/`"
  | .relativeTemplate => "route templates must start with `/`"
  | .traitBlock => "#[routes] goes on an inherent impl block"
  | .genericController => "#[routes] does not support generic controllers"
  | .unnamedType => "#[routes] expects an impl block for a named type"
  | .notAnAccessor => "`inject` expects the name of an injector accessor"
  | .unrouted =>
    "#[action], #[before] and #[after] need a route or WebSocket attribute on the same method"
  | .genericHandler => "handlers cannot be generic"
  | .noReceiver => "handlers must take `self`, `&self` or `&mut self`"
  | .typedReceiver => "handlers take `self`, `&self` or `&mut self`"
  | .bothKinds => "a method cannot be both an HTTP action and a WebSocket handler"
  | .manyEvents => "a method handles at most one WebSocket event"
  | .interceptedHandler => "interceptors are not supported on WebSocket handlers"
  | .noSocketPath event => s!"#[{event.marker}] requires a socket path: #[routes(ws = \"/...\")]"
  | .secondHandler event => s!"duplicate #[{event.marker}] handler; at most one per controller"
  | .duplicateRoute verb path => s!"duplicate route: {verb.method} {path}"
  | .socketCollision path => s!"socket path {path} collides with a GET route"
  | .noSource => "expected a value source"
  | .unknownSource =>
    "unknown value source; expected one of `any`, `path`, `query`, `header`, `cookie`, `message`"
  | .plan error => error.message
  | .secondContext => "at most one `HttpContext` parameter is allowed"
  | .otherContext event => s!"#[{event.marker}] handlers take `&{event.contextType}`"
  | .borrowed =>
    "binder unavailable for this parameter type; borrowed parameters must be "
      ++ "`&HttpContext`/`&mut HttpContext` in HTTP actions, or `&WsSession` and the event's context in "
      ++ "WebSocket handlers"
  | .anonymousType => "binder unavailable for `impl Trait` parameters"
  | .ownedContext => "context parameters must be taken by reference"
  | .noDocument => "#[from_json] is only available in HTTP actions and #[ws_message] handlers"
  | .pattern => "binder unavailable for pattern parameters; name the value with #[named(\"key\")]"
  | .notBound => "#[from] and #[named] only apply to bound parameters"
  | .asyncFuture => "an `async fn` cannot return `impl Future`; nested futures are not supported"
  | .nestedFuture => "nested futures are not supported"
  | .fallibleFuture =>
    "`Result<impl Future, _>` is not supported; return `impl Future<Output = Result<_, _>>` instead"
  | .traitObject =>
    "trait objects cannot be returned from handlers; return a concrete type or `impl ActionResult`"
  | .never => "handlers must return a value"
  | .otherKind name kind => s!"`{name}` cannot be returned from {kind.label}"
  | .otherTrait kind => s!"unsupported `impl Trait` result; expected `impl {kind.trait}` or a concrete type"

/-- A cause and its place. -/
structure Problem where
  cause : Cause
  position : Code.Position
  deriving Repr

namespace Problem

/-- The problem of a fault; without a place it is at the start of the text. -/
def ofFault (f : Code.Fault) : Problem := ⟨.reading f.message, f.position.getD .start⟩

/-- The wording of a problem. -/
def message (p : Problem) : String := p.cause.message

end Problem

/-- Puts problems on one side and results on the other, each in order. -/
def sortOut {α : Type} : List (Except Problem α) → List Problem × List α
  | [] => ([], [])
  | .error p :: rest => let (problems, results) := sortOut rest; (p :: problems, results)
  | .ok a :: rest => let (problems, results) := sortOut rest; (problems, a :: results)

end Switchyard

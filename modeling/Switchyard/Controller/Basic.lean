import Switchyard.Code.Block
import Switchyard.Controller.Parameter
import Switchyard.Controller.Returns

/-!
# Controllers

A controller is a type whose methods answer requests and socket events: its actions with their routes and
interceptors, and at most one handler of each event of its socket.
-/

namespace Switchyard

open Code

/-- What runs before or after an action. -/
inductive Interceptor where
  /-- It is made by an expression. -/
  | made (expression : Pieces)
  /-- It is obtained from the injector. -/
  | injected (accessor : String)
  deriving DecidableEq, Repr

/-- Whether an interceptor is obtained from the injector. -/
def Interceptor.isInjected : Interceptor → Bool
  | .injected _ => true
  | .made _ => false

/-- A verb and a path that lead to an action. -/
structure Route where
  verb : Verb
  /-- The path, the controller's prefix included. -/
  path : String
  position : Position
  deriving DecidableEq, Repr

/-- A method that answers requests. -/
structure Action where
  name : String
  /-- The lines of the documentation. -/
  docs : List String
  routes : List Route
  params : List Parameter
  returns : Returns
  before : List Interceptor
  after : List Interceptor

namespace Action

/-- Whether some interceptor is obtained from the injector. -/
def needsInjector (a : Action) : Bool := (a.before ++ a.after).any Interceptor.isInjected

end Action

/-- A method that handles a socket event. -/
structure Handler where
  event : Event
  name : String
  params : List Parameter
  returns : Returns

/-- A controller. -/
structure Controller where
  name : String
  type : TypeExpr
  /-- The type of the application's state. -/
  state : Pieces
  /-- The accessor that the controller is obtained from; else it is the default of its type. -/
  inject : Option String
  /-- The path of the socket, the prefix included. -/
  socketPath : Option String
  actions : List Action
  handlers : List Handler
  /-- The block without the attributes that were read. -/
  block : Block

namespace Controller

/-- The routes of all actions, in order. -/
def routes (c : Controller) : List Route := c.actions.flatMap Action.routes

/-- The path at which the controller has a socket. -/
def endpoint? (c : Controller) : Option String := if c.handlers.isEmpty then none else c.socketPath

end Controller

end Switchyard

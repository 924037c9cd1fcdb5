import Switchyard.Binding.Source
import Switchyard.Route.Path
import Switchyard.Socket.Event

/-!
# Plans

A plan is the list of sources in which a key is looked up. It follows from what the parameter asks for and
from where the handler is mounted: the path takes part only if a template captures the key, and the message
only where there is one.
-/

namespace Switchyard

/-- What a parameter asks for. -/
inductive Constraint where
  | any
  | source (source : Source)
  deriving DecidableEq, Repr

/-- The constraint of a name. -/
def Constraint.ofName? (name : String) : Option Constraint :=
  if name = "any" then some .any else (Source.ofName? name).map .source

/-- Where a handler is mounted. -/
inductive Mount where
  /-- An action, with the paths of its routes. -/
  | action (paths : List String)
  /-- A handler of a socket event, with the path of the socket. -/
  | event (event : Event) (path : String)
  deriving Repr

namespace Mount

/-- The paths that lead to a handler. -/
def paths : Mount → List String
  | .action paths => paths
  | .event _ path => [path]

/-- Whether a message is at hand. -/
def hasMessage : Mount → Bool
  | .event .message _ => true
  | _ => false

end Mount

/-- Why a constraint has no plan. -/
inductive PlanError where
  | notCaptured (key path : String)
  | noMessage
  deriving DecidableEq, Repr

/-- The wording of an error. -/
def PlanError.message : PlanError → String
  | .notCaptured key path => s!"`{key}` is bound from the path, but `{path}` has no `\x7b{key}\x7d` segment"
  | .noMessage => "`message` values are only available in #[ws_message] handlers"

/-- The plan of a key under a constraint. -/
def resolve (constraint : Constraint) (key : String) (mount : Mount) : Except PlanError (List Source) :=
  match constraint with
  | .any =>
    if mount.hasMessage then .ok [.message]
    else
      let captured := mount.paths.any fun path => captures path key
      .ok (if captured then [.path, .query, .header, .cookie] else [.query, .header, .cookie])
  | .source .path =>
    match mount.paths.find? fun path => !captures path key with
    | some path => .error (.notCaptured key path)
    | none => .ok [.path]
  | .source .message => if mount.hasMessage then .ok [.message] else .error .noMessage
  | .source s => .ok [s]

end Switchyard

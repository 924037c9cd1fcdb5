/-!
# Verbs

The request methods that an action can be mounted with.
-/

namespace Switchyard

/-- A request method. -/
inductive Verb where
  | get
  | post
  | put
  | delete
  | patch
  | head
  | options
  | trace
  | connect
  deriving DecidableEq, Repr

namespace Verb

/-- Every verb. -/
def all : List Verb := [.get, .post, .put, .delete, .patch, .head, .options, .trace, .connect]

/-- The name of the verb as an attribute. -/
def marker : Verb → String
  | .get => "get"
  | .post => "post"
  | .put => "put"
  | .delete => "delete"
  | .patch => "patch"
  | .head => "head"
  | .options => "options"
  | .trace => "trace"
  | .connect => "connect"

/-- The name of the verb in a request. -/
def method : Verb → String
  | .get => "GET"
  | .post => "POST"
  | .put => "PUT"
  | .delete => "DELETE"
  | .patch => "PATCH"
  | .head => "HEAD"
  | .options => "OPTIONS"
  | .trace => "TRACE"
  | .connect => "CONNECT"

/-- The verb of an attribute name. -/
def ofMarker? (name : String) : Option Verb := all.find? fun v => v.marker == name

/-- The verb of a request method. -/
def ofMethod? (name : String) : Option Verb := all.find? fun v => v.method == name

end Verb

end Switchyard

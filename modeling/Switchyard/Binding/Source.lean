/-!
# Sources of values

A value that is bound to a parameter comes from one of five places.
-/

namespace Switchyard

/-- Where a value is looked up. -/
inductive Source where
  | path
  | query
  | header
  | cookie
  /-- A member of the document that a socket message holds. -/
  | message
  deriving DecidableEq, Repr

namespace Source

/-- The name of a source. -/
def name : Source → String
  | .path => "path"
  | .query => "query"
  | .header => "header"
  | .cookie => "cookie"
  | .message => "message"

/-- Every source. -/
def all : List Source := [.path, .query, .header, .cookie, .message]

/-- The source of a name. -/
def ofName? (name : String) : Option Source := all.find? fun s => s.name == name

end Source

end Switchyard

import Switchyard.Code.Token

/-!
# Types

What is written where a type is expected, as far as routing looks into it. Every type keeps the tokens that
it is written with.
-/

namespace Switchyard.Code

mutual

/-- A type, as it is written. -/
inductive TypeExpr where
  | mk (tokens : List Token) (form : TypeForm)

/-- The outermost form of a type. There is none for a group without delimiters, which no text has. -/
inductive TypeForm where
  /-- A name with its path; not one that is qualified by a type. -/
  | path (segments : List Segment)
  | tuple (elements : List TypeExpr)
  | parens (inner : TypeExpr)
  | reference (isMut : Bool) (target : TypeExpr)
  | never
  /-- A trait object. -/
  | object
  /-- Some type that satisfies bounds. -/
  | some (bounds : List Bound)
  | other

/-- A name of a path with its arguments. -/
inductive Segment where
  | mk (name : String) (arguments : Arguments)

/-- The arguments of a name. -/
inductive Arguments where
  | none
  | angled (arguments : List Argument)
  /-- The arguments and the result of a function bound. -/
  | call

/-- An argument between angle brackets. -/
inductive Argument where
  | type (type : TypeExpr)
  /-- An associated type. -/
  | member (name : String) (type : TypeExpr)
  | other

/-- A bound. -/
inductive Bound where
  | trait (segments : List Segment)
  | other

end

namespace Segment

/-- The name of a segment. -/
def name : Segment → String
  | .mk s _ => s

/-- The arguments of a segment. -/
def arguments : Segment → Arguments
  | .mk _ a => a

end Segment

namespace Argument

/-- The type that an argument is. -/
def type? : Argument → Option TypeExpr
  | .type t => some t
  | _ => none

end Argument

namespace Bound

/-- The last name of a bound. -/
def segment? : Bound → Option Segment
  | .trait segments => segments.getLast?
  | .other => none

end Bound

namespace TypeExpr

/-- The tokens of a type. -/
def tokens : TypeExpr → List Token
  | .mk ts _ => ts

/-- The form of a type. -/
def form : TypeExpr → TypeForm
  | .mk _ f => f

/-- The pieces of a type. -/
def pieces (t : TypeExpr) : Pieces := Token.piecesOf t.tokens

/-- Where a type starts. -/
def position (t : TypeExpr) : Position :=
  match t.tokens with
  | first :: _ => first.position
  | [] => .start

/-- The last name of a type that is a path. -/
def segment? (t : TypeExpr) : Option Segment :=
  match t.form with
  | .path segments => segments.getLast?
  | _ => none

/-- The name of a type that is a path. -/
def name? (t : TypeExpr) : Option String := t.segment?.map Segment.name

/-- The first type among the arguments of a type with one of some names. -/
def argument? (names : List String) (t : TypeExpr) : Option TypeExpr :=
  match t.segment? with
  | some (.mk name (.angled arguments)) =>
    if names.contains name then arguments.findSome? Argument.type? else none
  | _ => none

end TypeExpr

end Switchyard.Code

import Switchyard.Number.Floating

/-!
# JSON values

A number is an integer of 64 bits, signed or not, or else a floating-point value. The members of an
object stand in ascending order of their names, and a name occurs once.
-/

namespace Switchyard

/-- A JSON value. -/
inductive Json where
  | null
  | bool (b : Bool)
  | integer (n : Int)
  | real (x : Binary64)
  | string (s : String)
  | array (items : List Json)
  | object (members : List (String × Json))
  deriving Inhabited

namespace Json

/-! ## Members -/

/-- Sets a member in its place; a member of the same name is replaced. -/
def insertMember (name : String) (value : Json) : List (String × Json) → List (String × Json)
  | [] => [(name, value)]
  | (n, v) :: rest =>
    if name < n then (name, value) :: (n, v) :: rest
    else if name = n then (name, value) :: rest
    else (n, v) :: insertMember name value rest

/-- The object with the given members; of two with one name the later counts. -/
def ofMembers (members : List (String × Json)) : Json :=
  .object (members.foldl (fun ms (name, value) => insertMember name value ms) [])

/-- The value of a member. -/
def lookup? (name : String) : List (String × Json) → Option Json
  | [] => none
  | (n, v) :: rest => if n = name then some v else lookup? name rest

/-- The member of an object. -/
def member? (name : String) : Json → Option Json
  | .object members => lookup? name members
  | _ => none

/-- The member of an object, null where there is none. -/
def get (name : String) (v : Json) : Json := (v.member? name).getD .null

/-! ## Equality -/

mutual

/-- Whether two values are equal; numbers are compared as they are held, floating-point ones by value. -/
def same : Json → Json → Bool
  | .null, .null => true
  | .bool a, .bool b => a == b
  | .integer a, .integer b => a == b
  | .real a, .real b => a.sameValue b
  | .string a, .string b => a == b
  | .array a, .array b => sameItems a b
  | .object a, .object b => sameMembers a b
  | _, _ => false

/-- Whether two lists are equal item by item. -/
def sameItems : List Json → List Json → Bool
  | [], [] => true
  | a :: as, b :: bs => same a b && sameItems as bs
  | _, _ => false

/-- Whether two member lists are equal name by name and value by value. -/
def sameMembers : List (String × Json) → List (String × Json) → Bool
  | [], [] => true
  | (m, a) :: as, (n, b) :: bs => m == n && same a b && sameMembers as bs
  | _, _ => false

end

instance : BEq Json := ⟨same⟩

/-! ## Shape -/

/-- The value as a text. -/
def string? : Json → Option String
  | .string s => some s
  | _ => none

/-- The value as a list. -/
def items? : Json → Option (List Json)
  | .array items => some items
  | _ => none

/-- The items of a list; any other value has none. -/
def items (v : Json) : List Json := v.items?.getD []

/-- The value as an integer. -/
def integer? : Json → Option Int
  | .integer n => some n
  | _ => none

/-- A value, or null. -/
def ofOption (v : Option Json) : Json := v.getD .null

/-- A text, or null. -/
def ofText? (s : Option String) : Json := (s.map Json.string).getD .null

/-- The list of some texts. -/
def ofTexts (texts : List String) : Json := .array (texts.map .string)

end Json

end Switchyard

import Switchyard.Binding.Binder

/-!
# Bound values

What a parameter takes of the occurrences of its key: one value that must be there, one that may be missing,
or all of them, with or without missing slots.
-/

namespace Switchyard

/-- How many values a parameter takes. -/
inductive Arity where
  | scalar
  | optional
  /-- Any number of values; with `nullable`, some of them may be missing. -/
  | collection (nullable : Bool)
  | optionalCollection (nullable : Bool)
  deriving DecidableEq, Repr

namespace Arity

/-- The name of an arity. -/
def name : Arity → String
  | .scalar => "scalar"
  | .optional => "optional"
  | .collection _ => "collection"
  | .optionalCollection _ => "optional_collection"

/-- Whether some values may be missing. -/
def isNullable : Arity → Bool
  | .collection n => n
  | .optionalCollection n => n
  | _ => false

/-- Whether a value has to be there. -/
def isRequired : Arity → Bool
  | .scalar => true
  | _ => false

/-- Whether every occurrence of the key counts. -/
def isRepeated : Arity → Bool
  | .collection _ => true
  | .optionalCollection _ => true
  | _ => false

end Arity

/-- The value of a parameter. -/
inductive BoundValue (α : Type) where
  | scalar (a : α)
  | optional (a : Option α)
  | list (items : List α)
  | slots (items : List (Option α))
  | optionalList (items : Option (List α))
  | optionalSlots (items : Option (List (Option α)))
  deriving DecidableEq, Repr

/-- Binds a key by its arity; a list that may not be missing is empty where no source carries the key. -/
def Binder.bind {α : Type} (b : Binder) (read : TextReader α) (arity : Arity) (plan : List Source) (key : String) :
    Except BindError (BoundValue α) :=
  match arity with
  | .scalar => (b.required read plan key).map .scalar
  | .optional => (b.optional read plan key).map .optional
  | .collection false => (b.many read plan key).map fun r => .list (r.getD [])
  | .collection true => (b.nullableMany read plan key).map fun r => .slots (r.getD [])
  | .optionalCollection false => (b.many read plan key).map .optionalList
  | .optionalCollection true => (b.nullableMany read plan key).map .optionalSlots

end Switchyard

import Switchyard.Binding.BoundValue
import Switchyard.Proofs.Binding.Precedence

/-!
# What is made of the occurrences of a key

The arity of a parameter says what becomes of the occurrences in the winning source: a single value is made of the
first of them alone, a repeated one has an item for each, in their order; and where no source carries the key, only
a value that has to be there is missed.

Main results: `bind_eq_error_iff_of_absent`, `bind_congr_of_head?` and `map_items_bind`.
-/

namespace Switchyard

variable {α : Type}

/-- The items of a value; one that is missing has an empty place. -/
def BoundValue.items : BoundValue α → List (Option α)
  | .scalar a => [some a]
  | .optional a => [a]
  | .list items => items.map some
  | .slots items => items
  | .optionalList items => (items.getD []).map some
  | .optionalSlots items => items.getD []

/-- What one occurrence of a repeated key becomes: an item, or an empty place if items may be missing. -/
def Arity.item (arity : Arity) (read : TextReader α) (source : Source) (key : String) (occurrence : Option String) :
    Except BindError (Option α) :=
  if arity.isNullable then .ok (Binder.slot read occurrence)
  else (Binder.convertPresent read source key occurrence).map some

namespace Binder

variable {b b' : Binder} {read : TextReader α} {arity : Arity} {plan : List Source} {key : String} {s : Source}
  {values values' : List (Option String)}

/-- Where no source carries the key, binding fails iff the value has to be there, and then the key is missed. -/
theorem bind_eq_error_iff_of_absent (h : ∀ s ∈ plan, b s key = none) {e : BindError} :
    b.bind read arity plan key = .error e ↔ arity.isRequired = true ∧ e = .missing key := by
  have hnone := winner?_eq_none_iff.2 h
  cases arity with
  | scalar => simp [bind, required, hnone, Except.map, Arity.isRequired, eq_comm]
  | optional => simp [bind, optional, hnone, Except.map, Arity.isRequired]
  | collection nullable => cases nullable <;> simp [bind, many, nullableMany, hnone, Except.map, Arity.isRequired]
  | optionalCollection nullable =>
    cases nullable <;> simp [bind, many, nullableMany, hnone, Except.map, Arity.isRequired]

/-- A value that is not repeated is made of the first occurrence alone. -/
theorem bind_congr_of_head? (hsingle : arity.isRepeated = false) (hwin : b.winner? plan key = some (s, values))
    (hwin' : b'.winner? plan key = some (s, values')) (hhead : values.head? = values'.head?) :
    b.bind read arity plan key = b'.bind read arity plan key := by
  cases arity with
  | scalar => simp only [bind, required, hwin, hwin', hhead]
  | optional => simp only [bind, optional, hwin, hwin', hhead]
  | collection nullable => cases hsingle
  | optionalCollection nullable => cases hsingle

theorem mapM_item_of_nullable (h : arity.isNullable = true) :
    ∀ values : List (Option String), values.mapM (arity.item read s key) = .ok (values.map (slot read))
  | [] => rfl
  | o :: rest => by
    rw [List.mapM_cons, mapM_item_of_nullable h rest, Arity.item, if_pos h]
    rfl

theorem mapM_item_of_not_nullable (h : arity.isNullable = false) :
    ∀ values : List (Option String), values.mapM (arity.item read s key) =
      (values.mapM (convertPresent read s key)).map (List.map some)
  | [] => rfl
  | o :: rest => by
    rw [List.mapM_cons, List.mapM_cons, mapM_item_of_not_nullable h rest, Arity.item, if_neg (by simp [h])]
    cases convertPresent read s key o with
    | error e => rfl
    | ok item => cases rest.mapM (convertPresent read s key) <;> rfl

/-- A repeated value has an item for each occurrence in the winning source, in their order; the first occurrence
that cannot be one fails the whole. -/
theorem map_items_bind (hrepeated : arity.isRepeated = true) (hwin : b.winner? plan key = some (s, values)) :
    (b.bind read arity plan key).map BoundValue.items = values.mapM (arity.item read s key) := by
  cases hnullable : arity.isNullable with
  | false =>
    rw [mapM_item_of_not_nullable hnullable]
    cases arity with
    | scalar => cases hrepeated
    | optional => cases hrepeated
    | collection nullable =>
      obtain rfl : nullable = false := hnullable
      simp only [bind, many, hwin]
      cases values.mapM (convertPresent read s key) <;> rfl
    | optionalCollection nullable =>
      obtain rfl : nullable = false := hnullable
      simp only [bind, many, hwin]
      cases values.mapM (convertPresent read s key) <;> rfl
  | true =>
    rw [mapM_item_of_nullable hnullable]
    cases arity with
    | scalar => cases hrepeated
    | optional => cases hrepeated
    | collection nullable =>
      obtain rfl : nullable = true := hnullable
      simp only [bind, nullableMany, hwin]
      rfl
    | optionalCollection nullable =>
      obtain rfl : nullable = true := hnullable
      simp only [bind, nullableMany, hwin]
      rfl

end Binder

end Switchyard

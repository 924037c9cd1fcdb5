import Switchyard.Controller.Returns

/-!
# Types as they are written

What the tests on types find, told by the forms of types: the name that a path ends in, the value that a type
promises or wraps, trait objects behind references, parentheses and smart pointers, and the empty tuple in
parentheses.

Main results: `output?_eq_some_iff`, `success?_eq_some_iff`, `isObject_iff` and `isUnit_iff`.
-/

namespace Switchyard.Code

/-! ## Names at the end of a path -/

/-- A bound is a trait with a name and arguments. -/
def Bound.Named (b : Bound) (name : String) (arguments : Arguments) : Prop :=
  ∃ path, b = .trait (path ++ [.mk name arguments])

theorem Bound.segment?_eq_some_iff {b : Bound} {name : String} {arguments : Arguments} :
    b.segment? = some (.mk name arguments) ↔ b.Named name arguments := by
  cases b with
  | trait segments => simp [Bound.segment?, Bound.Named, List.getLast?_eq_some_iff]
  | other => simp [Bound.segment?, Bound.Named]

namespace TypeExpr

/-- A type is a path that ends in a name with arguments. -/
def Named (t : TypeExpr) (name : String) (arguments : Arguments) : Prop :=
  ∃ path, t.form = .path (path ++ [.mk name arguments])

theorem segment?_eq_some_iff {t : TypeExpr} {name : String} {arguments : Arguments} :
    t.segment? = some (.mk name arguments) ↔ t.Named name arguments := by
  rw [segment?, Named]
  cases t.form with
  | path segments => simp [List.getLast?_eq_some_iff]
  | _ => simp

theorem name?_eq_some_iff {t : TypeExpr} {name : String} :
    t.name? = some name ↔ ∃ arguments, t.Named name arguments := by
  simp only [name?, Option.map_eq_some_iff, ← segment?_eq_some_iff]
  constructor
  · rintro ⟨⟨_, arguments⟩, hsegment, rfl⟩
    exact ⟨arguments, hsegment⟩
  · rintro ⟨arguments, hsegment⟩
    exact ⟨_, hsegment, rfl⟩

theorem Named.unique {t : TypeExpr} {name name' : String} {arguments arguments' : Arguments}
    (h : t.Named name arguments) (h' : t.Named name' arguments') : name = name' ∧ arguments = arguments' := by
  rw [← segment?_eq_some_iff] at h h'
  simpa [h] using h'

end TypeExpr

/-! ## Promised and wrapped values -/

/-- A bound promises a value for later, its first output. -/
def Bound.Promises (b : Bound) (value : TypeExpr) : Prop :=
  ∃ before after, b.Named "Future" (.angled (before ++ .member "Output" value :: after)) ∧
    ∀ t, .member "Output" t ∉ before

namespace TypeExpr

/-- Some type that satisfies bounds promises the value of the first bound that promises one. -/
def Promises (t value : TypeExpr) : Prop :=
  ∃ before b after, t.form = .some (before ++ b :: after) ∧ b.Promises value ∧ ∀ c ∈ before, ∀ u, ¬ c.Promises u

/-- A result that may fail wraps its first argument. -/
def Wraps (t value : TypeExpr) : Prop := ∃ rest, t.Named "Result" (.angled (.type value :: rest))

end TypeExpr

theorem findSome?_output_eq_some_iff {arguments : List Argument} {value : TypeExpr} :
    (arguments.findSome? fun a => match a with
      | .member member t => if member = "Output" then some t else none
      | _ => none) = some value ↔
    ∃ before after, arguments = before ++ .member "Output" value :: after ∧ ∀ t, .member "Output" t ∉ before := by
  rw [List.findSome?_eq_some_iff]
  constructor
  · rintro ⟨before, a, after, rfl, ha, hbefore⟩
    cases a with
    | member name t =>
      simp only [Option.ite_none_right_eq_some, Option.some.injEq] at ha
      obtain ⟨rfl, rfl⟩ := ha
      exact ⟨before, after, rfl, fun t ht => by simpa using hbefore _ ht⟩
    | _ => cases ha
  · rintro ⟨before, after, rfl, hbefore⟩
    refine ⟨before, _, after, rfl, by simp, fun a ha => ?_⟩
    cases a with
    | member name t =>
      have hname : name ≠ "Output" := by
        rintro rfl
        exact hbefore t ha
      exact if_neg hname
    | _ => rfl

theorem Bound.output?_eq_some_iff {b : Bound} {value : TypeExpr} : b.output? = some value ↔ b.Promises value := by
  rw [Bound.output?, Bound.Promises]
  constructor
  · intro h
    split at h
    · rename_i name arguments hsegment
      split at h
      · rename_i hname
        obtain ⟨before, after, rfl, hfirst⟩ := findSome?_output_eq_some_iff.1 h
        exact ⟨before, after, segment?_eq_some_iff.1 (hname ▸ hsegment), hfirst⟩
      · cases h
    · cases h
  · rintro ⟨before, after, hnamed, hfirst⟩
    rw [segment?_eq_some_iff.2 hnamed]
    exact findSome?_output_eq_some_iff.2 ⟨before, after, rfl, hfirst⟩

namespace TypeExpr

theorem output?_eq_some_iff {t value : TypeExpr} : t.output? = some value ↔ t.Promises value := by
  rw [output?, Promises]
  cases t.form with
  | some bounds =>
    simp only [List.findSome?_eq_some_iff, TypeForm.some.injEq, Bound.output?_eq_some_iff,
      Option.eq_none_iff_forall_ne_some, ne_eq]
  | _ => simp

theorem success?_eq_some_iff {t value : TypeExpr} : t.success? = some value ↔ t.Wraps value := by
  rw [success?, Wraps]
  simp only [← segment?_eq_some_iff]
  constructor
  · intro h
    split at h
    · rename_i name inner rest hsegment
      split at h
      · rename_i hname
        cases h
        exact ⟨rest, hname ▸ hsegment⟩
      · cases h
    · cases h
  · rintro ⟨rest, hsegment⟩
    rw [hsegment]
    rfl

/-! ## Trait objects and the empty tuple -/

/-- A trait object, under references, parentheses and smart pointers at any depth. -/
inductive Dynamic : TypeExpr → Prop
  | object {t : TypeExpr} : t.form = .object → Dynamic t
  | reference {t target : TypeExpr} {isMut : Bool} : t.form = .reference isMut target → Dynamic target → Dynamic t
  | parens {t inner : TypeExpr} : t.form = .parens inner → Dynamic inner → Dynamic t
  | pointer {t held : TypeExpr} {name : String} {arguments : List Argument} : t.Named name (.angled arguments) →
      name ∈ ["Box", "Arc", "Rc"] → .type held ∈ arguments → Dynamic held → Dynamic t

/-- The empty tuple, in any number of parentheses. -/
inductive Vacant : TypeExpr → Prop
  | unit {t : TypeExpr} : t.form = .tuple [] → Vacant t
  | parens {t inner : TypeExpr} : t.form = .parens inner → Vacant inner → Vacant t

end TypeExpr

theorem someObject_eq_any : ∀ arguments : List Argument, someObject arguments = arguments.any Argument.isObject
  | [] => rfl
  | a :: rest => by rw [someObject, someObject_eq_any rest, List.any_cons]

theorem lastIsObject_append (s : Segment) : ∀ path : List Segment, lastIsObject (path ++ [s]) = s.isObject
  | [] => rfl
  | _ :: rest => by
    rw [List.cons_append, lastIsObject, if_neg (by simp), lastIsObject_append s rest]

mutual

theorem TypeExpr.dynamic_of_isObject : ∀ t : TypeExpr, t.isObject = true → t.Dynamic
  | .mk tokens form, h => form.dynamic_of_isObject tokens h

theorem TypeForm.dynamic_of_isObject : ∀ (form : TypeForm) (tokens : List Token), form.isObject = true →
    (TypeExpr.mk tokens form).Dynamic
  | .object, _, _ => .object rfl
  | .reference _ target, _, h => .reference rfl (target.dynamic_of_isObject h)
  | .parens inner, _, h => .parens rfl (inner.dynamic_of_isObject h)
  | .path segments, _, h => by
    obtain ⟨path, name, arguments, held, rfl, hname, hheld, hdynamic⟩ := exists_of_lastIsObject segments h
    exact .pointer ⟨path, rfl⟩ hname hheld hdynamic

theorem exists_of_lastIsObject : ∀ segments : List Segment, lastIsObject segments = true →
    ∃ path name arguments held, segments = path ++ [.mk name (.angled arguments)] ∧ name ∈ ["Box", "Arc", "Rc"] ∧
      .type held ∈ arguments ∧ held.Dynamic
  | [.mk name (.angled arguments)], h => by
    simp only [lastIsObject, List.isEmpty_nil, if_true, Segment.isObject, Arguments.anyObject, Bool.and_eq_true,
      List.contains_iff_mem] at h
    obtain ⟨held, hheld, hdynamic⟩ := exists_of_someObject arguments h.2
    exact ⟨[], name, arguments, held, rfl, h.1, hheld, hdynamic⟩
  | [.mk _ .none], h | [.mk _ .call], h => by
    simp [lastIsObject, Segment.isObject, Arguments.anyObject] at h
  | s :: next :: rest, h => by
    obtain ⟨path, name, arguments, held, hpath, hpointer⟩ := exists_of_lastIsObject (next :: rest) h
    exact ⟨s :: path, name, arguments, held, by rw [hpath, List.cons_append], hpointer⟩

theorem exists_of_someObject : ∀ arguments : List Argument, someObject arguments = true →
    ∃ held, .type held ∈ arguments ∧ held.Dynamic
  | .type t :: rest, h => by
    rw [someObject, Bool.or_eq_true] at h
    rcases h with h | h
    · exact ⟨t, List.mem_cons_self, t.dynamic_of_isObject h⟩
    · obtain ⟨held, hheld, hdynamic⟩ := exists_of_someObject rest h
      exact ⟨held, List.mem_cons_of_mem _ hheld, hdynamic⟩
  | .member _ _ :: rest, h | .other :: rest, h => by
    obtain ⟨held, hheld, hdynamic⟩ := exists_of_someObject rest h
    exact ⟨held, List.mem_cons_of_mem _ hheld, hdynamic⟩

end

theorem TypeExpr.vacant_of_isUnit : ∀ t : TypeExpr, t.isUnit = true → t.Vacant
  | .mk _ (.tuple []), _ => .unit rfl
  | .mk _ (.parens inner), h => .parens rfl (inner.vacant_of_isUnit h)

namespace TypeExpr

theorem isObject_eq (t : TypeExpr) : t.isObject = t.form.isObject := by
  cases t
  rfl

theorem isUnit_eq (t : TypeExpr) : t.isUnit = t.form.isUnit := by
  cases t
  rfl

theorem isObject_iff {t : TypeExpr} : t.isObject = true ↔ t.Dynamic := by
  refine ⟨t.dynamic_of_isObject, fun h => ?_⟩
  induction h with
  | object hform => rw [isObject_eq, hform, TypeForm.isObject]
  | reference hform _ ih => rw [isObject_eq, hform, TypeForm.isObject, ih]
  | parens hform _ ih => rw [isObject_eq, hform, TypeForm.isObject, ih]
  | pointer hnamed hname hheld _ ih =>
    obtain ⟨path, hform⟩ := hnamed
    rw [isObject_eq, hform, TypeForm.isObject, lastIsObject_append, Segment.isObject, Arguments.anyObject,
      someObject_eq_any, Bool.and_eq_true, List.contains_iff_mem, List.any_eq_true]
    exact ⟨hname, _, hheld, ih⟩

theorem isUnit_iff {t : TypeExpr} : t.isUnit = true ↔ t.Vacant := by
  refine ⟨t.vacant_of_isUnit, fun h => ?_⟩
  induction h with
  | unit hform => rw [isUnit_eq, hform, TypeForm.isUnit, List.isEmpty_nil]
  | parens hform _ ih => rw [isUnit_eq, hform, TypeForm.isUnit, ih]

end TypeExpr

end Switchyard.Code

import Switchyard.Proofs.Code.Types
import Switchyard.Proofs.Except

/-!
# What declared results are classified as

A declared result is taken apart from outside: a promise is waited for, and a result that may fail gives its value.
The value that is left is none, executes itself or is sent, or it cannot be a result at all.

Main result: `classify_declared`.
-/

namespace Switchyard

open Code

/-! ## The value of a declared result -/

/-- What is left of a type without one layer, if it has that layer. -/
inductive Peeled (layer : TypeExpr → TypeExpr → Prop) (t : TypeExpr) : (peeled : Bool) → TypeExpr → Prop
  | layer {inner : TypeExpr} : layer t inner → Peeled layer t true inner
  | bare : (∀ inner, ¬ layer t inner) → Peeled layer t false t

theorem peeled_iff {layer : TypeExpr → TypeExpr → Prop} {f : TypeExpr → Option TypeExpr} {t inner : TypeExpr}
    {peeled : Bool} (hf : ∀ {inner}, f t = some inner ↔ layer t inner) :
    Peeled layer t peeled inner ↔ peeled = (f t).isSome ∧ inner = (f t).getD t := by
  constructor
  · intro h
    cases h with
    | layer h => simp [hf.2 h]
    | bare h =>
      have hnone : f t = none := Option.eq_none_iff_forall_ne_some.2 fun inner hinner => h inner (hf.1 hinner)
      simp [hnone]
  · rintro ⟨rfl, rfl⟩
    cases hsome : f t with
    | some inner => exact .layer (hf.1 hsome)
    | none =>
      refine .bare fun inner hlayer => ?_
      rw [hf.2 hlayer] at hsome
      cases hsome

/-- A declared result has a value, once it is waited for if it is promised, and taken out if it may fail. -/
def HasValue (t : TypeExpr) (promised fallible : Bool) (value : TypeExpr) : Prop :=
  ∃ awaited, Peeled TypeExpr.Promises t promised awaited ∧ Peeled TypeExpr.Wraps awaited fallible value

/-- What is left of a type once its promise is waited for. -/
def awaitedOf (t : TypeExpr) : TypeExpr := t.output?.getD t

/-- The value of a declared result. -/
def valueOf (t : TypeExpr) : TypeExpr := (awaitedOf t).success?.getD (awaitedOf t)

theorem hasValue_iff {t value : TypeExpr} {promised fallible : Bool} :
    HasValue t promised fallible value ↔
      promised = t.output?.isSome ∧ fallible = (awaitedOf t).success?.isSome ∧ value = valueOf t := by
  simp only [HasValue, peeled_iff TypeExpr.output?_eq_some_iff, peeled_iff TypeExpr.success?_eq_some_iff]
  constructor
  · rintro ⟨awaited, ⟨rfl, rfl⟩, rfl, rfl⟩
    exact ⟨rfl, rfl, rfl⟩
  · rintro ⟨rfl, rfl, rfl⟩
    exact ⟨awaitedOf t, ⟨rfl, rfl⟩, rfl, rfl⟩

/-! ## Values that execute themselves, and values that are no results -/

section Values

variable (kind : HandlerKind) (marked : Bool) (t : TypeExpr)

/-- A value executes itself: it has the trait of such results, it is marked, or it is known to. -/
inductive Executes : Prop
  | trait {bounds : List Bound} {b : Bound} {arguments : Arguments} : t.form = .some bounds → b ∈ bounds →
      b.Named kind.trait arguments → Executes
  | marked : marked = true → Executes
  | known {name : String} {arguments : Arguments} : t.Named name arguments → name ∈ kind.results → Executes

/-- A type has no place in a result. -/
inductive Misplaced : Prop
  | object : t.Dynamic → Misplaced
  | never : t.form = .never → Misplaced
  /-- All that is known of the value is that it has other traits. -/
  | otherTrait {bounds : List Bound} : t.form = .some bounds →
      (∀ b ∈ bounds, ∀ arguments, ¬ b.Named kind.trait arguments) → Misplaced
  | otherKind {name : String} {arguments : Arguments} : marked = false → t.Named name arguments →
      name ∈ kind.other.results → Misplaced

/-- A value cannot be a result: it would have to be waited for once more, or it is there and has no place. -/
def Unfit : Prop := (∃ value, t.Promises value) ∨ ¬ t.Vacant ∧ Misplaced kind marked t

/-- The shape of a value by whether it is there, executes itself and was waited for. -/
inductive Shaped (awaited : Bool) : Shape → Prop
  | void : t.Vacant → Shaped awaited .void
  | action : ¬ t.Vacant → Executes kind marked t → Shaped awaited (if awaited then .asyncAction else .syncAction)
  | value : ¬ t.Vacant → ¬ Executes kind marked t → Shaped awaited (if awaited then .asyncValue else .syncValue)

end Values

section Executing

variable {kind : HandlerKind} {marked : Bool} {t : TypeExpr}

theorem contains_names_iff {bounds : List Bound} {name : String} :
    ((bounds.filterMap Bound.segment?).map Segment.name).contains name = true ↔
      ∃ b ∈ bounds, ∃ arguments, b.Named name arguments := by
  simp only [List.contains_iff_mem, List.mem_map, List.mem_filterMap, ← Bound.segment?_eq_some_iff]
  constructor
  · rintro ⟨⟨_, arguments⟩, ⟨b, hb, hsegment⟩, rfl⟩
    exact ⟨b, hb, arguments, hsegment⟩
  · rintro ⟨b, hb, arguments, hsegment⟩
    exact ⟨_, ⟨b, hb, hsegment⟩, rfl⟩

/-! ### Values of which only traits are known -/

/-- A value of bounds is misplaced iff none of them is the trait of results that execute themselves. -/
theorem misplaced_iff_of_bounds {bounds : List Bound} (hform : t.form = .some bounds) :
    Misplaced kind marked t ↔ ¬ ∃ b ∈ bounds, ∃ arguments, b.Named kind.trait arguments := by
  constructor
  · rintro h ⟨b, hb, arguments, hnamed⟩
    cases h with
    | object h =>
      have hobject := TypeExpr.isObject_iff.2 h
      rw [TypeExpr.isObject_eq, hform] at hobject
      cases hobject
    | never h => cases hform.symm.trans h
    | otherTrait h hno =>
      obtain rfl : bounds = _ := TypeForm.some.inj (hform.symm.trans h)
      exact hno b hb arguments hnamed
    | otherKind _ h _ =>
      obtain ⟨path, h⟩ := h
      cases hform.symm.trans h
  · intro h
    exact .otherTrait hform fun b hb arguments hnamed => h ⟨b, hb, arguments, hnamed⟩

theorem executesItself_of_bounds {bounds : List Bound} {executes : Bool} (hform : t.form = .some bounds) :
    executesItself t kind marked = .ok executes ↔
      executes = true ∧ ∃ b ∈ bounds, ∃ arguments, b.Named kind.trait arguments := by
  have hobject : t.isObject = false := by
    rw [TypeExpr.isObject_eq, hform]
    rfl
  simp only [executesItself, hobject, hform, Bool.false_eq_true, if_false, ← contains_names_iff]
  by_cases htrait : ((bounds.filterMap Bound.segment?).map Segment.name).contains kind.trait = true
  · rw [if_pos htrait]
    simp only [Except.ok.injEq, htrait, and_true, eq_comm]
  · rw [if_neg htrait]
    refine iff_of_false ?_ fun h => htrait h.2
    simp only [typeProblem]
    split
    · nofun
    · split <;> nofun

/-! ### Values of a written type -/

/-- A type is written out, and it is no trait object. -/
structure Concrete (t : TypeExpr) : Prop where
  static : ¬ t.Dynamic
  notNever : t.form ≠ .never
  notBounded : ∀ bounds, t.form ≠ .some bounds

/-- A written type is misplaced iff it is known in the other kind of handlers and not marked. -/
theorem Concrete.misplaced_iff (h : Concrete t) :
    Misplaced kind marked t ↔ marked = false ∧ ∃ name ∈ kind.other.results, t.name? = some name := by
  simp only [TypeExpr.name?_eq_some_iff]
  constructor
  · intro hmisplaced
    cases hmisplaced with
    | object hobject => exact absurd hobject h.static
    | never hnever => exact absurd hnever h.notNever
    | otherTrait hform _ => exact absurd hform (h.notBounded _)
    | otherKind hmarked hnamed hname => exact ⟨hmarked, _, hname, _, hnamed⟩
  · rintro ⟨hmarked, name, hname, arguments, hnamed⟩
    exact .otherKind hmarked hnamed hname

theorem Concrete.executes_iff (h : Concrete t) :
    Executes kind marked t ↔ marked = true ∨ ∃ name ∈ kind.results, t.name? = some name := by
  simp only [TypeExpr.name?_eq_some_iff]
  constructor
  · intro hexecutes
    cases hexecutes with
    | trait hform _ _ => exact absurd hform (h.notBounded _)
    | marked hmarked => exact .inl hmarked
    | known hnamed hname => exact .inr ⟨_, hname, _, hnamed⟩
  · rintro (hmarked | ⟨name, hname, arguments, hnamed⟩)
    · exact .marked hmarked
    · exact .known hnamed hname

theorem Concrete.executesItself_eq (h : Concrete t) :
    executesItself t kind marked =
      if marked then .ok true
      else
        match t.name? with
        | none => .ok false
        | some name =>
          if kind.results.contains name then .ok true
          else if kind.other.results.contains name then typeProblem t (.otherKind name kind)
          else .ok false := by
  rw [executesItself, if_neg (mt TypeExpr.isObject_iff.1 h.static)]
  split
  · exact absurd ‹_› h.notNever
  · exact absurd ‹_› (h.notBounded _)
  · rfl

/-- No name is known in both kinds of handlers. -/
theorem HandlerKind.not_mem_other_results {name : String} (h : name ∈ kind.results) : name ∉ kind.other.results := by
  revert name
  cases kind <;> decide

/-- Whether a value executes itself is told of those that have a place, and told right. -/
theorem executesItself_iff {executes : Bool} :
    executesItself t kind marked = .ok executes ↔
      ¬ Misplaced kind marked t ∧ (executes = true ↔ Executes kind marked t) := by
  by_cases hobject : t.Dynamic
  · refine iff_of_false ?_ fun h => h.1 (.object hobject)
    rw [executesItself, if_pos (TypeExpr.isObject_iff.2 hobject)]
    nofun
  by_cases hnever : t.form = .never
  · refine iff_of_false ?_ fun h => h.1 (.never hnever)
    rw [executesItself, if_neg (mt TypeExpr.isObject_iff.1 hobject), hnever]
    nofun
  by_cases hbounds : ∃ bounds, t.form = .some bounds
  · obtain ⟨bounds, hform⟩ := hbounds
    rw [executesItself_of_bounds hform, misplaced_iff_of_bounds hform, Classical.not_not]
    constructor
    · rintro ⟨rfl, b, hb, arguments, hnamed⟩
      exact ⟨⟨b, hb, arguments, hnamed⟩, iff_of_true rfl (.trait hform hb hnamed)⟩
    · rintro ⟨⟨b, hb, arguments, hnamed⟩, hexecutes⟩
      exact ⟨hexecutes.2 (.trait hform hb hnamed), b, hb, arguments, hnamed⟩
  · have hconcrete : Concrete t := ⟨hobject, hnever, fun bounds hform => hbounds ⟨bounds, hform⟩⟩
    rw [hconcrete.executesItself_eq, hconcrete.misplaced_iff, hconcrete.executes_iff]
    cases marked with
    | true => simp [eq_comm]
    | false =>
      cases hname : t.name? with
      | none => simp [eq_comm]
      | some name =>
        by_cases hknown : name ∈ kind.results
        · simp [hknown, HandlerKind.not_mem_other_results hknown, eq_comm]
        · by_cases hother : name ∈ kind.other.results
          · simp [hknown, hother, typeProblem]
          · simp [hknown, hother]

end Executing

/-! ## Classification -/

section Classify

variable {kind : HandlerKind} {marked : Bool} {t : TypeExpr}

/-- The empty tuple has one shape. -/
theorem shaped_iff_of_vacant {awaited : Bool} {shape : Shape} (h : t.Vacant) :
    Shaped kind marked t awaited shape ↔ shape = .void := by
  constructor
  · intro hshaped
    cases hshaped with
    | void _ => rfl
    | action hno _ => exact absurd h hno
    | value hno _ => exact absurd h hno
  · rintro rfl
    exact .void h

/-- The shape of a value that is there follows from whether it executes itself. -/
theorem shaped_iff_of_not_vacant {awaited : Bool} {shape : Shape} (h : ¬ t.Vacant) :
    Shaped kind marked t awaited shape ↔
      ∃ executes, (executes = true ↔ Executes kind marked t) ∧ shape = .of executes awaited := by
  constructor
  · intro hshaped
    cases hshaped with
    | void hvacant => exact absurd hvacant h
    | action _ hexecutes => exact ⟨true, iff_of_true rfl hexecutes, by cases awaited <;> rfl⟩
    | value _ hno => exact ⟨false, iff_of_false Bool.false_ne_true hno, by cases awaited <;> rfl⟩
  · rintro ⟨executes, hexecutes, rfl⟩
    cases executes with
    | true =>
      have hof : Shape.of true awaited = if awaited then .asyncAction else .syncAction := by cases awaited <;> rfl
      exact hof ▸ .action h (hexecutes.1 rfl)
    | false =>
      have hof : Shape.of false awaited = if awaited then .asyncValue else .syncValue := by cases awaited <;> rfl
      exact hof ▸ .value h fun hno => Bool.false_ne_true (hexecutes.2 hno)

/-- A result is classified iff its value is fit for one, and it is classified right. -/
theorem classifyValue_iff {awaited : Bool} {r : Returns} :
    classifyValue t kind marked awaited = .ok r ↔
      ¬ Unfit kind marked (t.success?.getD t) ∧ r.awaited = awaited ∧ r.fallible = t.success?.isSome ∧
        Shaped kind marked (t.success?.getD t) r.awaited r.shape := by
  obtain ⟨shape, fallible, awaited'⟩ := r
  simp only [classifyValue]
  generalize t.success?.getD t = value
  cases hpromise : value.output? with
  | some later =>
    have hpromises := TypeExpr.output?_eq_some_iff.1 hpromise
    refine iff_of_false ?_ fun h => h.1 (.inl ⟨later, hpromises⟩)
    rw [Option.isSome_some, if_pos rfl]
    nofun
  | none =>
    have hno : ¬ ∃ later, value.Promises later := by
      rintro ⟨later, hlater⟩
      cases hpromise.symm.trans (TypeExpr.output?_eq_some_iff.2 hlater)
    rw [if_neg (by simp)]
    by_cases hvacant : value.Vacant
    · rw [if_pos (TypeExpr.isUnit_iff.2 hvacant), shaped_iff_of_vacant hvacant]
      simp only [Unfit, hno, hvacant, not_true_eq_false, false_and, or_self, not_false_eq_true, true_and,
        Except.ok.injEq, Returns.mk.injEq]
      constructor
      · rintro ⟨rfl, rfl, rfl⟩
        exact ⟨rfl, rfl, rfl⟩
      · rintro ⟨rfl, rfl, rfl⟩
        exact ⟨rfl, rfl, rfl⟩
    · rw [if_neg (mt TypeExpr.isUnit_iff.1 hvacant), shaped_iff_of_not_vacant hvacant, map_eq_ok_iff]
      simp only [executesItself_iff, Unfit, hno, hvacant, not_false_eq_true, true_and, false_or, Returns.mk.injEq]
      constructor
      · rintro ⟨executes, ⟨hfit, hexecutes⟩, rfl, rfl, rfl⟩
        exact ⟨hfit, rfl, rfl, executes, hexecutes, rfl⟩
      · rintro ⟨hfit, rfl, rfl, executes, hexecutes, rfl⟩
        exact ⟨executes, ⟨hfit, hexecutes⟩, rfl, rfl, rfl⟩

theorem exists_shaped (kind : HandlerKind) (marked : Bool) (t : TypeExpr) (awaited : Bool) :
    ∃ shape, Shaped kind marked t awaited shape := by
  rcases Classical.em t.Vacant with hvacant | hvacant
  · exact ⟨_, .void hvacant⟩
  · rcases Classical.em (Executes kind marked t) with hexecutes | hexecutes
    · exact ⟨_, .action hvacant hexecutes⟩
    · exact ⟨_, .value hvacant hexecutes⟩

theorem classify_iff {isAsync : Bool} {r : Returns} :
    classify (some t) isAsync kind marked = .ok r ↔
      ¬ (isAsync = true ∧ t.output?.isSome = true ∨ Unfit kind marked (valueOf t)) ∧
      r.awaited = (isAsync || t.output?.isSome) ∧ r.fallible = (awaitedOf t).success?.isSome ∧
      Shaped kind marked (valueOf t) r.awaited r.shape := by
  cases houtput : t.output? with
  | none =>
    have hvalue : valueOf t = t.success?.getD t := by rw [valueOf, awaitedOf, houtput, Option.getD_none]
    simp [classify, houtput, classifyValue_iff, hvalue, awaitedOf]
  | some output =>
    have hvalue : valueOf t = output.success?.getD output := by rw [valueOf, awaitedOf, houtput, Option.getD_some]
    cases isAsync with
    | true => simp [classify, houtput, typeProblem]
    | false => simp [classify, houtput, classifyValue_iff, hvalue, awaitedOf]

end Classify

/-- **What declared results are classified as.** A method without a declared result gives nothing, and is waited for
if it is async. Otherwise the declared result has one value, which is taken out of at most one promise and then at most
one result that may fail. It is refused iff a promise is declared by a method that is async itself, or the value cannot
be a result; and if it is not refused, the call is waited for iff the method is async or promises its result, the
result may fail iff it was taken out of one that may, and its shape is that of the value. -/
theorem classify_declared (isAsync : Bool) (kind : HandlerKind) (marked : Bool) :
    classify none isAsync kind marked = .ok ⟨.void, false, isAsync⟩ ∧
    ∀ t, ∃ promised fallible value,
      (∀ promised' fallible' value', HasValue t promised' fallible' value' ↔
        promised' = promised ∧ fallible' = fallible ∧ value' = value) ∧
      ((∃ problem, classify (some t) isAsync kind marked = .error problem) ↔
        isAsync = true ∧ promised = true ∨ Unfit kind marked value) ∧
      ∀ r, classify (some t) isAsync kind marked = .ok r →
        r.awaited = (isAsync || promised) ∧ r.fallible = fallible ∧ Shaped kind marked value r.awaited r.shape := by
  refine ⟨rfl, fun t => ⟨_, _, _, fun _ _ _ => hasValue_iff, ?refused, fun r hr => (classify_iff.1 hr).2⟩⟩
  case refused =>
    simp only [exists_error_iff, ne_eq, classify_iff, not_and]
    constructor
    · intro h
      apply Classical.byContradiction
      intro hfit
      obtain ⟨shape, hshaped⟩ := exists_shaped kind marked (valueOf t) (isAsync || t.output?.isSome)
      exact h ⟨shape, _, _⟩ hfit rfl rfl hshaped
    · intro hrefused r hfit
      exact absurd hrefused hfit

end Switchyard

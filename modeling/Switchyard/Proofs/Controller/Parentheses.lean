import Switchyard.Code.Block
import Switchyard.Proofs.Controller.Parameters
import Switchyard.Proofs.Controller.Returns

/-!
# Types in parentheses

A type means the same in parentheses, but most of the tests on types do not look into them. What a method gives and
what its parameters are filled with is therefore told by the type as it is written: parentheses are not noticed around
the empty tuple and trait objects, around values that need no special care, and around parameters that take one value
or a whole document.

Main result: `parentheses_unnoticed_iff`.
-/

namespace Switchyard

open Code

/-- A type in parentheses. -/
def Code.TypeExpr.parenthesized (t : TypeExpr) (tokens : List Token) : TypeExpr := .mk tokens (.parens t)

/-- An input with another type. -/
def Code.Input.retyped (i : Input) (name : Option String) (t : TypeExpr) (tokens : List Token) : Input :=
  { i with kind := .value name t, tokens := tokens }

/-- Two runs have the same result, or none of them has one. -/
def SameOutcome {ε α : Type} (x y : Except ε α) : Prop := ∀ a, x = .ok a ↔ y = .ok a

/-! ## Declared results -/

section Results

variable {t : TypeExpr} {tokens : List Token} {isAsync marked : Bool} {kind : HandlerKind}

/-- In parentheses a result is neither promised nor fallible, and it executes itself iff it is marked. -/
theorem classify_parenthesized :
    classify (some (t.parenthesized tokens)) isAsync kind marked =
      if t.isUnit then .ok ⟨.void, false, isAsync⟩
      else if t.isObject then typeProblem (t.parenthesized tokens) .traitObject
      else .ok ⟨.of marked isAsync, false, isAsync⟩ := by
  have houtput : (t.parenthesized tokens).output? = none := rfl
  have hsuccess : (t.parenthesized tokens).success? = none := rfl
  have hunit : (t.parenthesized tokens).isUnit = t.isUnit := rfl
  have hobject : (t.parenthesized tokens).isObject = t.isObject := rfl
  have hname : (t.parenthesized tokens).name? = none := rfl
  have hform : (t.parenthesized tokens).form = .parens t := rfl
  simp only [classify, classifyValue, executesItself, houtput, hsuccess, hunit, hobject, hname, hform, typeProblem,
    Option.getD_none, Option.isSome_none, Bool.false_eq_true, if_false]
  split
  · rfl
  · split
    · rfl
    · cases marked <;> rfl

theorem classify_of_plain (hpromise : t.output? = none) (hwrap : t.success? = none) :
    classify (some t) isAsync kind marked =
      if t.isUnit then .ok ⟨.void, false, isAsync⟩
      else (executesItself t kind marked).map fun executes => ⟨.of executes isAsync, false, isAsync⟩ := by
  simp [classify, classifyValue, hpromise, hwrap]

theorem Shape.of_injective {executes executes' awaited : Bool} (h : Shape.of executes awaited = .of executes' awaited) :
    executes = executes' := by
  revert executes executes' awaited
  decide

/-- A type with neither bounds nor a path is neither promised nor wrapped. -/
theorem plain_of_form (hbounds : ∀ bounds, t.form ≠ .some bounds) (hpath : ∀ path, t.form ≠ .path path) :
    t.output? = none ∧ t.success? = none := by
  constructor
  · refine Option.eq_none_iff_forall_ne_some.2 fun value hvalue => ?_
    obtain ⟨before, b, after, hform, -⟩ := TypeExpr.output?_eq_some_iff.1 hvalue
    exact hbounds _ hform
  · refine Option.eq_none_iff_forall_ne_some.2 fun value hvalue => ?_
    obtain ⟨rest, path, hform⟩ := TypeExpr.success?_eq_some_iff.1 hvalue
    exact hpath _ hform

theorem plain_of_vacant (h : t.Vacant) : t.output? = none ∧ t.success? = none := by
  cases h with
  | unit hform => exact plain_of_form (by simp [hform]) (by simp [hform])
  | parens hform _ => exact plain_of_form (by simp [hform]) (by simp [hform])

theorem plain_of_dynamic (h : t.Dynamic) : t.output? = none ∧ t.success? = none := by
  cases h with
  | object hform => exact plain_of_form (by simp [hform]) (by simp [hform])
  | reference hform _ => exact plain_of_form (by simp [hform]) (by simp [hform])
  | parens hform _ => exact plain_of_form (by simp [hform]) (by simp [hform])
  | pointer hnamed hname _ _ =>
    constructor
    · obtain ⟨path, hform⟩ := hnamed
      rw [TypeExpr.output?, hform]
    · refine Option.eq_none_iff_forall_ne_some.2 fun value hvalue => ?_
      obtain ⟨rest, hresult⟩ := TypeExpr.success?_eq_some_iff.1 hvalue
      obtain ⟨rfl, -⟩ := hnamed.unique hresult
      revert hname
      decide

/-- Parentheses around a declared result are not noticed iff it is the empty tuple or a trait object, or a value that
is neither promised nor wrapped, has a place, and executes itself only if it is marked. -/
theorem sameOutcome_classify_iff :
    SameOutcome (classify (some (t.parenthesized tokens)) isAsync kind marked)
        (classify (some t) isAsync kind marked) ↔
      t.Vacant ∨ t.Dynamic ∨ (∀ value, ¬ t.Promises value) ∧ (∀ value, ¬ t.Wraps value) ∧
        ¬ Misplaced kind marked t ∧ (Executes kind marked t → marked = true) := by
  by_cases hvacant : t.Vacant
  · refine iff_of_true (fun r => ?_) (.inl hvacant)
    obtain ⟨hpromise, hwrap⟩ := plain_of_vacant hvacant
    rw [classify_parenthesized, classify_of_plain hpromise hwrap, if_pos (TypeExpr.isUnit_iff.2 hvacant),
      if_pos (TypeExpr.isUnit_iff.2 hvacant)]
  rw [SameOutcome, classify_parenthesized, if_neg (mt TypeExpr.isUnit_iff.1 hvacant)]
  by_cases hdynamic : t.Dynamic
  · refine iff_of_true (fun r => ?_) (.inr (.inl hdynamic))
    obtain ⟨hpromise, hwrap⟩ := plain_of_dynamic hdynamic
    rw [classify_of_plain hpromise hwrap, if_neg (mt TypeExpr.isUnit_iff.1 hvacant), executesItself,
      if_pos (TypeExpr.isObject_iff.2 hdynamic), if_pos (TypeExpr.isObject_iff.2 hdynamic)]
    exact iff_of_false (by simp [typeProblem]) (by simp [typeProblem, Except.map])
  rw [if_neg (mt TypeExpr.isObject_iff.1 hdynamic)]
  simp only [hvacant, hdynamic, false_or]
  cases hpromise : t.output? with
  | some value =>
    refine iff_of_false (fun hsame => ?_) fun h => h.1 value (TypeExpr.output?_eq_some_iff.1 hpromise)
    obtain ⟨hfit, hawaited, -⟩ := classify_iff.1 ((hsame _).1 rfl)
    -- the call is waited for both ways only if the method is async, and then it may not promise its result
    rw [hpromise, Option.isSome_some, Bool.or_true] at hawaited
    exact hfit (.inl ⟨hawaited, by rw [hpromise, Option.isSome_some]⟩)
  | none =>
    have hpromises : ∀ value, ¬ t.Promises value := fun value hvalue => by
      cases hpromise.symm.trans (TypeExpr.output?_eq_some_iff.2 hvalue)
    cases hwrap : t.success? with
    | some value =>
      refine iff_of_false (fun hsame => ?_) fun h => h.2.1 value (TypeExpr.success?_eq_some_iff.1 hwrap)
      obtain ⟨-, -, hfallible, -⟩ := classify_iff.1 ((hsame _).1 rfl)
      rw [awaitedOf, hpromise, Option.getD_none, hwrap, Option.isSome_some] at hfallible
      cases hfallible
    | none =>
      have hwraps : ∀ value, ¬ t.Wraps value := fun value hvalue => by
        cases hwrap.symm.trans (TypeExpr.success?_eq_some_iff.2 hvalue)
      rw [classify_of_plain hpromise hwrap, if_neg (mt TypeExpr.isUnit_iff.1 hvacant)]
      have hmarked : (Executes kind marked t → marked = true) ↔ (marked = true ↔ Executes kind marked t) :=
        ⟨fun h => ⟨.marked, h⟩, Iff.mpr⟩
      simp only [hpromises, hwraps, not_false_eq_true, implies_true, true_and, hmarked, ← executesItself_iff,
        map_eq_ok_iff, Except.ok.injEq]
      constructor
      · intro hsame
        obtain ⟨executes, hexecutes, heq⟩ := (hsame _).1 rfl
        rw [Returns.mk.injEq] at heq
        rw [hexecutes, Shape.of_injective heq.1]
      · rintro hexecutes r
        simp [hexecutes]

end Results

/-! ## Parameters -/

/-- What a parameter is filled with, whatever its types. -/
inductive Outline where
  | bound (sources : List Source) (key : String) (arity : Arity)
  | context (isMut : Bool)
  | document
  | session
  | eventContext
  deriving DecidableEq, Repr

/-- A role without the types that are written. -/
def Role.outline : Role → Outline
  | .bound plan => .bound plan.sources plan.key plan.arity
  | .context isMut => .context isMut
  | .document _ => .document
  | .session => .session
  | .eventContext => .eventContext

/-- Whether an outline is that of a bound parameter. -/
def Outline.isBound : Outline → Bool
  | .bound .. => true
  | _ => false

/-- What the parameter of an input is filled with. -/
def outlineOf (i : Input) (name : Option String) (t : TypeExpr) (mount : Mount) (contextSeen : Bool) :
    Except Problem Outline :=
  (parameterOf i name t mount contextSeen).2.map fun p => p.role.outline

/-- A type of values: it is neither borrowed, nor are only traits of it known, nor is it a context. -/
structure IsValue (t : TypeExpr) : Prop where
  owned : ∀ isMut target, t.form ≠ .reference isMut target
  named : ∀ bounds, t.form ≠ .some bounds
  free : isOwnedContext t = false

/-- What a value is filled with: the whole document, or what is bound to its key. -/
inductive Fills (name : Option String) (binding : Binding) (mount : Mount) (arity : Arity) : Outline → Prop
  | document : binding.isDocument = true → mount.hasDocument = true → binding.constraint = none →
      binding.name = none → Fills name binding mount arity .document
  | bound {key : String} {sources : List Source} : binding.isDocument = false →
      binding.name.or (name.map plainName) = some key →
      resolve ((binding.constraint.map Prod.fst).getD .any) key mount = .ok sources →
      Fills name binding mount arity (.bound sources key arity)

section Parameters

variable {i : Input} {name : Option String} {t : TypeExpr} {mount : Mount} {contextSeen : Bool} {o : Outline}

theorem outline_boundRole_iff {binding : Binding} {position : Position} :
    (boundRole name t binding mount position).map Role.outline = .ok o ↔
      ∃ key sources, binding.name.or (name.map plainName) = some key ∧
        resolve ((binding.constraint.map Prod.fst).getD .any) key mount = .ok sources ∧
        .bound sources key (arityOf t).1 = o := by
  have hconstraint : (binding.constraint.getD (.any, position)).1 = (binding.constraint.map Prod.fst).getD .any := by
    cases binding.constraint <;> rfl
  rw [boundRole]
  cases binding.name.or (name.map plainName) with
  | none => simp [Except.map]
  | some key =>
    simp only [hconstraint, Option.some.injEq, exists_and_left, exists_eq_left']
    cases resolve ((binding.constraint.map Prod.fst).getD .any) key mount with
    | error e => simp [Except.map]
    | ok sources => simp [Except.map, Role.outline]

theorem isBound_outline (role : Role) : role.outline.isBound = role.isBound := by
  cases role <;> rfl

/-- What a parameter is filled with is its role, and only those that are bound may say how. -/
theorem outlineOf_iff :
    outlineOf i name t mount contextSeen = .ok o ↔
      ∃ binding, Binding.ofAttributes i.attributes = .ok binding ∧
        (roleOf name t binding mount contextSeen i.position).map Role.outline = .ok o ∧
        (o.isBound = true ∨ (binding.constraint.isSome || binding.name.isSome) = false) := by
  rw [outlineOf, parameterOf]
  cases Binding.ofAttributes i.attributes with
  | error f => simp [Except.map]
  | ok binding =>
    cases hrole : roleOf name t binding mount contextSeen i.position with
    | error p => simp [hrole, Except.map]
    | ok role =>
      simp only [hrole, Except.ok.injEq, exists_eq_left']
      generalize (binding.constraint.isSome || binding.name.isSome) = said
      constructor
      · intro h
        cases hrefused : !role.isBound && said with
        | true =>
          rw [hrefused] at h
          cases h
        | false =>
          rw [hrefused] at h
          cases h
          refine ⟨rfl, ?_⟩
          rw [isBound_outline]
          cases hbound : role.isBound with
          | true => exact .inl rfl
          | false => exact .inr (by rwa [hbound, Bool.not_false, Bool.true_and] at hrefused)
      · rintro ⟨h, hsaid⟩
        cases h
        rw [isBound_outline] at hsaid
        have haccepted : (!role.isBound && said) = false := by
          rcases hsaid with hbound | hsaid
          · rw [hbound, Bool.not_true, Bool.false_and]
          · rw [hsaid, Bool.and_false]
        rw [haccepted]
        rfl

theorem roleOf_of_value {binding : Binding} {position : Position} (h : IsValue t) :
    roleOf name t binding mount contextSeen position =
      if binding.isDocument then
        if mount.hasDocument then .ok (.document t) else .error ⟨.noDocument, position⟩
      else boundRole name t binding mount position := by
  rw [roleOf]
  split
  · exact absurd ‹_› (h.owned _ _)
  · exact absurd ‹_› (h.named _)
  · rw [if_neg (by simp [h.free])]

/-- A parameter of a value type is filled by its attributes and its mount alone. -/
theorem outlineOf_of_value (h : IsValue t) :
    outlineOf i name t mount contextSeen = .ok o ↔
      ∃ binding, Binding.ofAttributes i.attributes = .ok binding ∧ Fills name binding mount (arityOf t).1 o := by
  rw [outlineOf_iff]
  refine exists_congr fun binding => and_congr_right fun _ => ?_
  rw [roleOf_of_value h]
  cases hdocument : binding.isDocument with
  | true =>
    rw [if_pos rfl]
    constructor
    · rintro ⟨hrole, hsaid⟩
      split at hrole
      · rename_i hmount
        cases hrole
        have hnone := hsaid.resolve_left Bool.false_ne_true
        simp only [Bool.or_eq_false_iff, Option.isSome_eq_false_iff, Option.isNone_iff_eq_none] at hnone
        exact .document hdocument hmount hnone.1 hnone.2
      · cases hrole
    · intro hfills
      cases hfills with
      | document _ hmount hconstraint hname =>
        rw [if_pos hmount]
        exact ⟨rfl, .inr (by rw [hconstraint, hname]; rfl)⟩
      | bound hno _ _ => cases hdocument.symm.trans hno
  | false =>
    rw [if_neg Bool.false_ne_true, outline_boundRole_iff]
    constructor
    · rintro ⟨⟨key, sources, hkey, hsources, rfl⟩, -⟩
      exact .bound hdocument hkey hsources
    · intro hfills
      cases hfills with
      | document hyes _ _ _ => cases hdocument.symm.trans hyes
      | bound _ hkey hsources => exact ⟨⟨_, _, hkey, hsources, rfl⟩, .inl rfl⟩

theorem outline_borrowedRole {isMut : Bool} {target : TypeExpr} {role : Role}
    (h : borrowedRole isMut target mount contextSeen = .ok role) :
    role.outline.isBound = false ∧ role.outline ≠ .document := by
  simp only [borrowedRole] at h
  split at h
  · split at h
    · split at h <;> cases h
      exact ⟨rfl, by simp [Role.outline]⟩
    · cases h
  · split at h
    · cases h
      exact ⟨rfl, by simp [Role.outline]⟩
    · split at h
      · split at h <;> cases h
        exact ⟨rfl, by simp [Role.outline]⟩
      · cases h

theorem outlineOf_of_not_value (h : ¬ IsValue t) (houtline : outlineOf i name t mount contextSeen = .ok o) :
    o.isBound = false ∧ o ≠ .document := by
  obtain ⟨binding, -, hmapped, -⟩ := outlineOf_iff.1 houtline
  obtain ⟨role, hrole, rfl⟩ := map_eq_ok_iff.1 hmapped
  clear hmapped houtline
  simp only [roleOf] at hrole
  split at hrole
  · split at hrole <;> cases hrole
    exact outline_borrowedRole ‹_›
  · cases hrole
  · split at hrole
    · cases hrole
    · rename_i hreference hbounds hfree
      exact absurd ⟨hreference, hbounds, Bool.not_eq_true _ ▸ hfree⟩ h

theorem Fills.isBound_or_document {binding : Binding} {arity : Arity} (h : Fills name binding mount arity o) :
    o.isBound = true ∨ o = .document := by
  cases h with
  | document => exact .inr rfl
  | bound => exact .inl rfl

/-- The arity does not matter to a document. -/
theorem Fills.of_document {binding : Binding} {arity arity' : Arity} (hdocument : binding.isDocument = true)
    (h : Fills name binding mount arity o) : Fills name binding mount arity' o := by
  cases h with
  | document _ hmount hconstraint hname => exact .document hdocument hmount hconstraint hname
  | bound hno _ _ => cases hdocument.symm.trans hno

/-- In parentheses any type is one of single values. -/
theorem isValue_parenthesized (t : TypeExpr) (tokens : List Token) : IsValue (t.parenthesized tokens) :=
  ⟨nofun, nofun, rfl⟩

/-- The attributes of an input, if they can be read, say that it is a whole document. -/
def TakesDocument (i : Input) : Prop :=
  ∀ binding, Binding.ofAttributes i.attributes = .ok binding → binding.isDocument = true

/-- Parentheses around the type of a parameter are not noticed iff it is refused with and without them, or its type
is one of values and it takes one of them or a whole document. -/
theorem sameOutcome_outlineOf_iff {i' : Input} {tokens : List Token} (hattributes : i'.attributes = i.attributes) :
    SameOutcome (outlineOf i' name (t.parenthesized tokens) mount contextSeen)
        (outlineOf i name t mount contextSeen) ↔
      (∀ o, outlineOf i' name (t.parenthesized tokens) mount contextSeen ≠ .ok o ∧
        outlineOf i name t mount contextSeen ≠ .ok o) ∨
      IsValue t ∧ ((arityOf t).1 = .scalar ∨ TakesDocument i) := by
  have hparens : ∀ {o}, outlineOf i' name (t.parenthesized tokens) mount contextSeen = .ok o ↔
      ∃ binding, Binding.ofAttributes i.attributes = .ok binding ∧ Fills name binding mount .scalar o := by
    intro o
    rw [outlineOf_of_value (isValue_parenthesized t tokens), hattributes]
    rfl
  constructor
  · intro hsame
    by_cases haccepted : ∃ o, outlineOf i name t mount contextSeen = .ok o
    · obtain ⟨o, ho⟩ := haccepted
      obtain ⟨binding, hbinding, hfills⟩ := hparens.1 ((hsame o).2 ho)
      right
      have hvalue : IsValue t := by
        apply Classical.byContradiction
        intro hno
        obtain ⟨hbound, hdocument⟩ := outlineOf_of_not_value hno ho
        rcases hfills.isBound_or_document with h | h
        · cases hbound.symm.trans h
        · exact hdocument h
      refine ⟨hvalue, ?_⟩
      obtain ⟨binding', hbinding', hfills'⟩ := (outlineOf_of_value hvalue).1 ho
      obtain rfl : binding = binding' := Except.ok.inj (hbinding.symm.trans hbinding')
      cases hfills with
      | document hdocument =>
        exact .inr fun other hother => Except.ok.inj (hbinding.symm.trans hother) ▸ hdocument
      | bound _ _ _ =>
        generalize (arityOf t).1 = arity at hfills' ⊢
        cases hfills'
        exact .inl rfl
    · exact .inl fun o => ⟨fun ho => haccepted ⟨o, (hsame o).1 ho⟩, fun ho => haccepted ⟨o, ho⟩⟩
  · rintro (hrefused | ⟨hvalue, hscalar | hdocument⟩) o
    · exact iff_of_false (hrefused o).1 (hrefused o).2
    · rw [hparens, outlineOf_of_value hvalue, hscalar]
    · rw [hparens, outlineOf_of_value hvalue]
      refine exists_congr fun binding => and_congr_right fun hbinding => ?_
      have hyes := hdocument binding hbinding
      exact ⟨Fills.of_document hyes, Fills.of_document hyes⟩

end Parameters

/-- **Where parentheses are not noticed.** Around a declared result they are not noticed iff it is the empty tuple or a
trait object, or a value that is neither promised nor fallible, has a place, and executes itself only if it is marked.
Around the type of a parameter they are not noticed iff the parameter is refused with and without them, or its type is
one of values and it takes one of them or a whole document. -/
theorem parentheses_unnoticed_iff (t : TypeExpr) (tokens : List Token) :
    (∀ isAsync kind marked,
      SameOutcome (classify (some (t.parenthesized tokens)) isAsync kind marked)
          (classify (some t) isAsync kind marked) ↔
        t.Vacant ∨ t.Dynamic ∨ (∀ value, ¬ t.Promises value) ∧ (∀ value, ¬ t.Wraps value) ∧
          ¬ Misplaced kind marked t ∧ (Executes kind marked t → marked = true)) ∧
    ∀ (i : Input) (written : List Token) (name : Option String) (mount : Mount) (contextSeen : Bool),
      let inParens := t.parenthesized tokens
      SameOutcome (outlineOf (i.retyped name inParens written) name inParens mount contextSeen)
          (outlineOf i name t mount contextSeen) ↔
        (∀ o, outlineOf (i.retyped name inParens written) name inParens mount contextSeen ≠ .ok o ∧
          outlineOf i name t mount contextSeen ≠ .ok o) ∨
        IsValue t ∧ ((arityOf t).1 = .scalar ∨ TakesDocument i) :=
  ⟨fun _ _ _ => sameOutcome_classify_iff, fun _ _ _ _ _ => sameOutcome_outlineOf_iff rfl⟩

/-- What is done with the result of a signature, if its text is one. -/
def returnsOf? (text : String) (kind : HandlerKind) (marked : Bool) : Option (Option Returns) :=
  (readText? takeSignature text).map fun s => (classify s.result s.isAsync kind marked).toOption

/-- The type `Result<(), AppError>`. -/
def savedResult : TypeExpr :=
  .mk [] (.path [.mk "Result" (.angled [.type (.mk [] (.tuple [])), .type (.mk [] (.path [.mk "AppError" .none]))])])

/-- The type `Vec<String>`. -/
def tagList : TypeExpr := .mk [] (.path [.mk "Vec" (.angled [.type (.mk [] (.path [.mk "String" .none]))])])

/-- The type `&str`. -/
def borrowedText : TypeExpr := .mk [] (.reference false (.mk [] (.path [.mk "str" .none])))

/-- A parameter of an action that may be in the query. -/
def tagInput (t : TypeExpr) : Input := ⟨[], .value (some "tag") t, [], false⟩

/-- In parentheses a failure is not seen, a list is taken for one value, and what is borrowed is bound. -/
theorem failure_hidden_in_parentheses :
    returnsOf? "fn save(&self) -> Result<(), AppError>" .action false = some (some ⟨.void, true, false⟩) ∧
    returnsOf? "fn save(&self) -> (Result<(), AppError>)" .action false = some (some ⟨.syncValue, false, false⟩) ∧
    ¬ SameOutcome (classify (some (savedResult.parenthesized [])) false .action false)
      (classify (some savedResult) false .action false) ∧
    ¬ SameOutcome (outlineOf (tagInput (tagList.parenthesized [])) (some "tag") (tagList.parenthesized [])
        (.action ["/books"]) false)
      (outlineOf (tagInput tagList) (some "tag") tagList (.action ["/books"]) false) ∧
    ¬ SameOutcome (outlineOf (tagInput (borrowedText.parenthesized [])) (some "tag") (borrowedText.parenthesized [])
        (.action ["/books"]) false)
      (outlineOf (tagInput borrowedText) (some "tag") borrowedText (.action ["/books"]) false) := by
  refine ⟨by decide +kernel, by decide +kernel, fun hsame => ?result, fun hsame => ?list, fun hsame => ?borrowed⟩
  case result =>
    have hseen : classify (some savedResult) false .action false = .ok ⟨.void, true, false⟩ := rfl
    cases (hsame _).2 hseen
  case list =>
    have hlist : outlineOf (tagInput tagList) (some "tag") tagList (.action ["/books"]) false =
        .ok (.bound [.query, .header, .cookie] "tag" (.collection false)) := rfl
    cases (hsame _).2 hlist
  case borrowed =>
    have hbound : outlineOf (tagInput (borrowedText.parenthesized [])) (some "tag") (borrowedText.parenthesized [])
        (.action ["/books"]) false = .ok (.bound [.query, .header, .cookie] "tag" .scalar) := rfl
    cases (hsame _).1 hbound

end Switchyard

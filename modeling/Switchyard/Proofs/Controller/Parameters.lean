import Switchyard.Controller.Parameter
import Switchyard.Proofs.Binding.Precedence

/-!
# What parameters may be

Where a handler is mounted says which roles its parameters may have, and with which plans. The inputs of a
method are read from left to right, and every input that is a value becomes one parameter.

Main results, on inputs that are read without a problem: `ReadsInputs.fits`, `ReadsInputs.length_eq` and
`ReadsInputs.countP_isContext_le`.
-/

namespace Switchyard

open Code

/-! ## Plans -/

/-- What a plan is where it is resolved: it has sources, each once; the message is one of them only where there
is a message; and it is the path alone only if every template captures the key. -/
structure BindingPlan.Fits (mount : Mount) (plan : BindingPlan) : Prop where
  nonempty : plan.sources ≠ []
  nodup : plan.sources.Nodup
  message : .message ∈ plan.sources → mount.hasMessage = true
  path : plan.sources = [.path] → ∀ path ∈ mount.paths, plan.key ∈ templateParams path

/-- The message is a plan of its own only where there is one. -/
theorem hasMessage_of_resolve {key : String} {mount : Mount} {sources : List Source}
    (h : resolve (.source .message) key mount = .ok sources) : mount.hasMessage = true := by
  simp only [resolve] at h
  split at h
  · assumption
  · cases h

theorem captured_of_resolve {key : String} {mount : Mount} {sources : List Source}
    (h : resolve (.source .path) key mount = .ok sources) : ∀ path ∈ mount.paths, key ∈ templateParams path :=
  resolve_path_iff.1 ⟨sources, h⟩

theorem fits_of_resolve {constraint : Constraint} {key : String} {mount : Mount} {sources : List Source}
    (h : resolve constraint key mount = .ok sources) (arity : Arity) (element : TypeExpr)
    (collection : Option TypeExpr) : BindingPlan.Fits mount { sources, key, arity, element, collection } := by
  cases constraint with
  | source s =>
    obtain rfl := resolve_source h
    refine ⟨by simp, by simp, fun hmessage => ?_, fun hpath => ?_⟩
    · obtain rfl := List.mem_singleton.1 hmessage
      exact hasMessage_of_resolve h
    · obtain rfl := List.singleton_inj.1 hpath
      exact captured_of_resolve h
  | any =>
    by_cases hmessage : mount.hasMessage = true
    · obtain rfl := resolve_any_message hmessage h
      exact ⟨by simp, by simp, fun _ => hmessage, fun hpath => by simp at hpath⟩
    · obtain rfl := resolve_any (Bool.not_eq_true _ ▸ hmessage) h
      split
      all_goals exact ⟨by simp, by simp, fun hmem => by simp at hmem, fun hpath => by simp at hpath⟩

/-! ## Roles -/

/-- Whether a handler answers requests, and no event. -/
def Mount.isAction : Mount → Bool
  | .action _ => true
  | .event .. => false

/-- What a parameter may be where its handler is mounted. -/
def Role.Fits (mount : Mount) : Role → Prop
  | .bound plan => plan.Fits mount
  | .context _ => mount.isAction = true
  | .document _ => mount.hasDocument = true
  | .session => mount.isAction = false
  | .eventContext => mount.isAction = false

theorem borrowedRole_fits {isMut : Bool} {target : TypeExpr} {mount : Mount} {contextSeen : Bool} {role : Role}
    (h : borrowedRole isMut target mount contextSeen = .ok role) :
    role.Fits mount ∧ (role.isContext = true → contextSeen = false) := by
  cases mount with
  | action paths =>
    simp only [borrowedRole] at h
    split at h
    · split at h
      · cases h
      · cases h
        exact ⟨rfl, fun _ => Bool.not_eq_true _ ▸ ‹¬ contextSeen = true›⟩
    · cases h
  | event e path =>
    simp only [borrowedRole] at h
    split at h
    · cases h
      exact ⟨rfl, fun hcontext => by cases hcontext⟩
    · split at h
      · split at h
        · cases h
          exact ⟨rfl, fun hcontext => by cases hcontext⟩
        · cases h
      · cases h

theorem boundRole_fits {name : Option String} {t : TypeExpr} {binding : Binding} {mount : Mount}
    {position : Position} {role : Role} (h : boundRole name t binding mount position = .ok role) :
    role.Fits mount ∧ role.isContext = false := by
  simp only [boundRole] at h
  split at h
  · cases h
  · split at h
    · cases h
    · rename_i hresolve
      cases h
      exact ⟨fits_of_resolve hresolve _ _ _, rfl⟩

/-- Every role fits its mount, and it is a context only if there was none before. -/
theorem roleOf_fits {name : Option String} {t : TypeExpr} {binding : Binding} {mount : Mount} {contextSeen : Bool}
    {position : Position} {role : Role} (h : roleOf name t binding mount contextSeen position = .ok role) :
    role.Fits mount ∧ (role.isContext = true → contextSeen = false) := by
  simp only [roleOf] at h
  split at h
  · split at h
    · rename_i hborrowed
      cases h
      exact borrowedRole_fits hborrowed
    · cases h
  · cases h
  · split at h
    · cases h
    · split at h
      · split at h
        · rename_i hdocument
          cases h
          exact ⟨hdocument, fun hcontext => by cases hcontext⟩
        · cases h
      · obtain ⟨hfits, hcontext⟩ := boundRole_fits h
        exact ⟨hfits, fun htrue => by rw [hcontext] at htrue; cases htrue⟩

/-! ## Inputs -/

/-- Whether an input is a value, and not the method's object. -/
def Code.Input.isValue (i : Input) : Bool :=
  match i.kind with
  | .value .. => true
  | _ => false

/-- Inputs are read as parameters: the method's object is passed over, and every value becomes a parameter.
`contextSeen` tells whether an input before them is an action's context. -/
inductive ReadsInputs (mount : Mount) : (contextSeen : Bool) → List Input → List Parameter → Prop
  | done {contextSeen : Bool} : ReadsInputs mount contextSeen [] []
  | skipped {contextSeen : Bool} {i : Input} {rest : List Input} {params : List Parameter} :
      i.isValue = false → ReadsInputs mount contextSeen rest params →
      ReadsInputs mount contextSeen (i :: rest) params
  | value {contextSeen : Bool} {i : Input} {name : Option String} {t : TypeExpr} {p : Parameter}
      {rest : List Input} {params : List Parameter} :
      i.kind = .value name t → (parameterOf i name t mount contextSeen).2 = .ok p →
      ReadsInputs mount (parameterOf i name t mount contextSeen).1 rest params →
      ReadsInputs mount contextSeen (i :: rest) (p :: params)

/-- Without a problem, inputs are read one by one. -/
theorem readsInputs_of_parametersOf {mount : Mount} : ∀ {contextSeen : Bool} {inputs : List Input}
    {params : List Parameter}, parametersOf mount contextSeen inputs = params.map .ok →
      ReadsInputs mount contextSeen inputs params
  | _, [], params, h => by
    obtain rfl : params = [] := by simpa [parametersOf, eq_comm] using h
    exact .done
  | contextSeen, i :: rest, params, h => by
    cases hkind : i.kind with
    | receiver typed =>
      cases typed with
      | false =>
        simp only [parametersOf, hkind, Bool.false_eq_true, if_false] at h
        exact .skipped (by simp [Input.isValue, hkind]) (readsInputs_of_parametersOf h)
      | true =>
        simp only [parametersOf, hkind, if_true] at h
        cases params <;> cases h
    | variadic =>
      simp only [parametersOf, hkind] at h
      exact .skipped (by simp [Input.isValue, hkind]) (readsInputs_of_parametersOf h)
    | value name t =>
      simp only [parametersOf, hkind] at h
      cases params with
      | nil => cases h
      | cons p params =>
        rw [List.map_cons, List.cons.injEq] at h
        exact .value hkind h.1 (readsInputs_of_parametersOf h.2)

/-- The parameter of an input fits its mount; it is a context only if there was none before, and then there is
one from there on. -/
theorem parameterOf_fits {i : Input} {name : Option String} {t : TypeExpr} {mount : Mount} {contextSeen : Bool}
    {p : Parameter} (h : (parameterOf i name t mount contextSeen).2 = .ok p) :
    p.role.Fits mount ∧ (p.role.isContext = true → contextSeen = false) ∧
      (parameterOf i name t mount contextSeen).1 = (contextSeen || p.role.isContext) := by
  simp only [parameterOf] at h ⊢
  split at h
  · cases h
  · split at h
    · cases h
    · rename_i hrole
      simp only at h ⊢
      split at h
      · cases h
      · cases h
        obtain ⟨hfits, hcontext⟩ := roleOf_fits hrole
        exact ⟨hfits, hcontext, rfl⟩

namespace ReadsInputs

variable {mount : Mount} {contextSeen : Bool} {inputs : List Input} {params : List Parameter}

theorem fits (h : ReadsInputs mount contextSeen inputs params) : ∀ p ∈ params, p.role.Fits mount := by
  induction h with
  | done => intro p hp; cases hp
  | skipped _ _ ih => exact ih
  | value _ hp _ ih =>
    intro q hq
    cases hq with
    | head => exact (parameterOf_fits hp).1
    | tail _ hq => exact ih q hq

theorem length_eq (h : ReadsInputs mount contextSeen inputs params) :
    params.length = inputs.countP Input.isValue := by
  induction h with
  | done => rfl
  | skipped hi _ ih => rw [List.countP_cons_of_neg (by simp [hi]), ih]
  | value hkind _ _ ih => rw [List.countP_cons_of_pos (by simp [Input.isValue, hkind]), List.length_cons, ih]

/-- At most one parameter is a context, and none if there was one before. -/
theorem countP_isContext_le (h : ReadsInputs mount contextSeen inputs params) :
    params.countP (·.role.isContext) ≤ if contextSeen then 0 else 1 := by
  induction h with
  | done => simp
  | skipped _ _ ih => exact ih
  | @value contextSeen i name t p rest params _ hp _ ih =>
    obtain ⟨-, hfirst, hseen⟩ := parameterOf_fits hp
    rw [hseen] at ih
    cases hcontext : p.role.isContext with
    | false =>
      rw [hcontext, Bool.or_false] at ih
      rwa [List.countP_cons, hcontext, if_neg Bool.false_ne_true, Nat.add_zero]
    | true =>
      -- the first context: nothing before it was one, and nothing after it is
      obtain rfl := hfirst hcontext
      rw [hcontext, Bool.or_true, if_pos rfl] at ih
      rw [List.countP_cons, if_pos hcontext]
      simpa using ih

end ReadsInputs

end Switchyard

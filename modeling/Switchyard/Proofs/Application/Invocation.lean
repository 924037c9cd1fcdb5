import Switchyard.Application.Invocation

/-!
# What a method is called with

The program of an invocation makes the values of some parameters, numbers them, and looks them up again for
the call. Read parameter by parameter it is simpler: each is supplied with one argument, from left to right,
and the call gets the arguments of all.

Main result: `run?_invocationOf`; in particular an invocation never misses a value that it made.
-/

namespace Switchyard

variable {C S V R : Type} [Carrier C]

/-- What a parameter is supplied with; `message` is the decoded message, if there is one. -/
def Parameter.supply (readers : ValueReaders V) (ctx : C) (message : Option Json) (p : Parameter) :
    Except HttpError (CallArgument V) :=
  match p.role with
  | .bound plan => (ValueCode.bound plan).make readers ctx message
  | .document type => (ValueCode.document type).make readers ctx message
  | .context _ => .ok .context
  | .eventContext => .ok .context
  | .session => .ok .session

/-- Whether a parameter is bound from the message. -/
def Parameter.usesMessage (p : Parameter) : Bool := p.value?.any ValueCode.usesMessage

/-- The message that parameters are supplied from: it is decoded first, if one of them is bound from it. -/
def messageFor (params : List Parameter) (ctx : C) : Except HttpError (Option Json) :=
  if params.any Parameter.usesMessage then (Carrier.document ctx).map some else .ok none

/-- The arguments of parameters, supplied from left to right; the first failure ends it. -/
def supplyAll (readers : ValueReaders V) (ctx : C) (params : List Parameter) :
    Except HttpError (List (CallArgument V)) :=
  match messageFor params ctx with
  | .error e => .error e
  | .ok message => params.mapM (Parameter.supply readers ctx message)

/-! ## Numbers of parameters -/

theorem lookup_append_of_lt {α : Type} {made rest : List (Nat × α)} {n : Nat} (h : ∀ v ∈ made, v.1 < n) :
    (made ++ rest).lookup n = rest.lookup n := by
  induction made with
  | nil => rfl
  | cons v made ih =>
    obtain ⟨k, value⟩ := v
    have hk : k < n := h (k, value) List.mem_cons_self
    have hbeq : (n == k) = false := beq_eq_false_iff_ne.2 (by omega)
    rw [List.cons_append, List.lookup_cons, hbeq]
    exact ih fun v hv => h v (List.mem_cons_of_mem _ hv)

theorem lt_succ_of_append {α : Type} {made : List (Nat × α)} {n : Nat} (a : α) (h : ∀ v ∈ made, v.1 < n) :
    ∀ v ∈ made ++ [(n, a)], v.1 < n + 1 := by
  intro v hv
  rcases List.mem_append.1 hv with hv | hv
  · exact Nat.lt_succ_of_lt (h v hv)
  · obtain rfl := List.mem_singleton.1 hv
    exact Nat.lt_succ_self n

theorem supply_of_value (readers : ValueReaders V) (ctx : C) (message : Option Json) {p : Parameter}
    {code : ValueCode} (h : p.value? = some code) :
    p.supply readers ctx message = code.make readers ctx message ∧ ∀ n, p.argument n = .value n := by
  unfold Parameter.value? at h
  unfold Parameter.supply Parameter.argument
  cases hr : p.role <;> simp only [hr] at h <;> cases h
  all_goals exact ⟨rfl, fun _ => rfl⟩

theorem supply_of_no_value (readers : ValueReaders V) (ctx : C) (message : Option Json) {p : Parameter}
    (h : p.value? = none) : ∃ argument, p.supply readers ctx message = .ok argument ∧
      ∀ n values codes, Invocation.callArguments? values (p.argument n :: codes) =
        (Invocation.callArguments? values codes).map (argument :: ·) := by
  unfold Parameter.value? at h
  unfold Parameter.supply Parameter.argument
  cases hr : p.role <;> simp only [hr] at h <;> cases h
  all_goals refine ⟨_, rfl, fun _ values codes => ?_⟩
  all_goals cases hc : Invocation.callArguments? values codes <;> simp [Invocation.callArguments?, hc]

/-- Making the values of parameters and looking them up supplies the parameters, whatever smaller numbers were
made before. -/
theorem makeValues_valuesFrom (readers : ValueReaders V) (ctx : C) (message : Option Json) :
    ∀ (params : List Parameter) (n : Nat) (made : List (Nat × CallArgument V)), (∀ v ∈ made, v.1 < n) →
      match params.mapM (Parameter.supply readers ctx message) with
      | .error e => makeValues readers ctx message (valuesFrom n params) = .error e
      | .ok arguments => ∃ values, makeValues readers ctx message (valuesFrom n params) = .ok values ∧
          Invocation.callArguments? (made ++ values) (argumentsFrom n params) = some arguments
  -- the values that were made before are kept along: a lookup passes over them to its own number
  | [], n, made, _ => ⟨[], rfl, by simp [argumentsFrom, Invocation.callArguments?]⟩
  | p :: rest, n, made, hmade => by
    rw [List.mapM_cons]
    cases hval : p.value? with
    | some code =>
      obtain ⟨hsupply, harg⟩ := supply_of_value readers ctx message hval
      simp only [hsupply, valuesFrom, hval, makeValues, argumentsFrom, harg]
      cases hmake : code.make readers ctx message with
      | error e => rfl
      | ok value =>
        have ih := makeValues_valuesFrom readers ctx message rest (n + 1) (made ++ [(n, value)])
          (lt_succ_of_append value hmade)
        cases hrest : rest.mapM (Parameter.supply readers ctx message) with
        | error e =>
          rw [hrest] at ih
          simp only [bind, Except.bind]
          rw [ih]
        | ok arguments =>
          rw [hrest] at ih
          obtain ⟨values, hvalues, hcall⟩ := ih
          rw [List.append_assoc, List.singleton_append] at hcall
          refine ⟨(n, value) :: values, by rw [hvalues], ?_⟩
          simp [Invocation.callArguments?, lookup_append_of_lt hmade, hcall]
    | none =>
      obtain ⟨argument, hsupply, harg⟩ := supply_of_no_value readers ctx message hval
      have ih := makeValues_valuesFrom readers ctx message rest (n + 1) made
        fun v hv => Nat.lt_succ_of_lt (hmade v hv)
      simp only [valuesFrom, hval, argumentsFrom, hsupply]
      cases hrest : rest.mapM (Parameter.supply readers ctx message) with
      | error e => rw [hrest] at ih; exact ih
      | ok arguments =>
        rw [hrest] at ih
        obtain ⟨values, hvalues, hcall⟩ := ih
        exact ⟨values, hvalues, by rw [harg, hcall]; rfl⟩

/-- Something holds of a value iff it holds of that of a parameter; so an invocation decodes the message iff one
of its parameters is bound from it. -/
theorem any_valuesFrom (f : ValueCode → Bool) (n : Nat) (params : List Parameter) :
    (valuesFrom n params).any (fun v => f v.2) = params.any fun p => p.value?.any f := by
  induction params generalizing n with
  | nil => rfl
  | cons p rest ih =>
    cases hval : p.value? <;> simp [valuesFrom, hval, ih]

/-! ## Running -/

/-- Calls a method with the arguments of its parameters, and executes its result if it has one. -/
def invoke (readers : ValueReaders V) (params : List Parameter) (shape : Shape)
    (call : List (CallArgument V) → Effect C S R) (execute : Shape → R → Effect C S Unit) : Effect C S Unit :=
  fun ctx state =>
    match supplyAll readers ctx params with
    | .error e => (.error e, ctx, state)
    | .ok arguments =>
      match call arguments ctx state with
      | (.error e, ctx, state) => (.error e, ctx, state)
      | (.ok reply, ctx, state) => if shape = .void then (.ok (), ctx, state) else execute shape reply ctx state

/-- **An invocation is a call with the arguments of all parameters**, and no call if one is not supplied. -/
theorem run?_invocationOf (site : Site) (method : String) (params : List Parameter) (returns : Returns)
    (readers : ValueReaders V) (call : List (CallArgument V) → Effect C S R) (execute : Shape → R → Effect C S Unit)
    (ctx : C) (state : S) :
    (invocationOf site method params returns).run? readers call execute ctx state =
      some (invoke readers params returns.shape call execute ctx state) := by
  have hmessage : (invocationOf site method params returns).message ctx = messageFor params ctx := by
    simp only [Invocation.message, Invocation.decodesMessage, invocationOf, any_valuesFrom]
    rfl
  simp only [Invocation.run?, Invocation.bind, hmessage, invoke, supplyAll]
  cases messageFor params ctx with
  | error e => rfl
  | ok message =>
    have hmake := makeValues_valuesFrom readers ctx message params 0 [] (by simp)
    cases hargs : params.mapM (Parameter.supply readers ctx message) with
    | error e =>
      rw [hargs] at hmake
      simp only [invocationOf, hmake, hargs]
    | ok arguments =>
      rw [hargs] at hmake
      obtain ⟨values, hvalues, hcall⟩ := hmake
      simp only [invocationOf, hvalues, List.nil_append] at hcall ⊢
      simp only [hcall, hargs, Option.map_some]
      rfl

end Switchyard

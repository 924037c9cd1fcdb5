import Switchyard.Proofs.Program.Invocation
import Switchyard.Proofs.Program.Steps

/-!
# Scopes of programs

Every step of a program finds what it needs, as the steps before it leave it. Around its invocation a program binds
and calls nothing that an invocation does, and opens the injector at most once.

Main results: `ready_actionProgram`, `ready_handlerProgram`, `frames_actionProgram` and `frames_handlerProgram`.
-/

namespace Switchyard

open Code

variable {quoted : Pieces → Prop} {s : Scope} {known : List Variable}

/-! ## What steps find -/

theorem ready_acquisitions (inject : Option String) (needsInjector : Bool) (hstate : .state ∈ known) :
    Ready Acquisition.needs Acquisition.leaves known (acquisitions inject needsInjector) := by
  cases inject with
  | none => cases needsInjector <;> simp [acquisitions, Ready, Acquisition.needs, hstate]
  | some name => simp [acquisitions, Ready, Acquisition.needs, Acquisition.leaves, hstate]

theorem mem_leaves_acquisitions (inject : Option String) (needsInjector : Bool) :
    .controller ∈ (acquisitions inject needsInjector).flatMap Acquisition.leaves ∧
      (needsInjector = true → .injector ∈ (acquisitions inject needsInjector).flatMap Acquisition.leaves) := by
  cases needsInjector <;> cases inject <;> simp [acquisitions, Acquisition.leaves]

section Prepare

variable {step : Nat → Interceptor → ActionStep}

/-- Interceptors are prepared where the injector is known, if one of them is obtained from it. -/
theorem ready_prepareFrom (hneeds : ∀ n i, (step n i).needs = i.needs) :
    ∀ {list : List Interceptor} {index : Nat} {known : List Variable},
      (list.any Interceptor.isInjected = true → .injector ∈ known) →
      Ready ActionStep.needs ActionStep.leaves known (prepareFrom step index list)
  | [], _, _, _ => trivial
  | i :: rest, index, known, hinjector => by
    constructor
    · rw [hneeds]
      cases i with
      | made expression => exact List.nil_subset _
      | injected accessor => simpa [Interceptor.needs] using hinjector rfl
    · refine ready_prepareFrom hneeds fun hany => List.mem_append_right _ (hinjector ?_)
      rw [List.any_cons, hany, Bool.or_true]

theorem flatMap_prepareFrom {v : Nat → Variable} {f : ActionStep → List Variable}
    (hf : ∀ n i, f (step n i) = [v n]) : ∀ (list : List Interceptor) (index : Nat),
      (prepareFrom step index list).flatMap f = (List.range' index list.length).map v
  | [], _ => rfl
  | i :: rest, index => by
    rw [prepareFrom, List.flatMap_cons, hf, flatMap_prepareFrom hf rest]
    rfl

end Prepare

/-- **Every step of an action finds what it needs.** -/
theorem ready_actionProgram (c : Controller) (a : Action) :
    Ready ActionStep.needs ActionStep.leaves [.state, .request] (c.actionProgram a) := by
  have hbefore : ∀ n < a.before.length, .before n ∈
      (prepareFrom .prepareBefore 0 a.before).flatMap ActionStep.leaves := fun n hn => by
    rw [flatMap_prepareFrom (v := .before) (fun _ _ => rfl)]
    exact List.mem_map_of_mem (by simpa [List.mem_range'_1] using hn)
  have hafter : ∀ n < a.after.length, .after n ∈
      (prepareFrom .prepareAfter 0 a.after).flatMap ActionStep.leaves := fun n hn => by
    rw [flatMap_prepareFrom (v := .after) (fun _ _ => rfl)]
    exact List.mem_map_of_mem (by simpa [List.mem_range'_1] using hn)
  have hacquired : ∀ v ∈ (acquisitions c.inject a.needsInjector).flatMap Acquisition.leaves,
      v ∈ ((acquisitions c.inject a.needsInjector).map .acquire).flatMap ActionStep.leaves := fun v hv => by
    rwa [List.flatMap_map]
  obtain ⟨hcontroller, hinjector⟩ := mem_leaves_acquisitions c.inject a.needsInjector
  have hopen : Ready ActionStep.needs ActionStep.leaves [.state, .request] [.openContext, .announce] := by
    simp [Ready, ActionStep.needs, ActionStep.leaves]
  have hcontext : .context ∈ [ActionStep.openContext, .announce].flatMap ActionStep.leaves := List.mem_cons_self
  have hstate : .state ∈ [Variable.state, .request] := List.mem_cons_self
  unfold Controller.actionProgram
  refine ((((((hopen.append ?acquire).append ?before).append ?after).append ?guard).append ?attempt).append
    ?settle).append ?respond
  case acquire =>
    exact Ready.map (f := ActionStep.acquire) (ready_acquisitions c.inject a.needsInjector
      (List.mem_append_right _ hstate))
  case before =>
    refine ready_prepareFrom (fun _ _ => rfl) fun hany => ?_
    have hneeds : a.needsInjector = true := by simp [Action.needsInjector, hany]
    have hknown := hacquired _ (hinjector hneeds)
    simp only [List.flatMap_append, List.mem_append, hknown, true_or, or_true]
  case after =>
    refine ready_prepareFrom (fun _ _ => rfl) fun hany => ?_
    have hneeds : a.needsInjector = true := by simp [Action.needsInjector, hany]
    have hknown := hacquired _ (hinjector hneeds)
    simp only [List.flatMap_append, List.mem_append, hknown, true_or, or_true]
  case guard =>
    split
    · trivial
    · refine ⟨List.append_subset.2 ⟨List.cons_subset.2 ⟨?_, List.cons_subset.2 ⟨?_, List.nil_subset _⟩⟩,
        fun v hv => ?_⟩, trivial⟩
      · simp only [List.flatMap_append, List.mem_append, hcontext, true_or]
      · exact List.mem_append_right _ hstate
      · obtain ⟨n, hn, rfl⟩ := List.mem_map.1 hv
        have hknown := hbefore n (List.mem_range.1 hn)
        simp only [List.flatMap_append, List.mem_append, hknown, true_or, or_true]
  case attempt =>
    refine ⟨List.cons_subset.2 ⟨?_, List.cons_subset.2 ⟨?_, List.nil_subset _⟩⟩, trivial⟩
    · simp only [List.flatMap_append, List.mem_append, hcontext, true_or]
    · have hknown := hacquired _ hcontroller
      simp only [List.flatMap_append, List.mem_append, hknown, true_or, or_true]
  case settle =>
    have houtcome : .outcome ∈ [ActionStep.attempt (invocationOf .action a.name a.params a.returns)].flatMap
      ActionStep.leaves := List.mem_cons_self
    by_cases hnone : a.after.isEmpty = true
    · rw [if_pos hnone]
      refine ⟨List.cons_subset.2 ⟨?_, List.nil_subset _⟩, trivial⟩
      simp only [List.flatMap_append, List.mem_append, houtcome, or_true, true_or]
    · rw [if_neg hnone]
      refine ⟨List.append_subset.2 ⟨List.cons_subset.2 ⟨?_, List.cons_subset.2 ⟨?_, List.cons_subset.2
        ⟨?_, List.nil_subset _⟩⟩⟩, fun v hv => ?_⟩, trivial⟩
      · simp only [List.flatMap_append, List.mem_append, hcontext, true_or]
      · exact List.mem_append_right _ hstate
      · simp only [List.flatMap_append, List.mem_append, houtcome, or_true, true_or]
      · obtain ⟨n, hn, rfl⟩ := List.mem_map.1 hv
        have hknown := hafter n (List.mem_range.1 hn)
        simp only [List.flatMap_append, List.mem_append, hknown, true_or, or_true]
  case respond =>
    refine ⟨List.cons_subset.2 ⟨?_, List.nil_subset _⟩, trivial⟩
    simp only [List.flatMap_append, List.mem_append, hcontext, true_or]

/-- **Every step of a handler finds what it needs.** -/
theorem ready_handlerProgram (c : Controller) (h : Handler) :
    Ready HandlerStep.needs HandlerStep.leaves [.state, .context] (c.handlerProgram h) := by
  obtain ⟨hcontroller, -⟩ := mem_leaves_acquisitions c.inject false
  have hacquire : Ready HandlerStep.needs HandlerStep.leaves [.state, .context]
      ((acquisitions c.inject false).map .acquire) :=
    Ready.map (f := HandlerStep.acquire) (ready_acquisitions c.inject false (by decide))
  refine hacquire.append ⟨List.cons_subset.2 ⟨?_, List.cons_subset.2 ⟨?_, List.nil_subset _⟩⟩,
    List.nil_subset _, trivial⟩
  · exact List.mem_append_right _ (List.mem_cons_of_mem _ List.mem_cons_self)
  · rw [List.flatMap_map]
    exact List.mem_append_left _ hcontroller

/-! ## What programs bind and call -/

/-- What a function binds and calls around its invocation: the injector once, if it is needed, none of the
variables of the invocation, nothing of the controller, and on the context nothing that reads. -/
structure Frames (i : Invocation) (injector : Bool) (bound : List Variable) (called : List (Variable × String)) :
    Prop where
  binds : ∃ before after, bound = before ++ i.binds ++ after ∧ (∀ v ∈ before ++ after, v.isInner = false) ∧
    (before ++ after).count .injector = if injector then 1 else 0
  calls : ∃ before after, called = before ++ i.calls ++ after ∧
    ∀ call ∈ before ++ after, call.1 ≠ .controller ∧ (call.1 = .context → call.2 ∈ ["request", "into_response"])

namespace Frames

variable {i : Invocation} {injector : Bool} {bound : List Variable} {called : List (Variable × String)}

/-- What only invocations bind is bound as often as the invocation binds it. -/
theorem count_inner (h : Frames i injector bound called) {v : Variable} (hv : v.isInner = true) :
    bound.count v = i.binds.count v := by
  obtain ⟨before, after, rfl, houter, -⟩ := h.binds
  have hnone : ∀ list : List Variable, list ⊆ before ++ after → list.count v = 0 := fun list hsub =>
    List.count_eq_zero.2 fun hmem => by
      rw [houter v (hsub hmem)] at hv
      cases hv
  rw [List.count_append, List.count_append, hnone before (List.subset_append_left _ _),
    hnone after (List.subset_append_right _ _), Nat.zero_add, Nat.add_zero]

/-- The injector is bound once, if it is needed. -/
theorem count_injector (h : Frames i injector bound called) : bound.count .injector = if injector then 1 else 0 := by
  obtain ⟨before, after, rfl, -, hinjector⟩ := h.binds
  have hinvocation : i.binds.count .injector = 0 :=
    List.count_eq_zero.2 fun hmem => by cases i.isInner_of_mem_binds _ hmem
  rw [← hinjector, List.count_append, List.count_append, List.count_append, hinvocation, Nat.add_zero]

/-- What reads the context is called on it as often as the invocation calls it. -/
theorem count_call (h : Frames i injector bound called) {name : String}
    (hname : name ∉ ["request", "into_response"]) :
    called.count (.context, name) = i.calls.count (.context, name) := by
  obtain ⟨before, after, rfl, houter⟩ := h.calls
  have hnone : ∀ list : List (Variable × String), list ⊆ before ++ after → list.count (.context, name) = 0 :=
    fun list hsub => List.count_eq_zero.2 fun hmem => hname ((houter _ (hsub hmem)).2 rfl)
  rw [List.count_append, List.count_append, hnone before (List.subset_append_left _ _),
    hnone after (List.subset_append_right _ _), Nat.zero_add, Nat.add_zero]

/-- Only the method is called on the controller. -/
theorem filter_controller (h : Frames i injector bound called) :
    called.filter (fun call => call.1 = .controller) = [(.controller, i.method)] := by
  obtain ⟨before, after, rfl, houter⟩ := h.calls
  have hnone : ∀ list : List (Variable × String), list ⊆ before ++ after →
      list.filter (fun call => call.1 = .controller) = [] := fun list hsub =>
    List.filter_eq_nil_iff.2 fun call hcall => by simpa using (houter call (hsub hcall)).1
  rw [List.filter_append, List.filter_append, i.filter_controller, hnone before (List.subset_append_left _ _),
    hnone after (List.subset_append_right _ _)]
  rfl

end Frames

/-- A controller is obtained without a variable of an invocation, and with the injector at most once. -/
theorem acquisitions_leaves (inject : Option String) (needsInjector : Bool) :
    (∀ v ∈ (acquisitions inject needsInjector).flatMap Acquisition.leaves, v.isInner = false) ∧
      ((acquisitions inject needsInjector).flatMap Acquisition.leaves).count .injector =
        if inject.isSome || needsInjector then 1 else 0 := by
  cases inject <;> cases needsInjector <;> simp [acquisitions, Acquisition.leaves, Variable.isInner]

/-- A controller is obtained from the injector, if at all. -/
theorem acquisitions_calls (inject : Option String) (needsInjector : Bool) :
    ∀ call ∈ (acquisitions inject needsInjector).flatMap Acquisition.calls, call.1 = .injector := by
  cases inject <;> cases needsInjector <;> simp [acquisitions, Acquisition.calls]

theorem prepareFrom_calls {step : Nat → Interceptor → ActionStep} (hcalls : ∀ n i, (step n i).calls = i.calls) :
    ∀ {list : List Interceptor} {index : Nat},
      ∀ call ∈ (prepareFrom step index list).flatMap ActionStep.calls, call.1 = .injector
  | i :: rest, index, call, hcall => by
    rw [prepareFrom, List.flatMap_cons, hcalls, List.mem_append] at hcall
    obtain hfirst | hrest := hcall
    · cases i with
      | made expression => cases hfirst
      | injected accessor => rw [List.mem_singleton.1 hfirst]
    · exact prepareFrom_calls hcalls call hrest

theorem frames_actionProgram (c : Controller) (a : Action) :
    Frames (invocationOf .action a.name a.params a.returns) (c.inject.isSome || a.needsInjector)
      ((c.actionProgram a).flatMap ActionStep.binds) ((c.actionProgram a).flatMap ActionStep.calls) := by
  obtain ⟨hinner, hinjector⟩ := acquisitions_leaves c.inject a.needsInjector
  have hacquired := acquisitions_calls c.inject a.needsInjector
  constructor
  case binds =>
    refine ⟨[.context, .context, .error] ++ (acquisitions c.inject a.needsInjector).flatMap Acquisition.leaves
      ++ (List.range' 0 a.before.length).map .before ++ (List.range' 0 a.after.length).map .after
      ++ (if a.before.isEmpty then [] else .beforeContext :: (List.range a.before.length).flatMap fun _ => [.error])
      ++ [.outcome], if a.after.isEmpty then [.error] else [.remaining, .afterContext, .error], ?_, ?_, ?_⟩
    · simp only [Controller.actionProgram, List.flatMap_append, List.flatMap_map]
      rw [flatMap_prepareFrom (v := .before) (fun _ _ => rfl), flatMap_prepareFrom (v := .after) (fun _ _ => rfl)]
      by_cases hbefore : a.before.isEmpty = true <;> by_cases hafter : a.after.isEmpty = true <;>
        simp [hbefore, hafter, ActionStep.binds]
    · simp only [List.forall_mem_append, List.forall_mem_map]
      refine ⟨⟨⟨⟨⟨⟨by decide, hinner⟩, fun _ _ => rfl⟩, fun _ _ => rfl⟩, ?_⟩, by decide⟩, ?_⟩
      · split
        · simp
        · refine List.forall_mem_cons.2 ⟨rfl, fun v hv => ?_⟩
          obtain ⟨n, -, hv⟩ := List.mem_flatMap.1 hv
          rw [List.mem_singleton.1 hv]
          rfl
      · split <;> decide
    · have hnone : ∀ v : Nat → Variable, (∀ n, v n ≠ .injector) → ∀ list : List Nat,
          (list.map v).count .injector = 0 := fun v hv list => by
        simpa [List.count_eq_zero] using fun n _ => hv n
      have hguard : (if a.before.isEmpty then [] else
          .beforeContext :: (List.range a.before.length).flatMap fun _ => [Variable.error]).count .injector = 0 := by
        split <;> simp [List.count_eq_zero]
      have hend : (if a.after.isEmpty then [.error] else
          [.remaining, .afterContext, Variable.error]).count .injector = 0 := by
        split <;> rfl
      simp only [List.count_append, hinjector, hguard, hend, hnone .before (by simp), hnone .after (by simp)]
      simp
  case calls =>
    refine ⟨[(.context, "request"), (.context, "request")]
      ++ (acquisitions c.inject a.needsInjector).flatMap Acquisition.calls
      ++ (prepareFrom .prepareBefore 0 a.before).flatMap ActionStep.calls
      ++ (prepareFrom .prepareAfter 0 a.after).flatMap ActionStep.calls,
      (if a.after.isEmpty then [] else [(.outcome, "err"), (.afterContext, "into_error")])
      ++ [(.context, "into_response")], ?_, ?_⟩
    · simp only [Controller.actionProgram, List.flatMap_append, List.flatMap_map]
      by_cases hbefore : a.before.isEmpty = true <;> by_cases hafter : a.after.isEmpty = true <;>
        simp [hbefore, hafter, ActionStep.calls]
    · have hinjected : ∀ calls : List (Variable × String), (∀ call ∈ calls, call.1 = .injector) → ∀ call ∈ calls,
          call.1 ≠ .controller ∧ (call.1 = .context → call.2 ∈ ["request", "into_response"]) :=
        fun calls h call hcall => by simp [h call hcall]
      simp only [List.forall_mem_append]
      refine ⟨⟨⟨⟨by decide, hinjected _ hacquired⟩, hinjected _ (prepareFrom_calls fun _ _ => rfl)⟩,
        hinjected _ (prepareFrom_calls fun _ _ => rfl)⟩, ?_, by decide⟩
      split <;> decide

theorem frames_handlerProgram (c : Controller) (h : Handler) :
    Frames (invocationOf (.event h.event) h.name h.params h.returns) c.inject.isSome
      ((c.handlerProgram h).flatMap HandlerStep.binds) ((c.handlerProgram h).flatMap HandlerStep.calls) := by
  obtain ⟨hinner, hinjector⟩ := acquisitions_leaves c.inject false
  have hacquired := acquisitions_calls c.inject false
  constructor
  case binds =>
    refine ⟨(acquisitions c.inject false).flatMap Acquisition.leaves, [], ?_, by simpa using hinner, ?_⟩
    · simp [Controller.handlerProgram, List.flatMap_map, HandlerStep.binds]
    · simpa using hinjector
  case calls =>
    refine ⟨(acquisitions c.inject false).flatMap Acquisition.calls, [], ?_, fun call hcall => ?_⟩
    · simp [Controller.handlerProgram, List.flatMap_map, HandlerStep.calls]
    · rw [List.append_nil] at hcall
      simp [hacquired call hcall]

/-! ## What functions quote -/

/-- What the function of a method quotes: the path of the library, names of functions and methods, and code of the
user as it stands in the block, which are types of the controller and of the parameters, and expressions that make
interceptors. -/
inductive Controller.Quotes (c : Controller) (root : Pieces) (functions : List String) (method : String)
    (params : List Parameter) (chain : List Interceptor) : Pieces → Prop
  | root : Quotes c root functions method params chain root
  | state : Quotes c root functions method params chain c.state
  | type : Quotes c root functions method params chain c.type.pieces
  | function {name : String} : name ∈ functions → Quotes c root functions method params chain [name]
  | method : Quotes c root functions method params chain [method]
  | accessor {name : String} : c.inject = some name → Quotes c root functions method params chain [name]
  | element {p : Parameter} {plan : BindingPlan} : p ∈ params → p.role = .bound plan →
      Quotes c root functions method params chain plan.element.pieces
  | collection {p : Parameter} {plan : BindingPlan} {t : TypeExpr} : p ∈ params → p.role = .bound plan →
      plan.collection = some t → Quotes c root functions method params chain t.pieces
  | document {p : Parameter} {t : TypeExpr} : p ∈ params → p.role = .document t →
      Quotes c root functions method params chain t.pieces
  | made {expression : Pieces} : .made expression ∈ chain → Quotes c root functions method params chain expression
  | injected {name : String} : .injected name ∈ chain → Quotes c root functions method params chain [name]

section Quoting

variable {c : Controller} {root : Pieces} {functions : List String} {method : String} {params : List Parameter}
  {chain : List Interceptor}

theorem Controller.quotes_scope (c : Controller) (root : Pieces) (functions : List String) (method : String)
    (params : List Parameter) (chain : List Interceptor) :
    (c.scope root method).Quotes (c.Quotes root functions method params chain) := ⟨.root, .state, .type⟩

theorem Controller.quotes_value {p : Parameter} {value : ValueCode} (hp : p ∈ params) (hvalue : p.value? = some value) :
    value.Quotes (c.Quotes root functions method params chain) := by
  unfold Parameter.value? at hvalue
  cases hrole : p.role <;> rw [hrole] at hvalue <;> cases hvalue
  case bound plan => exact ⟨.element hp hrole, fun t ht => .collection hp hrole ht⟩
  case document t => exact .document hp hrole

/-- An invocation makes the values of all arguments that have one. -/
theorem Controller.complete_invocation (site : Site) (returns : Returns) :
    (invocationOf site method params returns).Complete (c.Quotes root functions method params chain)
      (c.scope root method) where
  root := .root
  method := .method
  values := fun v hv => by
    obtain ⟨-, p, hp, hvalue⟩ := mem_valuesFrom hv
    exact quotes_value hp hvalue
  arguments := fun n hn => by
    obtain ⟨value, hvalue⟩ := exists_value_of_argument hn
    exact List.mem_map_of_mem hvalue

theorem Controller.quotes_acquisition (needsInjector : Bool) : ∀ a ∈ acquisitions c.inject needsInjector,
    a.Quotes (c.Quotes root functions method params chain) := by
  intro a ha
  rcases List.mem_append.1 ha with hopen | hconstruct
  · split at hopen
    · rw [List.mem_singleton.1 hopen]
      trivial
    · cases hopen
  · rw [List.mem_singleton.1 hconstruct]
    cases hinject : c.inject with
    | none => trivial
    | some name => exact .accessor hinject

theorem Controller.quotes_interceptor {i : Interceptor} (hi : i ∈ chain) :
    i.Quotes (c.Quotes root functions method params chain) := by
  cases i with
  | made expression => exact .made hi
  | injected name => exact .injected hi

end Quoting

theorem mem_prepareFrom {step : Nat → Interceptor → ActionStep} {s : ActionStep} : ∀ {list : List Interceptor}
    {index : Nat}, s ∈ prepareFrom step index list → ∃ n, ∃ i ∈ list, s = step n i
  | i :: rest, index, hs => by
    obtain rfl | hs := List.mem_cons.1 hs
    · exact ⟨index, i, List.mem_cons_self, rfl⟩
    · obtain ⟨n, j, hj, rfl⟩ := mem_prepareFrom hs
      exact ⟨n, j, List.mem_cons_of_mem i hj, rfl⟩

namespace Controller

/-- The code of every step of an action is quoted. -/
theorem complete_actionProgram (c : Controller) (root : Pieces) (a : Action) : ∀ step ∈ c.actionProgram a,
    step.Complete (c.Quotes root [c.actionFunction a.name] a.name a.params (a.before ++ a.after))
      (c.scope root a.name) := by
  intro step hstep
  unfold actionProgram at hstep
  simp only [List.mem_append, List.mem_map] at hstep
  obtain ((((((hopen | hacquire) | hbefore) | hafter) | hguard) | hattempt) | hend) | hrespond := hstep
  · simp only [List.mem_cons, List.not_mem_nil, or_false] at hopen
    obtain rfl | rfl := hopen <;> trivial
  · obtain ⟨acquisition, hacquisition, rfl⟩ := hacquire
    exact quotes_acquisition _ acquisition hacquisition
  · obtain ⟨n, i, hi, rfl⟩ := mem_prepareFrom hbefore
    exact quotes_interceptor (List.mem_append_left _ hi)
  · obtain ⟨n, i, hi, rfl⟩ := mem_prepareFrom hafter
    exact quotes_interceptor (List.mem_append_right _ hi)
  · split at hguard
    · cases hguard
    · rw [List.mem_singleton.1 hguard]
      trivial
  · rw [List.mem_singleton.1 hattempt]
    exact complete_invocation .action a.returns
  · split at hend <;> rw [List.mem_singleton.1 hend] <;> trivial
  · rw [List.mem_singleton.1 hrespond]
    trivial

theorem complete_handlerProgram (c : Controller) (root : Pieces) (h : Handler) : ∀ step ∈ c.handlerProgram h,
    step.Complete (c.Quotes root [c.eventFunction h.event] h.name h.params []) (c.scope root h.name) := by
  intro step hstep
  unfold handlerProgram at hstep
  simp only [List.mem_append, List.mem_map, List.mem_cons, List.not_mem_nil, or_false] at hstep
  obtain ⟨acquisition, hacquisition, rfl⟩ | rfl | rfl := hstep
  · exact quotes_acquisition _ acquisition hacquisition
  · exact complete_invocation _ h.returns
  · trivial

end Controller

end Switchyard

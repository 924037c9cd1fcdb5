import Switchyard.Proofs.Application.Supply
import Switchyard.Proofs.Program.Binding

/-!
# Variables and calls of an invocation

An invocation numbers the values of its parameters, makes at most one binder for them, and decodes the message at
most once. What it binds is known to nothing else.

Main results: `Invocation.count_binder`, `Invocation.count_argument_le`, `Invocation.count_decodes` and
`Invocation.filter_controller`.
-/

namespace Switchyard

open Code

/-! ## Values of parameters -/

theorem Parameter.value?_of_argument {p : Parameter} {n k : Nat} (h : p.argument n = .value k) :
    n = k ∧ ∃ value, p.value? = some value := by
  unfold Parameter.argument at h
  unfold Parameter.value?
  cases hrole : p.role <;> rw [hrole] at h <;> cases h
  all_goals exact ⟨rfl, _, rfl⟩

theorem mem_valuesFrom : ∀ {params : List Parameter} {n : Nat} {v : Nat × ValueCode}, v ∈ valuesFrom n params →
    n ≤ v.1 ∧ ∃ p ∈ params, p.value? = some v.2
  | p :: rest, n, v, hv => by
    rw [valuesFrom] at hv
    cases hvalue : p.value? with
    | none =>
      rw [hvalue] at hv
      obtain ⟨hle, q, hq, heq⟩ := mem_valuesFrom hv
      exact ⟨Nat.le_of_succ_le hle, q, List.mem_cons_of_mem _ hq, heq⟩
    | some value =>
      rw [hvalue] at hv
      cases hv with
      | head => exact ⟨Nat.le_refl n, p, List.mem_cons_self, hvalue⟩
      | tail _ hv =>
        obtain ⟨hle, q, hq, heq⟩ := mem_valuesFrom hv
        exact ⟨Nat.le_of_succ_le hle, q, List.mem_cons_of_mem _ hq, heq⟩

/-- No two values have the same number. -/
theorem nodup_valuesFrom : ∀ (params : List Parameter) (n : Nat), ((valuesFrom n params).map Prod.fst).Nodup
  | [], _ => List.nodup_nil
  | p :: rest, n => by
    rw [valuesFrom]
    cases p.value? with
    | none => exact nodup_valuesFrom rest (n + 1)
    | some value =>
      refine List.nodup_cons.2 ⟨fun hn => ?_, nodup_valuesFrom rest (n + 1)⟩
      obtain ⟨v, hv, heq⟩ := List.mem_map.1 hn
      have hle := (mem_valuesFrom hv).1
      omega

theorem exists_value_of_argument : ∀ {params : List Parameter} {n k : Nat}, .value k ∈ argumentsFrom n params →
    ∃ value, (k, value) ∈ valuesFrom n params
  | p :: rest, n, k, hk => by
    rw [argumentsFrom, List.mem_cons] at hk
    rw [valuesFrom]
    obtain hfirst | hrest := hk
    · obtain ⟨rfl, value, hvalue⟩ := p.value?_of_argument hfirst.symm
      rw [hvalue]
      exact ⟨value, List.mem_cons_self⟩
    · obtain ⟨value, hvalue⟩ := exists_value_of_argument hrest
      cases p.value? with
      | none => exact ⟨value, hvalue⟩
      | some _ => exact ⟨value, List.mem_cons_of_mem _ hvalue⟩

/-! ## What an invocation binds -/

/-- Whether a variable is one that only invocations bind. -/
def Variable.isInner : Variable → Bool
  | .argument _ | .message | .binder | .collected | .result => true
  | _ => false

theorem ValueCode.eq_of_mem_binds {value : ValueCode} {v : Variable} (hv : v ∈ value.binds) : v = .collected := by
  unfold ValueCode.binds at hv
  cases value with
  | document type => cases hv
  | bound plan =>
    simp only at hv
    split at hv
    · exact List.mem_singleton.1 hv
    · cases hv

namespace Invocation

theorem isInner_of_mem_binds (i : Invocation) : ∀ v ∈ i.binds, v.isInner = true := by
  unfold binds valueBinds
  simp only [List.forall_mem_append]
  refine ⟨⟨List.forall_mem_map.2 fun _ _ => rfl, ?binder, fun v hv => ?values⟩, ?result⟩
  case binder =>
    unfold binderBinds
    cases i.needsBinder <;> cases i.decodesMessage <;> decide
  case values =>
    obtain ⟨value, -, hbinds⟩ := List.mem_flatMap.1 hv
    rw [ValueCode.eq_of_mem_binds hbinds]
    rfl
  case result =>
    unfold resultBinds
    split <;> decide

/-- No value binds a variable but those that are collected. -/
theorem count_valueBinds (i : Invocation) {v : Variable} (hv : v ≠ .collected) :
    (i.values.flatMap fun value => value.2.binds).count v = 0 := by
  rw [List.count_eq_zero]
  intro hmem
  obtain ⟨value, -, hbinds⟩ := List.mem_flatMap.1 hmem
  exact hv (ValueCode.eq_of_mem_binds hbinds)

/-- **There is one binder if a value is bound, and else none.** -/
theorem count_binder (i : Invocation) : i.binds.count .binder = if i.needsBinder then 1 else 0 := by
  have hnumbered : i.numbered.count .binder = 0 := by simp [numbered, List.count_eq_zero]
  have hresult : i.resultBinds.count .binder = 0 := by
    unfold resultBinds
    split <;> rfl
  have hbinder : i.binderBinds.count .binder = if i.needsBinder then 1 else 0 := by
    unfold binderBinds
    cases i.needsBinder <;> cases i.decodesMessage <;> rfl
  unfold binds valueBinds
  simp only [List.count_append, hnumbered, hbinder, i.count_valueBinds (v := .binder) (by simp), hresult]
  simp

/-- **A value is bound at most once**, if no two have the same number. -/
theorem count_argument_le {i : Invocation} (hnodup : (i.values.map Prod.fst).Nodup) (n : Nat) :
    i.binds.count (.argument n) ≤ 1 := by
  have hnumbered : i.numbered.count (.argument n) ≤ 1 := by
    refine List.nodup_iff_count.1 ?_ _
    have h : ((i.values.map Prod.fst).map Variable.argument).Nodup :=
      List.Pairwise.map Variable.argument (fun _ _ hne heq => hne (Variable.argument.inj heq)) hnodup
    rwa [List.map_map] at h
  have hresult : i.resultBinds.count (.argument n) = 0 := by
    unfold resultBinds
    split <;> simp
  have hbinder : i.binderBinds.count (.argument n) = 0 := by
    unfold binderBinds
    cases i.needsBinder <;> cases i.decodesMessage <;> simp
  unfold binds valueBinds
  simp only [List.count_append, hbinder, i.count_valueBinds (v := .argument n) (by simp), hresult]
  simpa using hnumbered

end Invocation

/-! ## What an invocation calls -/

theorem ValueCode.eq_of_mem_calls {site : Site} {value : ValueCode} {call : Variable × String}
    (h : call ∈ value.calls site) :
    call = (.collected, "into_iter") ∨ (call = (.context, site.reader) ∧ value.isBound = false) := by
  unfold ValueCode.calls at h
  cases value with
  | document type => exact .inr ⟨List.mem_singleton.1 h, rfl⟩
  | bound plan =>
    simp only at h
    split at h
    · exact .inl (List.mem_singleton.1 h)
    · cases h

theorem ArgumentCode.eq_of_mem_calls {a : ArgumentCode} {call : Variable × String} (h : call ∈ a.calls) :
    call = (.context, "session") := by
  cases a with
  | session => exact List.mem_singleton.1 h
  | value n => cases h
  | context isMut => cases h

namespace Invocation

/-- What the words around the method's call call. -/
theorem eq_of_mem_valueCalls {i : Invocation} {call : Variable × String} (h : call ∈ i.valueCalls) :
    (call = (.context, "message_value") ∧ i.needsBinder = true ∧ i.decodesMessage = true) ∨
      call = (.context, i.site.access) ∨ call = (.collected, "into_iter") ∨
      (call = (.context, i.site.reader) ∧ ∃ v ∈ i.values, v.2.isBound = false) := by
  unfold valueCalls at h
  rcases List.mem_append.1 h with hbinder | hvalue
  · unfold binderCalls at hbinder
    cases hneeds : i.needsBinder <;> cases hdecodes : i.decodesMessage <;>
      simp only [hneeds, hdecodes, if_true, if_false, Bool.false_eq_true] at hbinder
    case false.false | false.true => cases hbinder
    case true.false => exact .inr (.inl (List.mem_singleton.1 hbinder))
    case true.true =>
      obtain rfl | hrest := List.mem_cons.1 hbinder
      · exact .inl ⟨rfl, rfl, rfl⟩
      · exact .inr (.inl (List.mem_singleton.1 hrest))
  · obtain ⟨v, hv, hcall⟩ := List.mem_flatMap.1 hvalue
    obtain hitems | ⟨hread, hdocument⟩ := ValueCode.eq_of_mem_calls hcall
    · exact .inr (.inr (.inl hitems))
    · exact .inr (.inr (.inr ⟨hread, v, hv, hdocument⟩))

theorem eq_of_mem_resultCalls {i : Invocation} {call : Variable × String} (h : call ∈ i.resultCalls) :
    call = (.context, "session") := by
  unfold resultCalls at h
  split at h
  · cases hsite : i.site <;> rw [hsite] at h
    · cases h
    · exact List.mem_singleton.1 h
  · cases h

/-- **The method is called on the controller, and nothing else is.** -/
theorem filter_controller (i : Invocation) :
    i.calls.filter (fun call => call.1 = .controller) = [(.controller, i.method)] := by
  have hvalues : i.valueCalls.filter (fun call => call.1 = .controller) = [] := by
    refine List.filter_eq_nil_iff.2 fun call hcall => ?_
    rcases eq_of_mem_valueCalls hcall with ⟨rfl, -⟩ | rfl | rfl | ⟨rfl, -⟩ <;> simp
  have harguments : (i.arguments.flatMap ArgumentCode.calls).filter (fun call => call.1 = .controller) = [] := by
    refine List.filter_eq_nil_iff.2 fun call hcall => ?_
    obtain ⟨a, -, hcall⟩ := List.mem_flatMap.1 hcall
    rw [ArgumentCode.eq_of_mem_calls hcall]
    decide
  have hresult : i.resultCalls.filter (fun call => call.1 = .controller) = [] := by
    refine List.filter_eq_nil_iff.2 fun call hcall => ?_
    rw [eq_of_mem_resultCalls hcall]
    decide
  unfold calls
  simp [List.filter_append, hvalues, harguments, hresult]

theorem needsBinder_of_decodesMessage {i : Invocation} (h : i.decodesMessage = true) :
    i.needsBinder = true := by
  obtain ⟨v, hv, huses⟩ := List.any_eq_true.1 h
  refine List.any_eq_true.2 ⟨v, hv, ?_⟩
  cases hvalue : v.2 with
  | bound plan => rfl
  | document type =>
    rw [hvalue] at huses
    cases huses

/-- **The message is decoded once if a value is bound from it**, and else not. -/
theorem count_decodes (i : Invocation) :
    i.calls.count (.context, "message_value") = if i.decodesMessage then 1 else 0 := by
  have hbinder : i.binderCalls.count (.context, "message_value") = if i.decodesMessage then 1 else 0 := by
    unfold binderCalls
    cases hdecodes : i.decodesMessage with
    | true => cases hsite : i.site <;> simp [needsBinder_of_decodesMessage hdecodes, Site.access]
    | false => cases i.needsBinder <;> cases i.site <;> simp [Site.access]
  have hvalues : (i.values.flatMap fun v => v.2.calls i.site).count (.context, "message_value") = 0 := by
    refine List.count_eq_zero.2 fun hmem => ?_
    obtain ⟨v, -, hcall⟩ := List.mem_flatMap.1 hmem
    obtain hitems | ⟨hread, -⟩ := ValueCode.eq_of_mem_calls hcall
    · cases hitems
    · cases hsite : i.site <;> simp [hsite, Site.reader] at hread
  have harguments : (i.arguments.flatMap ArgumentCode.calls).count (.context, "message_value") = 0 := by
    refine List.count_eq_zero.2 fun hmem => ?_
    obtain ⟨a, -, hcall⟩ := List.mem_flatMap.1 hmem
    simpa using ArgumentCode.eq_of_mem_calls hcall
  have hresult : i.resultCalls.count (.context, "message_value") = 0 :=
    List.count_eq_zero.2 fun hmem => by simpa using eq_of_mem_resultCalls hmem
  unfold calls valueCalls
  simp [List.count_append, hbinder, hvalues, harguments, hresult]

/-- Documents are read where an invocation has one, by the reader of its site. -/
theorem reads_of_mem_calls {i : Invocation} {name : String} (h : (.context, name) ∈ i.calls)
    (hname : name = "message_as" ∨ name = "body_json") :
    name = i.site.reader ∧ ∃ v ∈ i.values, v.2.isBound = false := by
  unfold calls at h
  rcases List.mem_append.1 h with hvalues | hcall
  · rcases eq_of_mem_valueCalls hvalues with ⟨heq, -⟩ | heq | heq | ⟨heq, hdocument⟩
    · obtain rfl := (Prod.mk.inj heq).2
      simp at hname
    · obtain rfl := (Prod.mk.inj heq).2
      cases hsite : i.site <;> simp [hsite, Site.access] at hname
    · cases heq
    · exact ⟨(Prod.mk.inj heq).2, hdocument⟩
  · rw [List.cons_append, List.mem_cons, List.mem_append] at hcall
    rcases hcall with heq | hargument | hresult
    · cases heq
    · obtain ⟨a, -, hcall⟩ := List.mem_flatMap.1 hargument
      obtain rfl := (Prod.mk.inj (ArgumentCode.eq_of_mem_calls hcall)).2
      simp at hname
    · obtain rfl := (Prod.mk.inj (eq_of_mem_resultCalls hresult)).2
      simp at hname

end Invocation

end Switchyard

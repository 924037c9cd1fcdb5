import Switchyard.Proofs.Application.Dispatch
import Switchyard.Proofs.Controller.WellFormed

/-!
# How the parameters of a handler are supplied

Parameters are supplied from left to right, each by its own plan. Either all are and the method gets one argument
for each, or the first that fails decides; only a message that parameters are bound from is decoded before them.
With plain JSON text every such failure is a fault of the request.

Main result: `supplied_of_ofBlock`, for every action and every handler of a controller.
-/

namespace Switchyard

/-! ## One parameter -/

section One

variable {C V : Type} [Carrier C] (readers : ValueReaders V) (ctx : C) (message : Option Json)

/-- What a parameter comes to, whatever the others do. -/
inductive Supplies (p : Parameter) : Except HttpError (CallArgument V) → Prop
  | bound {plan : BindingPlan} {value : BoundValue V} : p.role = .bound plan →
      ((Carrier.request ctx).binder message).bind (readers.read plan.element) plan.arity plan.sources plan.key =
        .ok value →
      Supplies p (.ok (.bound value))
  | unbound {plan : BindingPlan} {e : BindError} : p.role = .bound plan →
      ((Carrier.request ctx).binder message).bind (readers.read plan.element) plan.arity plan.sources plan.key =
        .error e →
      Supplies p (.error (.ofBind e))
  | decoded {type : Code.TypeExpr} {document : Json} {value : V} : p.role = .document type →
      (Carrier.codec ctx).deserialize (Carrier.content ctx) = .ok document → readers.decode type document = .ok value →
      Supplies p (.ok (.document value))
  | undecodable {type : Code.TypeExpr} {e : CodecError} : p.role = .document type →
      (Carrier.codec ctx).deserialize (Carrier.content ctx) = .error e →
      Supplies p (.error (.ofCodec e))
  | unfit {type : Code.TypeExpr} {document : Json} {reason : String} : p.role = .document type →
      (Carrier.codec ctx).deserialize (Carrier.content ctx) = .ok document →
      readers.decode type document = .error reason →
      Supplies p (.error (.ofCodec (.decode reason)))
  | context {isMut : Bool} : p.role = .context isMut → Supplies p (.ok .context)
  | eventContext : p.role = .eventContext → Supplies p (.ok .context)
  | session : p.role = .session → Supplies p (.ok .session)

variable {readers ctx message} {p : Parameter}

theorem supplies_supply : Supplies readers ctx message p (p.supply readers ctx message) := by
  unfold Parameter.supply
  cases hrole : p.role with
  | bound plan =>
    simp only [ValueCode.make]
    split
    · exact .bound hrole ‹_›
    · exact .unbound hrole ‹_›
  | document type =>
    simp only [ValueCode.make, Carrier.document]
    cases hdocument : (Carrier.codec ctx).deserialize (Carrier.content ctx) with
    | error e => exact .undecodable hrole hdocument
    | ok document =>
      simp only [Except.mapError]
      cases hdecode : readers.decode type document with
      | error reason => exact .unfit hrole hdocument hdecode
      | ok value => exact .decoded hrole hdocument hdecode
  | context isMut => exact .context hrole
  | eventContext => exact .eventContext hrole
  | session => exact .session hrole

theorem Supplies.eq_supply {result : Except HttpError (CallArgument V)} (h : Supplies readers ctx message p result) :
    p.supply readers ctx message = result := by
  unfold Parameter.supply
  cases h with
  | bound hrole hbind => simp only [hrole, ValueCode.make, hbind]
  | unbound hrole hbind => simp only [hrole, ValueCode.make, hbind]
  | decoded hrole hdocument hdecode =>
    simp only [hrole, ValueCode.make, Carrier.document, hdocument, Except.mapError, hdecode]
  | undecodable hrole hdocument => simp only [hrole, ValueCode.make, Carrier.document, hdocument, Except.mapError]
  | unfit hrole hdocument hdecode =>
    simp only [hrole, ValueCode.make, Carrier.document, hdocument, Except.mapError, hdecode]
  | context hrole => simp only [hrole]
  | eventContext hrole => simp only [hrole]
  | session hrole => simp only [hrole]

theorem supplies_iff {result : Except HttpError (CallArgument V)} :
    Supplies readers ctx message p result ↔ p.supply readers ctx message = result :=
  ⟨Supplies.eq_supply, fun h => h ▸ supplies_supply⟩

theorem deserialize_plain {pretty : Bool} {bytes : Bytes} {e : CodecError}
    (h : (Codec.plain pretty).deserialize bytes = .error e) : ∃ reason, e = .decode reason := by
  simp only [Codec.plain] at h
  cases hparse : Json.parse bytes with
  | ok v => simp [hparse, Except.mapError] at h
  | error reason =>
    rw [hparse] at h
    cases h
    exact ⟨reason, rfl⟩

theorem Supplies.badRequest {e : HttpError} {pretty : Bool} (h : Supplies readers ctx message p (.error e))
    (hcodec : Carrier.codec ctx = .plain pretty) : ∃ text, e = .badRequest text := by
  cases h with
  | unbound => exact ⟨_, rfl⟩
  | unfit => exact ⟨_, rfl⟩
  | undecodable _ hdocument =>
    rw [hcodec] at hdocument
    obtain ⟨reason, rfl⟩ := deserialize_plain hdocument
    exact ⟨_, rfl⟩

end One

/-! ## All parameters -/

section All

variable {C V : Type} [Carrier C] (readers : ValueReaders V) (ctx : C)

/-- Parameters are supplied from left to right: the first that fails decides, and if none does there is one
argument for each. -/
inductive SuppliesAll (message : Option Json) (params : List Parameter) :
    Except HttpError (List (CallArgument V)) → Prop
  | failed {before after : List Parameter} {p : Parameter} {e : HttpError} : params = before ++ p :: after →
      (∀ q ∈ before, ∃ argument, Supplies readers ctx message q (.ok argument)) →
      Supplies readers ctx message p (.error e) → SuppliesAll message params (.error e)
  | supplied {arguments : List (CallArgument V)} :
      List.Forall₂ (fun p argument => Supplies readers ctx message p (.ok argument)) params arguments →
      SuppliesAll message params (.ok arguments)

/-- The message is decoded before all parameters if one of them is bound from it, and not at all otherwise. -/
inductive SuppliesFrom (params : List Parameter) : Except HttpError (List (CallArgument V)) → Prop
  | plain {result : Except HttpError (List (CallArgument V))} : (∀ p ∈ params, p.usesMessage = false) →
      SuppliesAll readers ctx none params result → SuppliesFrom params result
  | decoded {document : Json} {result : Except HttpError (List (CallArgument V))} :
      (∃ p ∈ params, p.usesMessage = true) →
      (Carrier.codec ctx).deserialize (Carrier.content ctx) = .ok document →
      SuppliesAll readers ctx (some document) params result → SuppliesFrom params result
  | undecodable {e : CodecError} : (∃ p ∈ params, p.usesMessage = true) →
      (Carrier.codec ctx).deserialize (Carrier.content ctx) = .error e →
      SuppliesFrom params (.error (.ofCodec e))

variable {readers ctx} {message : Option Json}

theorem suppliesAll_mapM : ∀ {params : List Parameter},
    SuppliesAll readers ctx message params (params.mapM (Parameter.supply readers ctx message))
  | [] => .supplied .nil
  | p :: rest => by
    rw [List.mapM_cons]
    cases hp : p.supply readers ctx message with
    | error e => exact .failed (List.nil_append _).symm (fun q hq => by cases hq) (supplies_iff.2 hp)
    | ok argument =>
      have ih : SuppliesAll readers ctx message rest _ := suppliesAll_mapM
      cases hrest : rest.mapM (Parameter.supply readers ctx message) with
      | error e =>
        rw [hrest] at ih
        cases ih with
        | @failed before after q _ hparams hbefore hq =>
          have hcons : p :: rest = (p :: before) ++ q :: after := by rw [hparams, List.cons_append]
          refine .failed hcons (fun r hr => ?_) hq
          cases hr with
          | head => exact ⟨argument, supplies_iff.2 hp⟩
          | tail _ hr => exact hbefore r hr
      | ok arguments =>
        rw [hrest] at ih
        cases ih with
        | supplied harguments => exact .supplied (.cons (supplies_iff.2 hp) harguments)

/-- Parameters come to one thing only. -/
theorem SuppliesAll.eq_mapM {params : List Parameter} {result : Except HttpError (List (CallArgument V))}
    (h : SuppliesAll readers ctx message params result) :
    params.mapM (Parameter.supply readers ctx message) = result := by
  cases h with
  | supplied harguments =>
    rw [mapM_eq_ok_iff]
    exact harguments.imp fun _ _ => Supplies.eq_supply
  | @failed before after p e hparams hbefore hp =>
    rw [hparams]
    clear hparams
    induction before with
    | nil => rw [List.nil_append, List.mapM_cons, hp.eq_supply]; rfl
    | cons q before ih =>
      obtain ⟨argument, hq⟩ := hbefore q List.mem_cons_self
      rw [List.cons_append, List.mapM_cons, hq.eq_supply]
      simp only [bind, Except.bind, ih fun r hr => hbefore r (List.mem_cons_of_mem _ hr)]

theorem SuppliesAll.badRequest {params : List Parameter} {e : HttpError} {pretty : Bool}
    (h : SuppliesAll readers ctx message params (.error e)) (hcodec : Carrier.codec ctx = .plain pretty) :
    ∃ text, e = .badRequest text := by
  cases h with
  | failed _ _ hp => exact hp.badRequest hcodec

theorem SuppliesAll.length_eq {params : List Parameter} {arguments : List (CallArgument V)}
    (h : SuppliesAll readers ctx message params (.ok arguments)) : arguments.length = params.length := by
  cases h with
  | supplied harguments => exact harguments.length_eq.symm

theorem suppliesFrom_supplyAll {params : List Parameter} :
    SuppliesFrom readers ctx params (supplyAll readers ctx params) := by
  unfold supplyAll messageFor
  cases huses : params.any Parameter.usesMessage with
  | false =>
    rw [if_neg Bool.false_ne_true]
    exact .plain (fun p hp => by simpa using List.any_eq_false.1 huses p hp) suppliesAll_mapM
  | true =>
    have hsome : ∃ p ∈ params, p.usesMessage = true := by simpa using huses
    rw [if_pos rfl, Carrier.document]
    cases hdocument : (Carrier.codec ctx).deserialize (Carrier.content ctx) with
    | error e => exact .undecodable hsome hdocument
    | ok document => exact .decoded hsome hdocument suppliesAll_mapM

theorem SuppliesFrom.eq_supplyAll {params : List Parameter} {result : Except HttpError (List (CallArgument V))}
    (h : SuppliesFrom readers ctx params result) : supplyAll readers ctx params = result := by
  unfold supplyAll messageFor
  cases h with
  | plain hnone hall =>
    have huses : params.any Parameter.usesMessage = false := by
      rw [List.any_eq_false]
      exact fun p hp => by simp [hnone p hp]
    rw [huses, if_neg Bool.false_ne_true]
    exact hall.eq_mapM
  | decoded hsome hdocument hall =>
    have huses : params.any Parameter.usesMessage = true := by simpa using hsome
    rw [huses, if_pos rfl, Carrier.document, hdocument]
    exact hall.eq_mapM
  | undecodable hsome hdocument =>
    have huses : params.any Parameter.usesMessage = true := by simpa using hsome
    rw [huses, if_pos rfl, Carrier.document, hdocument]
    rfl

/-- With plain JSON text, every failure is a fault of the request. -/
theorem SuppliesFrom.badRequest {params : List Parameter} {e : HttpError} {pretty : Bool}
    (h : SuppliesFrom readers ctx params (.error e)) (hcodec : Carrier.codec ctx = .plain pretty) :
    ∃ text, e = .badRequest text := by
  cases h with
  | plain _ hall => exact hall.badRequest hcodec
  | decoded _ _ hall => exact hall.badRequest hcodec
  | undecodable _ hdocument =>
    rw [hcodec] at hdocument
    obtain ⟨reason, rfl⟩ := deserialize_plain hdocument
    exact ⟨_, rfl⟩

/-- Parameters that take neither the message nor a document are supplied from the request alone. -/
theorem supplyAll_congr {params : List Parameter} {ctx' : C} (hrequest : Carrier.request ctx' = Carrier.request ctx)
    (hplain : ∀ p ∈ params, p.usesMessage = false ∧ p.isDocument = false) :
    supplyAll readers ctx' params = supplyAll readers ctx params := by
  have huses : params.any Parameter.usesMessage = false := by
    rw [List.any_eq_false]
    exact fun p hp => by simp [(hplain p hp).1]
  unfold supplyAll messageFor
  rw [huses, if_neg Bool.false_ne_true, if_neg Bool.false_ne_true]
  simp only
  refine mapM_congr fun p hp => ?_
  have hdocument := (hplain p hp).2
  unfold Parameter.isDocument at hdocument
  unfold Parameter.supply
  cases hrole : p.role with
  | document type => simp [hrole] at hdocument
  | bound plan => simp only [ValueCode.make, hrequest]
  | context isMut => rfl
  | eventContext => rfl
  | session => rfl

end All

/-! ## Actions -/

section Actions

variable (app : Application)

/-- Whether a call is that of a method. -/
def Call.isAct {app : Application} : Call app → Bool
  | .act .. => true
  | _ => false

variable (c : Controller) (a : Action) (incoming : Incoming) (world : World app.State)

/-- A dispatch by what becomes of its parameters: the request is answered before any is supplied, or one of them
fails and the method is not called, or it is called once with the arguments of all. -/
inductive DispatchesSupplied : List (Call app) → Response → app.State → Prop
  | unreadable {e : HttpError} :
      ActionStep.enter app incoming world = .error e → DispatchesSupplied [] e.render world.state
  | halted {ctx ctx₁ : HttpContext} {o : Obtained app} {calls : List (Call app)} {e : HttpError}
      {state₁ : app.State} :
      ActionStep.enter app incoming world = .ok ctx →
      app.obtain? c.inject a.before a.after world.state = some o →
      RunsBefore app ⟨c.name, a.name⟩ o.before ctx o.state calls (.error e) ctx₁ state₁ →
      (∀ call ∈ calls, call.isAct = false) → DispatchesSupplied calls e.render state₁
  | unsupplied {ctx ctx₁ : HttpContext} {o : Obtained app} {calls₁ calls₂ : List (Call app)} {e : HttpError}
      {state₁ state₂ : app.State} {left : AfterContext} :
      ActionStep.enter app incoming world = .ok ctx →
      app.obtain? c.inject a.before a.after world.state = some o →
      RunsBefore app ⟨c.name, a.name⟩ o.before ctx o.state calls₁ (.ok ()) ctx₁ state₁ →
      SuppliesAll app.readers ctx₁ none a.params (.error e) →
      RunsAfter app ⟨c.name, a.name⟩ o.after ⟨ctx₁, some e⟩ state₁ calls₂ left state₂ →
      (∀ call ∈ calls₁ ++ calls₂, call.isAct = false) →
      DispatchesSupplied (calls₁ ++ calls₂) left.answer state₂
  | supplied {ctx ctx₁ : HttpContext} {o : Obtained app} {calls₁ calls₂ : List (Call app)}
      {arguments : List (CallArgument app.Value)} {result : Except HttpError app.Reply} {response : Response}
      {state₁ state₂ : app.State} :
      ActionStep.enter app incoming world = .ok ctx →
      app.obtain? c.inject a.before a.after world.state = some o →
      RunsBefore app ⟨c.name, a.name⟩ o.before ctx o.state calls₁ (.ok ()) ctx₁ state₁ →
      SuppliesAll app.readers ctx₁ none a.params (.ok arguments) →
      (app.act o.controller ⟨c.name, a.name⟩ arguments ctx₁ state₁).1 = result →
      (∀ call ∈ calls₁ ++ calls₂, call.isAct = false) →
      DispatchesSupplied (calls₁ ++ .act ⟨c.name, a.name⟩ o.controller arguments result :: calls₂) response state₂

variable {app} {name : MethodName}

theorem RunsBefore.not_act {is : List (Prepared app.Scope)} {ctx ctx' : HttpContext} {state state' : app.State}
    {calls : List (Call app)} {result : Except HttpError Unit}
    (h : RunsBefore app name is ctx state calls result ctx' state') : ∀ call ∈ calls, call.isAct = false := by
  induction h with
  | done => simp
  | passed _ _ ih =>
    intro call hcall
    cases hcall with
    | head => rfl
    | tail _ hcall => exact ih call hcall
  | halted =>
    intro call hcall
    obtain rfl := List.mem_singleton.1 hcall
    rfl

theorem RunsAfter.not_act {is : List (Prepared app.Scope)} {ctx ctx' : AfterContext} {state state' : app.State}
    {calls : List (Call app)} (h : RunsAfter app name is ctx state calls ctx' state') :
    ∀ call ∈ calls, call.isAct = false := by
  induction h with
  | done => simp
  | ran _ _ ih =>
    intro call hcall
    cases hcall with
    | head => rfl
    | tail _ hcall => exact ih call hcall

variable {c a incoming world}

/-- Without a message, parameters are supplied from the request. -/
theorem suppliesAll_of_supplyAll {params : List Parameter} {ctx : HttpContext}
    {result : Except HttpError (List (CallArgument app.Value))} (hnone : ∀ p ∈ params, p.usesMessage = false)
    (h : supplyAll app.readers ctx params = result) : SuppliesAll app.readers ctx none params result := by
  have hfrom : SuppliesFrom app.readers ctx params result := h ▸ suppliesFrom_supplyAll
  cases hfrom with
  | plain _ hall => exact hall
  | decoded hsome =>
    obtain ⟨p, hp, huses⟩ := hsome
    rw [hnone p hp] at huses
    cases huses
  | undecodable hsome =>
    obtain ⟨p, hp, huses⟩ := hsome
    rw [hnone p hp] at huses
    cases huses

theorem Dispatches.supplied {calls : List (Call app)} {response : Response} {state : app.State}
    (hnone : ∀ p ∈ a.params, p.usesMessage = false)
    (h : Dispatches app c a a.before a.after incoming world calls response state) :
    DispatchesSupplied app c a incoming world calls response state := by
  cases h with
  | unreadable henter => exact .unreadable henter
  | halted henter ho hbefore => exact .halted henter ho hbefore hbefore.not_act
  | @completed ctx ctx₁ ctx₂ o calls₁ calls₂ calls₃ state₁ state₂ state₃ outcome left henter ho hbefore hattempt hafter =>
    have hnot : ∀ call ∈ calls₁ ++ calls₃, call.isAct = false := by
      simpa only [List.forall_mem_append] using ⟨hbefore.not_act, hafter.not_act⟩
    cases hattempt with
    | unbound hsupply =>
      rw [List.append_nil]
      exact .unsupplied henter ho hbefore (suppliesAll_of_supplyAll hnone hsupply) hafter hnot
    | failed hsupply hact =>
      rw [List.append_assoc, List.singleton_append]
      exact .supplied henter ho hbefore (suppliesAll_of_supplyAll hnone hsupply) (by rw [hact]) hnot
    | returned hsupply hact hvoid =>
      rw [List.append_assoc, List.singleton_append]
      exact .supplied henter ho hbefore (suppliesAll_of_supplyAll hnone hsupply) (by rw [hact]) hnot
    | executed hsupply hact hshape hexecute =>
      rw [List.append_assoc, List.cons_append, List.singleton_append]
      refine .supplied henter ho hbefore (suppliesAll_of_supplyAll hnone hsupply) (by rw [hact]) ?_
      simpa only [List.forall_mem_append, List.forall_mem_cons] using ⟨hbefore.not_act, rfl, hafter.not_act⟩

end Actions

/-! ## Handlers -/

section Handlers

variable (app : Application) (c : Controller) (h : Handler) (ctx : EventContext) (state : app.State)

/-- What a handler comes to by what becomes of its parameters: one of them fails and the method is not called,
or it is called once with the arguments of all. -/
inductive HandlesSupplied : HandlerResult app → Prop
  | unsupplied {e : HttpError} : SuppliesFrom app.readers ctx h.params (.error e) →
      HandlesSupplied (.error e, ctx, (app.scopeIf c.inject.isSome state).2)
  | failed {controller : Instance app.Scope} {arguments : List (CallArgument app.Value)} {e : HttpError}
      {ctx₁ : EventContext} {state₁ : app.State} :
      instance? (app.scopeIf c.inject.isSome state).1 c.inject = some controller →
      SuppliesFrom app.readers ctx h.params (.ok arguments) →
      app.handle controller ⟨c.name, h.name⟩ arguments ctx (app.scopeIf c.inject.isSome state).2 =
        (.error e, ctx₁, state₁) →
      HandlesSupplied (.error e, ctx₁, state₁)
  | returned {controller : Instance app.Scope} {arguments : List (CallArgument app.Value)} {reply : app.Reply}
      {ctx₁ : EventContext} {state₁ : app.State} :
      instance? (app.scopeIf c.inject.isSome state).1 c.inject = some controller →
      SuppliesFrom app.readers ctx h.params (.ok arguments) →
      app.handle controller ⟨c.name, h.name⟩ arguments ctx (app.scopeIf c.inject.isSome state).2 =
        (.ok reply, ctx₁, state₁) →
      h.returns.shape = .void → HandlesSupplied (.ok (), ctx₁, state₁)
  | executed {controller : Instance app.Scope} {arguments : List (CallArgument app.Value)} {reply : app.Reply}
      {ctx₁ : EventContext} {state₁ : app.State} :
      instance? (app.scopeIf c.inject.isSome state).1 c.inject = some controller →
      SuppliesFrom app.readers ctx h.params (.ok arguments) →
      app.handle controller ⟨c.name, h.name⟩ arguments ctx (app.scopeIf c.inject.isSome state).2 =
        (.ok reply, ctx₁, state₁) →
      h.returns.shape ≠ .void → HandlesSupplied (app.send h.returns.shape reply ctx₁ state₁)

variable {app c h ctx state}

theorem handle?_eq : c.handle? h app ctx state =
    (instance? (app.scopeIf c.inject.isSome state).1 c.inject).map fun controller =>
      invoke app.readers h.params h.returns.shape (app.handle controller ⟨c.name, h.name⟩) app.send ctx
        (app.scopeIf c.inject.isSome state).2 := by
  have hinvoke : ∀ (holder : Holder app.Scope) (state : app.State),
      HandlerStep.runAll? app ⟨c.name, h.name⟩ holder ctx state
        [.invoke (invocationOf (.event h.event) h.name h.params h.returns), .finish] =
      holder.controller.map fun controller =>
        invoke app.readers h.params h.returns.shape (app.handle controller ⟨c.name, h.name⟩) app.send ctx state := by
    intro holder state
    cases hcontroller : holder.controller with
    | none => simp [HandlerStep.runAll?, hcontroller]
    | some controller =>
      simp only [HandlerStep.runAll?, hcontroller, run?_invocationOf, Option.map_some]
      rcases invoke app.readers h.params h.returns.shape (app.handle controller ⟨c.name, h.name⟩) app.send ctx state
        with ⟨e | ⟨⟩, ctx₁, state₁⟩
      all_goals rfl
  unfold Controller.handle? Controller.handlerProgram
  cases hinject : c.inject with
  | none =>
    simp only [acquisitions, Option.isSome_none, Bool.or_false, Bool.false_eq_true, if_false, List.nil_append,
      List.map_cons, List.map_nil, List.singleton_append]
    rw [HandlerStep.runAll?]
    exact hinvoke _ _
  | some accessor =>
    simp only [acquisitions, Option.isSome_some, Bool.or_true, if_true, List.map_cons, List.map_nil,
      List.cons_append, List.nil_append]
    rw [HandlerStep.runAll?]
    simp only [Acquisition.run?]
    rw [HandlerStep.runAll?]
    exact hinvoke _ _

theorem exists_instance (c : Controller) (state : app.State) :
    ∃ controller, instance? (app.scopeIf c.inject.isSome state).1 c.inject = some controller := by
  cases c.inject <;> exact ⟨_, rfl⟩

theorem exists_handlesSupplied : ∃ result, c.handle? h app ctx state = some result ∧
    HandlesSupplied app c h ctx state result := by
  obtain ⟨controller, hcontroller⟩ := exists_instance c state
  have hfrom : SuppliesFrom app.readers ctx h.params (supplyAll app.readers ctx h.params) := suppliesFrom_supplyAll
  rw [handle?_eq, hcontroller, Option.map_some]
  refine ⟨_, rfl, ?_⟩
  rw [invoke]
  cases harguments : supplyAll app.readers ctx h.params with
  | error e =>
    rw [harguments] at hfrom
    exact .unsupplied hfrom
  | ok arguments =>
    rw [harguments] at hfrom
    simp only
    rcases hcall : app.handle controller ⟨c.name, h.name⟩ arguments ctx (app.scopeIf c.inject.isSome state).2 with
      ⟨e | reply, ctx₁, state₁⟩
    · exact .failed hcontroller hfrom hcall
    · simp only
      split
      · exact .returned hcontroller hfrom hcall ‹_›
      · exact .executed hcontroller hfrom hcall ‹_›

/-- A handler whose parameters fail does not ask what its method would do. -/
theorem handle?_of_unsupplied {e : HttpError} (hfrom : SuppliesFrom app.readers ctx h.params (.error e))
    (handle : MethodCall app.Scope app.Value app.Reply EventContext app.State) :
    c.handle? h { app with handle } ctx state = c.handle? h app ctx state := by
  have heq := hfrom.eq_supplyAll
  have heq' : supplyAll ({ app with handle } : Application).readers ctx h.params = .error e := heq
  rw [handle?_eq, handle?_eq]
  unfold invoke
  rw [heq, heq']
  rfl

end Handlers

/-! ## Controllers -/

/-- No parameter is bound from the message where there is none. -/
theorem usesMessage_of_fits {mount : Mount} {p : Parameter} (hfits : p.role.Fits mount)
    (huses : p.usesMessage = true) : mount.hasMessage = true := by
  unfold Parameter.usesMessage Parameter.value? at huses
  cases hrole : p.role with
  | bound plan =>
    rw [hrole] at hfits huses
    exact hfits.message (by simpa [ValueCode.usesMessage] using huses)
  | document type => simp [hrole, ValueCode.usesMessage] at huses
  | context isMut => simp [hrole] at huses
  | eventContext => simp [hrole] at huses
  | session => simp [hrole] at huses

/-- How the parameters of an action are supplied, whatever the request. -/
structure ActionSupplied (app : Application) (c : Controller) (a : Action) : Prop where
  dispatches : ∀ (incoming : Incoming) (world : World app.State), ∃ calls response state log,
    c.dispatch? a app incoming world = some (response, ⟨state, log⟩) ∧
    c.dispatch? a app.recording incoming ⟨(world.state, []), world.log⟩ = some (response, ⟨(state, calls), log⟩) ∧
    DispatchesSupplied app c a incoming world calls response state
  badRequest : ∀ {ctx : HttpContext} {pretty : Bool} {e : HttpError}, ctx.codec = .plain pretty →
    SuppliesAll app.readers ctx none a.params (.error e) → ∃ text, e = .badRequest text

/-- How the parameters of a handler are supplied, whatever the session and the event. -/
structure HandlerSupplied (app : Application) (c : Controller) (h : Handler) : Prop where
  handles : ∀ (ctx : EventContext) (state : app.State), ∃ result, c.handle? h app ctx state = some result ∧
    HandlesSupplied app c h ctx state result
  /-- Where a parameter fails, it makes no difference what the method would do. -/
  notCalled : ∀ {ctx : EventContext} {state : app.State} {e : HttpError}
    (handle : MethodCall app.Scope app.Value app.Reply EventContext app.State),
    SuppliesFrom app.readers ctx h.params (.error e) →
      c.handle? h { app with handle } ctx state = c.handle? h app ctx state
  badRequest : ∀ {ctx : EventContext} {pretty : Bool} {e : HttpError}, ctx.session.codec = .plain pretty →
    SuppliesFrom app.readers ctx h.params (.error e) → ∃ text, e = .badRequest text
  /-- Only a message is decoded before the parameters. -/
  message : (∃ p ∈ h.params, p.usesMessage = true) → h.event = .message
  /-- A text that no parameter takes is not looked at, nor is the codec. -/
  unread : (∀ p ∈ h.params, p.usesMessage = false ∧ p.isDocument = false) →
    ∀ (ctx ctx' : EventContext), ctx'.session.request = ctx.session.request →
      ∀ result, SuppliesFrom app.readers ctx' h.params result ↔ SuppliesFrom app.readers ctx h.params result

/-- **Every action and every handler of a controller has its parameters supplied from left to right**, all or
nothing: one parameter for each value among the inputs of its method, and the method is called with one argument
for each of them, once if none fails, and not at all otherwise. -/
theorem supplied_of_ofBlock {options : Options} {b : Code.Block} {c : Controller}
    (hread : Controller.ofBlock options b = .ok c) (app : Application) :
    (∀ a ∈ c.actions, ActionSupplied app c a ∧ ∃ setting m, SettingOf options b setting ∧ .method m ∈ b.members ∧
      ReadAsAction setting m a ∧
      ReadsInputs (.action (a.routes.map Route.path)) false m.signature.inputs a.params ∧
      a.params.length = m.signature.inputs.countP Code.Input.isValue) ∧
    ∀ h ∈ c.handlers, HandlerSupplied app c h ∧ ∃ setting m path, SettingOf options b setting ∧
      .method m ∈ b.members ∧ ReadAsHandler setting m h ∧ c.socketPath = some path ∧
      ReadsInputs (.event h.event path) false m.signature.inputs h.params ∧
      h.params.length = m.signature.inputs.countP Code.Input.isValue := by
  constructor
  case left =>
    intro a ha
    obtain ⟨setting, m, hsetting, hm, haction⟩ := readAsAction_of_mem hread ha
    have hinputs := readsInputs_of_parametersOf haction.params
    have hnone : ∀ p ∈ a.params, p.usesMessage = false := fun p hp => by
      cases huses : p.usesMessage with
      | false => rfl
      | true => cases usesMessage_of_fits (hinputs.fits p hp) huses
    refine ⟨⟨fun incoming world => ?_, fun hcodec hall => hall.badRequest hcodec⟩, setting, m, hsetting, hm, haction,
      hinputs, hinputs.length_eq⟩
    obtain ⟨calls, response, state, log, hrun, hrecorded, hdispatches⟩ := dispatches_dispatch? c a incoming world
    exact ⟨calls, response, state, log, hrun, hrecorded, hdispatches.supplied hnone⟩
  case right =>
    intro h hh
    obtain ⟨setting, m, hsetting, hm, hhandler, hpath⟩ := readAsHandler_of_mem hread hh
    obtain ⟨path, hsome, hparams⟩ := hhandler.params
    have hinputs := readsInputs_of_parametersOf hparams
    refine ⟨⟨fun ctx state => exists_handlesSupplied, fun handle hfrom => handle?_of_unsupplied hfrom handle,
      fun hcodec hfrom => hfrom.badRequest hcodec, fun hsome => ?message, fun hplain ctx ctx' hrequest result => ?unread⟩,
      setting, m, path, hsetting, hm, hhandler, hpath.trans hsome, hinputs, hinputs.length_eq⟩
    case message =>
      obtain ⟨p, hp, huses⟩ := hsome
      have hmessage := usesMessage_of_fits (hinputs.fits p hp) huses
      cases hevent : h.event <;> rw [hevent] at hmessage <;> first | rfl | cases hmessage
    case unread =>
      have heq : supplyAll app.readers ctx' h.params = supplyAll app.readers ctx h.params :=
        supplyAll_congr hrequest hplain
      constructor
      · intro hfrom
        rw [← hfrom.eq_supplyAll, heq]
        exact suppliesFrom_supplyAll
      · intro hfrom
        rw [← hfrom.eq_supplyAll, ← heq]
        exact suppliesFrom_supplyAll

/-- A request to the lobby that names no room and has no token. -/
def Lobby.request : Incoming := ⟨⟨"POST", ⟨none, none, "/api", none⟩, ⟨[]⟩, []⟩, [], false⟩

theorem supplied_lobby : ∃ c a response log,
    Controller.ofBlock { base := some "/api", socket := some ⟨"/chat/\x7broom\x7d", .start⟩ } Lobby.block = .ok c ∧
    c.actions = [a] ∧ ActionSupplied countingApplication c a ∧ a.params.length = 3 ∧
    -- the first of two failing parameters is answered; two interceptors ran and the method did not
    c.dispatch? a countingApplication Lobby.request ⟨(0 : Nat), []⟩ = some (response, ⟨(2 : Nat), log⟩) ∧
    response = (HttpError.badRequest "missing required parameter 'room'").render ∧
    ∃ h, c.handlers = [h] ∧ HandlerSupplied countingApplication c h := by
  obtain ⟨c, hread⟩ : ∃ c, Controller.ofBlock
      { base := some "/api", socket := some ⟨"/chat/\x7broom\x7d", .start⟩ } Lobby.block = .ok c := ⟨_, rfl⟩
  obtain ⟨hactions, hhandlers⟩ := supplied_of_ofBlock hread countingApplication
  obtain ⟨a, ha⟩ : ∃ a, c.actions = [a] := by
    cases hread
    exact ⟨_, rfl⟩
  obtain ⟨h, hh⟩ : ∃ h, c.handlers = [h] := by
    cases hread
    exact ⟨_, rfl⟩
  obtain ⟨haction, -⟩ := hactions a (by rw [ha]; exact List.mem_singleton_self a)
  obtain ⟨hhandler, -⟩ := hhandlers h (by rw [hh]; exact List.mem_singleton_self h)
  obtain ⟨-, response, state, log, hrun, -⟩ := haction.dispatches Lobby.request ⟨(0 : Nat), []⟩
  have hanswer : response = (HttpError.badRequest "missing required parameter 'room'").render ∧ state = (2 : Nat) ∧
      a.params.length = 3 := by
    cases hread
    cases ha
    cases hrun
    exact ⟨rfl, rfl, rfl⟩
  obtain ⟨hresponse, rfl, hparams⟩ := hanswer
  exact ⟨c, a, response, log, hread, ha, haction, hparams, hrun, hresponse, h, hh, hhandler⟩

end Switchyard

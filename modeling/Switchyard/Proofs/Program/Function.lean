import Switchyard.Proofs.Program.Programs

/-!
# Scopes of functions

The functions that are generated for a controller use nothing that is not bound before, in the scope of its use. The
values of a method are bound once, with one binder at most, and the method is called once with all of them; the
message is decoded once at most, and only where there is one.

Main result: `Controller.scopedFunctions_ofBlock`.
-/

namespace Switchyard

open Code

variable {quoted : Pieces → Prop} {s : Scope}

/-! ## Functions -/

/-- The words of a function, with its head and what its block holds. -/
def functionWords (head body : List Word) : List Word := head ++ ([.text "\x7b"] ++ body ++ [.text "\x7d"])

/-- Words that are a function: its parameters are known in its block, and nothing else is. -/
inductive Closed (quoted : Pieces → Prop) : List Word → Prop
  | function {head body : List Word} {params known : List Variable} : Introduces quoted head params →
      Scoped quoted params body known → Closed quoted (functionWords head body)

/-- **In a function, whatever is used was bound before.** -/
theorem Closed.bound {words l r : List Word} {v : Variable} (h : Closed quoted words)
    (hwords : words = l ++ .use v :: r) : .bind v ∈ l := by
  cases h with
  | @function head body params known hhead hbody =>
    obtain ⟨hparams, hfree⟩ := hhead.binds_eq
    have hblock : Bound (binds head ++ []) ([.text "\x7b"] ++ body ++ [.text "\x7d"]) := by
      rw [List.append_nil, hparams]
      exact (Scoped.block hbody).bound.1
    have hbound : Bound [] (functionWords head body) := (hfree []).append hblock
    rw [hwords] at hbound
    exact hbound.mem.resolve_left List.not_mem_nil

theorem introduces_path (phrase : String) (hroot : quoted s.root)
    (h : (say phrase).all Word.isPlain = true) : Introduces quoted (s.path phrase) [] := by
  have hpath : Introduces quoted (quote s.root) [] := .quoted hroot
  exact hpath.append (.plain (plain_colons h))

namespace Controller

theorem introduces_functionHead {name : String} (hscope : s.Quotes quoted) (hname : quoted [name]) :
    Introduces quoted (functionHead s name) [.state, .request] := by
  have hattribute : Introduces quoted (say "# [ allow ( non_snake_case ) ] async fn") [] := .say rfl rfl
  have hopen : Introduces quoted (say "(") [] := .say rfl rfl
  have hcolon : Introduces quoted (say ") :") [] := .say rfl rfl
  have hcomma : Introduces quoted (say "> ,") [] := .say rfl rfl
  have htype : Introduces quoted (say ":") [] := .say rfl rfl
  have hname : Introduces quoted [.text name] [] := .quoted hname
  have hstate : Introduces quoted [.bind .state] [.state] := .bind
  have hrequest : Introduces quoted [.bind .request] [.request] := .bind
  have hpath : Introduces quoted (s.path "http : : State (") [] := introduces_path _ hscope.root (plain_say rfl rfl)
  have hgeneric : Introduces quoted (s.path "http : : State <") [] := introduces_path _ hscope.root (plain_say rfl rfl)
  have hresult : Introduces quoted (s.path "http : : Request , ) - >" ++ s.path "http : : Response") [] :=
    .append (l := s.path "http : : Request , ) - >") (introduces_path _ hscope.root (plain_say rfl rfl))
      (introduces_path _ hscope.root (plain_say rfl rfl))
  have h := hattribute.append (hname.append (hopen.append (hpath.append (hstate.append (hcolon.append (hgeneric.append
    ((Introduces.quoted hscope.state).append (hcomma.append (hrequest.append (htype.append hresult))))))))))
  unfold functionHead
  simpa [say_literal, splitAll] using h

/-- The head of a handler's function. -/
def handlerHead (s : Scope) (function : String) (event : Event) : List Word :=
  say "# [ allow ( non_snake_case ) ] async fn" ++ [.text function, .text "(", .bind .state, .text ":"]
    ++ quote s.state ++ say "," ++ [.bind .context] ++ say ":" ++ s.path ("ws : : " ++ event.contextType)
    ++ say ", ) - > : : core : : result : : Result < ( ) ," ++ s.path "error : : HttpError >"

theorem introduces_handlerHead {function : String} (event : Event) (hscope : s.Quotes quoted)
    (hfunction : quoted [function]) : Introduces quoted (handlerHead s function event) [.state, .context] := by
  have hattribute : Introduces quoted (say "# [ allow ( non_snake_case ) ] async fn") [] := .say rfl rfl
  have hopen : Introduces quoted (say "(") [] := .say rfl rfl
  have hcolon : Introduces quoted (say ":") [] := .say rfl rfl
  have hcomma : Introduces quoted (say ",") [] := .say rfl rfl
  have hresult : Introduces quoted (say ", ) - > : : core : : result : : Result < ( ) ,") [] := .say rfl rfl
  have hname : Introduces quoted [.text function] [] := .quoted hfunction
  have hstate : Introduces quoted [.bind .state] [.state] := .bind
  have hcontext : Introduces quoted [.bind .context] [.context] := .bind
  have hevent : Introduces quoted (s.path ("ws : : " ++ event.contextType)) [] :=
    introduces_path _ hscope.root (by
      cases event <;> exact plain_say (append_ofList rfl rfl) rfl)
  have h := hattribute.append (hname.append (hopen.append (hstate.append (hcolon.append ((Introduces.quoted
    hscope.state).append (hcomma.append (hcontext.append (hcolon.append (hevent.append (hresult.append
      (introduces_path "error : : HttpError >" hscope.root (plain_say rfl rfl))))))))))))
  unfold handlerHead
  simpa [say_literal, splitAll] using h

theorem actionWords_eq (c : Controller) (root : Pieces) (a : Action) : c.actionWords root a =
    functionWords (functionHead (c.scope root a.name) (c.actionFunction a.name))
      ((c.actionProgram a).flatMap (actionStepWords (c.scope root a.name))) := by
  simp [functionWords, actionWords, say_literal, splitAll]

theorem handlerWords_eq (c : Controller) (root : Pieces) (h : Handler) : c.handlerWords root h =
    functionWords (handlerHead (c.scope root h.name) (c.eventFunction h.event) h.event)
      ((c.handlerProgram h).flatMap (handlerStepWords (c.scope root h.name))) := by
  simp [functionWords, handlerWords, handlerHead, scope, Scope.path, say_literal, splitAll]

end Controller

/-! ## Scoped functions -/

/-- How the function of a method is scoped; `site` is where it runs, and `injector` tells whether anything is
obtained from the injector. -/
structure ScopedFunction (quoted : Pieces → Prop) (words : List Word) (site : Site) (method : String)
    (inputs : List Input) (params : List Parameter) (injector : Bool) : Prop where
  /-- Whatever is used is bound in its scope, or a parameter of the function. -/
  closed : Closed quoted words
  bound : ∀ {l r : List Word} {v : Variable}, words = l ++ .use v :: r → .bind v ∈ l
  /-- A value that is used is bound once. -/
  values : ∀ n, .use (.argument n) ∈ words → words.count (.bind (.argument n)) = 1
  binder : words.count (.bind .binder) = if params.any (·.role.isBound) then 1 else 0
  injector : words.count (.bind .injector) = if injector then 1 else 0
  /-- The message is decoded once for all that is bound from it. -/
  decoded : (callsIn words).count (.context, "message_value") = if params.any Parameter.usesMessage then 1 else 0
  messageReads : ∀ name ∈ ["message_value", "message_as"], (.context, name) ∈ callsIn words → site = .event .message
  bodyReads : (.context, "body_json") ∈ callsIn words → site = .action
  /-- The method is called once on the controller, and nothing else is. -/
  called : (callsIn words).filter (fun call => call.1 = .controller) = [(.controller, method)]
  call : .use .controller :: say "." ++ [.text method, .text "("]
    ++ between [.text ","] ((argumentsFrom 0 params).map argumentWords) ++ say ")" <:+: words
  /-- It is called with one argument for each input that is a value. -/
  arguments : (argumentsFrom 0 params).length = inputs.countP Input.isValue

/-- Where a handler that is mounted runs. -/
def Mount.site : Mount → Site
  | .action _ => .action
  | .event e _ => .event e

theorem Mount.site_of_hasMessage {mount : Mount} (h : mount.hasMessage = true) : mount.site = .event .message := by
  cases mount with
  | action paths => cases h
  | event e path => cases e <;> first | rfl | cases h

/-- A whole document is read only where there is one. -/
theorem hasDocument_of_fits {mount : Mount} {p : Parameter} {value : ValueCode} (hfits : p.role.Fits mount)
    (hvalue : p.value? = some value) (hdocument : value.isBound = false) : mount.hasDocument = true := by
  unfold Parameter.value? at hvalue
  cases hrole : p.role <;> rw [hrole] at hvalue hfits <;> cases hvalue
  case bound plan => cases hdocument
  case document type => exact hfits

theorem Parameter.any_value?_isBound (p : Parameter) : p.value?.any ValueCode.isBound = p.role.isBound := by
  unfold Parameter.value?
  cases p.role <;> rfl

theorem length_argumentsFrom : ∀ (params : List Parameter) (n : Nat), (argumentsFrom n params).length = params.length
  | [], _ => rfl
  | p :: rest, n => by rw [argumentsFrom, List.length_cons, List.length_cons, length_argumentsFrom rest (n + 1)]

section Written

variable {site : Site} {method : String} {returns : Returns} {params : List Parameter}

theorem needsBinder_invocationOf :
    (invocationOf site method params returns).needsBinder = params.any (·.role.isBound) := by
  unfold Invocation.needsBinder invocationOf
  rw [any_valuesFrom]
  simp only [Parameter.any_value?_isBound]

theorem decodesMessage_invocationOf :
    (invocationOf site method params returns).decodesMessage = params.any Parameter.usesMessage :=
  any_valuesFrom ValueCode.usesMessage 0 params

/-- The readers are called at their sites, if every parameter fits where its method is mounted. -/
theorem site_of_reads {mount : Mount} (hfits : ∀ p ∈ params, p.role.Fits mount) {name : String}
    (h : (.context, name) ∈ (invocationOf mount.site method params returns).calls) :
    (name ∈ ["message_value", "message_as"] → mount.site = .event .message) ∧
      (name = "body_json" → mount.site = .action) := by
  refine ⟨fun hname => ?message, fun hname => ?document⟩
  case message =>
    simp only [List.mem_cons, List.not_mem_nil, or_false] at hname
    obtain rfl | hname := hname
    · have hpos := List.count_pos_iff.2 h
      rw [Invocation.count_decodes, decodesMessage_invocationOf] at hpos
      cases huses : params.any Parameter.usesMessage with
      | false => simp [huses] at hpos
      | true =>
        obtain ⟨p, hp, huses⟩ := List.any_eq_true.1 huses
        exact Mount.site_of_hasMessage (usesMessage_of_fits (hfits p hp) huses)
    · obtain ⟨hreader, v, hv, hdocument⟩ := Invocation.reads_of_mem_calls h (.inl hname)
      obtain ⟨-, p, hp, hvalue⟩ := mem_valuesFrom hv
      have hmount := hasDocument_of_fits (hfits p hp) hvalue hdocument
      rw [hname] at hreader
      cases mount with
      | action paths => simp [invocationOf, Mount.site, Site.reader] at hreader
      | event e path => rw [Mount.site, beq_iff_eq.1 hmount]
  case document =>
    obtain ⟨hreader, -⟩ := Invocation.reads_of_mem_calls h (.inr hname)
    cases mount with
    | action paths => rfl
    | event e path =>
      rw [hname] at hreader
      simp [invocationOf, Mount.site, Site.reader] at hreader

end Written

section Assembly

variable {method : String} {returns : Returns} {inputs : List Input} {params : List Parameter} {injector : Bool}
  {head body : List Word} {seen known bound : List Variable} {called : List (Variable × String)}

/-- **A function is scoped** if its head binds what its body needs, and its body is a program around an
invocation of a method whose inputs are read. -/
theorem scopedFunction_of_frames (mount : Mount) (hhead : Introduces quoted head seen)
    (hseen : ∀ v ∈ seen, v.isInner = false ∧ v ≠ .injector) (hbody : Fragment quoted seen body known bound called)
    (hframes : Frames (invocationOf mount.site method params returns) injector bound called)
    (hreads : ReadsInputs mount false inputs params)
    (hcall : controllerCall (invocationOf mount.site method params returns) <:+: body) :
    ScopedFunction quoted (functionWords head body) mount.site method inputs params injector := by
  have hclosed : Closed quoted (functionWords head body) := .function hhead hbody.inScope
  have hblock := Fragment.block hbody
  have hcalls : callsIn (functionWords head body) = called := (hhead.calls.append hblock.calls).eq
  have hcount : ∀ v, v ∉ seen → (functionWords head body).count (.bind v) = bound.count v := fun v hv => by
    rw [count_binds, functionWords, binds_append, hhead.binds_eq.1, hblock.binds, List.count_append,
      List.count_eq_zero.2 hv, Nat.zero_add]
  have hinner : ∀ v, v.isInner = true → (functionWords head body).count (.bind v) =
      (invocationOf mount.site method params returns).binds.count v := fun v hv => by
    rw [hcount v fun hmem => by simp [(hseen v hmem).1] at hv, hframes.count_inner hv]
  have hinside : ∀ name, name ∉ ["request", "into_response"] → (.context, name) ∈ callsIn (functionWords head body) →
      (.context, name) ∈ (invocationOf mount.site method params returns).calls := fun name hname hmem => by
    rw [hcalls, ← List.count_pos_iff, hframes.count_call hname] at hmem
    exact List.count_pos_iff.1 hmem
  refine
    { closed := hclosed
      bound := fun hwords => hclosed.bound hwords
      values := fun n hn => ?values
      binder := ?binder
      injector := ?injector
      decoded := ?decoded
      messageReads := fun name hname hmem => (site_of_reads hreads.fits (hinside name ?outside hmem)).1 hname
      bodyReads := fun hmem => (site_of_reads hreads.fits (hinside "body_json" (by decide) hmem)).2 rfl
      called := by rw [hcalls, hframes.filter_controller]; rfl
      call := infix_append_left (infix_append_right (infix_append_left hcall _) _) _
      arguments := (length_argumentsFrom params 0).trans hreads.length_eq }
  case values =>
    obtain ⟨l, r, hwords⟩ := List.append_of_mem hn
    have hpos : 0 < (functionWords head body).count (.bind (.argument n)) := by
      rw [List.count_pos_iff, hwords]
      exact List.mem_append_left _ (hclosed.bound hwords)
    have hle : (functionWords head body).count (.bind (.argument n)) ≤ 1 := by
      rw [hinner (.argument n) rfl]
      exact Invocation.count_argument_le (nodup_valuesFrom params 0) n
    omega
  case binder => rw [hinner .binder rfl, Invocation.count_binder, needsBinder_invocationOf]
  case injector => rw [hcount .injector fun hmem => (hseen _ hmem).2 rfl, hframes.count_injector]
  case decoded =>
    rw [hcalls, hframes.count_call (by decide), Invocation.count_decodes, decodesMessage_invocationOf]
  case outside =>
    simp only [List.mem_cons, List.not_mem_nil, or_false] at hname
    obtain rfl | rfl := hname <;> decide

end Assembly

/-! ## Controllers -/

namespace Controller

theorem scopedFunction_action {c : Controller} {a : Action} {inputs : List Input} (root : Pieces)
    (hreads : ReadsInputs (.action (a.routes.map Route.path)) false inputs a.params) :
    ScopedFunction (c.Quotes root [c.actionFunction a.name] a.name a.params (a.before ++ a.after))
      (c.actionWords root a) .action a.name inputs a.params (c.inject.isSome || a.needsInjector) := by
  have hscope := c.quotes_scope root [c.actionFunction a.name] a.name a.params (a.before ++ a.after)
  obtain ⟨known, hbody⟩ := Fragment.steps (fun step hstep known hneeds =>
    fragment_actionStepWords hscope (c.complete_actionProgram root a step hstep) hneeds) (ready_actionProgram c a)
  rw [actionWords_eq]
  exact scopedFunction_of_frames (.action (a.routes.map Route.path))
    (introduces_functionHead hscope (.function List.mem_cons_self)) (by decide) hbody (frames_actionProgram c a)
    hreads (c.controllerCall_infix_actionProgram _ a)

theorem scopedFunction_handler {c : Controller} {h : Handler} {path : String} {inputs : List Input} (root : Pieces)
    (hreads : ReadsInputs (.event h.event path) false inputs h.params) :
    ScopedFunction (c.Quotes root [c.eventFunction h.event] h.name h.params []) (c.handlerWords root h)
      (.event h.event) h.name inputs h.params c.inject.isSome := by
  have hscope := c.quotes_scope root [c.eventFunction h.event] h.name h.params []
  obtain ⟨known, hbody⟩ := Fragment.steps (fun step hstep known hneeds =>
    fragment_handlerStepWords hscope (c.complete_handlerProgram root h step hstep) hneeds) (ready_handlerProgram c h)
  rw [handlerWords_eq]
  exact scopedFunction_of_frames (.event h.event path)
    (introduces_handlerHead h.event hscope (.function List.mem_cons_self)) (by decide) hbody (frames_handlerProgram c h)
    hreads (c.controllerCall_infix_handlerProgram _ h)

/-- What the function that opens the socket does: it hands over the state and the request. -/
def openingBody (c : Controller) (s : Scope) : List Word :=
  s.path "ws : : WsEndpoint : : <" ++ quote c.state ++ say "> : : new ( )"
    ++ c.handlers.flatMap (fun h =>
      say "." ++ [.text h.event.builder, .text "(", .text (c.eventFunction h.event), .text ")"])
    ++ say ". accept (" ++ [.use .state, .text ",", .use .request] ++ say ") . await"

/-- The function that opens the socket. -/
def openingWords (c : Controller) (root : Pieces) : List Word :=
  functionWords (functionHead (c.scope root "") c.endpointFunction) (c.openingBody (c.scope root ""))

/-- A socket has the functions of its handlers, and the one that opens it. -/
theorem endpointWords_eq (c : Controller) (root : Pieces) : c.endpointWords root =
    if c.endpoint?.isNone then [] else c.handlers.flatMap (c.handlerWords root) ++ c.openingWords root := by
  unfold endpointWords openingWords openingBody functionWords
  split
  · rfl
  · simp [say_literal, splitAll]

theorem fragment_openingBody {c : Controller} {known : List Variable} (hroot : quoted s.root) (hstate : quoted c.state)
    (hfunctions : ∀ h ∈ c.handlers, quoted [c.eventFunction h.event]) (hknown : [.state, .request] ⊆ known) :
    Fragment quoted known (c.openingBody s) known [] [] := by
  have hpath : Fragment quoted known (s.path "ws : : WsEndpoint : : <") known [] [] := .path hroot (plain_say rfl rfl)
  have hnew : Fragment quoted known (say "> : : new ( )") known [] [] := .say rfl rfl
  have hhandlers := Fragment.flatMap c.handlers fun h hh => by
    have hbuilder : Fragment quoted known [.text ".", .text h.event.builder, .text "("] known [] [] :=
      .plain (by cases h.event <;> rfl)
    have hclose : Fragment quoted known [.text ")"] known [] [] := .plain rfl
    exact hbuilder.append ((Fragment.quote (hfunctions h hh)).append hclose)
  have haccept : Fragment quoted known (say ". accept (") known [] [] := .say rfl rfl
  have hfirst : Fragment quoted known ([.use .state] ++ [.text ","]) known [] [] :=
    (Operand.use (hknown List.mem_cons_self)).ended rfl (by decide)
  have hsecond : Fragment quoted known ([.use .request] ++ [.text ")"]) known [] [] :=
    (Operand.use (hknown (List.mem_cons_of_mem _ List.mem_cons_self))).ended rfl (by decide)
  have hend : Fragment quoted known (say ". await") known [] [] := .say rfl rfl
  have h := hpath.append ((Fragment.quote hstate).append (hnew.append (hhandlers.append (haccept.append (hfirst.append
    (hsecond.append hend))))))
  unfold openingBody
  simpa [quote, say_literal, splitAll] using h

/-- The function that opens the socket is closed; it binds nothing and calls nothing on variables. -/
theorem closed_openingWords (c : Controller) (root : Pieces) :
    Closed (c.Quotes root (c.endpointFunction :: c.handlers.map fun h => c.eventFunction h.event) "" [] [])
      (c.openingWords root) ∧
      binds (c.openingWords root) = [.state, .request] ∧ callsIn (c.openingWords root) = [] := by
  have hscope := c.quotes_scope root (c.endpointFunction :: c.handlers.map fun h => c.eventFunction h.event) "" [] []
  have hhead := introduces_functionHead hscope (.function List.mem_cons_self)
  have hbody := fragment_openingBody hscope.root hscope.state (fun h hh =>
    .function (List.mem_cons_of_mem _ (List.mem_map_of_mem hh))) fun _ hv => hv
  refine ⟨.function hhead hbody.inScope, ?_, (hhead.calls.append hbody.block.calls).eq⟩
  unfold openingWords functionWords
  rw [binds_append, hhead.binds_eq.1, hbody.block.binds, List.append_nil]

/-- **All functions of a controller are closed and in scope**, whatever the path of the library: those of its actions
and handlers, and the one that opens its socket. -/
theorem scopedFunctions_ofBlock {options : Options} {b : Block} {c : Controller}
    (hread : Controller.ofBlock options b = .ok c) (root : Pieces) :
    (∀ a ∈ c.actions, ∃ setting m, SettingOf options b setting ∧ .method m ∈ b.members ∧ ReadAsAction setting m a ∧
      ScopedFunction (c.Quotes root [c.actionFunction a.name] a.name a.params (a.before ++ a.after))
        (c.actionWords root a) .action a.name m.signature.inputs a.params (c.inject.isSome || a.needsInjector)) ∧
    (∀ h ∈ c.handlers, ∃ setting m, SettingOf options b setting ∧ .method m ∈ b.members ∧ ReadAsHandler setting m h ∧
      ScopedFunction (c.Quotes root [c.eventFunction h.event] h.name h.params []) (c.handlerWords root h)
        (.event h.event) h.name m.signature.inputs h.params c.inject.isSome) ∧
    c.endpointWords root = (if c.endpoint?.isNone then []
      else c.handlers.flatMap (c.handlerWords root) ++ c.openingWords root) ∧
    Closed (c.Quotes root (c.endpointFunction :: c.handlers.map fun h => c.eventFunction h.event) "" [] [])
      (c.openingWords root) ∧
    binds (c.openingWords root) = [.state, .request] ∧ callsIn (c.openingWords root) = [] := by
  refine ⟨fun a ha => ?actions, fun h hh => ?handlers, c.endpointWords_eq root, c.closed_openingWords root⟩
  case actions =>
    obtain ⟨setting, m, hsetting, hm, haction⟩ := readAsAction_of_mem hread ha
    exact ⟨setting, m, hsetting, hm, haction, scopedFunction_action root (readsInputs_of_parametersOf haction.params)⟩
  case handlers =>
    obtain ⟨setting, m, hsetting, hm, hhandler, -⟩ := readAsHandler_of_mem hread hh
    obtain ⟨path, -, hparams⟩ := hhandler.params
    exact ⟨setting, m, hsetting, hm, hhandler, scopedFunction_handler root (readsInputs_of_parametersOf hparams)⟩

end Controller

theorem scopedFunctions_lobby : ∃ c a h,
    Controller.ofBlock { base := some "/api", socket := some ⟨"/chat/\x7broom\x7d", .start⟩ } Lobby.block = .ok c ∧
    c.actions = [a] ∧ c.handlers = [h] ∧
    -- the controller is a default one, but an interceptor of the action is obtained from the injector
    (c.actionWords ["crate"] a).count (.bind .injector) = 1 ∧ (c.handlerWords ["crate"] h).count (.bind .injector) = 0 ∧
    -- both have a parameter that is bound, and the handler's is bound from the message
    (c.actionWords ["crate"] a).count (.bind .binder) = 1 ∧ (c.handlerWords ["crate"] h).count (.bind .binder) = 1 ∧
    (callsIn (c.actionWords ["crate"] a)).count (.context, "message_value") = 0 ∧
    (callsIn (c.handlerWords ["crate"] h)).count (.context, "message_value") = 1 ∧
    (argumentsFrom 0 a.params).length = 3 ∧ (argumentsFrom 0 h.params).length = 3 := by
  obtain ⟨c, hread⟩ : ∃ c, Controller.ofBlock
      { base := some "/api", socket := some ⟨"/chat/\x7broom\x7d", .start⟩ } Lobby.block = .ok c := ⟨_, rfl⟩
  obtain ⟨hactions, hhandlers, -⟩ := Controller.scopedFunctions_ofBlock hread ["crate"]
  obtain ⟨a, ha⟩ : ∃ a, c.actions = [a] := by
    cases hread
    exact ⟨_, rfl⟩
  obtain ⟨h, hh⟩ : ∃ h, c.handlers = [h] := by
    cases hread
    exact ⟨_, rfl⟩
  obtain ⟨_, _, -, -, -, haction⟩ := hactions a (by rw [ha]; exact List.mem_singleton_self a)
  obtain ⟨_, _, -, -, -, hhandler⟩ := hhandlers h (by rw [hh]; exact List.mem_singleton_self h)
  refine ⟨c, a, h, hread, ha, hh, haction.injector.trans ?_, hhandler.injector.trans ?_, haction.binder.trans ?_,
    hhandler.binder.trans ?_, haction.decoded.trans ?_, hhandler.decoded.trans ?_, ?_, ?_⟩
  all_goals
    cases hread
    cases ha
    cases hh
    rfl

end Switchyard

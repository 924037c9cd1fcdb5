import Switchyard.Controller.Reader
import Switchyard.Proofs.Except

/-!
# What a controller is read from

Reading goes on after a problem and collects what is wrong. If nothing is wrong in the end, nothing was wrong
with any member: each was read as an action, as a handler or as neither, and the controller has exactly what
was read, in the order of the members.

Main result: `reads_ofBlock`, and for one action `readAsAction_of_mem`.
-/

namespace Switchyard

open Code

/-! ## What is read of a method -/

/-- The interceptors that the attributes of a name declare, in the order of the attributes. -/
def Declares (attributes : List Attribute) (name : String) (list : List Interceptor) : Prop :=
  List.Forall₂ (fun attr i => interceptorOf attr = .ok i) (attributes.filter (·.isNamed name)) list

/-- A method is read as an action. -/
structure ReadAsAction (setting : Setting) (m : Method) (a : Action) : Prop where
  name : a.name = m.signature.name
  docs : a.docs = docLines m.attributes
  noEvent : ∀ attr ∈ m.attributes, eventOf? attr = none
  routes : m.attributes.filterMap (routeOf? setting.base) = a.routes.map .ok
  routed : a.routes ≠ []
  signature : signatureProblems m.signature = []
  params : parametersOf (.action (a.routes.map Route.path)) false m.signature.inputs = a.params.map .ok
  returns : classify m.signature.result m.signature.isAsync .action (m.attributes.any (·.isNamed "action")) =
    .ok a.returns
  before : ∃ own, Declares m.attributes "before" own ∧ a.before = setting.before ++ own
  after : ∃ own, Declares m.attributes "after" own ∧ a.after = setting.after ++ own

/-- A method is read as a handler. -/
structure ReadAsHandler (setting : Setting) (m : Method) (h : Handler) : Prop where
  name : h.name = m.signature.name
  event : ∃ position,
    m.attributes.filterMap (fun attr => (eventOf? attr).map (·, attr.position)) = [(h.event, position)]
  noRoute : m.attributes.filterMap (routeOf? setting.base) = []
  noInterceptor : Declares m.attributes "before" [] ∧ Declares m.attributes "after" []
  signature : signatureProblems m.signature = []
  params : ∃ path, setting.socketPath = some path ∧
    parametersOf (.event h.event path) false m.signature.inputs = h.params.map .ok
  returns : classify m.signature.result m.signature.isAsync .handler (m.attributes.any (·.isNamed "action")) =
    .ok h.returns

/-- A method without the attributes about routing. -/
def withoutRouting (m : Method) : Method := { m with attributes := m.attributes.filter (!isRouting ·) }

/-- The interceptors of a name that surround a method: those of its block, and then its own. -/
def Surround (b : Block) (m : Method) (name : String) (list : List Interceptor) : Prop :=
  ∃ shared own, Declares b.attributes name shared ∧ Declares m.attributes name own ∧ list = shared ++ own

/-- What one member comes to: actions, handlers and the member that is kept. -/
inductive Reads (setting : Setting) : Member → List Action × List Handler × Member → Prop
  | other {tokens : List Token} : Reads setting (.other tokens) ([], [], .other tokens)
  | plain {m : Method} : m.attributes.filterMap (routeOf? setting.base) = [] →
      (∀ attr ∈ m.attributes, eventOf? attr = none) →
      Declares m.attributes "before" [] → Declares m.attributes "after" [] →
      m.attributes.any (·.isNamed "action") = false →
      Reads setting (.method m) ([], [], .method (withoutRouting m))
  | action {m : Method} {a : Action} : ReadAsAction setting m a →
      Reads setting (.method m) ([a], [], .method (withoutBindings (withoutRouting m)))
  | handler {m : Method} {h : Handler} : ReadAsHandler setting m h →
      Reads setting (.method m) ([], [h], .method (withoutBindings (withoutRouting m)))

/-! ## Reading without a problem -/

/-- Results that are sorted out without a problem are all there is. -/
theorem eq_map_ok_of_sortOut {α : Type} : ∀ {list : List (Except Problem α)},
    (sortOut list).1 = [] → list = (sortOut list).2.map .ok
  | [], _ => rfl
  | .error p :: rest, h => by simp [sortOut] at h
  | .ok a :: rest, h => by
    have ih : rest = (sortOut rest).2.map .ok := eq_map_ok_of_sortOut h
    simp only [sortOut, List.map_cons]
    rw [← ih]

theorem declares_of_interceptorsOf {attributes : List Attribute} {name : String}
    (h : (interceptorsOf attributes name).1 = []) : Declares attributes name (interceptorsOf attributes name).2 := by
  rw [interceptorsOf] at h ⊢
  cases hlist : (attributes.filter (·.isNamed name)).mapM interceptorOf with
  | error p => rw [hlist] at h; cases h
  | ok list =>
    rw [mapM_eq_ok_iff] at hlist
    exact hlist

theorem addAction_reads {p : Progress} {setting : Setting} {m : Method} {a : Annotations}
    (h : (p.addAction setting m a).problems = []) : p.problems = [] ∧ ∃ params returns,
      parametersOf (.action (a.routes.map Route.path)) false m.signature.inputs = params.map .ok ∧
      classify m.signature.result m.signature.isAsync .action a.marked = .ok returns ∧
      p.addAction setting m a = { p with
        actions := p.actions ++ [⟨m.signature.name, a.docs, a.routes, params, returns, setting.before ++ a.before,
          setting.after ++ a.after⟩]
        members := p.members ++ [.method (withoutBindings m)] } := by
  unfold Progress.addAction at h ⊢
  cases hreturns : classify m.signature.result m.signature.isAsync .action a.marked with
  | error e => simp [hreturns, Progress.note, Progress.keep] at h
  | ok returns =>
    simp only [hreturns, Progress.note, Progress.keep, List.append_eq_nil_iff] at h ⊢
    refine ⟨h.1, _, returns, eq_map_ok_of_sortOut h.2, rfl, ?_⟩
    rw [h.2, List.append_nil]

theorem addHandler_reads {p : Progress} {setting : Setting} {m : Method} {marked : Bool} {event : Event}
    {position : Position} (h : (p.addHandler setting m marked event position).problems = []) :
    p.problems = [] ∧ ∃ path params returns, setting.socketPath = some path ∧
      parametersOf (.event event path) false m.signature.inputs = params.map .ok ∧
      classify m.signature.result m.signature.isAsync .handler marked = .ok returns ∧
      p.addHandler setting m marked event position = { p with
        handlers := p.handlers ++ [⟨event, m.signature.name, params, returns⟩]
        members := p.members ++ [.method (withoutBindings m)] } := by
  unfold Progress.addHandler at h ⊢
  cases hpath : setting.socketPath with
  | none => simp [hpath, Progress.note, Progress.keep] at h
  | some path =>
    rw [hpath] at h
    simp only at h ⊢
    by_cases hsecond : p.handlers.any (·.event == event)
    · simp [hsecond, Progress.note, Progress.keep] at h
    · rw [if_neg hsecond] at h ⊢
      cases hreturns : classify m.signature.result m.signature.isAsync .handler marked with
      | error e => simp [hreturns, Progress.note, Progress.keep] at h
      | ok returns =>
        simp only [hreturns, Progress.note, Progress.keep, List.append_eq_nil_iff] at h ⊢
        refine ⟨h.1, path, _, returns, rfl, eq_map_ok_of_sortOut h.2, rfl, ?_⟩
        rw [h.2, List.append_nil]

/-- What the attributes of a method declare, read without a problem. -/
structure Annotated (base : String) (m : Method) (a : Annotations) : Prop where
  routes : m.attributes.filterMap (routeOf? base) = a.routes.map .ok
  events : a.events = m.attributes.filterMap fun attr => (eventOf? attr).map (·, attr.position)
  marked : a.marked = m.attributes.any (·.isNamed "action")
  docs : a.docs = docLines m.attributes
  before : Declares m.attributes "before" a.before
  after : Declares m.attributes "after" a.after

theorem annotated_of_annotationsOf {base : String} {m : Method} {a : Annotations}
    (h : annotationsOf base m.attributes = ([], a)) : Annotated base m a := by
  have hwrong : (annotationsOf base m.attributes).1 = [] := by rw [h]
  obtain rfl : (annotationsOf base m.attributes).2 = a := by rw [h]
  simp only [annotationsOf, List.append_eq_nil_iff] at hwrong
  exact ⟨eq_map_ok_of_sortOut hwrong.1.1, rfl, rfl, rfl, declares_of_interceptorsOf hwrong.1.2,
    declares_of_interceptorsOf hwrong.2⟩

theorem Annotated.noEvent {base : String} {m : Method} {a : Annotations} (h : Annotated base m a)
    (hevents : a.events = []) : ∀ attr ∈ m.attributes, eventOf? attr = none := by
  rw [h.events] at hevents
  simpa [List.filterMap_eq_nil_iff] using hevents

@[simp] theorem Progress.note_nil (p : Progress) : p.note [] = p := by simp [Progress.note]

@[simp] theorem Progress.note_problems (p : Progress) (list : List Problem) :
    (p.note list).problems = p.problems ++ list := rfl

@[simp] theorem Progress.keep_problems (p : Progress) (m : Member) : (p.keep m).problems = p.problems := rfl

/-- Reading a member takes one progress without a problem to another. -/
def ComesTo (setting : Setting) (member : Member) (p p' : Progress) : Prop :=
  p.problems = [] ∧ ∃ actions handlers kept, Reads setting member (actions, handlers, kept) ∧
    p' = { p with
      actions := p.actions ++ actions
      handlers := p.handlers ++ handlers
      members := p.members ++ [kept] }

section Methods

variable {p : Progress} {setting : Setting} {m : Method} {wrong : List Problem} {a : Annotations}

/-- A method without routes and events has no interceptor either. -/
theorem addMethod_plain (hread : annotationsOf setting.base m.attributes = (wrong, a)) (hevents : a.events = [])
    (hroutes : a.routes.isEmpty) (h : (p.addMethod setting m).problems = []) :
    ComesTo setting (.method m) p (p.addMethod setting m) := by
  simp only [Progress.addMethod, hread, hevents, if_pos hroutes] at h ⊢
  by_cases hmisplaced : a.marked || (!a.before.isEmpty || !a.after.isEmpty)
  · simp [hmisplaced] at h
  · rw [if_neg hmisplaced, Progress.keep_problems, Progress.note_problems, List.append_eq_nil_iff] at h
    obtain ⟨hp, rfl⟩ := h
    have hann := annotated_of_annotationsOf hread
    have hroute := hann.routes
    have hbefore := hann.before
    have hafter := hann.after
    simp only [Bool.or_eq_true, Bool.not_eq_true', List.isEmpty_eq_false_iff, not_or, not_not,
      Bool.not_eq_true] at hmisplaced
    obtain ⟨hunmarked, hnone, hnone'⟩ := hmisplaced
    rw [List.isEmpty_iff.1 hroutes] at hroute
    rw [hnone] at hbefore
    rw [hnone'] at hafter
    refine ⟨hp, [], [], _, .plain hroute (hann.noEvent hevents) hbefore hafter (hann.marked ▸ hunmarked), ?_⟩
    simp [hunmarked, hnone, hnone', Progress.keep, withoutRouting]

theorem addMethod_action (hread : annotationsOf setting.base m.attributes = (wrong, a)) (hevents : a.events = [])
    (hroutes : ¬ a.routes.isEmpty) (h : (p.addMethod setting m).problems = []) :
    ComesTo setting (.method m) p (p.addMethod setting m) := by
  simp only [Progress.addMethod, hread, hevents, if_neg hroutes] at h ⊢
  obtain ⟨hp, params, returns, hparams, hreturns, heq⟩ := addAction_reads h
  simp only [Progress.note_problems, List.append_eq_nil_iff] at hp
  obtain ⟨⟨hp, rfl⟩, hsignature⟩ := hp
  have hann := annotated_of_annotationsOf hread
  have haction : ReadAsAction setting m ⟨m.signature.name, a.docs, a.routes, params, returns,
      setting.before ++ a.before, setting.after ++ a.after⟩ :=
    { name := rfl
      docs := hann.docs
      noEvent := hann.noEvent hevents
      routes := hann.routes
      routed := fun hnil => hroutes (List.isEmpty_iff.2 hnil)
      signature := hsignature
      params := hparams
      returns := hann.marked ▸ hreturns
      before := ⟨_, hann.before, rfl⟩
      after := ⟨_, hann.after, rfl⟩ }
  refine ⟨hp, _, [], _, .action haction, ?_⟩
  rw [heq, hsignature]
  simp [withoutRouting]

/-- A method with an event is a handler: it has no other event, no route and no interceptor. -/
theorem addMethod_handler (hread : annotationsOf setting.base m.attributes = (wrong, a)) {event : Event}
    {position : Position} {others : List (Event × Position)} (hevents : a.events = (event, position) :: others)
    (h : (p.addMethod setting m).problems = []) : ComesTo setting (.method m) p (p.addMethod setting m) := by
  simp only [Progress.addMethod, hread, hevents] at h ⊢
  obtain ⟨hp, path, params, returns, hpath, hparams, hreturns, heq⟩ := addHandler_reads h
  -- a route, a second event or an interceptor would have left a problem in `hp`
  by_cases hroutes : a.routes.isEmpty
  · by_cases hintercepted : !a.before.isEmpty || !a.after.isEmpty
    · simp [hintercepted] at hp
    · cases others with
      | cons second others => simp [hroutes, hintercepted] at hp
      | nil =>
        rw [if_neg hintercepted, if_pos hroutes] at hp
        simp only [Progress.note_problems, List.append_eq_nil_iff] at hp
        obtain ⟨⟨hp, rfl⟩, hsignature⟩ := hp
        have hann := annotated_of_annotationsOf hread
        have hroute := hann.routes
        have hbefore := hann.before
        have hafter := hann.after
        simp only [Bool.or_eq_true, Bool.not_eq_true', List.isEmpty_eq_false_iff, not_or, not_not] at hintercepted
        obtain ⟨hnone, hnone'⟩ := hintercepted
        rw [List.isEmpty_iff.1 hroutes] at hroute
        rw [hnone] at hbefore
        rw [hnone'] at hafter
        have hhandler : ReadAsHandler setting m ⟨event, m.signature.name, params, returns⟩ :=
          { name := rfl
            event := ⟨position, hann.events ▸ hevents⟩
            noRoute := hroute
            noInterceptor := ⟨hbefore, hafter⟩
            signature := hsignature
            params := ⟨path, hpath, hparams⟩
            returns := hann.marked ▸ hreturns }
        refine ⟨hp, [], _, _, .handler hhandler, ?_⟩
        rw [heq]
        simp [hroutes, hnone, hnone', hsignature, withoutRouting]
  · cases others <;> by_cases hintercepted : !a.before.isEmpty || !a.after.isEmpty <;>
      simp [hroutes, hintercepted] at hp

end Methods

/-- **What one member comes to** if reading it gives no problem. -/
theorem addMember_comesTo {p : Progress} {setting : Setting} {member : Member}
    (h : (p.addMember setting member).problems = []) : ComesTo setting member p (p.addMember setting member) := by
  cases member with
  | other tokens => exact ⟨h, [], [], _, .other, by simp [Progress.addMember, Progress.keep]⟩
  | method m =>
    rcases hread : annotationsOf setting.base m.attributes with ⟨wrong, a⟩
    cases hevents : a.events with
    | nil =>
      by_cases hroutes : a.routes.isEmpty
      · exact addMethod_plain hread hevents hroutes h
      · exact addMethod_action hread hevents hroutes h
    | cons e others => exact addMethod_handler hread hevents h

/-- What all members come to, in their order. -/
theorem foldl_addMember_reads {setting : Setting} : ∀ (members : List Member) {p : Progress},
    (members.foldl (fun p m => p.addMember setting m) p).problems = [] →
      p.problems = [] ∧ ∃ readings, List.Forall₂ (Reads setting) members readings ∧
        members.foldl (fun p m => p.addMember setting m) p = { p with
          actions := p.actions ++ readings.flatMap (·.1)
          handlers := p.handlers ++ readings.flatMap (·.2.1)
          members := p.members ++ readings.map (·.2.2) }
  | [], p, h => ⟨h, [], .nil, by simp⟩
  | m :: rest, p, h => by
    obtain ⟨hp, readings, hreads, hfold⟩ := foldl_addMember_reads rest h
    obtain ⟨hp, actions, handlers, kept, hread, hstep⟩ := addMember_comesTo hp
    refine ⟨hp, (actions, handlers, kept) :: readings, .cons hread hreads, ?_⟩
    rw [List.foldl_cons, hfold]
    simp only [hstep]
    simp

/-! ## Controllers -/

/-- What a block and its options say about all methods. -/
structure SettingOf (options : Options) (b : Block) (setting : Setting) : Prop where
  base : setting.base = options.base.getD ""
  socketPath : setting.socketPath = options.socket.map fun placed => joinPath setting.base placed.path
  before : Declares b.attributes "before" setting.before
  after : Declares b.attributes "after" setting.after

/-- **A controller has exactly what is read of the members of its block**, and no two of its routes are alike. -/
theorem reads_ofBlock {options : Options} {b : Block} {c : Controller} (h : Controller.ofBlock options b = .ok c) :
    ∃ setting readings, SettingOf options b setting ∧ List.Forall₂ (Reads setting) b.members readings ∧
      b.type.name? = some c.name ∧ c.inject = options.inject ∧ c.socketPath = setting.socketPath ∧
      c.actions = readings.flatMap (·.1) ∧ c.handlers = readings.flatMap (·.2.1) ∧
      c.block.members = readings.map (·.2.2) ∧ repeatedRoutes [] c.routes = [] ∧
      socketProblems options.socket c.socketPath c.actions c.handlers = [] := by
  unfold Controller.ofBlock at h
  split at h
  · cases h
  · cases h
  · cases h
  · rename_i name _ _ hname
    simp only at h
    split at h
    · rename_i hproblems
      simp only [List.isEmpty_iff, List.append_eq_nil_iff] at hproblems
      obtain ⟨⟨hfold, hroutes⟩, hsocket⟩ := hproblems
      obtain ⟨hstart, readings, hreads, heq⟩ := foldl_addMember_reads _ hfold
      obtain ⟨hbefore, hafter⟩ := List.append_eq_nil_iff.1 hstart
      cases h
      rw [heq] at hroutes hsocket ⊢
      exact ⟨_, readings,
        ⟨rfl, rfl, declares_of_interceptorsOf hbefore, declares_of_interceptorsOf hafter⟩,
        hreads, hname, rfl, rfl, rfl, rfl, rfl, hroutes, hsocket⟩
    · cases h

theorem exists_of_forall₂_mem_right {α β : Type} {r : α → β → Prop} {l₁ : List α} {l₂ : List β} {b : β}
    (h : List.Forall₂ r l₁ l₂) (hb : b ∈ l₂) : ∃ a ∈ l₁, r a b := by
  induction h with
  | nil => cases hb
  | cons hr _ ih =>
    cases hb with
    | head => exact ⟨_, List.mem_cons_self, hr⟩
    | tail _ hb =>
      obtain ⟨a, ha, hr⟩ := ih hb
      exact ⟨a, List.mem_cons_of_mem _ ha, hr⟩

/-- Every action of a controller is read from a method of its block. -/
theorem readAsAction_of_mem {options : Options} {b : Block} {c : Controller} {a : Action}
    (h : Controller.ofBlock options b = .ok c) (ha : a ∈ c.actions) :
    ∃ setting m, SettingOf options b setting ∧ .method m ∈ b.members ∧ ReadAsAction setting m a := by
  obtain ⟨setting, readings, hsetting, hreads, -, -, -, hactions, -⟩ := reads_ofBlock h
  rw [hactions, List.mem_flatMap] at ha
  obtain ⟨reading, hmem, ha⟩ := ha
  obtain ⟨member, hmember, hread⟩ := exists_of_forall₂_mem_right hreads hmem
  cases hread with
  | other => cases ha
  | plain => cases ha
  | handler => cases ha
  | action haction =>
    obtain rfl := List.mem_singleton.1 ha
    exact ⟨setting, _, hsetting, hmember, haction⟩

theorem readAsHandler_of_mem {options : Options} {b : Block} {c : Controller} {handler : Handler}
    (h : Controller.ofBlock options b = .ok c) (hhandler : handler ∈ c.handlers) :
    ∃ setting m, SettingOf options b setting ∧ .method m ∈ b.members ∧ ReadAsHandler setting m handler ∧
      c.socketPath = setting.socketPath := by
  obtain ⟨setting, readings, hsetting, hreads, -, -, hpath, -, hhandlers, -⟩ := reads_ofBlock h
  rw [hhandlers, List.mem_flatMap] at hhandler
  obtain ⟨reading, hmem, hhandler⟩ := hhandler
  obtain ⟨member, hmember, hread⟩ := exists_of_forall₂_mem_right hreads hmem
  cases hread with
  | other => cases hhandler
  | plain => cases hhandler
  | action => cases hhandler
  | handler hread =>
    obtain rfl := List.mem_singleton.1 hhandler
    exact ⟨setting, _, hsetting, hmember, hread, hpath⟩

end Switchyard

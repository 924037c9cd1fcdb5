import Switchyard.Proofs.Controller.Options
import Switchyard.Proofs.Controller.Parameters
import Switchyard.Proofs.Controller.Reading

/-!
# Well-formed controllers

A block is read on after a problem, with whatever was read of it so far; but a controller results only if there
was none. Then its routes are distinct and its paths absolute, no event has two handlers, and every parameter is
one that its handler may have.

Main result: `wellFormed_of_ofBlock`.
-/

namespace Switchyard

open Code

/-! ## What is well formed -/

/-- An action has a route; one parameter at most is its context, and none belongs to a socket. -/
structure Action.WellFormed (a : Action) : Prop where
  routed : a.routes ≠ []
  oneContext : a.params.countP (·.role.isContext) ≤ 1
  noSession : ∀ p ∈ a.params, p.role ≠ .session ∧ p.role ≠ .eventContext
  plans : ∀ p ∈ a.params, ∀ plan, p.role = .bound plan → plan.Fits (.action (a.routes.map Route.path))

/-- A handler has no parameter that belongs to an action, and a whole document only if it is of a message. -/
structure Handler.WellFormed (path : String) (h : Handler) : Prop where
  noContext : ∀ p ∈ h.params, p.role.isContext = false
  document : ∀ p ∈ h.params, p.isDocument = true → h.event = .message
  plans : ∀ p ∈ h.params, ∀ plan, p.role = .bound plan → plan.Fits (.event h.event path)

/-- What holds of every controller that is read. -/
structure Controller.WellFormed (c : Controller) : Prop where
  routes : (c.routes.map fun r => (r.verb, r.path)).Nodup
  absolute : ∀ r ∈ c.routes, startsWithSlash r.path = true
  socketAbsolute : ∀ path, c.socketPath = some path → startsWithSlash path = true
  events : (c.handlers.map Handler.event).Nodup
  /-- A controller with handlers has a socket, at a path that is not got otherwise. -/
  socket : c.handlers ≠ [] → ∃ path, c.socketPath = some path ∧ ∀ r ∈ c.routes, r.path = path → r.verb ≠ .get
  actions : ∀ a ∈ c.actions, a.WellFormed
  handlers : ∀ h ∈ c.handlers, ∀ path, c.socketPath = some path → h.WellFormed path

/-! ## Parameters -/

theorem ReadAsAction.wellFormed {setting : Setting} {m : Method} {a : Action} (h : ReadAsAction setting m a) :
    a.WellFormed := by
  have hreads := readsInputs_of_parametersOf h.params
  refine ⟨h.routed, ?_, fun p hp => ?_, fun p hp plan hplan => ?_⟩
  · simpa using hreads.countP_isContext_le
  · have hfits := hreads.fits p hp
    constructor
    all_goals
      intro hrole
      rw [hrole] at hfits
      cases hfits
  · have hfits := hreads.fits p hp
    rwa [hplan] at hfits

theorem ReadAsHandler.wellFormed {setting : Setting} {m : Method} {handler : Handler} {path : String}
    (h : ReadAsHandler setting m handler) (hpath : setting.socketPath = some path) : handler.WellFormed path := by
  obtain ⟨path', hpath', hparams⟩ := h.params
  obtain rfl : path = path' := by
    rw [hpath] at hpath'
    exact Option.some.inj hpath'
  have hfits := (readsInputs_of_parametersOf hparams).fits
  refine ⟨fun p hp => ?_, fun p hp hdocument => ?_, fun p hp plan hplan => ?_⟩
  · have hp := hfits p hp
    cases hrole : p.role <;> rw [hrole] at hp
    case context => cases hp
    all_goals rfl
  · have hp := hfits p hp
    unfold Parameter.isDocument at hdocument
    cases hrole : p.role <;> rw [hrole] at hp hdocument
    case document => simpa [Role.Fits, Mount.hasDocument] using hp
    all_goals cases hdocument
  · have hp := hfits p hp
    rwa [hplan] at hp

/-! ## Routes -/

/-- Where no route is repeated, all are distinct, and distinct from those before. -/
theorem nodup_of_repeatedRoutes : ∀ {routes : List Route} {seen : List (Verb × String)},
    repeatedRoutes seen routes = [] →
      (routes.map fun r => (r.verb, r.path)).Nodup ∧ ∀ r ∈ routes, (r.verb, r.path) ∉ seen
  | [], seen, _ => ⟨List.nodup_nil, by simp⟩
  | r :: rest, seen, h => by
    rw [repeatedRoutes] at h
    split at h
    · cases h
    · rename_i hseen
      obtain ⟨hnodup, hfresh⟩ := nodup_of_repeatedRoutes h
      rw [List.contains_iff_mem] at hseen
      constructor
      · rw [List.map_cons, List.nodup_cons]
        refine ⟨fun hmem => ?_, hnodup⟩
        obtain ⟨r', hr', heq⟩ := List.mem_map.1 hmem
        exact hfresh r' hr' (heq ▸ List.mem_cons_self)
      · intro r' hr'
        cases hr' with
        | head => exact hseen
        | tail _ hr' => exact fun hmem => hfresh r' hr' (List.mem_cons_of_mem _ hmem)

/-- A route is joined from the prefix of the block. -/
theorem ReadAsAction.path_eq {setting : Setting} {m : Method} {a : Action} (h : ReadAsAction setting m a) {r : Route}
    (hr : r ∈ a.routes) : ∃ template, r.path = joinPath setting.base template := by
  have hmem : Except.ok r ∈ m.attributes.filterMap (routeOf? setting.base) := by
    rw [h.routes]
    exact List.mem_map_of_mem hr
  obtain ⟨attr, -, hroute⟩ := List.mem_filterMap.1 hmem
  obtain ⟨verb, -, hroute⟩ := Option.map_eq_some_iff.1 hroute
  cases htemplate : templateOf attr with
  | error e =>
    rw [htemplate] at hroute
    cases hroute
  | ok template =>
    rw [htemplate] at hroute
    cases hroute
    exact ⟨template, rfl⟩

/-! ## Handlers -/

@[simp] theorem Progress.note_handlers (p : Progress) (list : List Problem) :
    (p.note list).handlers = p.handlers := rfl

@[simp] theorem Progress.keep_handlers (p : Progress) (m : Member) : (p.keep m).handlers = p.handlers := rfl

/-- A handler that is read without a problem is the first of its event. -/
theorem addHandler_first {p : Progress} {setting : Setting} {m : Method} {marked : Bool} {event : Event}
    {position : Position} (h : (p.addHandler setting m marked event position).problems = []) :
    event ∉ p.handlers.map Handler.event := by
  unfold Progress.addHandler at h
  split at h
  · simp at h
  · split at h
    · simp at h
    · rename_i hnone
      simpa using hnone

/-- A method that is read without a problem adds no handler, or the first one of an event. -/
theorem addMethod_handlers {p : Progress} {setting : Setting} {m : Method}
    (h : (p.addMethod setting m).problems = []) :
    (p.addMethod setting m).handlers = p.handlers ∨ ∃ handler : Handler,
      (p.addMethod setting m).handlers = p.handlers ++ [handler] ∧
      handler.event ∉ p.handlers.map Handler.event := by
  rcases hread : annotationsOf setting.base m.attributes with ⟨wrong, a⟩
  cases hevents : a.events with
  | nil =>
    left
    simp only [Progress.addMethod, hread, hevents] at h ⊢
    by_cases hroutes : a.routes.isEmpty = true
    · rw [if_pos hroutes, Progress.keep_handlers]
      split <;> rfl
    · rw [if_neg hroutes] at h ⊢
      obtain ⟨-, params, returns, -, -, heq⟩ := addAction_reads h
      rw [heq]
      rfl
  | cons e others =>
    right
    obtain ⟨event, position⟩ := e
    simp only [Progress.addMethod, hread, hevents] at h ⊢
    obtain ⟨-, path, params, returns, -, -, -, heq⟩ := addHandler_reads h
    have hfirst := addHandler_first h
    rw [heq]
    -- what is noted of a method on the way leaves the handlers alone
    cases others with
    | nil =>
      simp only [apply_ite Progress.handlers, Progress.note_handlers, ite_self] at hfirst ⊢
      exact ⟨_, rfl, hfirst⟩
    | cons second others =>
      simp only [apply_ite Progress.handlers, Progress.note_handlers, ite_self] at hfirst ⊢
      exact ⟨_, rfl, hfirst⟩

theorem addMember_nodup {p : Progress} {setting : Setting} {member : Member}
    (h : (p.addMember setting member).problems = []) (hp : (p.handlers.map Handler.event).Nodup) :
    ((p.addMember setting member).handlers.map Handler.event).Nodup := by
  cases member with
  | other tokens => exact hp
  | method m =>
    obtain hsame | ⟨handler, hadded, hfirst⟩ := addMethod_handlers h
    · rw [Progress.addMember, hsame]
      exact hp
    · rw [Progress.addMember, hadded, List.map_append, List.map_singleton]
      exact List.nodup_append.2 ⟨hp, by simp, fun e he e' he' => by
        obtain rfl := List.mem_singleton.1 he'
        rintro rfl
        exact hfirst he⟩

theorem foldl_addMember_nodup {setting : Setting} : ∀ (members : List Member) {p : Progress},
    (members.foldl (fun p m => p.addMember setting m) p).problems = [] → (p.handlers.map Handler.event).Nodup →
      ((members.foldl (fun p m => p.addMember setting m) p).handlers.map Handler.event).Nodup
  | [], _, _, hp => hp
  | m :: rest, p, h, hp => by
    have hstep : (p.addMember setting m).problems = [] := (foldl_addMember_reads rest h).1
    exact foldl_addMember_nodup rest h (addMember_nodup hstep hp)

/-- No event of a controller has two handlers. -/
theorem nodup_events_ofBlock {options : Options} {b : Block} {c : Controller}
    (h : Controller.ofBlock options b = .ok c) : (c.handlers.map Handler.event).Nodup := by
  unfold Controller.ofBlock at h
  split at h
  · cases h
  · cases h
  · cases h
  · simp only at h
    split at h
    · rename_i hproblems
      simp only [List.isEmpty_iff, List.append_eq_nil_iff] at hproblems
      cases h
      exact foldl_addMember_nodup _ hproblems.1.1 List.nodup_nil
    · cases h

/-- A controller with handlers has a socket, whose path is not got otherwise. -/
theorem socket_of_ofBlock {options : Options} {b : Block} {c : Controller}
    (h : Controller.ofBlock options b = .ok c) (hhandlers : c.handlers ≠ []) :
    ∃ path, c.socketPath = some path ∧ ∀ r ∈ c.routes, r.path = path → r.verb ≠ .get := by
  obtain ⟨handler, hmem⟩ := List.exists_mem_of_ne_nil _ hhandlers
  obtain ⟨setting, m, hsetting, -, hread, hpath⟩ := readAsHandler_of_mem h hmem
  obtain ⟨path, hsome, -⟩ := hread.params
  obtain ⟨-, -, -, -, -, -, -, -, -, -, -, hsocket⟩ := reads_ofBlock h
  rw [hsome] at hpath
  obtain ⟨placed, hplaced, -⟩ := Option.map_eq_some_iff.1 (hsetting.socketPath.symm.trans hsome)
  refine ⟨path, hpath, fun r hr hrpath hget => ?_⟩
  have htaken : ((c.actions.flatMap Action.routes).any fun r => r.verb == .get && r.path == path) = true :=
    List.any_eq_true.2 ⟨r, hr, by simp [hrpath, hget]⟩
  have hsome' : (!c.handlers.isEmpty) = true := by simpa using hhandlers
  simp [socketProblems, hplaced, hpath, htaken, hsome'] at hsocket

/-! ## Controllers -/

/-- **A controller that is read is well formed**, and each of its actions has the interceptors of the block and
then those of its own method. -/
theorem wellFormed_of_ofBlock {tokens : List Token} {options : Options} {b : Block} {c : Controller}
    (hoptions : Options.ofTokens tokens = .ok options) (hread : Controller.ofBlock options b = .ok c) :
    c.WellFormed ∧ ∀ a ∈ c.actions, ∃ setting m, SettingOf options b setting ∧ .method m ∈ b.members ∧
      ReadAsAction setting m a ∧ Surround b m "before" a.before ∧ Surround b m "after" a.after := by
  obtain ⟨hbase, hsocket⟩ := Options.absolute_ofTokens hoptions
  obtain ⟨setting₀, -, hsetting₀, -, -, -, hpath₀, -, -, -, hroutes, -⟩ := reads_ofBlock hread
  constructor
  case left =>
    refine
      { routes := (nodup_of_repeatedRoutes hroutes).1
        absolute := fun r hr => ?absolute
        socketAbsolute := fun path hpath => ?socketAbsolute
        events := nodup_events_ofBlock hread
        socket := socket_of_ofBlock hread
        actions := fun a ha => ?actions
        handlers := fun h hh path hpath => ?handlers }
    case absolute =>
      obtain ⟨a, ha, hr⟩ := List.mem_flatMap.1 hr
      obtain ⟨setting, m, hsetting, -, haction⟩ := readAsAction_of_mem hread ha
      obtain ⟨template, hjoin⟩ := haction.path_eq hr
      rw [hjoin, hsetting.base]
      exact startsWithSlash_joinPath hbase template
    case socketAbsolute =>
      rw [hpath₀, hsetting₀.socketPath] at hpath
      obtain ⟨placed, -, rfl⟩ := Option.map_eq_some_iff.1 hpath
      rw [hsetting₀.base]
      exact startsWithSlash_joinPath hbase placed.path
    case actions =>
      obtain ⟨setting, m, -, -, haction⟩ := readAsAction_of_mem hread ha
      exact haction.wellFormed
    case handlers =>
      obtain ⟨setting, m, -, -, hhandler, hsame⟩ := readAsHandler_of_mem hread hh
      exact hhandler.wellFormed (hsame ▸ hpath)
  case right =>
    intro a ha
    obtain ⟨setting, m, hsetting, hm, haction⟩ := readAsAction_of_mem hread ha
    obtain ⟨ownBefore, hbefore, hbeforeEq⟩ := haction.before
    obtain ⟨ownAfter, hafter, hafterEq⟩ := haction.after
    exact ⟨setting, m, hsetting, hm, haction, ⟨_, _, hsetting.before, hbefore, hbeforeEq⟩,
      ⟨_, _, hsetting.after, hafter, hafterEq⟩⟩

/-! ## The lobby -/

namespace Lobby

/-- An attribute with a name. -/
def mark (name : String) (content : AttributeContent) : Attribute :=
  ⟨false, [name], false, content, .start, .start, []⟩

/-- A type that is a name. -/
def named (name : String) : TypeExpr := .mk [.word name .start] (.path [.mk name .none])

/-- A borrowed type. -/
def borrowed (name : String) : TypeExpr :=
  .mk [.mark '&' false .start, .word name .start] (.reference false (named name))

/-- An input that is a value. -/
def input (attributes : List Attribute) (name : String) (type : TypeExpr) : Input :=
  ⟨attributes, .value (some name) type, .word name .start :: .mark ':' false .start :: type.tokens, true⟩

/-- A method that borrows its object and returns nothing. -/
def method (attributes : List Attribute) (name : String) (inputs : List Input) : Method where
  attributes
  visibility := []
  signature :=
    { head := [.word "fn" .start], isAsync := false, name, namePosition := .start, generics := []
      inputs := ⟨[], .receiver false, [.mark '&' false .start, .word "self" .start], true⟩ :: inputs
      result := none, tail := [] }
  body := []

/-- Options with a prefix and a socket. -/
def options : List Token :=
  [.word "path" .start, .mark '=' false .start, .literal "\"/api\"" .start, .mark ',' false .start,
    .word "ws" .start, .mark '=' false .start, .literal "\"/chat/\x7broom\x7d\"" .start]

/-- An action with two routes, a handler of messages, and a method that is neither; there is an interceptor of
the block and one of the action. -/
def block : Block where
  attributes := [mark "before" (.list [.word "Record" .start] .start)]
  head := [.word "impl" .start]
  generics := none
  trait := none
  type := named "Lobby"
  tail := []
  members := [
    .method (method
      [mark "get" (.list [.literal "\"/rooms/\x7broom\x7d\"" .start] .start), mark "post" .bare,
        mark "before" (.list [.word "inject" .start, .mark '=' false .start, .word "guard" .start] .start)]
      "show"
      [input [] "room" (named "String"),
        input [mark "from" (.list [.word "header" .start] .start)] "token" (named "u32"),
        input [] "ctx" (borrowed "HttpContext")]),
    .method (method [mark "ws_message" .bare] "said"
      [input [] "text" (named "String"), input [mark "from_json" .bare] "note" (named "Note"),
        input [] "session" (borrowed "WsSession")]),
    .method (method [] "helper" [])]

end Lobby

theorem wellFormed_lobby : ∃ options c, Options.ofTokens Lobby.options = .ok options ∧
    Controller.ofBlock options Lobby.block = .ok c ∧
    c.routes.map (fun r => (r.verb, r.path)) = [(.get, "/api/rooms/\x7broom\x7d"), (.post, "/api")] ∧
    c.actions.map Action.before = [[.made ["Record"], .injected "guard"]] ∧
    c.handlers.map Handler.event = [.message] ∧ c.socketPath = some "/api/chat/\x7broom\x7d" ∧ c.WellFormed ∧
    ∀ a ∈ c.actions, ∃ m, .method m ∈ Lobby.block.members ∧ Surround Lobby.block m "before" a.before := by
  have hoptions : Options.ofTokens Lobby.options =
      .ok { base := some "/api", socket := some ⟨"/chat/\x7broom\x7d", .start⟩ } := by rfl
  obtain ⟨c, hread⟩ : ∃ c, Controller.ofBlock
      { base := some "/api", socket := some ⟨"/chat/\x7broom\x7d", .start⟩ } Lobby.block = .ok c := ⟨_, rfl⟩
  obtain ⟨hwell, hactions⟩ := wellFormed_of_ofBlock hoptions hread
  refine ⟨_, c, hoptions, hread, ?routes, ?before, ?events, ?socket, hwell, fun a ha => ?surrounded⟩
  case surrounded =>
    obtain ⟨-, m, -, hm, -, hbefore, -⟩ := hactions a ha
    exact ⟨m, hm, hbefore⟩
  all_goals
    cases hread
    rfl

end Switchyard

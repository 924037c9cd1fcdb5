import Switchyard.Proofs.Controller.Registration
import Switchyard.Proofs.Program.Words

/-!
# Routes as they are declared, reported and registered

A controller reports its routes in the order of declaration and registers them regrouped by path, the socket
apart. What is written for either says what the attributes of the block say: nothing is lost between them, and
nothing is added.

Main result: `tabulates_ofBlock`.
-/

namespace Switchyard

open Code

/-! ## Calls and rows -/

/-- A call that puts functions to the verbs of a path. -/
structure RouteCall where
  path : String
  functions : List (Verb × String)

namespace RouteCall

/-- The path, verb and function of everything that a call registers. -/
def entries (call : RouteCall) : List (String × Verb × String) := call.functions.map fun f => (call.path, f)

/-- A function under the filter of its verb. -/
def filterWords (s : Scope) (f : Verb × String) : List Word :=
  s.path ("http : : routing : : MethodFilter : : " ++ f.1.method) ++ say "," ++ [.text f.2]

/-- How a call is written: with the filters of its verbs, or to get and nothing else. -/
inductive Written (s : Scope) : RouteCall → List Word → Prop
  | filtered {path : String} {first : Verb × String} {rest : List (Verb × String)} :
      Written s ⟨path, first :: rest⟩
        (say ". route (" ++ [.text (literal path), .text ","] ++ s.path "http : : routing : : on ("
          ++ filterWords s first ++ say ")" ++ rest.flatMap (fun f => say ". on (" ++ filterWords s f ++ say ")")
          ++ say ")")
  | got {path function : String} :
      Written s ⟨path, [(.get, function)]⟩
        (say ". route (" ++ [.text (literal path), .text ","] ++ s.path "http : : routing : : get ("
          ++ [.text function] ++ say ") )")

end RouteCall

/-- How an entry is reported; its documentation follows. -/
inductive WrittenRow (s : Scope) : String × Verb × String → List Word → Prop
  | row {path : String} {verb : Verb} {action : String} (documentation : List Word) :
      WrittenRow s (path, verb, action)
        (s.path "meta : : RouteInfo : : new ("
          ++ between [.text ","] ([verb.method, path, s.controller, action].map fun t => [.text (literal t)])
          ++ say ")" ++ documentation)

namespace Controller

variable (c : Controller) (root : Pieces)

/-- The call of a registration. -/
def callOf (r : Registration) : RouteCall := ⟨r.path, r.actions.map fun e => (e.1, c.actionFunction e.2)⟩

/-- The call that registers the socket, if the controller reports one. -/
def socketCalls : List RouteCall :=
  match c.endpointInfo? with
  | some e => [⟨e.path, [(.get, c.endpointFunction)]⟩]
  | none => []

/-- What precedes the calls that register. -/
def routesOpening : List Word :=
  let s := c.scope root ""
  say "impl" ++ s.path "controller : : Controller <" ++ quote c.state ++ say "> for" ++ quote c.type.pieces
    ++ say "\x7b fn routes ( ) - >" ++ s.path "http : : Router <" ++ quote c.state ++ say "> \x7b"
    ++ s.path "http : : Router : : new ( )"

/-- What stands between the calls and the rows that report. -/
def tableOpening : List Word :=
  say "\x7d fn route_table ( ) - > : : std : : vec : : Vec <" ++ (c.scope root "").path "meta : : RouteInfo > \x7b vec ! ["

/-- What follows the rows: what is reported of the socket. -/
def tableClosing : List Word :=
  let s := c.scope root ""
  say "] \x7d" ++ say "fn endpoint ( ) - > : : core : : option : : Option <" ++ s.path "meta : : EndpointInfo > \x7b"
    ++ (match c.endpointInfo? with
      | some e => say ": : core : : option : : Option : : Some (" ++ s.path "meta : : EndpointInfo : : new ("
          ++ [.text (literal e.path), .text ",", .text (literal e.controller)] ++ say ", vec ! ["
          ++ between [.text ","] (e.events.map fun t => [.text (literal t)]) ++ say "] , ) )"
      | none => optionWords none)
    ++ say "\x7d \x7d"

/-- The calls and the rows that are written for the entries of a block. -/
structure Tabulates (declared : List (String × Verb × String)) (calls : List RouteCall) : Prop where
  /-- Reported are the entries, in their order. -/
  reported : c.routeTable.map (fun r => (r.path, r.method, r.controller, r.action)) =
    declared.map fun e => (e.1, e.2.1.method, c.name, e.2.2)
  /-- Registered are the same, each with the function of its method. -/
  registered : (calls.flatMap RouteCall.entries).Perm
    (declared.map fun e => (e.1, e.2.1, c.actionFunction e.2.2))
  /-- A path is in one call, and a verb there once. -/
  paths : (calls.map RouteCall.path).Nodup
  verbs : ∀ call ∈ calls, (call.functions.map Prod.fst).Nodup
  /-- These are the calls, with that of the socket, and these are the rows. -/
  written : ∃ pieces rows, List.Forall₂ (RouteCall.Written (c.scope root "")) (calls ++ c.socketCalls) pieces ∧
    List.Forall₂ (WrittenRow (c.scope root "")) declared rows ∧
    c.tableWords root = c.routesOpening root ++ pieces.flatten ++ c.tableOpening root
      ++ between [.text ","] rows ++ c.tableClosing root

/-- A method is served: it is read as an action, and a function of the action's name is generated, which calls
the method. -/
structure Serves (setting : Setting) (m : Method) (a : Action) : Prop where
  read : ReadAsAction setting m a
  mem : a ∈ c.actions
  named : functionHead (c.scope root m.signature.name) (c.actionFunction m.signature.name) <+: c.actionWords root a
  calls : [.use .controller, .text ".", .text m.signature.name, .text "("] <:+: c.actionWords root a
  generated : c.actionWords root a <:+: c.output root

/-- The handlers are those of the events, and what opens the socket gives the endpoint their functions, and
nothing else. -/
structure Installs (events : List (Event × String)) : Prop where
  handlers : c.handlers.map (fun h => (h.event, h.name)) = events
  /-- There is a socket iff there is an event. -/
  reported : (c.endpointInfo?.map EndpointInfo.path) = if events.isEmpty then none else c.socketPath
  opened : c.endpointInfo?.isSome →
    functionHead (c.scope root "") c.endpointFunction ++ say "\x7b" ++ (c.scope root "").path "ws : : WsEndpoint : : <"
      ++ quote c.state ++ say "> : : new ( )"
      ++ events.flatMap (fun e => say "." ++ [.text e.1.builder, .text "(", .text (c.eventFunction e.1), .text ")"])
      ++ say ". accept (" <:+: c.endpointWords root

end Controller

/-! ## Reports -/

variable {c : Controller} {root : Pieces}

theorem entries_eq : c.entries = c.actions.flatMap Action.entries := rfl

theorem routeTable_entries : c.routeTable.map (fun r => (r.path, r.method, r.controller, r.action)) =
    c.entries.map fun e => (e.1, e.2.1.method, c.name, e.2.2) := by
  simp only [Controller.routeTable, Controller.entries, List.map_flatMap, List.map_map]
  rfl

theorem rows_written (c : Controller) (s : Scope) (hname : s.controller = c.name) :
    List.Forall₂ (WrittenRow s) c.entries (c.routeTable.map (Controller.routeInfoWords s)) := by
  have hactions : ∀ actions : List Action, List.Forall₂ (WrittenRow s) (actions.flatMap Action.entries)
      ((actions.flatMap fun a => a.routes.map (routeInfo c.name a)).map (Controller.routeInfoWords s)) := by
    intro actions
    induction actions with
    | nil => exact .nil
    | cons a rest ih =>
      rw [List.flatMap_cons, List.flatMap_cons, List.map_append]
      refine List.rel_append ?_ ih
      rw [Action.entries, List.map_map, List.forall₂_map_left_iff, List.forall₂_map_right_iff, List.forall₂_same]
      intro r _
      have hrow := @WrittenRow.row s r.path r.verb a.name
      rw [hname] at hrow
      simp only [Function.comp_apply, Controller.routeInfoWords, List.append_assoc] at hrow ⊢
      exact hrow _
  exact hactions c.actions

/-! ## Registrations -/

theorem registrationWords_written {s : Scope} {r : Registration} (h : r.actions ≠ []) :
    (c.callOf r).Written s (c.registrationWords s r) := by
  obtain ⟨path, actions⟩ := r
  cases actions with
  | nil => exact absurd rfl h
  | cons first rest =>
    have hcall : (c.callOf ⟨path, first :: rest⟩).Written s _ := .filtered
    simp only [List.flatMap_map] at hcall
    exact hcall

/-- The words of the socket's call, if there is one. -/
def Controller.socketWords (c : Controller) (root : Pieces) : List (List Word) :=
  match c.endpointInfo? with
  | some e => [say ". route (" ++ [.text (literal e.path), .text ","]
      ++ (c.scope root "").path "http : : routing : : get (" ++ [.text c.endpointFunction] ++ say ") )"]
  | none => []

theorem socketWords_written (c : Controller) (root : Pieces) :
    List.Forall₂ (RouteCall.Written (c.scope root "")) c.socketCalls (c.socketWords root) := by
  unfold Controller.socketCalls Controller.socketWords
  cases c.endpointInfo? with
  | none => exact .nil
  | some e => exact .cons .got .nil

/-- What a controller writes are the calls of its registrations, that of its socket, and its rows. -/
theorem tableWords_eq (c : Controller) (root : Pieces) : c.tableWords root =
    c.routesOpening root
      ++ (c.registrations.map (c.registrationWords (c.scope root "")) ++ c.socketWords root).flatten
      ++ c.tableOpening root ++ between [.text ","] (c.routeTable.map (Controller.routeInfoWords (c.scope root "")))
      ++ c.tableClosing root := by
  rw [List.flatten_append, ← List.flatMap_def]
  cases hendpoint : c.endpoint? with
  | none =>
    have hinfo : c.endpointInfo? = none := by rw [Controller.endpointInfo?, hendpoint, Option.map_none]
    unfold Controller.tableWords Controller.socketWords Controller.tableClosing
    rw [hendpoint, hinfo]
    simp only [Controller.routesOpening, Controller.tableOpening, List.append_assoc, List.flatten_nil,
      List.nil_append]
  | some path =>
    have hinfo : c.endpointInfo? = some ⟨path, c.name, c.handlers.map (·.event.label)⟩ := by
      rw [Controller.endpointInfo?, hendpoint, Option.map_some]
    unfold Controller.tableWords Controller.socketWords Controller.tableClosing
    rw [hendpoint, hinfo]
    simp only [Controller.routesOpening, Controller.tableOpening, List.append_assoc, List.flatten_cons,
      List.flatten_nil, List.nil_append]

/-! ## Methods -/

/-- Two actions have the same function only if they have the same name, whether or not it is written raw. -/
theorem plainName_of_actionFunction {name name' : String} (h : c.actionFunction name = c.actionFunction name') :
    plainName name = plainName name' := by
  simpa [Controller.actionFunction, toString] using h

theorem ReadAsAction.serves {setting : Setting} {m : Method} {a : Action} (h : ReadAsAction setting m a)
    (ha : a ∈ c.actions) : c.Serves root setting m a := by
  refine ⟨h, ha, ?named, ?calls, ?generated⟩
  case named =>
    rw [← h.name, Controller.actionWords, List.append_assoc, List.append_assoc]
    exact List.prefix_append _ _
  case calls =>
    rw [← h.name]
    refine List.IsInfix.trans ?_ (Controller.controllerCall_infix_actionWords c root a)
    refine (List.IsPrefix.isInfix ?_)
    unfold controllerCall
    rw [List.append_assoc]
    exact List.prefix_append _ _
  case generated =>
    rw [Controller.output, List.append_assoc, List.append_assoc, List.flatMap_def]
    refine infix_append_left (infix_append_right ?_ _) _
    exact List.infix_of_mem_flatten (List.mem_map_of_mem ha)

theorem Reads.serves {setting : Setting} {m : Method} {reading : List Action × List Handler × Member}
    (h : Reads setting (.method m) reading) (hactions : reading.1 ⊆ c.actions)
    (hverb : ∃ attr ∈ m.attributes, (verbOf? attr).isSome) : ∃ a, c.Serves root setting m a := by
  obtain ⟨attr, hattr, hverb⟩ := hverb
  have hroute : m.attributes.filterMap (routeOf? setting.base) ≠ [] := by
    intro hnil
    have hnone := List.filterMap_eq_nil_iff.1 hnil attr hattr
    rw [routeOf?, Option.map_eq_none_iff] at hnone
    rw [hnone] at hverb
    cases hverb
  cases h with
  | plain hroutes => exact absurd hroutes hroute
  | handler hhandler => exact absurd hhandler.noRoute hroute
  | @action m a haction => exact ⟨a, haction.serves (hactions List.mem_cons_self)⟩

theorem ReadAsAction.verb {setting : Setting} {m : Method} {a : Action} (h : ReadAsAction setting m a) :
    ∃ attr ∈ m.attributes, (verbOf? attr).isSome := by
  obtain ⟨r, hr⟩ := List.exists_mem_of_ne_nil _ h.routed
  have hmem : Except.ok r ∈ m.attributes.filterMap (routeOf? setting.base) := by
    rw [h.routes]
    exact List.mem_map_of_mem hr
  obtain ⟨attr, hattr, hroute⟩ := List.mem_filterMap.1 hmem
  obtain ⟨verb, hverb, -⟩ := Option.map_eq_some_iff.1 hroute
  exact ⟨attr, hattr, by rw [hverb]; rfl⟩

/-- What handles the events that are declared. -/
theorem installs_of_handlers {events : List (Event × String)}
    (h : c.handlers.map (fun h => (h.event, h.name)) = events) : c.Installs root events := by
  refine ⟨h, ?reported, fun hsome => ?opened⟩
  case reported =>
    rw [Controller.endpointInfo?, Controller.endpoint?, Option.map_map, ← h, List.isEmpty_map]
    split
    · rfl
    · exact Option.map_id'
  case opened =>
    have hendpoint : c.endpoint?.isNone = false := by
      rw [Controller.endpointInfo?, Option.isSome_map] at hsome
      rw [Option.isNone_eq_false_iff, hsome]
    have hbuild : (c.handlers.flatMap fun h => say "." ++ [.text h.event.builder, .text "(",
        .text (c.eventFunction h.event), .text ")"]) =
        events.flatMap fun e => say "." ++ [.text e.1.builder, .text "(", .text (c.eventFunction e.1), .text ")"] := by
      rw [← h, List.flatMap_map]
    unfold Controller.endpointWords
    rw [hendpoint, if_neg Bool.false_ne_true, hbuild]
    refine infix_append_right (infix_append_right ?_ _) _
    simp only [List.append_assoc]
    exact (List.suffix_append _ _).isInfix

/-! ## The main result -/

/-- The calls and the rows of a controller say what its actions have. -/
theorem tabulates_entries (c : Controller) (root : Pieces) (hroutes : repeatedRoutes [] c.routes = []) :
    c.Tabulates root c.entries (c.registrations.map c.callOf) := by
  have hgroups := groups_registrations c
  have hnodup : (c.entries.map fun e => (e.2.1, e.1)).Nodup := by
    have heq : (c.entries.map fun e => (e.2.1, e.1)) = c.routes.map fun r => (r.verb, r.path) := by
      simp only [Controller.entries, Controller.routes, List.map_flatMap, List.map_map]
      rfl
    rw [heq]
    exact (nodup_of_repeatedRoutes hroutes).1
  refine
    { reported := routeTable_entries
      registered := ?registered
      paths := ?paths
      verbs := fun call hcall => ?verbs
      written := ?written }
  case registered =>
    have heq : (c.registrations.map c.callOf).flatMap RouteCall.entries =
        (c.registrations.flatMap Registration.entries).map fun e => (e.1, e.2.1, c.actionFunction e.2.2) := by
      simp only [List.flatMap_map, List.map_flatMap, RouteCall.entries, Registration.entries, Controller.callOf,
        List.map_map]
      rfl
    rw [heq]
    exact hgroups.entries.map _
  case paths =>
    rw [List.map_map]
    exact List.pairwise_map.2 (hgroups.sorted.imp fun hlt => hlt.ne)
  case verbs =>
    obtain ⟨r, hr, rfl⟩ := List.mem_map.1 hcall
    rw [Controller.callOf, List.map_map]
    exact hgroups.verbs hnodup hr
  case written =>
    refine ⟨_, _, List.rel_append ?_ (socketWords_written c root), rows_written c _ rfl, tableWords_eq c root⟩
    rw [List.forall₂_map_left_iff, List.forall₂_map_right_iff, List.forall₂_same]
    exact fun r hr => registrationWords_written (hgroups.actions r hr)

/-- **What a controller registers and reports is what its block declares**: the table lists the entries of the
attributes in their order, the calls register the same entries with the functions of the same methods, and a
socket is opened for the events that have a handler. -/
theorem tabulates_ofBlock {options : Options} {b : Block} {c : Controller}
    (h : Controller.ofBlock options b = .ok c) (root : Pieces) :
    (∃ declared calls, List.Forall₂ (DeclaresEntries (options.base.getD "")) b.members declared ∧
      c.Tabulates root declared.flatten calls) ∧
    (∀ m, .method m ∈ b.members → (∃ attr ∈ m.attributes, (verbOf? attr).isSome) →
      ∃ setting a, SettingOf options b setting ∧ c.Serves root setting m a) ∧
    (∀ a ∈ c.actions, ∃ setting m, SettingOf options b setting ∧ .method m ∈ b.members ∧
      (∃ attr ∈ m.attributes, (verbOf? attr).isSome) ∧ c.Serves root setting m a) ∧
    (∀ name name', c.actionFunction name = c.actionFunction name' → plainName name = plainName name') ∧
    c.Installs root (b.members.flatMap declaredEvents) := by
  obtain ⟨setting, readings, hsetting, hreads, -, -, -, hactions, hhandlers, -, hroutes, -⟩ := reads_ofBlock h
  refine ⟨?entries, fun m hm hverb => ?served, fun a ha => ?read, fun _ _ => plainName_of_actionFunction, ?events⟩
  case entries =>
    obtain ⟨declared, hdeclared, hentries⟩ := entries_flatten hreads
    rw [← hactions, ← entries_eq] at hentries
    exact ⟨declared, _, hsetting.base ▸ hdeclared, hentries ▸ tabulates_entries c root hroutes⟩
  case served =>
    obtain ⟨reading, hreading, hread⟩ := exists_of_forall₂_mem_right hreads.flip hm
    have hsub : reading.1 ⊆ c.actions := fun a ha => by
      rw [hactions]
      exact List.mem_flatMap.2 ⟨reading, hreading, ha⟩
    obtain ⟨a, hserves⟩ := hread.serves hsub hverb
    exact ⟨setting, a, hsetting, hserves⟩
  case read =>
    obtain ⟨setting, m, hsetting, hm, hread⟩ := readAsAction_of_mem h ha
    exact ⟨setting, m, hsetting, hm, hread.verb, hread.serves ha⟩
  case events =>
    exact installs_of_handlers (by rw [hhandlers, events_flatMap hreads])

theorem tabulates_lobby : ∃ c,
    Controller.ofBlock { base := some "/api", socket := some ⟨"/chat/\x7broom\x7d", .start⟩ } Lobby.block = .ok c ∧
    c.routeTable.map (fun r => (r.method, r.path, r.action)) =
      [("GET", "/api/rooms/\x7broom\x7d", "show"), ("POST", "/api", "show")] ∧
    c.socketCalls.map RouteCall.path = ["/api/chat/\x7broom\x7d"] ∧
    (∃ declared calls, List.Forall₂ (DeclaresEntries "/api") Lobby.block.members declared ∧
      c.Tabulates ["crate"] declared.flatten calls) ∧
    c.Installs ["crate"] [(.message, "said")] := by
  obtain ⟨c, hread⟩ : ∃ c, Controller.ofBlock
      { base := some "/api", socket := some ⟨"/chat/\x7broom\x7d", .start⟩ } Lobby.block = .ok c := ⟨_, rfl⟩
  obtain ⟨htable, -, -, -, hevents⟩ := tabulates_ofBlock hread ["crate"]
  refine ⟨c, hread, ?reported, ?socket, htable, hevents⟩
  all_goals
    cases hread
    rfl

end Switchyard

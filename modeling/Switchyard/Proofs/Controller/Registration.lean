import Mathlib.Data.List.Nodup
import Mathlib.Data.String.Basic
import Switchyard.Program.Output
import Switchyard.Proofs.Controller.WellFormed

/-!
# Routes as they are declared and registered

The registrations of a controller regroup its entries by path: sorted insertion loses none and adds none. The
entries are those that the attributes of the block declare.

Main results: `groups_registrations`, and what the members of a block declare, `Reads.declares` and `Reads.events`.
-/

namespace Switchyard

open Code

/-! ## Registrations -/

/-- The path, verb and action of every entry of a registration. -/
def Registration.entries (r : Registration) : List (String × Verb × String) :=
  r.actions.map fun e => (r.path, e)

/-- The paths of registrations are sorted, each once. -/
def SortedByPath (table : List Registration) : Prop := table.Pairwise fun r r' => r.path < r'.path

theorem mem_register_path {path : String} {entry : Verb × String} : ∀ {table : List Registration}
    {r : Registration}, r ∈ register path entry table → r.path = path ∨ ∃ r' ∈ table, r'.path = r.path
  | [], r, h => by
    obtain rfl := List.mem_singleton.1 h
    exact .inl rfl
  | first :: rest, r, h => by
    rw [register] at h
    split at h
    · cases h with
      | head => exact .inr ⟨first, List.mem_cons_self, rfl⟩
      | tail _ h => exact .inr ⟨r, List.mem_cons_of_mem _ h, rfl⟩
    · split at h
      · cases h with
        | head => exact .inl rfl
        | tail _ h => exact .inr ⟨r, h, rfl⟩
      · cases h with
        | head => exact .inr ⟨first, List.mem_cons_self, rfl⟩
        | tail _ h =>
          obtain hpath | ⟨r', hr', hpath⟩ := mem_register_path h
          · exact .inl hpath
          · exact .inr ⟨r', List.mem_cons_of_mem _ hr', hpath⟩

theorem sortedByPath_register {path : String} {entry : Verb × String} : ∀ {table : List Registration},
    SortedByPath table → SortedByPath (register path entry table)
  | [], _ => List.pairwise_singleton _ _
  | first :: rest, h => by
    obtain ⟨hfirst, hrest⟩ := List.pairwise_cons.1 h
    rw [register]
    split
    · exact List.pairwise_cons.2 ⟨hfirst, hrest⟩
    · rename_i hne
      split
      · rename_i hlt
        refine List.pairwise_cons.2 ⟨fun r hr => ?_, h⟩
        cases hr with
        | head => exact hlt
        | tail _ hr => exact lt_trans hlt (hfirst r hr)
      · rename_i hnotlt
        have hgt : first.path < path := lt_of_le_of_ne (not_lt.1 hnotlt) (Ne.symm hne)
        refine List.pairwise_cons.2 ⟨fun r hr => ?_, sortedByPath_register hrest⟩
        obtain hpath | ⟨r', hr', hpath⟩ := mem_register_path hr
        · rw [hpath]
          exact hgt
        · rw [← hpath]
          exact hfirst r' hr'

/-- Registering an entry adds it, and nothing else. -/
theorem entries_register {path : String} {entry : Verb × String} : ∀ {table : List Registration},
    ((register path entry table).flatMap Registration.entries).Perm
      ((path, entry) :: table.flatMap Registration.entries)
  | [] => .refl _
  | first :: rest => by
    rw [register]
    split
    · rename_i heq
      subst heq
      simp only [List.flatMap_cons, Registration.entries, List.map_append, List.map_cons, List.map_nil,
        List.append_assoc, List.singleton_append]
      exact List.perm_middle
    · split
      · exact .refl _
      · simp only [List.flatMap_cons]
        exact (List.Perm.append_left _ entries_register).trans List.perm_middle

theorem actions_register {path : String} {entry : Verb × String} : ∀ {table : List Registration},
    (∀ r ∈ table, r.actions ≠ []) → ∀ r ∈ register path entry table, r.actions ≠ []
  | [], _, r, hr => by
    obtain rfl := List.mem_singleton.1 hr
    simp
  | first :: rest, h, r, hr => by
    have hrest : ∀ r ∈ rest, r.actions ≠ [] := fun r hr => h r (List.mem_cons_of_mem _ hr)
    rw [register] at hr
    split at hr
    · cases hr with
      | head => simp
      | tail _ hr => exact hrest r hr
    · split at hr
      · cases hr with
        | head => simp
        | tail _ hr => exact h r hr
      · cases hr with
        | head => exact h first List.mem_cons_self
        | tail _ hr => exact actions_register hrest r hr

/-- Registrations group entries by path: every entry is there, and nothing else. -/
structure Groups (entries : List (String × Verb × String)) (table : List Registration) : Prop where
  sorted : SortedByPath table
  entries : (table.flatMap Registration.entries).Perm entries
  actions : ∀ r ∈ table, r.actions ≠ []

theorem foldl_register : ∀ (entries : List (String × Verb × String)) {before : List (String × Verb × String)}
    {table : List Registration}, Groups before table →
      Groups (before ++ entries) (entries.foldl (fun table e => register e.1 e.2 table) table)
  | [], before, table, h => by
    rw [List.append_nil]
    exact h
  | e :: rest, before, table, h => by
    have hstep : Groups (before ++ [e]) (register e.1 e.2 table) :=
      { sorted := sortedByPath_register h.sorted
        entries := (entries_register.trans (h.entries.cons e)).trans (List.perm_append_singleton e before).symm
        actions := actions_register h.actions }
    have hrest := foldl_register rest hstep
    rwa [List.append_assoc] at hrest

/-- The registrations of a controller group the entries of its actions. -/
theorem groups_registrations (c : Controller) : Groups c.entries c.registrations :=
  foldl_register c.entries ⟨.nil, .refl _, by simp⟩

/-- Where no verb and path occur twice, no registration has a verb twice. -/
theorem Groups.verbs {entries : List (String × Verb × String)} {table : List Registration}
    (h : Groups entries table) (hnodup : (entries.map fun e => (e.2.1, e.1)).Nodup) {r : Registration}
    (hr : r ∈ table) : (r.actions.map Prod.fst).Nodup := by
  have hall : ((table.flatMap Registration.entries).map fun e => (e.2.1, e.1)).Nodup :=
    (h.entries.map _).nodup_iff.2 hnodup
  rw [List.map_flatMap, List.nodup_flatMap] at hall
  have hown := hall.1 r hr
  rw [Registration.entries, List.map_map] at hown
  refine List.Nodup.of_map (fun verb => (verb, r.path)) ?_
  rwa [List.map_map]

/-! ## What a block declares -/

/-- An attribute declares an entry: its verb, at its template joined to the prefix, leads to the method. -/
def DeclaresEntry (base method : String) (attr : Attribute) (entry : String × Verb × String) : Prop :=
  ∃ verb template, verbOf? attr = some verb ∧ templateOf attr = .ok template ∧
    entry = (joinPath base template, verb, method)

/-- What a member declares: an entry for every attribute with a verb, in their order. -/
def DeclaresEntries (base : String) : Member → List (String × Verb × String) → Prop
  | .other _, entries => entries = []
  | .method m, entries => List.Forall₂ (DeclaresEntry base m.signature.name)
      (m.attributes.filter fun attr => (verbOf? attr).isSome) entries

/-- The events that a member declares to handle, with its name. -/
def declaredEvents : Member → List (Event × String)
  | .other _ => []
  | .method m => m.attributes.filterMap fun attr => (eventOf? attr).map (·, m.signature.name)

/-- The entries of an action. -/
def Action.entries (a : Action) : List (String × Verb × String) := a.routes.map fun r => (r.path, r.verb, a.name)

/-- Routes that are read without a problem are those that the attributes with a verb declare. -/
theorem declares_of_routeOf {base name : String} : ∀ {attributes : List Attribute} {routes : List Route},
    attributes.filterMap (routeOf? base) = routes.map .ok →
      List.Forall₂ (DeclaresEntry base name) (attributes.filter fun attr => (verbOf? attr).isSome)
        (routes.map fun r => (r.path, r.verb, name))
  | [], routes, h => by
    obtain rfl : routes = [] := by simpa [eq_comm] using h
    exact .nil
  | attr :: rest, routes, h => by
    cases hverb : verbOf? attr with
    | none =>
      rw [List.filterMap_cons_none (by rw [routeOf?, hverb]; rfl)] at h
      rw [List.filter_cons_of_neg (by simp [hverb])]
      exact declares_of_routeOf h
    | some verb =>
      have hroute : routeOf? base attr =
          some ((templateOf attr).map fun template => ⟨verb, joinPath base template, attr.position⟩) := by
        rw [routeOf?, hverb]
        rfl
      rw [List.filterMap_cons_some hroute] at h
      rw [List.filter_cons_of_pos (by simp [hverb])]
      cases routes with
      | nil => cases h
      | cons r routes =>
        rw [List.map_cons, List.cons.injEq] at h
        obtain ⟨hr, hrest⟩ := h
        refine .cons ?_ (declares_of_routeOf hrest)
        cases htemplate : templateOf attr with
        | error e =>
          rw [htemplate] at hr
          cases hr
        | ok template =>
          rw [htemplate] at hr
          cases hr
          exact ⟨verb, template, hverb, htemplate, rfl⟩

/-- What is read of a member has the entries that the member declares. -/
theorem Reads.declares {setting : Setting} {member : Member} {reading : List Action × List Handler × Member}
    (h : Reads setting member reading) : DeclaresEntries setting.base member (reading.1.flatMap Action.entries) := by
  cases h with
  | other => rfl
  | plain hroutes => exact declares_of_routeOf (hroutes.trans List.map_nil.symm)
  | action haction =>
    rw [List.flatMap_singleton, Action.entries, haction.name]
    exact declares_of_routeOf haction.routes
  | handler hhandler => exact declares_of_routeOf (hhandler.noRoute.trans List.map_nil.symm)

/-- What is read of a member handles the events that the member declares. -/
theorem Reads.events {setting : Setting} {member : Member} {reading : List Action × List Handler × Member}
    (h : Reads setting member reading) :
    reading.2.1.map (fun handler => (handler.event, handler.name)) = declaredEvents member := by
  cases h with
  | other => rfl
  | plain _ hevents =>
    refine (List.filterMap_eq_nil_iff.2 fun attr hattr => ?_).symm
    rw [hevents attr hattr]
    rfl
  | action haction =>
    refine (List.filterMap_eq_nil_iff.2 fun attr hattr => ?_).symm
    rw [haction.noEvent attr hattr]
    rfl
  | @handler m handler hhandler =>
    obtain ⟨position, hevent⟩ := hhandler.event
    have hmap := congrArg (List.map fun e : Event × Position => (e.1, m.signature.name)) hevent
    rw [List.map_filterMap] at hmap
    rw [declaredEvents, List.map_singleton, hhandler.name]
    simpa [Function.comp_def] using hmap.symm

theorem entries_flatten {setting : Setting} {members : List Member} {readings : List (List Action × List Handler × Member)}
    (h : List.Forall₂ (Reads setting) members readings) :
    ∃ declared, List.Forall₂ (DeclaresEntries setting.base) members declared ∧
      declared.flatten = (readings.flatMap (·.1)).flatMap Action.entries := by
  induction h with
  | nil => exact ⟨[], .nil, rfl⟩
  | cons hread _ ih =>
    obtain ⟨declared, hdeclared, heq⟩ := ih
    exact ⟨_ :: declared, .cons hread.declares hdeclared, by simp [heq]⟩

theorem events_flatMap {setting : Setting} {members : List Member} {readings : List (List Action × List Handler × Member)}
    (h : List.Forall₂ (Reads setting) members readings) :
    (readings.flatMap (·.2.1)).map (fun handler => (handler.event, handler.name)) =
      members.flatMap declaredEvents := by
  induction h with
  | nil => rfl
  | cons hread _ ih => rw [List.flatMap_cons, List.map_append, ih, hread.events, List.flatMap_cons]

end Switchyard

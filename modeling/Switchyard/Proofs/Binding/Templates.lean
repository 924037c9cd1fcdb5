import Switchyard.Proofs.Binding.Precedence
import Switchyard.Proofs.Route.Braces

/-!
# Plans of keys that templates capture

A plan has the path where the names between the braces of a path have the key, and a request has the key in its path
where the template of the path captures it. Both are the same on paths with legible braces; where braces are not
legible, a key that is captured can be missing from the plan.

Main result: `captures_agree`.
-/

namespace Switchyard

/-- The braces of a path are told apart by looking for them. -/
def Legible (path : String) : Prop := Template.legible false (Template.unescape path.toList) = true

instance (path : String) : Decidable (Legible path) :=
  inferInstanceAs (Decidable (Template.legible false (Template.unescape path.toList) = true))

/-- Some request is matched by the template of a path and has a value under the key. -/
def Captured (path key : String) : Prop :=
  ∃ t target captured, Template.parse? path = some t ∧ t.match? target = some captured ∧ key ∈ captured.map Prod.fst

/-- The search for braces ends by itself. -/
theorem templateParams_eq {path : String} {fuel : Nat} (h : path.length < fuel) :
    templateNames fuel path.toList = templateParams path := by
  rw [← String.length_toList] at h
  rw [templateParams, ← String.length_toList]
  exact Template.templateNames_fuel h (Nat.lt_succ_self _)

/-- The names between the braces of a path are those that its template captures iff they are legible. -/
theorem templateParams_eq_names_iff {path : String} {t : Template} (h : Template.parse? path = some t) :
    templateParams path = t.names ↔ Legible path := by
  rw [templateParams, ← String.length_toList]
  exact (Template.reads_of_parse? h).names_iff (Nat.lt_succ_self _)

theorem captured_iff {path key : String} (haccepted : (Template.parse? path).isSome) (hlegible : Legible path) :
    Captured path key ↔ key ∈ templateParams path := by
  obtain ⟨t, ht⟩ := Option.isSome_iff_exists.1 haccepted
  rw [(templateParams_eq_names_iff ht).2 hlegible]
  constructor
  · rintro ⟨t', target, captured, ht', hmatch, hkey⟩
    obtain rfl := Option.some.inj (ht.symm.trans ht')
    rwa [Template.names_of_match? hmatch] at hkey
  · intro hkey
    obtain ⟨target, captured, hmatch⟩ := (Template.reads_of_parse? ht).exists_match?
    exact ⟨t, target, captured, ht, hmatch, by rwa [Template.names_of_match? hmatch]⟩

/-- **Plans go by what is captured where braces are legible.** The search for braces ends by itself, and the names it
finds are those under which any request is captured, in their order, iff the braces of the path are legible. If those
of all paths are, the path is part of the plan of a key iff one of them captures it, and the plan of a key that is
bound from the path alone exists iff each of them does. -/
theorem captures_agree {mount : Mount} (haccepted : ∀ path ∈ mount.paths, (Template.parse? path).isSome) :
    (∀ path ∈ mount.paths,
      (∀ fuel, path.length < fuel → templateNames fuel path.toList = templateParams path) ∧
      ∀ t target captured, Template.parse? path = some t → t.match? target = some captured →
        (templateParams path = captured.map Prod.fst ↔ Legible path)) ∧
    ((∀ path ∈ mount.paths, Legible path) → ∀ key,
      (mount.hasMessage = false → ∃ plan, resolve .any key mount = .ok plan ∧
        (.path ∈ plan ↔ ∃ path ∈ mount.paths, Captured path key)) ∧
      ((∃ plan, resolve (.source .path) key mount = .ok plan) ↔ ∀ path ∈ mount.paths, Captured path key)) := by
  refine ⟨fun path hpath => ⟨fun fuel hfuel => templateParams_eq hfuel, ?names⟩, fun hlegible key => ⟨?any, ?path⟩⟩
  case names =>
    intro t target captured ht hmatch
    rw [Template.names_of_match? hmatch]
    exact templateParams_eq_names_iff ht
  case any =>
    intro hmessage
    obtain ⟨plan, hplan⟩ : ∃ plan, resolve .any key mount = .ok plan := by
      simp [resolve, hmessage]
    refine ⟨plan, hplan, ?_⟩
    rw [resolve_any hmessage hplan, exists_congr fun path => and_congr_right fun hpath =>
      captured_iff (haccepted path hpath) (hlegible path hpath)]
    split <;> simp_all
  case path =>
    rw [resolve_path_iff]
    exact forall₂_congr fun path hpath => (captured_iff (haccepted path hpath) (hlegible path hpath)).symm

/-- The routes `/a}}b/{id}/{{` and `/users/{id}/files/{*rest}`, whose braces are legible. -/
def filesMount : Mount :=
  .action ["/a\x7d\x7db/\x7bid\x7d/\x7b\x7b", "/users/\x7bid\x7d/files/\x7b*rest\x7d"]

theorem captures_agree_files :
    (∀ path ∈ filesMount.paths, (Template.parse? path).isSome) ∧ (∀ path ∈ filesMount.paths, Legible path) ∧
    (∃ plan, resolve .any "rest" filesMount = .ok plan ∧ .path ∈ plan) ∧
    (∃ plan, resolve (.source .path) "id" filesMount = .ok plan) ∧
    ¬ ∃ plan, resolve (.source .path) "rest" filesMount = .ok plan := by
  have haccepted : ∀ path ∈ filesMount.paths, (Template.parse? path).isSome := by decide +kernel
  have hlegible : ∀ path ∈ filesMount.paths, Legible path := by decide +kernel
  have hagree := (captures_agree haccepted).2 hlegible
  have hcaptured : ∀ path ∈ filesMount.paths, ∀ key, Captured path key ↔ key ∈ templateParams path :=
    fun path hpath key => captured_iff (haccepted path hpath) (hlegible path hpath)
  refine ⟨haccepted, hlegible, ?any, ?id, ?rest⟩
  case any =>
    obtain ⟨plan, hplan, hpath⟩ := (hagree "rest").1 rfl
    refine ⟨plan, hplan, hpath.2 ⟨_, List.mem_cons_of_mem _ List.mem_cons_self, ?_⟩⟩
    exact (hcaptured _ (by decide) _).2 (by decide +kernel)
  case id =>
    refine (hagree "id").2.2 fun path hpath => (hcaptured path hpath _).2 ?_
    revert path
    decide +kernel
  case rest =>
    intro hplan
    have hfirst := (hagree "rest").2.1 hplan _ List.mem_cons_self
    rw [hcaptured _ List.mem_cons_self] at hfirst
    revert hfirst
    decide +kernel

/-- The route `/{{/{id}`, whose braces are not legible. -/
def openedPath : String := "/\x7b\x7b/\x7bid\x7d"

/-- A capture after a doubled brace is overlooked: its key is looked up everywhere but in the path, and it cannot be
bound from the path alone. -/
theorem capture_overlooked :
    Captured openedPath "id" ∧ templateParams openedPath = ["\x7b/\x7bid"] ∧
    resolve .any "id" (.action [openedPath]) = .ok [.query, .header, .cookie] ∧
    resolve (.source .path) "id" (.action [openedPath]) = .error (.notCaptured "id" openedPath) := by
  have htemplate : Template.parse? openedPath =
      some [.literal '/', .literal '\x7b', .literal '/', .segment "id"] := by decide +kernel
  exact ⟨⟨_, "/\x7b/7".toList, [("id", ['7'])], htemplate, by decide +kernel, by simp⟩, by decide +kernel,
    by rfl, by rfl⟩

end Switchyard

import Mathlib.Data.List.Infix
import Switchyard.Proofs.Route.Braces

/-!
# Names of templates

The names between the braces of a path are those that its template captures, as long as no brace is doubled to stand
for itself: what plans and documentation read off the path is what a match of the path captures.

Main results: `names_of_parse?`, and `Router.Built.names` for the paths of a router.
-/

namespace Switchyard

/-- No brace is doubled to stand for itself. -/
structure PlainBraces (cs : List Char) : Prop where
  opening : ¬ ['{', '{'] <:+: cs
  closing : ¬ ['}', '}'] <:+: cs

instance (cs : List Char) : Decidable (PlainBraces cs) :=
  decidable_of_iff (¬ ['{', '{'] <:+: cs ∧ ¬ ['}', '}'] <:+: cs)
    ⟨fun h => ⟨h.1, h.2⟩, fun h => ⟨h.opening, h.closing⟩⟩

theorem PlainBraces.tail {c : Char} {cs : List Char} (h : PlainBraces (c :: cs)) : PlainBraces cs :=
  ⟨fun hin => h.opening (hin.trans (List.suffix_cons c cs).isInfix),
    fun hin => h.closing (hin.trans (List.suffix_cons c cs).isInfix)⟩

namespace Template

/-- Without doubled braces nothing is marked. -/
theorem escaped_of_plain {cs : List Char} (h : PlainBraces cs) : ∀ m ∈ unescape cs, m.escaped = false := by
  fun_induction unescape cs with
  | case1 rest => exact absurd (List.prefix_append ['{', '{'] rest).isInfix h.opening
  | case2 rest => exact absurd (List.prefix_append ['}', '}'] rest).isInfix h.closing
  | case3 c rest _ _ ih => exact List.forall_mem_cons.2 ⟨rfl, ih h.tail⟩
  | case4 => exact List.forall_mem_nil _

/-- **A template without doubled braces captures the names between its braces**, in their order. -/
theorem names_of_parse? {path : String} {t : Template} (h : parse? path = some t) (hplain : PlainBraces path.toList) :
    t.names = templateParams path := by
  have hlength : path.toList.length < path.length + 1 := by
    rw [String.length_toList]
    exact Nat.lt_succ_self _
  exact (((reads_of_parse? h).names_iff hlength).2 (legible_of_forall (escaped_of_plain hplain))).symm

end Template

/-! ## Routers -/

/-- A router to which paths were added one by one. -/
inductive Router.Built : Router → Prop
  | empty : Built []
  | add {r r' : Router} {path : String} {targets : List (Verb × Target)} :
      Built r → r.add? path targets = some r' → Built r'

namespace Router

/-- A path that is there after one is added was there before, with the same template, or is the one that was added. -/
theorem mem_of_add? {r r' : Router} {path : String} {targets : List (Verb × Target)} {p : RoutedPath}
    (h : r.add? path targets = some r') (hp : p ∈ r') :
    (∃ q ∈ r, q.path = p.path ∧ q.template = p.template) ∨ Template.parse? p.path = some p.template := by
  simp only [add?] at h
  split at h
  · cases h
  · rename_i template htemplate
    split at h
    · split at h
      · cases h
      · cases h
        obtain ⟨q, hq, rfl⟩ := List.mem_map.1 hp
        refine .inl ⟨q, hq, ?_, ?_⟩
        all_goals split <;> rfl
    · split at h
      · cases h
      · cases h
        rcases List.mem_append.1 hp with hp | hp
        · exact .inl ⟨p, hp, rfl, rfl⟩
        · obtain rfl := List.mem_singleton.1 hp
          exact .inr htemplate

theorem Built.parse? {r : Router} (h : Built r) : ∀ p ∈ r, Template.parse? p.path = some p.template := by
  induction h with
  | empty => intro p hp; cases hp
  | add _ hadd ih =>
    intro p hp
    obtain ⟨q, hq, hpath, htemplate⟩ | hnew := mem_of_add? hadd hp
    · rw [← hpath, ← htemplate]
      exact ih q hq
    · exact hnew

/-- What a match captures is named between the braces of the path. -/
theorem Built.names {r : Router} (h : Built r) {path : List Char} {found : RoutedPath}
    {captures : List (String × List Char)} (hfound : r.find? path = some (found, captures))
    (hplain : PlainBraces found.path.toList) : captures.map Prod.fst = templateParams found.path := by
  obtain ⟨hmem, hmatch⟩ := match?_of_find? hfound
  rw [Template.names_of_match? hmatch, Template.names_of_parse? (h.parse? found hmem) hplain]

theorem Built.foldlM {α : Type} {step : Router → α → Option Router}
    (hstep : ∀ {r r' : Router} {a : α}, Built r → step r a = some r' → Built r') :
    ∀ {list : List α} {r r' : Router}, Built r → list.foldlM step r = some r' → Built r'
  | [], r, r', h, hfold => by
    cases hfold
    exact h
  | a :: rest, r, r', h, hfold => by
    rw [List.foldlM_cons] at hfold
    obtain ⟨s, hs, hfold⟩ := Option.bind_eq_some_iff.1 hfold
    exact foldlM hstep (hstep h hs) hfold

/-- Mounting a controller adds its paths, and that of its socket. -/
theorem Built.mount? {c : Controller} {r r' : Router} (h : Built r) (hmount : c.mount? r = some r') : Built r' := by
  rw [Controller.mount?] at hmount
  obtain ⟨s, hs, hmount⟩ := Option.bind_eq_some_iff.1 hmount
  have hbuilt : Built s := foldlM (fun h hadd => .add h hadd) h hs
  split at hmount
  · exact .add hbuilt hmount
  · cases hmount
    exact hbuilt

theorem built_of_ofControllers? {controllers : List Controller} {r : Router}
    (h : ofControllers? controllers = some r) : Built r :=
  Built.foldlM Built.mount? .empty h

end Router

end Switchyard

import Switchyard.Binding.Binder
import Switchyard.Binding.Plan

/-!
# Precedence of sources

Binding asks the sources of a plan in order and stops at the first that carries the key. What it gives is
therefore settled by the sources it asks (`consulted`): neither a source after them nor one outside the plan
can change a value or an error, and a value that is null, empty or unreadable is not made up for elsewhere.

Main result: `resolve_isolates`, on the plans that `resolve` makes.
-/

namespace Switchyard

namespace Binder

/-! ## The winning source -/

theorem winner?_eq_none_iff {b : Binder} {plan : List Source} {key : String} :
    b.winner? plan key = none ↔ ∀ s ∈ plan, b s key = none := by
  simp [winner?, List.findSome?_eq_none_iff]

theorem winner?_eq_some_iff {b : Binder} {plan : List Source} {key : String} {s : Source}
    {values : List (Option String)} :
    b.winner? plan key = some (s, values) ↔
      ∃ before after, plan = before ++ s :: after ∧ b s key = some values ∧ ∀ t ∈ before, b t key = none := by
  simp only [winner?, List.findSome?_eq_some_iff, Option.map_eq_some_iff, Option.map_eq_none_iff]
  constructor
  · rintro ⟨before, t, after, rfl, ⟨v, hv, heq⟩, hb⟩
    obtain ⟨rfl, rfl⟩ := Prod.mk.inj heq
    exact ⟨before, after, rfl, hv, hb⟩
  · rintro ⟨before, after, rfl, hv, hb⟩
    exact ⟨before, s, after, rfl, ⟨values, hv, rfl⟩, hb⟩

/-- The sources of a plan that are asked: those up to the first that carries the key, and that one. -/
def consulted (b : Binder) (key : String) : List Source → List Source
  | [] => []
  | s :: rest => if (b s key).isSome then [s] else s :: consulted b key rest

/-- Two binders have the same occurrences of a key in some sources. -/
def AgreeOn (b b' : Binder) (key : String) (sources : List Source) : Prop :=
  ∀ s ∈ sources, b s key = b' s key

/-- Binders that agree on what the first asks have the same winner. -/
theorem winner?_congr {b b' : Binder} {key : String} :
    ∀ {plan : List Source}, AgreeOn b b' key (b.consulted key plan) → b.winner? plan key = b'.winner? plan key
  | [], _ => rfl
  | s :: rest, h => by
    have hs : b s key = b' s key := by
      apply h
      unfold consulted
      split <;> simp
    cases hv : b s key with
    | some values => simp [winner?, hv, ← hs]
    | none =>
      have hrest : AgreeOn b b' key (b.consulted key rest) := by
        intro t ht
        apply h
        simp [consulted, hv, ht]
      have ih := winner?_congr hrest
      simp only [winner?] at ih
      simp [winner?, hv, ← hs, ih]

/-! ## Binding alike -/

/-- A key is bound alike by two binders under two plans: every mode gives the same at every type. -/
structure BindsAlike (b b' : Binder) (plan plan' : List Source) (key : String) : Prop where
  required : ∀ {α : Type} (read : TextReader α), b.required read plan key = b'.required read plan' key
  optional : ∀ {α : Type} (read : TextReader α), b.optional read plan key = b'.optional read plan' key
  many : ∀ {α : Type} (read : TextReader α), b.many read plan key = b'.many read plan' key
  nullableMany : ∀ {α : Type} (read : TextReader α), b.nullableMany read plan key = b'.nullableMany read plan' key

/-- The winner is all that a mode looks at. -/
theorem BindsAlike.of_winner? {b b' : Binder} {plan plan' : List Source} {key : String}
    (h : b.winner? plan key = b'.winner? plan' key) : BindsAlike b b' plan plan' key where
  required read := by simp only [Binder.required, h]
  optional read := by simp only [Binder.optional, h]
  many read := by simp only [Binder.many, h]
  nullableMany read := by simp only [Binder.nullableMany, h]

/-- Agreement on the sources that are asked is enough. -/
theorem bindsAlike_of_agreeOn {b b' : Binder} {plan : List Source} {key : String}
    (h : AgreeOn b b' key (b.consulted key plan)) : BindsAlike b b' plan plan key :=
  .of_winner? (winner?_congr h)

theorem bindsAlike_singleton {b b' : Binder} {s : Source} {key : String} (h : b s key = b' s key) :
    BindsAlike b b' [s] [s] key := by
  apply bindsAlike_of_agreeOn
  intro t ht
  have hts : t = s := by
    unfold consulted at ht
    split at ht <;> simpa [consulted] using ht
  rw [hts, h]

/-- From a single source the first occurrence is read. -/
theorem required_singleton {α : Type} {read : TextReader α} {b : Binder} {s : Source} {key raw : String}
    {values : List (Option String)} (h : b s key = some values) (hraw : values.head?.join = some raw) :
    b.required read [s] key = convert read s key raw := by
  have hwin : b.winner? [s] key = some (s, values) := winner?_eq_some_iff.2 ⟨[], [], rfl, h, nofun⟩
  simp only [required, hwin, hraw]

/-- The first source that carries the key counts as if it were the whole plan. -/
theorem bindsAlike_first {b : Binder} {before after : List Source} {s : Source} {key : String}
    (hb : ∀ t ∈ before, b t key = none) (hs : (b s key).isSome) :
    BindsAlike b b (before ++ s :: after) [s] key := by
  obtain ⟨values, hv⟩ := Option.isSome_iff_exists.1 hs
  apply BindsAlike.of_winner?
  rw [winner?_eq_some_iff.2 ⟨before, after, rfl, hv, hb⟩]
  exact (winner?_eq_some_iff.2 ⟨[], [], rfl, hv, by simp⟩).symm

end Binder

/-! ## The plans of constraints -/

/-- A constraint that names a source has no other plan than that source. -/
theorem resolve_source {s : Source} {key : String} {mount : Mount} {plan : List Source}
    (h : resolve (.source s) key mount = .ok plan) : plan = [s] := by
  cases s <;> simp only [resolve] at h
  case path => split at h <;> cases h; rfl
  case message => split at h <;> cases h; rfl
  all_goals cases h; rfl

/-- Where there is no message, anything goes: the path if some template captures the key, and then the rest
of the request. -/
theorem resolve_any {key : String} {mount : Mount} {plan : List Source} (hm : mount.hasMessage = false)
    (h : resolve .any key mount = .ok plan) :
    plan = (if ∃ path ∈ mount.paths, key ∈ templateParams path then [.path] else []) ++
      [.query, .header, .cookie] := by
  simp only [resolve, hm, Bool.false_eq_true, if_false, Except.ok.injEq] at h
  have hcap : (mount.paths.any fun path => captures path key) = true ↔
      ∃ path ∈ mount.paths, key ∈ templateParams path := by
    simp [captures]
  rw [← h]
  by_cases hc : ∃ path ∈ mount.paths, key ∈ templateParams path
  · rw [if_pos hc, if_pos (hcap.2 hc)]; rfl
  · rw [if_neg hc, if_neg (fun hn => hc (hcap.1 hn))]; rfl

theorem resolve_any_message {key : String} {mount : Mount} {plan : List Source} (hm : mount.hasMessage = true)
    (h : resolve .any key mount = .ok plan) : plan = [.message] := by
  simp only [resolve, hm, if_true, Except.ok.injEq] at h
  exact h.symm

/-- The path alone goes iff every template captures the key. -/
theorem resolve_path_iff {key : String} {mount : Mount} :
    (∃ plan, resolve (.source .path) key mount = .ok plan) ↔ ∀ path ∈ mount.paths, key ∈ templateParams path := by
  have hfind : (mount.paths.find? fun path => !captures path key) = none ↔
      ∀ path ∈ mount.paths, key ∈ templateParams path := by
    simp [captures]
  rw [← hfind]
  simp only [resolve]
  split
  · rename_i path hpath
    simp [hpath]
  · rename_i hnone
    simp [hnone]

/-- **Isolation and precedence.** A named source alone decides what is bound. Where any source will do and
there is no message, the plan is the path (if some template captures the key), the query, the headers and the
cookies; the sources up to the first that carries the key decide, and that one counts as if it were the whole
plan. In the handler of a message the message alone decides. -/
theorem resolve_isolates {constraint : Constraint} {key : String} {mount : Mount} {plan : List Source}
    (h : resolve constraint key mount = .ok plan) (b b' : Binder) :
    (∀ s, constraint = .source s →
      plan = [s] ∧ (b s key = b' s key → Binder.BindsAlike b b' plan plan key)) ∧
    (constraint = .any → mount.hasMessage = false →
      plan = (if ∃ path ∈ mount.paths, key ∈ templateParams path then [.path] else [])
        ++ [.query, .header, .cookie] ∧
      (Binder.AgreeOn b b' key (b.consulted key plan) → Binder.BindsAlike b b' plan plan key) ∧
      (∀ before s after, plan = before ++ s :: after → (∀ t ∈ before, b t key = none) → (b s key).isSome →
        Binder.BindsAlike b b plan [s] key)) ∧
    (constraint = .any → mount.hasMessage = true →
      plan = [.message] ∧ (b .message key = b' .message key → Binder.BindsAlike b b' plan plan key)) := by
  refine ⟨?named, ?any, ?message⟩
  case named =>
    rintro s rfl
    obtain rfl := resolve_source h
    exact ⟨rfl, Binder.bindsAlike_singleton⟩
  case any =>
    rintro rfl hm
    refine ⟨resolve_any hm h, Binder.bindsAlike_of_agreeOn, ?_⟩
    rintro before s after rfl hb hs
    exact Binder.bindsAlike_first hb hs
  case message =>
    rintro rfl hm
    obtain rfl := resolve_any_message hm h
    exact ⟨rfl, Binder.bindsAlike_singleton⟩

/-- A blank value in the query, and a number in the headers. -/
def blankBeforeNumber : Binder := fun s key =>
  match s, key with
  | .query, "id" => some [some ""]
  | .header, "id" => some [some "7"]
  | _, _ => none

/-- On two routes of which one captures the key, a blank query value decides although a header has a number. -/
theorem resolve_isolates_blank :
    resolve .any "id" (.action ["/items/\x7bid\x7d", "/items"]) = .ok [.path, .query, .header, .cookie] ∧
      Binder.BindsAlike blankBeforeNumber blankBeforeNumber [.path, .query, .header, .cookie] [.query] "id" := by
  have h : resolve .any "id" (.action ["/items/\x7bid\x7d", "/items"]) = .ok [.path, .query, .header, .cookie] := by
    rfl
  obtain ⟨-, hany, -⟩ := resolve_isolates h blankBeforeNumber blankBeforeNumber
  exact ⟨h, (hany rfl rfl).2.2 [.path] .query [.header, .cookie] rfl (by decide) (by decide)⟩

end Switchyard

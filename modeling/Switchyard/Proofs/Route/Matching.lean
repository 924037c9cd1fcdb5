import Switchyard.Application.Router

/-!
# What templates capture

A template that matches a path captures a value under each of its names, in their order. What a router finds
matches the template that it was found by.

Main results: `names_of_match?` and `match?_of_find?`.
-/

namespace Switchyard

namespace Template

/-- The names of a template, up to the one that captures the rest. -/
def names : Template → List String
  | [] => []
  | .literal _ :: parts => names parts
  | .segment name :: parts => name :: names parts
  | .rest name :: _ => [name]

theorem names_of_match? : ∀ {t : Template} {path : List Char} {captures : List (String × List Char)},
    t.match? path = some captures → captures.map Prod.fst = t.names
  | [], [], _, h => by cases h; rfl
  | [], _ :: _, _, h => by cases h
  | .literal _ :: _, [], _, h => by cases h
  | .literal c :: parts, d :: path, captures, h => by
    rw [match?] at h
    split at h
    · exact names_of_match? (t := parts) h
    · cases h
  | .segment name :: parts, path, captures, h => by
    simp only [match?] at h
    split at h
    · cases h
    · obtain ⟨tail, htail, rfl⟩ := Option.map_eq_some_iff.1 h
      rw [List.map_cons, names_of_match? (t := parts) htail, names]
  | .rest name :: _, path, captures, h => by
    rw [match?] at h
    split at h
    · cases h
    · cases h
      rfl

end Template

theorem preferred_eq (a b : RoutedPath × List (String × List Char)) : preferred a b = a ∨ preferred a b = b := by
  unfold preferred
  split
  · exact .inr rfl
  · exact .inl rfl

theorem foldl_preferred_mem : ∀ (first : RoutedPath × List (String × List Char))
    (rest : List (RoutedPath × List (String × List Char))), rest.foldl preferred first ∈ first :: rest
  | first, [] => List.mem_singleton_self first
  | first, second :: rest => by
    have h := foldl_preferred_mem (preferred first second) rest
    rw [List.foldl_cons]
    rcases List.mem_cons.1 h with h | h
    · rw [h]
      rcases preferred_eq first second with hp | hp
      · rw [hp]; exact List.mem_cons_self
      · rw [hp]; exact List.mem_cons_of_mem _ List.mem_cons_self
    · exact List.mem_cons_of_mem _ (List.mem_cons_of_mem _ h)

/-- What a router finds is one of its paths, and the template of the path matches. -/
theorem match?_of_find? {r : Router} {path : List Char} {found : RoutedPath} {captures : List (String × List Char)}
    (h : r.find? path = some (found, captures)) : found ∈ r ∧ found.template.match? path = some captures := by
  rw [Router.find?] at h
  split at h
  · cases h
  · rename_i first rest hmatches
    have hmem := foldl_preferred_mem first rest
    rw [Option.some.inj h, ← hmatches, List.mem_filterMap] at hmem
    obtain ⟨p, hp, hmatch⟩ := hmem
    obtain ⟨found', hfound, heq⟩ := Option.map_eq_some_iff.1 hmatch
    cases heq
    exact ⟨hp, hfound⟩

end Switchyard

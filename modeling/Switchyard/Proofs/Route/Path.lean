import Mathlib.Data.List.DropRight
import Switchyard.Controller.Options
import Switchyard.Route.Path

/-!
# Joined paths

A path that is joined from a prefix starts with a slash, whatever follows the prefix.
-/

namespace Switchyard

/-- What may stand before all paths: nothing, or a path of its own. -/
def IsPrefix (base : String) : Prop := base = "" ∨ startsWithSlash base = true

theorem startsWithSlash_cons (rest : List Char) : startsWithSlash (.ofList ('/' :: rest)) = true := by
  simp [startsWithSlash]

theorem head?_trimEndChars {drop : Char → Bool} {cs : List Char} (h : trimEndChars drop cs ≠ []) :
    (trimEndChars drop cs).head? = cs.head? := by
  have hprefix : trimEndChars drop cs <+: cs := List.rdropWhile_prefix drop cs
  obtain ⟨rest, hrest⟩ := hprefix
  conv_rhs => rw [← hrest, List.head?_append_of_ne_nil _ h]

/-- A joined path starts with a slash. -/
theorem startsWithSlash_joinPath {base : String} (h : IsPrefix base) (template : String) :
    startsWithSlash (joinPath base template) = true := by
  simp only [joinPath]
  cases hbefore : trimEndChars (· == '/') base.toList with
  | nil => cases template.toList.dropWhile (· == '/') <;> exact startsWithSlash_cons _
  | cons c before =>
    -- what is left of the prefix starts as the prefix does
    have hne : trimEndChars (· == '/') base.toList ≠ [] := by simp [hbefore]
    have hhead := head?_trimEndChars hne
    obtain rfl | hslash := h
    · simp [trimEndChars] at hbefore
    · have hc : c = '/' := by
        rw [hbefore, List.head?_cons] at hhead
        rw [startsWithSlash, ← hhead] at hslash
        simpa using hslash
      subst hc
      cases template.toList.dropWhile (· == '/') <;> exact startsWithSlash_cons _

end Switchyard

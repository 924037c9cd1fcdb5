import Mathlib.Data.List.Basic
import Mathlib.Data.List.TakeWhile
import Switchyard.Text.Blank

/-!
# Trimmed texts

A text with nothing to drop at its ends is what is left when it is trimmed, whatever was put around it to be dropped.

Main results: `trimChars_append`, `exists_trimChars` and `mem_trimChars_iff`.
-/

namespace Switchyard

variable {drop : Char → Bool} {cs before after : List Char} {c : Char}

/-- Neither end of a text is dropped. -/
structure Trimmed (drop : Char → Bool) (cs : List Char) : Prop where
  head : ∀ c ∈ cs.head?, drop c = false
  last : ∀ c ∈ cs.getLast?, drop c = false

theorem trimmed_iff : Trimmed drop cs ↔ cs.head?.all (!drop ·) = true ∧ cs.getLast?.all (!drop ·) = true := by
  simp only [Option.all_eq_true, Bool.not_eq_true']
  exact ⟨fun h => ⟨h.head, h.last⟩, fun h => ⟨h.1, h.2⟩⟩

-- by the two characters themselves: an instance for the quantifiers may go through all characters
instance (drop : Char → Bool) (cs : List Char) : Decidable (Trimmed drop cs) := decidable_of_iff _ trimmed_iff.symm

theorem Trimmed.of_forall (h : ∀ c ∈ cs, drop c = false) : Trimmed drop cs :=
  ⟨fun c hc => h c (List.mem_of_head? hc), fun c hc => h c (List.mem_of_getLast? hc)⟩

theorem Trimmed.reverse (h : Trimmed drop cs) : Trimmed drop cs.reverse :=
  ⟨by simpa using h.last, by simpa using h.head⟩

/-- Two trimmed texts around a character that is not dropped are trimmed together. -/
theorem Trimmed.append_cons {s : Char} {rest : List Char} (h : Trimmed drop cs) (hs : drop s = false)
    (hrest : Trimmed drop rest) : Trimmed drop (cs ++ s :: rest) where
  head := by
    cases cs with
    | nil => simpa using hs
    | cons c cs => exact h.head
  last := by
    cases rest with
    | nil => simpa using hs
    | cons c rest => simpa [List.getLast?_append] using hrest.last

theorem dropWhile_append_of_head? (hbefore : ∀ c ∈ before, drop c = true) (hhead : ∀ c ∈ cs.head?, drop c = false) :
    (before ++ cs).dropWhile drop = cs := by
  rw [List.dropWhile_append_of_pos hbefore]
  cases cs with
  | nil => rfl
  | cons c cs => simp [hhead c rfl]

/-- A trimmed text is left of what was put around it to be dropped. -/
theorem trimChars_append (h : Trimmed drop cs) (hbefore : ∀ c ∈ before, drop c = true)
    (hafter : ∀ c ∈ after, drop c = true) : trimChars drop (before ++ (cs ++ after)) = cs := by
  rw [trimChars]
  by_cases hcs : cs = []
  · have hall : (before ++ after).dropWhile drop = [] :=
      List.dropWhile_eq_nil_iff.2 fun c hc => (List.mem_append.1 hc).elim (hbefore c) (hafter c)
    simp [hcs, hall]
  · have hfront : (before ++ (cs ++ after)).dropWhile drop = cs ++ after :=
      dropWhile_append_of_head? hbefore (List.head?_append_of_ne_nil cs hcs ▸ h.head)
    have hback : (after.reverse ++ cs.reverse).dropWhile drop = cs.reverse :=
      dropWhile_append_of_head? (by simpa using hafter) h.reverse.head
    rw [hfront, List.reverse_append, hback, List.reverse_reverse]

theorem trimChars_of_trimmed (h : Trimmed drop cs) : trimChars drop cs = cs := by
  have hnone : ∀ c ∈ ([] : List Char), drop c = true := by simp
  simpa using trimChars_append h hnone hnone

theorem exists_trimChars (drop : Char → Bool) (cs : List Char) : ∃ before after,
    cs = before ++ (trimChars drop cs ++ after) ∧ (∀ c ∈ before, drop c = true) ∧ ∀ c ∈ after, drop c = true := by
  refine ⟨cs.takeWhile drop, ((cs.dropWhile drop).reverse.takeWhile drop).reverse, ?_, ?_, ?_⟩
  · rw [trimChars, ← List.reverse_append, List.takeWhile_append_dropWhile, List.reverse_reverse,
      List.takeWhile_append_dropWhile]
  · intro c hc
    exact List.mem_takeWhile_imp hc
  · intro c hc
    exact List.mem_takeWhile_imp (List.mem_reverse.1 hc)

theorem mem_dropWhile_iff (hkeep : drop c = false) : c ∈ cs.dropWhile drop ↔ c ∈ cs := by
  refine ⟨fun hc => (List.dropWhile_sublist drop).subset hc, fun hc => ?_⟩
  have hsides : c ∈ cs.takeWhile drop ++ cs.dropWhile drop := by rwa [List.takeWhile_append_dropWhile]
  refine (List.mem_append.1 hsides).resolve_left fun hdropped => ?_
  rw [List.mem_takeWhile_imp hdropped] at hkeep
  cases hkeep

/-- Trimming takes away nothing but what is to be dropped. -/
theorem mem_trimChars_iff (hkeep : drop c = false) : c ∈ trimChars drop cs ↔ c ∈ cs := by
  rw [trimChars, List.mem_reverse, mem_dropWhile_iff hkeep, List.mem_reverse, mem_dropWhile_iff hkeep]

end Switchyard

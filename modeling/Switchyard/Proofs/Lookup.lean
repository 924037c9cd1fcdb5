/-!
# Looking up keys

A key is looked up in a list of pairs, and the first pair that has it counts.
-/

namespace Switchyard

variable {α β : Type} [BEq α] [LawfulBEq α]

theorem lookup_cons [DecidableEq α] (key : α) (p : α × β) (rest : List (α × β)) :
    (p :: rest).lookup key = if key = p.1 then some p.2 else rest.lookup key := by
  obtain ⟨k, value⟩ := p
  by_cases hkey : key = k
  · simp [hkey]
  · rw [List.lookup_cons, beq_eq_false_iff_ne.2 hkey, if_neg hkey]

end Switchyard

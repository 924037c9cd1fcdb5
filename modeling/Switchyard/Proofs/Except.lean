import Mathlib.Data.List.Forall2

/-!
# Results

What is made of a result, and fallible functions along a list, which give results iff they give one for every element.
-/

namespace Switchyard

variable {α β ε : Type}

theorem map_eq_ok_iff {x : Except ε α} {f : α → β} {b : β} : x.map f = .ok b ↔ ∃ a, x = .ok a ∧ f a = b := by
  cases x <;> simp [Except.map]

theorem map_eq_error_iff {x : Except ε α} {f : α → β} {e : ε} : x.map f = .error e ↔ x = .error e := by
  cases x <;> simp [Except.map]

theorem mapError_eq_ok_iff {x : Except ε α} {f : ε → β} {a : α} : x.mapError f = .ok a ↔ x = .ok a := by
  cases x <;> simp [Except.mapError]

theorem exists_error_iff {x : Except ε α} : (∃ e, x = .error e) ↔ ∀ a, x ≠ .ok a := by
  cases x <;> simp

theorem mapM_eq_ok_iff {f : α → Except ε β} :
    ∀ {l : List α} {results : List β}, l.mapM f = .ok results ↔ List.Forall₂ (fun a b => f a = .ok b) l results
  | [], results => by cases results <;> simp [pure, Except.pure]
  | a :: rest, results => by
    rw [List.mapM_cons]
    cases ha : f a with
    | error e => cases results <;> simp [bind, Except.bind, ha]
    | ok b =>
      cases hr : rest.mapM f with
      | error e =>
        have hno : ∀ tail, ¬ List.Forall₂ (fun a b => f a = .ok b) rest tail := by
          intro tail ht
          rw [mapM_eq_ok_iff.2 ht] at hr
          cases hr
        cases results <;> simp [bind, Except.bind, hno]
      | ok tail =>
        cases results with
        | nil => simp [bind, Except.bind, pure, Except.pure]
        | cons c cs =>
          simp only [bind, Except.bind, pure, Except.pure, Except.ok.injEq, List.cons.injEq, List.forall₂_cons, ha]
          rw [← mapM_eq_ok_iff, hr, Except.ok.injEq]

theorem mapM_congr {f g : α → Except ε β} : ∀ {l : List α}, (∀ a ∈ l, f a = g a) → l.mapM f = l.mapM g
  | [], _ => rfl
  | a :: rest, h => by
    rw [List.mapM_cons, List.mapM_cons, h a List.mem_cons_self,
      mapM_congr fun b hb => h b (List.mem_cons_of_mem _ hb)]

end Switchyard

import Switchyard.Text.Split

/-!
# Segments are cut where they were joined

Segments without a separator are found again between separators, and the first side of a text ends at the first
separator. Nothing but separators is lost between segments.

Main results: `splitAll_intercalate`, `flatten_splitAll` and `splitFirst?_append`.
-/

namespace Switchyard

variable {α : Type} {sep : α → Bool} {l rest : List α} {s : α}

theorem forall_beq_eq_false_iff [BEq α] [LawfulBEq α] {mark : α} : (∀ c ∈ l, (c == mark) = false) ↔ mark ∉ l := by
  constructor
  · intro h hmark
    simp at h
    exact h mark hmark rfl
  · intro h c hc
    exact beq_eq_false_iff_ne.2 (ne_of_mem_of_not_mem hc h)

theorem splitAll_of_forall : ∀ {l : List α}, (∀ c ∈ l, sep c = false) → splitAll sep l = [l]
  | [], _ => rfl
  | c :: l, h => by
    have ih := splitAll_of_forall fun d hd => h d (List.mem_cons_of_mem _ hd)
    rw [splitAll, if_neg (by simp [h c List.mem_cons_self]), ih]

theorem splitAll_append : ∀ {l : List α}, (∀ c ∈ l, sep c = false) → sep s = true →
    splitAll sep (l ++ s :: rest) = l :: splitAll sep rest
  | [], _, hs => by rw [List.nil_append, splitAll, if_pos hs]
  | c :: l, h, hs => by
    have ih := splitAll_append (fun d hd => h d (List.mem_cons_of_mem _ hd)) hs
    rw [List.cons_append, splitAll, if_neg (by simp [h c List.mem_cons_self]), ih]

theorem splitAll_ne_nil (l : List α) : splitAll sep l ≠ [] := by
  cases l with
  | nil => simp [splitAll]
  | cons c l =>
    rw [splitAll]
    split
    · simp
    · split <;> simp

/-- The segments on the two sides of a separator are the segments of the sides. -/
theorem splitAll_append_cons (hs : sep s = true) : ∀ l : List α,
    splitAll sep (l ++ s :: rest) = splitAll sep l ++ splitAll sep rest
  | [] => by simp [splitAll, hs]
  | c :: l => by
    rw [List.cons_append, splitAll, splitAll, splitAll_append_cons hs l]
    split
    · rfl
    · cases hl : splitAll sep l with
      | nil => exact absurd hl (splitAll_ne_nil l)
      | cons first others => rfl

/-- Segments that were joined are found again. -/
theorem splitAll_intercalate (hs : sep s = true) : ∀ {segments : List (List α)}, segments ≠ [] →
    (∀ l ∈ segments, ∀ c ∈ l, sep c = false) → splitAll sep ([s].intercalate segments) = segments
  | [], hne, _ => absurd rfl hne
  | [l], _, h => by
    rw [List.intercalate_singleton]
    exact splitAll_of_forall (h l List.mem_cons_self)
  | l :: m :: segments, _, h => by
    have ih := splitAll_intercalate hs (List.cons_ne_nil m segments) fun l hl => h l (List.mem_cons_of_mem _ hl)
    rw [List.intercalate_cons_cons, List.append_assoc, List.singleton_append,
      splitAll_append (h l List.mem_cons_self) hs, ih]

/-- All that is lost between the segments is the separators. -/
theorem flatten_splitAll : ∀ l : List α, (splitAll sep l).flatten = l.filter fun c => !sep c
  | [] => rfl
  | c :: l => by
    have ih := flatten_splitAll l
    rw [splitAll]
    cases hc : sep c with
    | true => simpa [hc] using ih
    | false =>
      cases hl : splitAll sep l with
      | nil => exact absurd hl (splitAll_ne_nil l)
      | cons first others => simpa [hc, hl] using ih

theorem mem_of_mem_splitAll {c : α} (hl : l ∈ splitAll sep rest) (hc : c ∈ l) : c ∈ rest ∧ sep c = false := by
  have hflat : c ∈ (splitAll sep rest).flatten := List.mem_flatten_of_mem hl hc
  rw [flatten_splitAll, List.mem_filter] at hflat
  simpa using hflat

/-- What is no separator stands in a segment. -/
theorem exists_mem_splitAll {c : α} (hc : c ∈ rest) (hsep : sep c = false) : ∃ l ∈ splitAll sep rest, c ∈ l := by
  have hflat : c ∈ (splitAll sep rest).flatten := by
    rw [flatten_splitAll, List.mem_filter]
    simpa [hsep] using hc
  exact List.mem_flatten.1 hflat

/-- A list that is changed element by element is cut at the same places. -/
theorem splitAll_map {β : Type} (f : β → α) : ∀ l : List β,
    splitAll sep (l.map f) = (splitAll (fun b => sep (f b)) l).map (List.map f)
  | [] => rfl
  | b :: l => by
    rw [List.map_cons, splitAll, splitAll, splitAll_map f l]
    split
    · rfl
    · cases splitAll (fun b => sep (f b)) l <;> rfl

theorem splitFirst?_append : ∀ {l : List α}, (∀ c ∈ l, sep c = false) → sep s = true →
    splitFirst? sep (l ++ s :: rest) = some (l, rest)
  | [], _, hs => by rw [List.nil_append, splitFirst?, if_pos hs]
  | c :: l, h, hs => by
    have ih := splitFirst?_append (fun d hd => h d (List.mem_cons_of_mem _ hd)) hs
    rw [List.cons_append, splitFirst?, if_neg (by simp [h c List.mem_cons_self]), ih]
    rfl

theorem splitFirst?_of_forall : ∀ {l : List α}, (∀ c ∈ l, sep c = false) → splitFirst? sep l = none
  | [], _ => rfl
  | c :: l, h => by
    rw [splitFirst?, if_neg (by simp [h c List.mem_cons_self]),
      splitFirst?_of_forall fun d hd => h d (List.mem_cons_of_mem _ hd)]
    rfl

theorem exists_splitFirst? (sep : α → Bool) : ∀ l : List α, (∀ c ∈ l, sep c = false) ∨
    ∃ before s after, l = before ++ s :: after ∧ (∀ c ∈ before, sep c = false) ∧ sep s = true
  | [] => .inl (by simp)
  | c :: l => by
    cases hc : sep c with
    | true => exact .inr ⟨[], c, l, rfl, by simp, hc⟩
    | false =>
      obtain h | ⟨before, s, after, rfl, h, hs⟩ := exists_splitFirst? sep l
      · exact .inl (by simpa [hc] using h)
      · exact .inr ⟨c :: before, s, after, rfl, by simpa [hc] using h, hs⟩

/-! ## Beginnings and ends -/

theorem afterStart?_eq_some_iff [BEq α] [LawfulBEq α] : ∀ {start l : List α},
    afterStart? start l = some rest ↔ l = start ++ rest
  | [], l => by simp [afterStart?]
  | a :: start, [] => by simp [afterStart?]
  | a :: start, b :: l => by
    rw [afterStart?, List.cons_append, List.cons.injEq]
    by_cases hab : a = b
    · rw [if_pos (beq_iff_eq.2 hab), afterStart?_eq_some_iff]
      simp [hab]
    · rw [if_neg (by simpa using hab)]
      simp [Ne.symm hab]

/-- What precedes an end is all that is in front of it. -/
theorem beforeEnd?_eq_some_iff [BEq α] [LawfulBEq α] {tail before : List α} :
    beforeEnd? tail l = some before ↔ l = before ++ tail := by
  rw [beforeEnd?, Option.map_eq_some_iff]
  constructor
  · rintro ⟨front, hfront, rfl⟩
    rw [afterStart?_eq_some_iff] at hfront
    rw [← List.reverse_reverse l, hfront, List.reverse_append, List.reverse_reverse]
  · rintro rfl
    refine ⟨before.reverse, afterStart?_eq_some_iff.2 ?_, List.reverse_reverse before⟩
    rw [List.reverse_append]

end Switchyard

import Switchyard.Config.EnvironmentFile
import Switchyard.Proofs.Config.Override

/-!
# Assignments of environment files

The lines of a text assign variables one after the other, up to the end of the text or the first line that does not
read. A variable that is set keeps its value, and of several assignments of a name the first counts.

Main result: `added_environmentFile`.
-/

namespace Switchyard

namespace EnvironmentFile

/-! ## Lines -/

/-- The lines after the first are shorter than the text. -/
theorem length_cutLine_lt {cs : List Char} (h : cs ≠ []) : (cutLine cs).2.length < cs.length := by
  simp only [cutLine]
  split
  · exact List.length_pos_iff.2 h
  · rename_i newline rest hdrop
    have hlength := congrArg List.length hdrop
    rw [List.length_drop, List.length_cons] at hlength
    simp only
    omega

theorem length_lt_of_nextLine : ∀ {fuel : Nat} {read cs line rest : List Char} {state : LineState},
    nextLine fuel read state cs = .ok (some (line, rest)) → rest.length < cs.length
  | 0, _, _, _, _, _, h => by cases h
  | fuel + 1, read, cs, line, rest, state, h => by
    rw [nextLine] at h
    by_cases hempty : cs.isEmpty = true
    · rw [if_pos hempty] at h
      split at h <;> cases h
    · rw [if_neg hempty] at h
      have hcut := length_cutLine_lt (mt List.isEmpty_iff.2 hempty)
      simp only at h
      split at h
      · cases h
        exact hcut
      · split at h
        · cases h
          exact hcut
        · exact Nat.lt_trans (length_lt_of_nextLine h) hcut
        · cases h
          exact hcut

/-! ## Assignments -/

/-- The first line of a text, as a whole. -/
def firstLine (cs : List Char) : Except Unit (Option (List Char × List Char)) :=
  nextLine (cs.length + 1) [] .complete cs

/-- What the lines of a text assign, in their order, up to the end of the text or to the first line that does not
read. The lines before assigned `before`; a reference stands for a variable that is set, or else for what was
assigned first. -/
inductive Assigns (set : Variables) : (before : Variables) → List Char → Variables → Prop
  | ended {before : Variables} {cs : List Char} : firstLine cs = .ok none → Assigns set before cs []
  | unfinished {before : Variables} {cs : List Char} : firstLine cs = .error () → Assigns set before cs []
  | malformed {before : Variables} {cs line rest : List Char} : firstLine cs = .ok (some (line, rest)) →
      readLine (resolve set before) line = .error () → Assigns set before cs []
  | blank {before list : Variables} {cs line rest : List Char} : firstLine cs = .ok (some (line, rest)) →
      readLine (resolve set before) line = .ok none → Assigns set before rest list → Assigns set before cs list
  | assignment {before list : Variables} {cs line rest : List Char} {e : String × String} :
      firstLine cs = .ok (some (line, rest)) → readLine (resolve set before) line = .ok (some e) →
      Assigns set (before ++ [e]) rest list → Assigns set before cs (e :: list)

/-- Every text assigns something, if only nothing. -/
theorem exists_assigns (set : Variables) : ∀ (bound : Nat) (before : Variables) (cs : List Char), cs.length < bound →
    ∃ list, Assigns set before cs list
  | 0, _, _, h => absurd h (Nat.not_lt_zero _)
  | bound + 1, before, cs, h => by
    cases hline : firstLine cs with
    | error e => exact ⟨[], .unfinished hline⟩
    | ok next =>
      cases next with
      | none => exact ⟨[], .ended hline⟩
      | some found =>
        obtain ⟨line, rest⟩ := found
        have hrest : rest.length < bound := by
          have hlt := length_lt_of_nextLine hline
          omega
        cases hread : readLine (resolve set before) line with
        | error e => exact ⟨[], .malformed hline hread⟩
        | ok assignment =>
          cases assignment with
          | none =>
            obtain ⟨list, hlist⟩ := exists_assigns set bound before rest hrest
            exact ⟨list, .blank hline hread hlist⟩
          | some e =>
            obtain ⟨list, hlist⟩ := exists_assigns set bound (before ++ [e]) rest hrest
            exact ⟨e :: list, .assignment hline hread hlist⟩

/-- What is kept of assignments: those of names that were not set or assigned before. All that was assigned has a
value then. -/
structure Keeps (set before added assigned : Variables) : Prop where
  lookup : ∀ name, (set ++ added).lookup name = (set ++ before).lookup name
  assigned : ∀ name, (set ++ added).lookup name = none → assigned.lookup name = none
  nodup : (added.map Prod.fst).Nodup
  fresh : ∀ e ∈ added, set.lookup e.1 = none

namespace Keeps

variable {set before added assigned : Variables} {e : String × String}

/-- References stand for the same. -/
theorem resolve_eq (h : Keeps set before added assigned) : resolve (set ++ added) assigned = resolve set before := by
  funext name
  have hbefore : ((set.lookup name).orElse fun _ => before.lookup name) = (set ++ added).lookup name := by
    rw [h.lookup name, List.lookup_append]
    cases set.lookup name <;> rfl
  rw [resolve, resolve, hbefore]
  cases hvalue : (set ++ added).lookup name with
  | some value => rfl
  | none => rw [h.assigned name hvalue]; rfl

theorem known (h : Keeps set before added assigned) (hknown : ((set ++ added).lookup e.1).isSome = true) :
    Keeps set (before ++ [e]) added (e :: assigned) := by
  refine { lookup := fun name => ?lookup, assigned := fun name hnone => ?assigned, nodup := h.nodup, fresh := h.fresh }
  case lookup =>
    have hsplit : (set ++ (before ++ [e])).lookup name = ((set ++ before).lookup name).or ([e].lookup name) := by
      rw [← List.append_assoc, List.lookup_append]
    rw [hsplit, ← h.lookup name, lookup_cons, List.lookup_nil]
    by_cases hname : name = e.1
    · obtain ⟨value, hvalue⟩ := Option.isSome_iff_exists.1 hknown
      rw [hname, hvalue]
      rfl
    · rw [if_neg hname, Option.or_none]
  case assigned =>
    have hname : name ≠ e.1 := by
      rintro rfl
      rw [hnone] at hknown
      cases hknown
    rw [lookup_cons, if_neg hname]
    exact h.assigned name hnone

theorem unknown (h : Keeps set before added assigned) (hunknown : (set ++ added).lookup e.1 = none) :
    Keeps set (before ++ [e]) (added ++ [e]) (e :: assigned) := by
  rw [List.lookup_append, Option.or_eq_none_iff] at hunknown
  obtain ⟨hset, hadded⟩ := hunknown
  refine
    { lookup := fun name => ?lookup, assigned := fun name hnone => ?assigned, nodup := ?nodup, fresh := ?fresh }
  case lookup =>
    rw [← List.append_assoc, ← List.append_assoc, List.lookup_append, h.lookup name, ← List.lookup_append]
  case assigned =>
    rw [← List.append_assoc, List.lookup_append, Option.or_eq_none_iff, lookup_cons] at hnone
    obtain ⟨hnone, hname⟩ := hnone
    have hne : name ≠ e.1 := by
      intro heq
      rw [if_pos heq] at hname
      cases hname
    rw [lookup_cons, if_neg hne]
    exact h.assigned name hnone
  case nodup =>
    rw [List.map_append, List.nodup_append]
    refine ⟨h.nodup, by simp, fun name hname other hother => ?_⟩
    rintro rfl
    obtain ⟨p, hp, hpname⟩ := List.mem_map.1 hname
    have hne := List.lookup_eq_none_iff.1 hadded p hp
    simp at hother
    simp [hpname, hother] at hne
  case fresh =>
    intro p hp
    rcases List.mem_append.1 hp with hp | hp
    · exact h.fresh p hp
    · obtain rfl := List.mem_singleton.1 hp
      exact hset

end Keeps

/-- What a run adds keeps what the lines assign. -/
theorem keeps_run {set before list : Variables} {cs : List Char} (h : Assigns set before cs list) :
    ∀ {fuel : Nat} {added assigned : Variables}, cs.length ≤ fuel → Keeps set before added assigned →
      ∃ assigned', Keeps set (before ++ list) (run set (fuel + 1) added assigned cs) assigned' := by
  induction h with
  | ended hline =>
    intro fuel added assigned _ hkeeps
    rw [firstLine] at hline
    rw [run, hline, List.append_nil]
    exact ⟨assigned, hkeeps⟩
  | unfinished hline =>
    intro fuel added assigned _ hkeeps
    rw [firstLine] at hline
    rw [run, hline, List.append_nil]
    exact ⟨assigned, hkeeps⟩
  | malformed hline hread =>
    intro fuel added assigned _ hkeeps
    rw [firstLine] at hline
    simp only [run, hline, hkeeps.resolve_eq, hread, List.append_nil]
    exact ⟨assigned, hkeeps⟩
  | blank hline hread _ ih =>
    intro fuel added assigned hfuel hkeeps
    have hlt := length_lt_of_nextLine hline
    obtain ⟨fuel, rfl⟩ := Nat.exists_eq_succ_of_ne_zero (Nat.ne_zero_of_lt (Nat.lt_of_lt_of_le hlt hfuel))
    rw [firstLine] at hline
    rw [run]
    simp only [hline, hkeeps.resolve_eq, hread]
    exact ih (by omega) hkeeps
  | @assignment before list cs line rest e hline hread _ ih =>
    intro fuel added assigned hfuel hkeeps
    have hlt := length_lt_of_nextLine hline
    obtain ⟨fuel, rfl⟩ := Nat.exists_eq_succ_of_ne_zero (Nat.ne_zero_of_lt (Nat.lt_of_lt_of_le hlt hfuel))
    have hshift : before ++ e :: list = before ++ [e] ++ list := by simp
    rw [firstLine] at hline
    rw [hshift, run]
    simp only [hline, hkeeps.resolve_eq, hread]
    -- the assignment counts only if its name has no value by now
    cases hvalue : (set ++ added).lookup e.1 with
    | none => exact ih (by omega) (hkeeps.unknown hvalue)
    | some value => exact ih (by omega) (hkeeps.known (by rw [hvalue]; rfl))

/-- The characters of the lines of a file. -/
def opened (content : Bytes) : List Char :=
  let cs := readable content
  if cs.head? = some (Char.ofNat 0xFEFF) then cs.drop 1 else cs

end EnvironmentFile

open EnvironmentFile

/-- What assignments add to the variables that are set: no name twice, no name that is set, and every other name with
the value that was assigned to it first. -/
structure Variables.Added (set list added : Variables) : Prop where
  nodup : (added.map Prod.fst).Nodup
  fresh : ∀ e ∈ added, set.lookup e.1 = none
  lookup : ∀ name, set.lookup name = none → added.lookup name = list.lookup name

theorem Variables.added_nil (set : Variables) : Added set [] [] :=
  ⟨List.nodup_nil, fun _ he => (by cases he), fun _ _ => rfl⟩

/-- **A file adds what it assigns**, up to its end or to the first line that does not read. -/
theorem added_environmentFile {set list : Variables} {content : Bytes} (h : Assigns set [] (opened content) list) :
    Variables.Added set list (environmentFile set content) := by
  have hstart : Keeps set [] [] [] := ⟨fun _ => rfl, fun _ _ => rfl, List.nodup_nil, fun e he => by cases he⟩
  obtain ⟨assigned, hkeeps⟩ := keeps_run h (Nat.le_refl _) hstart
  refine ⟨hkeeps.nodup, hkeeps.fresh, fun name hname => ?_⟩
  have hlookup := hkeeps.lookup name
  rw [List.lookup_append, List.lookup_append, hname, Option.none_or, Option.none_or] at hlookup
  exact hlookup

end Switchyard

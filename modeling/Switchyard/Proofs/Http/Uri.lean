import Mathlib.Data.List.TakeWhile
import Mathlib.Tactic.SplitIfs
import Switchyard.Http.Uri
import Switchyard.Proofs.Text.Split

/-!
# Queries of targets

Whatever the form of a target is, nothing before its query holds a question mark. So the query of a target without
a fragment is what follows its first question mark.

Main result: `query_of_parse?`.
-/

namespace Switchyard.Uri

/-- What follows the first question mark of a text, if it has one. -/
def queryOf? (cs : List Char) : Option (List Char) := (splitFirst? (· == '?') cs).map Prod.snd

/-- The text has no question mark. -/
def Unasked (cs : List Char) : Prop := ∀ c ∈ cs, (c == '?') = false

theorem Unasked.append {left right : List Char} (hleft : Unasked left) (hright : Unasked right) :
    Unasked (left ++ right) := by
  intro c hc
  rcases List.mem_append.1 hc with hc | hc
  · exact hleft c hc
  · exact hright c hc

theorem queryOf?_of_unasked {cs : List Char} (h : Unasked cs) : queryOf? cs = none := by
  rw [queryOf?, splitFirst?_of_forall h]
  rfl

theorem queryOf?_mark {before : List Char} (h : Unasked before) (after : List Char) :
    queryOf? (before ++ '?' :: after) = some after := by
  rw [queryOf?, splitFirst?_append h rfl]
  rfl

/-- A text has no question mark, or its query follows the first one. -/
theorem exists_mark (cs : List Char) : Unasked cs ∨ ∃ before after, Unasked before ∧ cs = before ++ '?' :: after := by
  obtain h | ⟨before, s, after, rfl, h, hs⟩ := exists_splitFirst? (· == '?') cs
  · exact .inl h
  · obtain rfl : s = '?' := by simpa using hs
    exact .inr ⟨before, after, h, rfl⟩

theorem queryOf?_append {before : List Char} (h : Unasked before) (cs : List Char) :
    queryOf? (before ++ cs) = queryOf? cs := by
  obtain hnone | ⟨before', after, hbefore, rfl⟩ := exists_mark cs
  · rw [queryOf?_of_unasked (h.append hnone), queryOf?_of_unasked hnone]
  · rw [← List.append_assoc, queryOf?_mark (h.append hbefore), queryOf?_mark hbefore]

/-! ## Parts of a target -/

theorem withoutFragment_eq {cs : List Char} (h : '#' ∉ cs) : withoutFragment cs = cs := by
  rw [withoutFragment, List.takeWhile_eq_self_iff]
  rintro c hc
  have hne : c ≠ '#' := fun heq => h (heq ▸ hc)
  simpa using hne

theorem dropWhile_mark (cs : List Char) : cs.dropWhile (· != '?') = (queryOf? cs).elim [] ('?' :: ·) := by
  obtain hnone | ⟨before, after, hbefore, rfl⟩ := exists_mark cs
  · rw [queryOf?_of_unasked hnone, Option.elim_none, List.dropWhile_eq_nil_iff]
    intro c hc
    simpa using hnone c hc
  · have hpath : ∀ c ∈ before, (c != '?') = true := fun c hc => by simpa using hbefore c hc
    rw [List.dropWhile_append_of_pos hpath, queryOf?_mark hbefore]
    rfl

/-- The query behind a path follows the first question mark. -/
theorem query_of_pathAndQuery? {cs : List Char} {path : String} {query : Option String} (hhash : '#' ∉ cs)
    (h : pathAndQuery? cs = some (path, query)) : query = (queryOf? cs).map .ofList := by
  simp only [pathAndQuery?, withoutFragment_eq hhash, dropWhile_mark] at h
  generalize queryOf? cs = found at h
  cases found
  all_goals
    obtain ⟨-, h⟩ := Option.ite_none_right_eq_some.1 h
    exact (Prod.mk.inj (Option.some.inj h)).2.symm

theorem scanAuthority_cons {c : Char} (hc : ¬ (c = '/' ∨ c = '?' ∨ c = '#')) (s : AuthorityScan) (read rest : List Char) :
    scanAuthority s read (c :: rest) = none ∨
      ∃ s', scanAuthority s read (c :: rest) = scanAuthority s' (c :: read) rest := by
  rw [scanAuthority, if_neg hc]
  split_ifs <;> first | exact .inl rfl | exact .inr ⟨_, rfl⟩

/-- An authority has no question mark. -/
theorem unasked_of_scanAuthority : ∀ {cs : List Char} {s : AuthorityScan} {read authority rest : List Char},
    scanAuthority s read cs = some (authority, rest) → ∃ before, Unasked before ∧ cs = before ++ rest
  | cs, s, read, authority, rest, h => by
    have hfinish : ∀ {rest' : List Char}, scanAuthority.finish read rest' s = some (authority, rest) → rest' = rest := by
      intro rest' h
      rw [scanAuthority.finish] at h
      split at h
      · cases h
      · exact (Prod.mk.inj (Option.some.inj h)).2
    cases cs with
    | nil => exact ⟨[], by simp [Unasked], (hfinish h)⟩
    | cons c cs =>
      by_cases hc : c = '/' ∨ c = '?' ∨ c = '#'
      · rw [scanAuthority, if_pos hc] at h
        exact ⟨[], by simp [Unasked], hfinish h⟩
      · obtain hnone | ⟨s', hscan⟩ := scanAuthority_cons hc s read cs
        · rw [hnone] at h
          cases h
        · rw [hscan] at h
          obtain ⟨before, hbefore, rfl⟩ := unasked_of_scanAuthority h
          refine ⟨c :: before, ?_, rfl⟩
          intro d hd
          rcases List.mem_cons.1 hd with rfl | hd
          · simpa using fun heq => hc (.inr (.inl heq))
          · exact hbefore d hd

theorem unasked_of_scheme? {cs scheme rest : List Char} (h : scheme? cs = some (scheme, rest)) :
    ∃ before, Unasked before ∧ cs = before ++ rest := by
  unfold scheme? at h
  split at h
  · rename_i rest' hdrop
    simp only [Option.some.injEq, Prod.mk.injEq] at h
    obtain ⟨-, rfl⟩ := h
    refine ⟨cs.takeWhile isSchemeChar ++ [':', '/', '/'], ?_, ?_⟩
    · intro c hc
      simp only [List.mem_append, List.mem_cons, List.not_mem_nil, or_false] at hc
      rcases hc with hc | rfl | rfl | rfl
      · have hscheme := List.mem_takeWhile_imp hc
        simp only [beq_eq_false_iff_ne]
        rintro rfl
        revert hscheme
        decide
      all_goals rfl
    · have hcs : cs.takeWhile isSchemeChar ++ cs.dropWhile isSchemeChar = cs := List.takeWhile_append_dropWhile
      rw [hdrop] at hcs
      rw [List.append_assoc]
      exact hcs.symm
  · cases h

/-- A target that ends in a path has its query, if nothing before the path has a question mark. -/
theorem query_of_ending {before rest : List Char} {build : String × Option String → Uri} {uri : Uri}
    (hbuild : ∀ parts, (build parts).query = parts.2) (hbefore : Unasked before) (hhash : '#' ∉ before ++ rest)
    (h : (pathAndQuery? rest).map build = some uri) : uri.query = (queryOf? (before ++ rest)).map .ofList := by
  obtain ⟨⟨path, query⟩, hparts, rfl⟩ := Option.map_eq_some_iff.1 h
  rw [hbuild, queryOf?_append hbefore]
  exact query_of_pathAndQuery? (fun hc => hhash (List.mem_append_right _ hc)) hparts

/-- **The query of a target without a fragment follows its first question mark.** -/
theorem query_of_parse? {s : String} {uri : Uri} (hhash : '#' ∉ s.toList) (h : parse? s = some uri) :
    uri.query = (queryOf? s.toList).map .ofList := by
  generalize hcs : s.toList = cs at hhash
  simp only [parse?, hcs] at h
  split at h
  · cases h
  · split at h
    · cases h
    · -- a star
      cases h
      rfl
    · -- a path alone
      have hnothing : Unasked [] := by simp [Unasked]
      exact query_of_ending (fun _ => rfl) hnothing hhash h
    · split at h
      · split at h
        · -- an authority alone
          rename_i authority hauthority
          cases h
          obtain ⟨before, hbefore, hrest⟩ := unasked_of_scanAuthority hauthority
          rw [List.append_nil] at hrest
          rw [queryOf?_of_unasked (hrest ▸ hbefore)]
          rfl
        · cases h
      · rename_i scheme rest hscheme
        obtain ⟨before, hbefore, hcut⟩ := unasked_of_scheme? hscheme
        split at h
        · cases h
        · split at h
          · cases h
          · cases h
          · -- an address, in which the path follows a scheme and an authority
            rename_i authority rest' _ hauthority
            obtain ⟨before', hbefore', rfl⟩ := unasked_of_scanAuthority hauthority
            rw [← List.append_assoc] at hcut
            rw [hcut] at hhash ⊢
            exact query_of_ending (fun _ => rfl) (hbefore.append hbefore') hhash h

end Switchyard.Uri

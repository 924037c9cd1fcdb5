import Switchyard.Proofs.Route.Braces
import Switchyard.Proofs.Route.Path

/-!
# Seams of paths

A prefix and a template are joined at a seam, where it does not matter how many slashes the one ends with and the other
starts with. The names between the braces of the path are those of the prefix and then those of the template, whatever
the template, iff the prefix closes every brace that it opens.

Main results: `joinPath_slashes`, `seam_iff` and `templateParams_joinPath_iff`.
-/

namespace Switchyard

/-! ## Slashes -/

/-- Slashes in a row. -/
def slashes (n : Nat) : String := .ofList (List.replicate n '/')

@[simp] theorem toList_slashes (n : Nat) : (slashes n).toList = List.replicate n '/' := String.toList_ofList

/-- Whether a path ends with a slash. -/
def endsWithSlash (path : String) : Bool := path.toList.getLast? == some '/'

/-- Slashes at the end of a prefix and at the start of a template make no difference. -/
theorem joinPath_slashes (base template : String) (m n : Nat) :
    joinPath (base ++ slashes m) (slashes n ++ template) = joinPath base template := by
  have hslash : ∀ k, ∀ c ∈ List.replicate k '/', (c == '/') = true := by simp
  have hbase : trimEndChars (· == '/') (base ++ slashes m).toList = trimEndChars (· == '/') base.toList := by
    rw [trimEndChars, String.toList_append, toList_slashes, List.reverse_append, List.reverse_replicate,
      List.dropWhile_append_of_pos (hslash m), trimEndChars]
  have htemplate : (slashes n ++ template).toList.dropWhile (· == '/') = template.toList.dropWhile (· == '/') := by
    rw [String.toList_append, toList_slashes, List.dropWhile_append_of_pos (hslash n)]
  rw [joinPath, hbase, htemplate, joinPath]

theorem dropWhile_of_head? {cs : List Char} (h : cs.head? ≠ some '/') : cs.dropWhile (· == '/') = cs := by
  cases cs with
  | nil => rfl
  | cons c cs =>
    have hc : c ≠ '/' := by simpa using h
    simp [hc]

/-- What has no slashes to drop is joined by one slash, or is the path by itself. -/
theorem joinPath_of_trimmed {before after : String} (hend : endsWithSlash before = false)
    (hstart : startsWithSlash after = false) :
    joinPath before after =
      if before = "" then "/" ++ after else if after = "" then before else before ++ "/" ++ after := by
  have hbefore : trimEndChars (· == '/') before.toList = before.toList := by
    have hlast : before.toList.reverse.head? ≠ some '/' := by simpa [endsWithSlash] using hend
    rw [trimEndChars, dropWhile_of_head? hlast, List.reverse_reverse]
  have hafter : after.toList.dropWhile (· == '/') = after.toList :=
    dropWhile_of_head? (by simpa [startsWithSlash] using hstart)
  rw [joinPath, hbefore, hafter, ← String.toList_inj]
  simp only [← String.toList_eq_nil_iff]
  cases hb : before.toList <;> cases ha : after.toList <;> simp [hb, ha]

theorem exists_slashes : ∀ cs : List Char, ∃ n rest, cs = List.replicate n '/' ++ rest ∧ rest.head? ≠ some '/'
  | [] => ⟨0, [], rfl, by simp⟩
  | c :: cs => by
    by_cases hc : c = '/'
    · obtain ⟨n, rest, rfl, hrest⟩ := exists_slashes cs
      exact ⟨n + 1, rest, by rw [hc, List.replicate_succ, List.cons_append], hrest⟩
    · exact ⟨0, c :: cs, rfl, by simpa using hc⟩

theorem exists_before (base : String) : ∃ before m, base = before ++ slashes m ∧ endsWithSlash before = false := by
  obtain ⟨m, rest, hbase, hrest⟩ := exists_slashes base.toList.reverse
  refine ⟨.ofList rest.reverse, m, ?_, by simpa [endsWithSlash] using hrest⟩
  rw [← String.toList_inj, String.toList_append, String.toList_ofList, toList_slashes, ← List.reverse_replicate,
    ← List.reverse_append, ← hbase, List.reverse_reverse]

theorem exists_after (template : String) :
    ∃ n after, template = slashes n ++ after ∧ startsWithSlash after = false := by
  obtain ⟨n, rest, htemplate, hrest⟩ := exists_slashes template.toList
  refine ⟨n, .ofList rest, ?_, by simpa [startsWithSlash] using hrest⟩
  rw [← String.toList_inj, String.toList_append, String.toList_ofList, toList_slashes, htemplate]

/-! ## Seams -/

/-- How a path is put together of a prefix and a template. -/
inductive Seam : (base template path : String) → Prop
  /-- There is exactly one slash between what is left of both. -/
  | between {before after : String} (m n : Nat) (hbefore : before ≠ "") (hend : endsWithSlash before = false)
      (hafter : after ≠ "") (hstart : startsWithSlash after = false) :
      Seam (before ++ slashes m) (slashes n ++ after) (before ++ "/" ++ after)
  /-- Nothing is left of the template, and no slash is added to the prefix. -/
  | base {before : String} (m n : Nat) (hbefore : before ≠ "") (hend : endsWithSlash before = false) :
      Seam (before ++ slashes m) (slashes n) before
  /-- Nothing is left of the prefix, and no slash is added to the template: it starts with the one that is kept. -/
  | template {after : String} (m n : Nat) (hafter : after ≠ "") (hstart : startsWithSlash after = false) :
      Seam (slashes m) (slashes (n + 1) ++ after) ("/" ++ after)
  /-- Nothing is left of either, and the path is the root. -/
  | root (m n : Nat) : Seam (slashes m) (slashes n) "/"

/-- A prefix and a template that starts with a slash, or is empty, have a seam. -/
theorem seam_joinPath (base : String) {template : String} (h : IsPrefix template) :
    Seam base template (joinPath base template) := by
  obtain ⟨before, m, rfl, hend⟩ := exists_before base
  obtain ⟨n, after, rfl, hstart⟩ := exists_after template
  rw [joinPath_slashes, joinPath_of_trimmed hend hstart]
  split
  case isTrue hbefore =>
    subst hbefore
    by_cases hafter : after = ""
    · subst hafter
      simpa using Seam.root m n
    · cases n with
      | zero =>
        -- a template that starts with no slash is empty
        rw [show slashes 0 ++ after = after by simp [slashes]] at h
        obtain hempty | hslash := h
        · exact absurd hempty hafter
        · rw [hstart] at hslash
          cases hslash
      | succ n => simpa using Seam.template m n hafter hstart
  case isFalse hbefore =>
    split
    case isTrue hafter =>
      subst hafter
      simpa using Seam.base m n hbefore hend
    case isFalse hafter => exact .between m n hbefore hend hafter hstart

/-- A seam leaves no choice. -/
theorem Seam.eq_joinPath {base template path : String} (h : Seam base template path) :
    path = joinPath base template := by
  cases h with
  | between m n hbefore hend hafter hstart =>
    rw [joinPath_slashes, joinPath_of_trimmed hend hstart, if_neg hbefore, if_neg hafter]
  | base m n hbefore hend =>
    have hslashes := joinPath_slashes path "" m n
    rw [String.append_empty] at hslashes
    rw [hslashes, joinPath_of_trimmed hend rfl, if_neg hbefore, if_pos rfl]
  | @template after m n hafter hstart =>
    have hslashes := joinPath_slashes "" after m (n + 1)
    rw [String.empty_append] at hslashes
    rw [hslashes, joinPath_of_trimmed rfl hstart, if_pos rfl]
  | root m n =>
    have hslashes := joinPath_slashes "" "" m n
    rw [String.empty_append, String.append_empty] at hslashes
    rw [hslashes, joinPath_of_trimmed rfl rfl, if_pos rfl, String.append_empty]

/-- **A prefix is joined to a template that starts with a slash, or is empty, exactly as their seam says.** -/
theorem seam_iff (base : String) {template path : String} (h : IsPrefix template) :
    Seam base template path ↔ path = joinPath base template := by
  refine ⟨Seam.eq_joinPath, ?_⟩
  rintro rfl
  exact seam_joinPath base h

/-! ## Names -/

/-- Every brace that is opened is closed after it. -/
def ClosesBraces (cs : List Char) : Prop := ∀ rest, '{' :: rest <:+ cs → '}' ∈ rest

theorem closesBraces_nil : ClosesBraces [] := by simp [ClosesBraces]

theorem closesBraces_cons {c : Char} {cs : List Char} :
    ClosesBraces (c :: cs) ↔ (c = '{' → '}' ∈ cs) ∧ ClosesBraces cs := by
  simp only [ClosesBraces, List.suffix_cons_iff, or_imp, forall_and, List.cons.injEq]
  refine and_congr_left fun _ => ⟨fun h hc => h cs ⟨hc.symm, rfl⟩, ?_⟩
  rintro h rest ⟨rfl, rfl⟩
  exact h rfl

instance decidableClosesBraces : (cs : List Char) → Decidable (ClosesBraces cs)
  | [] => isTrue closesBraces_nil
  | _ :: cs =>
    have : Decidable (ClosesBraces cs) := decidableClosesBraces cs
    decidable_of_iff _ closesBraces_cons.symm

theorem ClosesBraces.of_suffix {cs ds : List Char} (h : ClosesBraces ds) (hsuffix : cs <:+ ds) : ClosesBraces cs :=
  fun rest hrest => h rest (hrest.trans hsuffix)

theorem closesBraces_append_slashes (cs : List Char) (n : Nat) :
    ClosesBraces (cs ++ List.replicate n '/') ↔ ClosesBraces cs := by
  induction cs with
  | nil =>
    refine iff_of_true (fun rest hrest => ?_) closesBraces_nil
    have hopen : '{' ∈ List.replicate n '/' := hrest.subset List.mem_cons_self
    simp at hopen
  | cons c cs ih => simp [closesBraces_cons, ih]

/-- Where a brace is not closed, there is a first one that is not, and nothing is closed after it. -/
theorem exists_unclosed : ∀ {cs : List Char}, ¬ ClosesBraces cs →
    ∃ before rest, cs = before ++ '{' :: rest ∧ ClosesBraces before ∧ '}' ∉ rest
  | [], h => absurd closesBraces_nil h
  | c :: cs, h => by
    by_cases hfirst : c = '{' → '}' ∈ cs
    · have hcs : ¬ ClosesBraces cs := fun hcs => h (closesBraces_cons.2 ⟨hfirst, hcs⟩)
      obtain ⟨before, rest, rfl, hbefore, hrest⟩ := exists_unclosed hcs
      refine ⟨c :: before, rest, rfl, closesBraces_cons.2 ⟨fun hc => ?_, hbefore⟩, hrest⟩
      simpa [hrest] using hfirst hc
    · obtain ⟨rfl, hclose⟩ := Classical.not_imp.1 hfirst
      exact ⟨[], cs, rfl, closesBraces_nil, hclose⟩

/-- **The names of a text that closes its braces are found before those of what follows it.** -/
theorem templateNames_append {cs : List Char} (ds : List Char) : ∀ {fuel : Nat}, ClosesBraces cs →
    (cs ++ ds).length < fuel → templateNames fuel (cs ++ ds) = templateNames fuel cs ++ templateNames fuel ds := by
  induction cs using Template.scan_induction with
  | unclosed cs h =>
    rintro (_ | fuel) hcloses hfuel
    · exact absurd hfuel (Nat.not_lt_zero _)
    have hskip : ∀ c ∈ cs, (c != '{') = true := by
      intro c hc
      rw [bne_iff_ne]
      rintro rfl
      obtain ⟨before, rest, rfl⟩ := List.append_of_mem hc
      exact h (by simp [hcloses rest (List.suffix_append before _)])
    rw [Template.templateNames_unclosed h, List.nil_append, templateNames, List.dropWhile_append_of_pos hskip,
      templateNames]
  | skip c cs hc ih =>
    rintro (_ | fuel) hcloses hfuel
    · exact absurd hfuel (Nat.not_lt_zero _)
    rw [List.cons_append, Template.templateNames_literal hc, Template.templateNames_literal hc]
    exact ih (closesBraces_cons.1 hcloses).2 (Nat.lt_of_succ_lt hfuel)
  | closed inside rest h ih =>
    rintro (_ | fuel) hcloses hfuel
    · exact absurd hfuel (Nat.not_lt_zero _)
    have hrest : ClosesBraces rest := hcloses.of_suffix ⟨'{' :: (inside ++ ['}']), by simp⟩
    simp only [List.cons_append, List.append_assoc, List.length_cons, List.length_append] at hfuel ⊢
    have hds : templateNames (fuel + 1) ds = templateNames fuel ds :=
      Template.templateNames_fuel (by omega) (by omega)
    have happend : templateNames fuel (rest ++ ds) = templateNames fuel rest ++ templateNames fuel ds :=
      ih hrest (by rw [List.length_append]; omega)
    rw [Template.templateNames_closed h, Template.templateNames_closed h, happend, hds]
    split <;> rfl

theorem templateParams_append {a : String} (h : ClosesBraces a.toList) (b : String) :
    templateParams (a ++ b) = templateParams a ++ templateParams b := by
  simp only [templateParams, ← String.length_toList, String.toList_append]
  rw [templateNames_append _ h (Nat.lt_succ_self _), List.length_append,
    Template.templateNames_fuel (show a.toList.length < _ + 1 by omega) (Nat.lt_succ_self _),
    Template.templateNames_fuel (show b.toList.length < _ + 1 by omega) (Nat.lt_succ_self _)]

theorem templateParams_unclosed {a : String} (h : '}' ∉ a.toList) : templateParams a = [] :=
  Template.templateNames_unclosed h _

theorem templateParams_slashes (n : Nat) : templateParams (slashes n) = [] :=
  templateParams_unclosed (by simp)

theorem templateParams_slashes_append (n : Nat) (a : String) : templateParams (slashes n ++ a) = templateParams a := by
  have hcloses : ClosesBraces (slashes n).toList := by
    rw [toList_slashes, ← List.nil_append (List.replicate n '/'), closesBraces_append_slashes]
    exact closesBraces_nil
  rw [templateParams_append hcloses, templateParams_slashes, List.nil_append]

/-- Slashes after a text that closes its braces have no names. -/
theorem templateParams_append_slashes {a : String} (h : ClosesBraces a.toList) (n : Nat) :
    templateParams (a ++ slashes n) = templateParams a := by
  rw [templateParams_append h, templateParams_slashes, List.append_nil]

/-- Across a seam, the names of a prefix that closes its braces are found before those of the template. -/
theorem Seam.templateParams_eq {base template path : String} (h : Seam base template path)
    (hbase : ClosesBraces base.toList) : templateParams path = templateParams base ++ templateParams template := by
  have hslash : "/" = slashes 1 := rfl
  cases h with
  | between m n _ _ _ _ =>
    rw [String.toList_append, toList_slashes, closesBraces_append_slashes] at hbase
    rw [String.append_assoc, templateParams_append hbase, hslash, templateParams_slashes_append,
      templateParams_append_slashes hbase, templateParams_slashes_append]
  | base m n _ _ =>
    rw [String.toList_append, toList_slashes, closesBraces_append_slashes] at hbase
    rw [templateParams_append_slashes hbase, templateParams_slashes, List.append_nil]
  | template m n _ _ =>
    rw [hslash, templateParams_slashes_append, templateParams_slashes, templateParams_slashes_append, List.nil_append]
  | root m n => rw [hslash, templateParams_slashes, templateParams_slashes, templateParams_slashes, List.append_nil]

/-- What stands between an open brace and a slash is named once a brace is closed after it. -/
theorem templateParams_closed_ne_nil {rest : List Char} (h : '}' ∉ rest) :
    templateParams (.ofList ('{' :: rest) ++ "/\x7d") ≠ [] := by
  have hinside : '}' ∉ rest ++ ['/'] := by simpa using h
  have hname : captureName (rest ++ ['/']) ≠ [] := by
    intro hstars
    have hslash := List.dropWhile_eq_nil_iff.1 hstars '/' (by simp)
    cases hslash
  have htext : (String.ofList ('{' :: rest) ++ "/\x7d").toList = '{' :: ((rest ++ ['/']) ++ '}' :: []) := by simp
  rw [templateParams, htext, Template.templateNames_closed hinside, if_neg hname]
  exact List.cons_ne_nil _ _

/-- After a prefix that leaves a brace open, a template can close it. -/
theorem templateParams_joinPath_ne {base : String} (hbase : ¬ ClosesBraces base.toList) :
    templateParams (joinPath base "/\x7d") ≠ templateParams base ++ templateParams "/\x7d" := by
  obtain ⟨before, m, rfl, hend⟩ := exists_before base
  rw [String.toList_append, toList_slashes, closesBraces_append_slashes] at hbase
  have hne : before ≠ "" := by
    rintro rfl
    exact hbase closesBraces_nil
  have hpath : joinPath (before ++ slashes m) "/\x7d" = before ++ "/\x7d" := by
    rw [show "/\x7d" = slashes 1 ++ "\x7d" from rfl, joinPath_slashes, joinPath_of_trimmed hend (by decide),
      if_neg hne, if_neg (by decide), String.append_assoc]
    rfl
  obtain ⟨start, rest, hbefore, hstart, hrest⟩ := exists_unclosed hbase
  obtain rfl : before = .ofList start ++ .ofList ('{' :: rest) := by
    rw [← String.ofList_append, ← hbefore, String.ofList_toList]
  have hcloses : ClosesBraces (String.ofList start).toList := by rwa [String.toList_ofList]
  have hopen : templateParams (.ofList ('{' :: rest) ++ slashes m) = [] :=
    templateParams_unclosed (by simpa using hrest)
  have hnone : templateParams "/\x7d" = [] := by rfl
  rw [hpath, String.append_assoc, String.append_assoc, templateParams_append hcloses, templateParams_append hcloses,
    hopen, hnone, List.append_nil, List.append_nil, Ne, List.append_right_eq_self]
  exact templateParams_closed_ne_nil hrest

/-- **The names of a prefix and those of a template are together those of the path, whatever the template, iff the
prefix closes its braces.** -/
theorem templateParams_joinPath_iff (base : String) :
    (∀ template, IsPrefix template →
      templateParams (joinPath base template) = templateParams base ++ templateParams template) ↔
      ClosesBraces base.toList := by
  constructor
  · intro h
    by_contra hopen
    exact templateParams_joinPath_ne hopen (h _ (.inr (by decide)))
  · intro hbase template htemplate
    exact (seam_joinPath base htemplate).templateParams_eq hbase

end Switchyard

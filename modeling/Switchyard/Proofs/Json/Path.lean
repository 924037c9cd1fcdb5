import Mathlib.Data.List.TakeWhile
import Switchyard.Json.Path
import Switchyard.Proofs.Json.Pointer
import Switchyard.Proofs.Text.Split

/-!
# What paths address

The segments of a path are the longest runs between its marks. A path addresses the value that its segments reach, and
null if they reach none. A path that ends in `len()` is answered by a size: that is what it says if the text is a whole
segment, and not what it says if the text only ends a longer one.

Main result: `paths_address_iff`.
-/

namespace Switchyard.Json

/-! ## Segments -/

/-- The longest runs of characters between marks. -/
inductive Runs : List Char → List (List Char) → Prop
  | nil : Runs [] []
  | mark {c : Char} {rest : List Char} {segments : List (List Char)} (hmark : isPathMark c = true)
      (hrest : Runs rest segments) : Runs (c :: rest) segments
  | run {segment rest : List Char} {segments : List (List Char)} (hne : segment ≠ [])
      (hsegment : ∀ c ∈ segment, isPathMark c = false) (hend : ∀ c ∈ rest.head?, isPathMark c = true)
      (hrest : Runs rest segments) : Runs (segment ++ rest) (segment :: segments)

theorem pathSegments_append_mark {c : Char} (h : isPathMark c = true) (before rest : List Char) :
    pathSegments (before ++ c :: rest) = pathSegments before ++ pathSegments rest := by
  rw [pathSegments, splitAll_append_cons h, List.filter_append]
  rfl

theorem pathSegments_cons_mark {c : Char} (h : isPathMark c = true) (rest : List Char) :
    pathSegments (c :: rest) = pathSegments rest :=
  pathSegments_append_mark h [] rest

theorem pathSegments_of_forall {segment : List Char} (hne : segment ≠ [])
    (hsegment : ∀ c ∈ segment, isPathMark c = false) : pathSegments segment = [segment] := by
  rw [pathSegments, splitAll_of_forall hsegment]
  simp [hne]

theorem pathSegments_run {segment rest : List Char} (hne : segment ≠ []) (hsegment : ∀ c ∈ segment, isPathMark c = false)
    (hend : ∀ c ∈ rest.head?, isPathMark c = true) : pathSegments (segment ++ rest) = segment :: pathSegments rest := by
  cases rest with
  | nil =>
    rw [List.append_nil]
    exact pathSegments_of_forall hne hsegment
  | cons c rest =>
    have hc : isPathMark c = true := hend c rfl
    rw [pathSegments_append_mark hc, pathSegments_of_forall hne hsegment, pathSegments_cons_mark hc,
      List.singleton_append]

theorem runs_pathSegments (cs : List Char) : Runs cs (pathSegments cs) := by
  -- by induction on the length, since a run takes several characters at once
  induction hlength : cs.length using Nat.strongRecOn generalizing cs with
  | _ n ih =>
    cases cs with
    | nil => exact .nil
    | cons c rest =>
      by_cases hc : isPathMark c = true
      · rw [pathSegments_cons_mark hc]
        exact .mark hc (ih rest.length (by rw [← hlength]; simp) rest rfl)
      · have hplain : isPathMark c = false := by simpa using hc
        have hcut : (c :: rest).takeWhile (!isPathMark ·) ++ (c :: rest).dropWhile (!isPathMark ·) = c :: rest :=
          List.takeWhile_append_dropWhile
        have hne : (c :: rest).takeWhile (!isPathMark ·) ≠ [] := by simp [hplain]
        have hsegment : ∀ d ∈ (c :: rest).takeWhile (!isPathMark ·), isPathMark d = false := by
          intro d hd
          simpa using List.mem_takeWhile_imp hd
        have hend : ∀ d ∈ ((c :: rest).dropWhile (!isPathMark ·)).head?, isPathMark d = true := by
          intro d hd
          have hhead := List.head?_dropWhile_not (!isPathMark ·) (c :: rest)
          rw [Option.mem_def.1 hd] at hhead
          simpa using hhead
        have hshort : ((c :: rest).dropWhile (!isPathMark ·)).length < n := by
          have hlen := congrArg List.length hcut
          have hpos := List.length_pos_iff.2 hne
          rw [List.length_append, hlength] at hlen
          omega
        have hrest := Runs.run hne hsegment hend (ih _ hshort _ rfl)
        rwa [← pathSegments_run hne hsegment hend, hcut] at hrest

/-- **The segments of a path are the longest runs between its marks.** -/
theorem runs_iff {cs : List Char} {segments : List (List Char)} : Runs cs segments ↔ segments = pathSegments cs := by
  constructor
  · intro h
    induction h with
    | nil => rfl
    | mark hmark _ ih => rw [pathSegments_cons_mark hmark, ih]
    | run hne hsegment hend _ ih => rw [pathSegments_run hne hsegment hend, ih]
  · rintro rfl
    exact runs_pathSegments cs

/-- Marks at the end add no segment. -/
theorem pathSegments_append_marks {marks : List Char} (h : ∀ c ∈ marks, isPathMark c = true) (cs : List Char) :
    pathSegments (cs ++ marks) = pathSegments cs := by
  induction marks generalizing cs with
  | nil => rw [List.append_nil]
  | cons c marks ih =>
    have hc : isPathMark c = true := h c List.mem_cons_self
    rw [pathSegments_append_mark hc]
    have hnone := ih (fun d hd => h d (List.mem_cons_of_mem _ hd)) []
    rw [List.nil_append] at hnone
    rw [hnone]
    exact List.append_nil _

/-- So points at the end may be dropped. -/
theorem pathSegments_trimmed (cs : List Char) :
    pathSegments (cs.reverse.dropWhile (· == '.')).reverse = pathSegments cs := by
  have hcut : (cs.reverse.dropWhile (· == '.')).reverse ++ (cs.reverse.takeWhile (· == '.')).reverse = cs := by
    rw [← List.reverse_append, List.takeWhile_append_dropWhile, List.reverse_reverse]
  have hmarks : ∀ c ∈ (cs.reverse.takeWhile (· == '.')).reverse, isPathMark c = true := by
    intro c hc
    have hpoint := List.mem_takeWhile_imp (List.mem_reverse.1 hc)
    rw [beq_iff_eq] at hpoint
    rw [hpoint]
    rfl
  conv_rhs => rw [← hcut, pathSegments_append_marks hmarks]

/-! ## Values and sizes -/

/-- The value that segments reach, or null if there is none. -/
def Found (root : Json) (segments : List (List Char)) (v : Json) : Prop :=
  Reaches root segments v ∨ (∀ w, ¬ Reaches root segments w) ∧ v = .null

theorem found_valueAt (root : Json) (path : List Char) : Found root (pathSegments path) (root.valueAt path) := by
  unfold valueAt
  rw [pointer?_pointerOf]
  cases hfollow : follow? root (pathSegments path) with
  | none =>
    refine .inr ⟨fun w hw => ?_, rfl⟩
    rw [follow?_eq_some_iff.2 hw] at hfollow
    cases hfollow
  | some v => exact .inl (follow?_eq_some_iff.1 hfollow)

/-- The number of items, of members, or of bytes. -/
inductive HasSize : Json → Nat → Prop
  | array (items : List Json) : HasSize (.array items) items.length
  | object (members : List (String × Json)) : HasSize (.object members) members.length
  | string (s : String) : HasSize (.string s) s.utf8ByteSize

/-- The size of the value that segments reach; an error if there is none. -/
structure Sized (root : Json) (segments : List (List Char)) (answer : Except String Json) : Prop where
  size : ∀ v n, Reaches root segments v → HasSize v n → answer = .ok (.integer n)
  error : (∀ v n, Reaches root segments v → ¬ HasSize v n) → ∃ e, answer = .error e

theorem resolvePath_of_not_suffix {root : Json} {path : String} (h : ¬ sizeCall <:+ path.toList) :
    resolvePath root path = .ok (root.valueAt path.toList) := by
  have hnone : beforeEnd? sizeCall path.toList = none := by
    rw [Option.eq_none_iff_forall_ne_some]
    intro before hbefore
    exact h ⟨before, (beforeEnd?_eq_some_iff.1 hbefore).symm⟩
  rw [resolvePath, hnone]

theorem resolvePath_of_suffix (root : Json) {path : String} {before : List Char} (h : path.toList = before ++ sizeCall) :
    (∃ v n, Found root (pathSegments before) v ∧ HasSize v n ∧ resolvePath root path = .ok (.integer n)) ∨
      ∃ v e, Found root (pathSegments before) v ∧ (∀ n, ¬ HasSize v n) ∧ resolvePath root path = .error e := by
  have hfound := found_valueAt root (before.reverse.dropWhile (· == '.')).reverse
  rw [pathSegments_trimmed] at hfound
  rw [resolvePath, beforeEnd?_eq_some_iff.2 h]
  simp only
  generalize root.valueAt (before.reverse.dropWhile (· == '.')).reverse = v at hfound
  cases v with
  | array items => exact .inl ⟨_, _, hfound, .array items, rfl⟩
  | object members => exact .inl ⟨_, _, hfound, .object members, rfl⟩
  | string s => exact .inl ⟨_, _, hfound, .string s, rfl⟩
  | _ => exact .inr ⟨_, _, hfound, nofun, rfl⟩

theorem HasSize.unique {v : Json} {n m : Nat} (h : HasSize v n) (h' : HasSize v m) : n = m := by
  cases h <;> cases h' <;> rfl

theorem Found.eq {root v w : Json} {segments : List (List Char)} (h : Found root segments v)
    (hw : Reaches root segments w) : v = w := by
  rcases h with hv | ⟨hnone, -⟩
  · exact hv.unique hw
  · exact absurd hw (hnone w)

/-- What stands before the `len()` at the end of a path is what the size is of. -/
theorem sized_resolvePath {root : Json} {path : String} {before : List Char} (h : path.toList = before ++ sizeCall) :
    Sized root (pathSegments before) (resolvePath root path) := by
  rcases resolvePath_of_suffix root h with ⟨v, n, hfound, hsize, hanswer⟩ | ⟨v, e, hfound, hnone, hanswer⟩
  · refine ⟨fun w m hw hm => ?_, fun hunsized => ?_⟩
    · obtain rfl := hfound.eq hw
      rw [hanswer, hsize.unique hm]
    · rcases hfound with hv | ⟨-, rfl⟩
      · exact absurd hsize (hunsized v n hv)
      · cases hsize
  · refine ⟨fun w m hw hm => ?_, fun _ => ⟨e, hanswer⟩⟩
    obtain rfl := hfound.eq hw
    exact absurd hm (hnone m)

/-! ## What a path says -/

/-- The path ends in `len()`, and that is a whole segment. -/
def AsksSize (path : List Char) : Prop :=
  ∃ before, path = before ++ sizeCall ∧ ∀ c ∈ before.getLast?, isPathMark c = true

/-- The path ends in `len()`, and that only ends a longer segment. -/
def EndsInCall (path : List Char) : Prop :=
  ∃ before c, path = before ++ c :: sizeCall ∧ isPathMark c = false

/-- The answer is what the path addresses: the value that its segments reach, or null; or, if it asks for one, the size
of what the other segments reach. -/
structure Addresses (root : Json) (path : List Char) (answer : Except String Json) : Prop where
  value : ¬ AsksSize path → ∃ v, Found root (pathSegments path) v ∧ answer = .ok v
  size : AsksSize path → Sized root (pathSegments path).dropLast answer

theorem not_isPathMark_of_mem_sizeCall : ∀ c ∈ sizeCall, isPathMark c = false := by
  simp [sizeCall, isPathMark]

/-- A `len()` that is a whole segment is the last one. -/
theorem pathSegments_append_sizeCall {before : List Char} (h : ∀ c ∈ before.getLast?, isPathMark c = true) :
    pathSegments (before ++ sizeCall) = pathSegments before ++ [sizeCall] := by
  have hcall : pathSegments sizeCall = [sizeCall] := pathSegments_of_forall (by decide) not_isPathMark_of_mem_sizeCall
  rcases List.eq_nil_or_concat before with rfl | ⟨front, c, rfl⟩
  · exact hcall
  · rw [List.concat_eq_append] at h ⊢
    have hc : isPathMark c = true := h c (by simp)
    have hnone : pathSegments [] = [] := rfl
    rw [List.append_assoc, List.singleton_append, pathSegments_append_mark hc, pathSegments_append_mark hc, hcall, hnone,
      List.append_nil]

/-- A path that ends in `len()` asks for a size, or the text ends a longer segment. -/
theorem suffix_iff {path : List Char} : sizeCall <:+ path ↔ AsksSize path ∨ EndsInCall path := by
  constructor
  · rintro ⟨before, rfl⟩
    rcases List.eq_nil_or_concat before with rfl | ⟨front, c, rfl⟩
    · exact .inl ⟨[], rfl, by simp⟩
    · rw [List.concat_eq_append]
      by_cases hc : isPathMark c = true
      · exact .inl ⟨front ++ [c], rfl, by simpa using hc⟩
      · exact .inr ⟨front, c, by simp, by simpa using hc⟩
  · rintro (⟨before, rfl, -⟩ | ⟨before, c, rfl, -⟩)
    · exact ⟨before, rfl⟩
    · exact ⟨before ++ [c], by simp⟩

theorem AsksSize.not_endsInCall {path : List Char} (h : AsksSize path) : ¬ EndsInCall path := by
  rintro ⟨front, c, hpath, hc⟩
  obtain ⟨before, rfl, hmark⟩ := h
  have hsame : before ++ sizeCall = (front ++ [c]) ++ sizeCall := by rw [hpath]; simp
  obtain rfl := List.append_cancel_right hsame
  rw [hmark c (by simp)] at hc
  cases hc

/-- Objects in one another, so that segments reach a value in them. -/
def nested (leaf : Json) : List (List Char) → Json
  | [] => leaf
  | segment :: rest => .object [(.ofList segment, nested leaf rest)]

theorem reaches_nested (leaf : Json) (segments : List (List Char)) : Reaches (nested leaf segments) segments leaf := by
  induction segments with
  | nil => exact .here leaf
  | cons segment rest ih =>
    have hmember : lookup? (.ofList segment) [(String.ofList segment, nested leaf rest)] = some (nested leaf rest) := by
      simp [lookup?]
    have hreaches := Reaches.member hmember ih
    rwa [String.toList_ofList] at hreaches

/-- **When a path is answered by what it addresses.** The segments are the longest runs between marks. A path that does
not end in `len()` is answered by the value that its segments reach, or by null; one that does, by the size of what the
segments before that text reach. So it is answered by what it addresses in every value iff the text `len()` does not
end a longer segment of it. -/
theorem paths_address_iff (path : String) :
    (∀ segments, Runs path.toList segments ↔ segments = pathSegments path.toList) ∧
    (∀ root, ¬ sizeCall <:+ path.toList → ∃ v, Found root (pathSegments path.toList) v ∧ resolvePath root path = .ok v) ∧
    (∀ root before, path.toList = before ++ sizeCall → Sized root (pathSegments before) (resolvePath root path)) ∧
    ((∀ root, Addresses root path.toList (resolvePath root path)) ↔ ¬ EndsInCall path.toList) := by
  have hvalue : ∀ root, ¬ sizeCall <:+ path.toList →
      ∃ v, Found root (pathSegments path.toList) v ∧ resolvePath root path = .ok v :=
    fun root h => ⟨_, found_valueAt root path.toList, resolvePath_of_not_suffix h⟩
  refine ⟨fun segments => runs_iff, hvalue, fun root before h => sized_resolvePath h, ?exact⟩
  case exact =>
    constructor
    · intro haddresses hends
      obtain ⟨before, c, hpath, hc⟩ := hends
      have hplain : ¬ AsksSize path.toList := fun hasks => hasks.not_endsInCall ⟨before, c, hpath, hc⟩
      -- the path addresses a truth value here, and a size is none
      obtain ⟨v, hfound, hanswer⟩ := (haddresses (nested (.bool true) (pathSegments path.toList))).value hplain
      obtain rfl := hfound.eq (reaches_nested (.bool true) (pathSegments path.toList))
      have hpath' : path.toList = (before ++ [c]) ++ sizeCall := by rw [hpath]; simp
      rcases resolvePath_of_suffix (nested (.bool true) (pathSegments path.toList)) hpath' with
        ⟨w, n, -, -, hsize⟩ | ⟨w, e, -, -, herror⟩
      · rw [hsize] at hanswer
        cases hanswer
      · rw [herror] at hanswer
        cases hanswer
    · intro hends root
      refine ⟨fun hplain => hvalue root fun hsuffix => ?_, ?_⟩
      · rcases suffix_iff.1 hsuffix with hasks | hcall
        · exact hplain hasks
        · exact hends hcall
      · rintro ⟨before, hpath, hmark⟩
        rw [hpath, pathSegments_append_sizeCall hmark, List.dropLast_concat]
        exact sized_resolvePath hpath

/-- A member whose name ends in `len()` is not found. -/
theorem call_in_name_taken :
    Reaches (.object [("strlen()", .integer 7)]) (pathSegments "strlen()".toList) (.integer 7) ∧
    EndsInCall "strlen()".toList ∧
    resolvePath (.object [("strlen()", .integer 7)]) "strlen()" = .error "`str` is null, which has no length" ∧
    ¬ Addresses (.object [("strlen()", .integer 7)]) "strlen()".toList
      (resolvePath (.object [("strlen()", .integer 7)]) "strlen()") := by
  have hsegments : pathSegments "strlen()".toList = ["strlen()".toList] := by decide
  have hreaches : Reaches (.object [("strlen()", .integer 7)]) (pathSegments "strlen()".toList) (.integer 7) := by
    rw [hsegments]
    exact .member rfl (.here _)
  have hends : EndsInCall "strlen()".toList := ⟨['s', 't'], 'r', by decide, by decide⟩
  have hanswer : resolvePath (.object [("strlen()", .integer 7)]) "strlen()" =
      .error "`str` is null, which has no length" := by
    rfl
  refine ⟨hreaches, hends, hanswer, fun haddresses => ?_⟩
  obtain ⟨v, -, hvalue⟩ := haddresses.value fun hasks => hasks.not_endsInCall hends
  rw [hanswer] at hvalue
  cases hvalue

end Switchyard.Json

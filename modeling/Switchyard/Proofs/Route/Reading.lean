import Mathlib.Data.List.Infix
import Switchyard.Proofs.Route.Matching

/-!
# Reading a template

A template is read off the characters of a path: doubled braces stand for themselves, and a capture stands between
braces that are not doubled. `Reads` says so for a text and its template, without the marks and the fuel of the reader.

Main results: `reads_of_parse?` and `Reads.exists_match?`.
-/

namespace Switchyard

namespace Template

/-! ## Doubled braces -/

/-- A brace is doubled by the character after it. -/
def Doubled (c : Char) (cs : List Char) : Prop := cs.head? = some c ∧ (c = '{' ∨ c = '}')

/-- A text that another character ends doubles what it doubled without it. -/
theorem doubled_append {c d : Char} (hne : d ≠ c) (a b : List Char) : Doubled c (a ++ d :: b) ↔ Doubled c a := by
  cases a <;> simp [Doubled, hne]

theorem not_doubled {c : Char} {cs : List Char} (hopen : ∀ rest, c = '{' → cs = '{' :: rest → False)
    (hclose : ∀ rest, c = '}' → cs = '}' :: rest → False) : ¬ Doubled c cs := by
  rintro ⟨hhead, rfl | rfl⟩
  · obtain ⟨rest, rfl⟩ := List.head?_eq_some_iff.1 hhead
    exact hopen rest rfl rfl
  · obtain ⟨rest, rfl⟩ := List.head?_eq_some_iff.1 hhead
    exact hclose rest rfl rfl

theorem unescape_of_not_doubled {c : Char} {cs : List Char} (h : ¬ Doubled c cs) :
    unescape (c :: cs) = ⟨c, false⟩ :: unescape cs := by
  rw [unescape]
  · rintro rest rfl rfl
    exact h ⟨rfl, .inl rfl⟩
  · rintro rest rfl rfl
    exact h ⟨rfl, .inr rfl⟩

theorem unescape_cons {c : Char} (hopen : c ≠ '{') (hclose : c ≠ '}') (cs : List Char) :
    unescape (c :: cs) = ⟨c, false⟩ :: unescape cs :=
  unescape_of_not_doubled fun h => h.2.elim hopen hclose

/-- A brace is doubled by the same brace only. -/
theorem unescape_cons_of_head? {c : Char} {cs : List Char} (h : cs.head? ≠ some c) :
    unescape (c :: cs) = ⟨c, false⟩ :: unescape cs :=
  unescape_of_not_doubled fun hdouble => h hdouble.1

theorem head?_unescape (cs : List Char) : (unescape cs).head?.map Mark.char = cs.head? := by
  fun_cases unescape cs <;> rfl

theorem mem_iff_exists_unescape {c : Char} (cs : List Char) : c ∈ cs ↔ ∃ m ∈ unescape cs, m.char = c := by
  fun_induction unescape cs with
  | case1 rest ih => simp [ih, eq_comm]
  | case2 rest ih => simp [ih, eq_comm]
  | case3 d rest _ _ ih => simp [ih, eq_comm]
  | case4 => simp

theorem unescape_eq_nil {cs : List Char} (h : unescape cs = []) : cs = [] := by
  have hhead := head?_unescape cs
  rw [h] at hhead
  exact List.head?_eq_none_iff.1 hhead.symm

/-- The characters that a text with doubled braces stands for. -/
def plain (cs : List Char) : List Char := (unescape cs).map Mark.char

theorem mem_plain {c : Char} {cs : List Char} : c ∈ plain cs ↔ c ∈ cs := by
  rw [mem_iff_exists_unescape cs, plain, List.mem_map]

theorem head?_plain (cs : List Char) : (plain cs).head? = cs.head? := by
  rw [plain, List.head?_map, head?_unescape]

/-- A text stands for itself if nothing in it is doubled; else it is longer than what it stands for. -/
theorem plain_eq_iff (cs : List Char) : plain cs = cs ↔ ∀ m ∈ unescape cs, m.escaped = false := by
  have hle : ∀ cs : List Char, (plain cs).length ≤ cs.length := by
    intro cs
    rw [plain, List.length_map]
    fun_induction unescape cs with
    | case1 rest ih => simp only [List.length_cons]; omega
    | case2 rest ih => simp only [List.length_cons]; omega
    | case3 d rest _ _ ih => simp only [List.length_cons]; omega
    | case4 => exact Nat.le_refl 0
  have hne : ∀ (c : Char) (rest : List Char), c :: plain rest ≠ c :: c :: rest := by
    intro c rest h
    have := hle rest
    have := congrArg List.length h
    simp only [List.length_cons] at this
    omega
  unfold plain at hne ⊢
  fun_induction unescape cs with
  | case1 rest _ => simpa using hne '{' rest
  | case2 rest _ => simpa using hne '}' rest
  | case3 d rest _ _ ih => simp [ih]
  | case4 => simp

/-! ## Reading a template -/

/-- What may stand between the braces of a capture, a star in front apart. -/
structure NameText (a : List Char) : Prop where
  ne_nil : a ≠ []
  star : '*' ∉ a
  closing : ⟨'}', false⟩ ∉ unescape a

/-- How a text is read as a template. -/
inductive Reads : List Char → Template → Prop
  | nil : Reads [] []
  | opening {cs : List Char} {t : Template} : Reads cs t → Reads ('{' :: '{' :: cs) (.literal '{' :: t)
  | closing {cs : List Char} {t : Template} : Reads cs t → Reads ('}' :: '}' :: cs) (.literal '}' :: t)
  | literal {c : Char} {cs : List Char} {t : Template} (hopen : c ≠ '{') (hclose : c ≠ '}') :
      Reads cs t → Reads (c :: cs) (.literal c :: t)
  | segment {a cs : List Char} {t : Template} (ha : NameText a) (hopen : a.head? ≠ some '{')
      (hnext : ∀ c ∈ cs.head?, c = '/') :
      Reads cs t → Reads ('{' :: (a ++ '}' :: cs)) (.segment (.ofList (plain a)) :: t)
  | rest {a : List Char} (ha : NameText a) : Reads ('{' :: '*' :: (a ++ ['}'])) [.rest (.ofList (plain a))]

/-- A name ends at the first closing brace that is not doubled, and no star is in it. -/
theorem closeName_eq_some {cs : List Char} : ∀ {read name : List Char} {tail : List Mark},
    closeName read (unescape cs) = some (name, tail) →
      ∃ a b, cs = a ++ '}' :: b ∧ '*' ∉ a ∧ ⟨'}', false⟩ ∉ unescape a ∧ name = read.reverse ++ plain a ∧
        tail = unescape b := by
  fun_induction unescape cs with
  | case1 rest ih =>
    intro read name tail h
    obtain ⟨a, b, rfl, hstar, hclose, rfl, rfl⟩ := ih h
    exact ⟨'{' :: '{' :: a, b, rfl, by simpa using hstar, by simpa [unescape] using hclose, by simp [plain, unescape],
      rfl⟩
  | case2 rest ih =>
    intro read name tail h
    obtain ⟨a, b, rfl, hstar, hclose, rfl, rfl⟩ := ih h
    exact ⟨'}' :: '}' :: a, b, rfl, by simpa using hstar, by simpa [unescape] using hclose, by simp [plain, unescape],
      rfl⟩
  | case3 c rest hopen hclosed ih =>
    intro read name tail h
    rw [closeName] at h
    by_cases hc : c = '}'
    · subst hc
      cases h
      exact ⟨[], rest, rfl, by simp, by simp [unescape], by simp [plain, unescape], rfl⟩
    · rw [if_neg (by simp [hc])] at h
      split at h
      · cases h
      · rename_i hstar
        obtain ⟨a, b, rfl, hin, hclose, rfl, rfl⟩ := ih h
        obtain ⟨hstar, -⟩ := not_or.1 (by simpa using hstar)
        have hcons : unescape (c :: a) = ⟨c, false⟩ :: unescape a :=
          unescape_of_not_doubled (mt (doubled_append (Ne.symm hc) a b).2 (not_doubled hopen hclosed))
        exact ⟨c :: a, b, rfl, by simp [hin, Ne.symm hstar], by simp [hcons, hclose, Ne.symm hc],
          by simp [plain, hcons], rfl⟩
  | case4 => intro read name tail h; cases h

/-- A capture ends at the first closing brace that is not doubled; what takes all of the rest ends the template. -/
theorem capture?_eq_some {cs : List Char} {part : TemplatePart} {tail : List Mark} (hopen : cs.head? ≠ some '{')
    (h : capture? (unescape cs) = some (part, tail)) :
    (∃ a b, cs = a ++ '}' :: b ∧ NameText a ∧ a.head? ≠ some '{' ∧ part = .segment (.ofList (plain a)) ∧
      tail = unescape b) ∨
    (∃ a, cs = '*' :: (a ++ ['}']) ∧ NameText a ∧ part = .rest (.ofList (plain a)) ∧ tail = []) := by
  cases cs with
  | nil => cases h
  | cons c cs =>
    have hc : c ≠ '{' := by simpa using hopen
    by_cases hbrace : c = '}'
    · subst hbrace
      cases cs with
      | nil => cases h
      | cons d cs =>
        by_cases hd : d = '}'
        · subst hd
          cases h
        · rw [unescape_cons_of_head? (by simpa using hd), capture?, if_pos rfl] at h
          cases h
    · rw [unescape_cons hc hbrace, capture?, if_neg hbrace] at h
      split at h
      · cases h
      · rename_i name tail' hread
        obtain ⟨a, b, rfl, hstar, hclose, rfl, rfl⟩ := closeName_eq_some hread
        rw [List.reverse_nil, List.nil_append] at h
        by_cases hcstar : c = '*'
        · subst hcstar
          rw [if_pos rfl] at h
          split at h
          · cases h
          · rename_i hparts
            obtain ⟨hname, hend⟩ : plain a ≠ [] ∧ unescape b = [] := by simpa using hparts
            obtain rfl := unescape_eq_nil hend
            cases h
            refine .inr ⟨a, rfl, ⟨?_, hstar, hclose⟩, rfl, rfl⟩
            rintro rfl
            exact hname rfl
        · rw [if_neg hcstar] at h
          cases h
          have hcons := unescape_cons hc hbrace a
          exact .inl ⟨c :: a, b, rfl, ⟨List.cons_ne_nil c a, by simp [hstar, Ne.symm hcstar],
            by simp [hcons, hclose, Ne.symm hbrace]⟩, by simpa using hc, by simp [plain, hcons], rfl⟩

/-- What the marks of a text are parsed as is read off the text. -/
theorem reads_of_ofMarks? : ∀ {fuel : Nat} {cs : List Char} {t : Template},
    ofMarks? fuel (unescape cs) = some t → cs.length < fuel → Reads cs t
  | 0, _, _, _, hfuel => absurd hfuel (Nat.not_lt_zero _)
  | _ + 1, [], _, h, _ => by
    cases h
    exact .nil
  | fuel + 1, c :: cs, t, h, hfuel => by
    have hlt : cs.length < fuel := Nat.lt_of_succ_lt_succ hfuel
    by_cases hdouble : Doubled c cs
    · obtain ⟨hhead, hc⟩ := hdouble
      obtain ⟨cs, rfl⟩ := List.head?_eq_some_iff.1 hhead
      have hlt' : cs.length < fuel := Nat.lt_of_succ_lt hlt
      rcases hc with rfl | rfl
      · obtain ⟨t', ht', rfl⟩ := Option.map_eq_some_iff.1 h
        exact .opening (reads_of_ofMarks? ht' hlt')
      · obtain ⟨t', ht', rfl⟩ := Option.map_eq_some_iff.1 h
        exact .closing (reads_of_ofMarks? ht' hlt')
    · rw [unescape_of_not_doubled hdouble, ofMarks?, if_neg Bool.false_ne_true] at h
      split at h
      · cases h
      rename_i hclose
      split at h
      case isFalse hopen =>
        obtain ⟨t', ht', rfl⟩ := Option.map_eq_some_iff.1 h
        exact .literal hopen hclose (reads_of_ofMarks? ht' hlt)
      case isTrue hopen =>
        obtain rfl : c = '{' := hopen
        split at h
        · cases h
        rename_i part tail hcapture
        obtain ⟨a, b, rfl, ha, hopen, rfl, rfl⟩ | ⟨a, rfl, ha, rfl, rfl⟩ :=
          capture?_eq_some (fun hhead => hdouble ⟨hhead, .inl rfl⟩) hcapture
        · split at h
          · rename_i hend
            obtain rfl := unescape_eq_nil hend
            cases h
            exact .segment ha hopen (by simp) .nil
          · rename_i n _ hnext
            have hhead := head?_unescape b
            rw [hnext, List.head?_cons, Option.map_some] at hhead
            split at h
            · rename_i hslash
              obtain ⟨t', ht', rfl⟩ := Option.map_eq_some_iff.1 h
              refine .segment ha hopen (by simp [← hhead, hslash]) (reads_of_ofMarks? ht' ?_)
              simp only [List.length_append, List.length_cons] at hlt
              omega
            · cases h
        · cases h
          exact .rest ha

/-- A path is read as the template that it is parsed as. -/
theorem reads_of_parse? {path : String} {t : Template} (h : parse? path = some t) : Reads path.toList t := by
  rw [parse?] at h
  split at h
  · rename_i rest hpath
    split at h
    · cases h
    · split at h
      · rename_i parts hparts
        split at h
        · cases h
        · cases h
          rw [← hpath] at hparts
          refine reads_of_ofMarks? hparts ?_
          rw [String.length_toList]
          exact Nat.lt_succ_self _
      · cases h
  · cases h

/-! ## What is read can be matched -/

theorem Reads.next {cs : List Char} {t : Template} (h : Reads cs t) (hnext : ∀ c ∈ cs.head?, c = '/') :
    t = [] ∨ ∃ parts, t = .literal '/' :: parts := by
  cases h with
  | nil => exact .inl rfl
  | @literal c cs t _ _ _ =>
    obtain rfl := hnext c rfl
    exact .inr ⟨t, rfl⟩
  | opening => exact absurd (hnext _ rfl) (by decide)
  | closing => exact absurd (hnext _ rfl) (by decide)
  | segment => exact absurd (hnext _ rfl) (by decide)
  | rest => exact absurd (hnext _ rfl) (by decide)

theorem Reads.exists_match? {cs : List Char} {t : Template} (h : Reads cs t) :
    ∃ target captured, t.match? target = some captured := by
  have hliteral : ∀ {c : Char} {t : Template}, (∃ target captured, t.match? target = some captured) →
      ∃ target captured, match? (.literal c :: t) target = some captured := by
    rintro c t ⟨target, captured, htarget⟩
    exact ⟨c :: target, captured, by simp [match?, htarget]⟩
  induction h with
  | nil => exact ⟨[], [], rfl⟩
  | opening _ ih => exact hliteral ih
  | closing _ ih => exact hliteral ih
  | literal _ _ _ ih => exact hliteral ih
  | @segment a cs t _ _ hnext hread ih =>
    obtain ⟨target, captured, htarget⟩ := ih
    refine ⟨'x' :: target, (.ofList (plain a), ['x']) :: captured, ?_⟩
    have hends : target.takeWhile (· != '/') = [] ∧ target.dropWhile (· != '/') = target := by
      obtain rfl | ⟨parts, rfl⟩ := hread.next hnext
      · cases target with
        | nil => exact ⟨rfl, rfl⟩
        | cons d target => cases htarget
      · cases target with
        | nil => cases htarget
        | cons d target =>
          rw [match?] at htarget
          split at htarget
          · rename_i hd
            subst hd
            exact ⟨rfl, rfl⟩
          · cases htarget
    simp [match?, hends, htarget]
  | @rest a _ => exact ⟨['x'], [(.ofList (plain a), ['x'])], rfl⟩

end Template

end Switchyard

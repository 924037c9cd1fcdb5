import Mathlib.Data.List.TakeWhile
import Switchyard.Proofs.Route.Reading

/-!
# Names between braces

The names of a path are found by looking for braces, and a template tells doubled braces from those that open and
close a capture. The two agree on a path exactly if its braces are `legible`: no doubled brace that opens is followed
by a brace that closes, and no name holds a doubled brace.

Main result: `Reads.names_iff`, by induction on how the text is read.
-/

namespace Switchyard

namespace Template

/-! ## Looking for braces -/

theorem templateNames_nil (fuel : Nat) : templateNames fuel [] = [] := by
  cases fuel <;> rfl

theorem templateNames_literal {c : Char} (hc : c ≠ '{') (fuel : Nat) (cs : List Char) :
    templateNames (fuel + 1) (c :: cs) = templateNames (fuel + 1) cs := by
  simp [templateNames, hc]

/-- A star after a brace is passed over. -/
theorem templateNames_star (fuel : Nat) (cs : List Char) :
    templateNames (fuel + 1) ('{' :: '*' :: cs) = templateNames (fuel + 1) ('{' :: cs) := by
  simp [templateNames, captureName]

theorem templateNames_unclosed {cs : List Char} (h : '}' ∉ cs) : ∀ fuel, templateNames fuel cs = []
  | 0 => rfl
  | fuel + 1 => by
    rw [templateNames]
    split
    · rfl
    · rename_i c inside hdrop
      have hmem : '}' ∉ inside := fun hin =>
        h ((List.dropWhile_suffix _).subset (hdrop ▸ List.mem_cons_of_mem c hin))
      have hinside : inside.dropWhile (· != '}') = [] := by
        rw [List.dropWhile_eq_nil_iff]
        intro d hd
        simpa using fun heq : d = '}' => hmem (heq ▸ hd)
      rw [hinside]

theorem takeWhile_closing {inside : List Char} (h : '}' ∉ inside) (rest : List Char) :
    (inside ++ '}' :: rest).takeWhile (· != '}') = inside := by
  rw [List.takeWhile_append_of_pos fun c hc => by simpa using ne_of_mem_of_not_mem hc h]
  simp

theorem dropWhile_closing {inside : List Char} (h : '}' ∉ inside) (rest : List Char) :
    (inside ++ '}' :: rest).dropWhile (· != '}') = '}' :: rest := by
  rw [List.dropWhile_append_of_pos fun c hc => by simpa using ne_of_mem_of_not_mem hc h]
  simp

/-- What stands up to the closing brace is named, unless nothing but stars does. -/
theorem templateNames_closed {inside rest : List Char} (hbrace : '}' ∉ inside) (fuel : Nat) :
    templateNames (fuel + 1) ('{' :: (inside ++ '}' :: rest)) =
      if captureName inside = [] then templateNames fuel rest
      else .ofList (captureName inside) :: templateNames fuel rest := by
  simp only [templateNames, List.dropWhile_cons, bne_self_eq_false, Bool.false_eq_true, if_false,
    dropWhile_closing hbrace, takeWhile_closing hbrace, List.isEmpty_iff]

theorem captureName_of_head? {cs : List Char} (h : cs.head? ≠ some '*') : captureName cs = cs := by
  cases cs with
  | nil => rfl
  | cons c cs =>
    have hc : c ≠ '*' := by simpa using h
    simp [captureName, hc]

theorem captureName_of_not_mem {cs : List Char} (h : '*' ∉ cs) : captureName cs = cs :=
  captureName_of_head? fun hhead => h (List.mem_of_mem_head? hhead)

/-- Induction along the search: nothing is closed any more, a character is passed over, or a capture is closed. -/
theorem scan_induction {motive : List Char → Prop} (unclosed : ∀ cs, '}' ∉ cs → motive cs)
    (skip : ∀ c cs, c ≠ '{' → motive cs → motive (c :: cs))
    (closed : ∀ inside rest, '}' ∉ inside → motive rest → motive ('{' :: (inside ++ '}' :: rest))) :
    ∀ cs, motive cs
  | [] => unclosed [] (by simp)
  | c :: cs => by
    by_cases hc : c = '{'
    · subst hc
      by_cases hclose : '}' ∈ cs
      · obtain ⟨inside, rest, rfl, hinside⟩ := List.eq_append_cons_of_mem hclose
        exact closed inside rest hinside (scan_induction unclosed skip closed rest)
      · exact unclosed _ (by simpa using hclose)
    · exact skip c cs hc (scan_induction unclosed skip closed cs)
termination_by cs => cs.length

/-- The search ends by itself. -/
theorem templateNames_fuel {cs : List Char} : ∀ {fuel fuel' : Nat}, cs.length < fuel → cs.length < fuel' →
    templateNames fuel cs = templateNames fuel' cs := by
  induction cs using scan_induction with
  | unclosed cs h =>
    intro fuel fuel' _ _
    rw [templateNames_unclosed h, templateNames_unclosed h]
  | skip c cs hc ih =>
    rintro (_ | fuel) (_ | fuel') hfuel hfuel'
    · rfl
    · exact absurd hfuel (Nat.not_lt_zero _)
    · exact absurd hfuel' (Nat.not_lt_zero _)
    · rw [templateNames_literal hc, templateNames_literal hc]
      exact ih (Nat.lt_of_succ_lt hfuel) (Nat.lt_of_succ_lt hfuel')
  | closed inside rest h ih =>
    simp only [List.length_cons, List.length_append]
    rintro (_ | fuel) (_ | fuel') hfuel hfuel'
    · rfl
    · exact absurd hfuel (Nat.not_lt_zero _)
    · exact absurd hfuel' (Nat.not_lt_zero _)
    · rw [templateNames_closed h, templateNames_closed h, ih (show _ < fuel by omega) (show _ < fuel' by omega)]

theorem closing_not_mem_templateNames {cs : List Char} : ∀ {fuel : Nat} {name : String},
    name ∈ templateNames fuel cs → '}' ∉ name.toList := by
  induction cs using scan_induction with
  | unclosed cs h =>
    intro fuel name hname
    rw [templateNames_unclosed h] at hname
    cases hname
  | skip c cs hc ih =>
    rintro (_ | fuel) name hname
    · cases hname
    · rw [templateNames_literal hc] at hname
      exact ih hname
  | closed inside rest h ih =>
    rintro (_ | fuel) name hname
    · cases hname
    · rw [templateNames_closed h] at hname
      split at hname
      · exact ih hname
      · rcases List.mem_cons.1 hname with rfl | hname
        · rw [String.toList_ofList]
          exact fun hin => h ((List.dropWhile_suffix _).subset hin)
        · exact ih hname

/-- What stands between a brace and a closing one is found, unless it is nothing but stars. -/
theorem templateNames_ne_nil {cs : List Char} : ∀ {before after : List Char} {fuel : Nat},
    cs = before ++ '{' :: after → '}' ∈ after → captureName (after.takeWhile (· != '}')) ≠ [] → cs.length < fuel →
      templateNames fuel cs ≠ [] := by
  induction cs using scan_induction with
  | unclosed cs h =>
    rintro before after fuel rfl hclose
    simp [hclose] at h
  | skip c cs hc ih =>
    rintro before after (_ | fuel) hcs hclose hname hfuel
    · exact absurd hfuel (Nat.not_lt_zero _)
    · rw [templateNames_literal hc]
      cases before with
      | nil => exact absurd (List.cons.inj hcs).1 hc
      | cons d before => exact ih (List.cons.inj hcs).2 hclose hname (Nat.lt_of_succ_lt hfuel)
  | closed inside rest h ih =>
    rintro before after (_ | fuel) hcs hclose hname hfuel
    · exact absurd hfuel (Nat.not_lt_zero _)
    · rw [templateNames_closed h]
      split
      case isFalse => exact List.cons_ne_nil _ _
      case isTrue hstars =>
        cases before with
        | nil =>
          rw [← (List.cons.inj hcs).2, takeWhile_closing h] at hname
          exact absurd hstars hname
        | cons d before =>
          obtain ⟨more, rfl, hmore⟩ | ⟨more, rfl, hmore⟩ := List.append_eq_append_iff.1 (List.cons.inj hcs).2
          · -- the brace stands after what is closed here
            cases more with
            | nil => cases hmore
            | cons e more =>
              refine ih (List.cons.inj hmore).2 hclose hname ?_
              simp only [List.length_cons, List.length_append] at hfuel
              omega
          · -- the brace stands between the stars
            cases more with
            | nil => cases hmore
            | cons e more =>
              obtain ⟨rfl, -⟩ := List.cons.inj hmore
              have hstar := List.dropWhile_eq_nil_iff.1 hstars '{' (by simp)
              simp at hstar

/-! ## Legible braces -/

/-- Whether braces are told apart by looking for them: outside of a capture, a doubled brace that opens is followed by
no brace that closes; inside of one no brace is doubled. -/
def legible (inside : Bool) : List Mark → Bool
  | [] => true
  | m :: rest =>
    if inside then !m.escaped && legible (m.char != '}') rest
    else if m.escaped && m.char == '{' then rest.all (·.char != '}')
    else legible (!m.escaped && m.char == '{') rest

/-- Marks that are not doubled are told apart. -/
theorem legible_of_forall : ∀ {ms : List Mark} {inside : Bool}, (∀ m ∈ ms, m.escaped = false) → legible inside ms
  | [], _, _ => rfl
  | m :: rest, inside, h => by
    have hm := h m List.mem_cons_self
    have hrest : ∀ n ∈ rest, n.escaped = false := fun n hn => h n (List.mem_cons_of_mem m hn)
    cases inside <;> simp [legible, hm, legible_of_forall hrest]

/-- A capture is told apart if nothing in its name is doubled. -/
theorem legible_capture {ns : List Mark} : ∀ {ms : List Mark}, ⟨'}', false⟩ ∉ ms →
    (legible true (ms ++ ⟨'}', false⟩ :: ns) = true ↔ (∀ m ∈ ms, m.escaped = false) ∧ legible false ns = true)
  | [], _ => by simp [legible]
  | ⟨c, true⟩ :: ms, _ => by simp [legible]
  | ⟨c, false⟩ :: ms, h => by
    obtain ⟨hc, hms⟩ := not_or.1 (mt List.mem_cons.2 h)
    have hchar : (c != '}') = true := bne_iff_ne.2 fun heq => hc (by rw [heq])
    simp [legible, hchar, legible_capture hms]

/-- The brace that closes a capture is not taken for the second half of a doubled one. -/
theorem unescape_append {cs : List Char} (hnext : cs.head? ≠ some '}') : ∀ {a : List Char},
    ⟨'}', false⟩ ∉ unescape a → unescape (a ++ '}' :: cs) = unescape a ++ ⟨'}', false⟩ :: unescape cs := by
  intro a
  fun_induction unescape a with
  | case1 rest ih => intro h; simp [unescape, ih (by simpa using h)]
  | case2 rest ih => intro h; simp [unescape, ih (by simpa using h)]
  | case3 c rest hopen hclose ih =>
    intro h
    obtain ⟨hc, hrest⟩ := not_or.1 (mt List.mem_cons.2 h)
    have hchar : '}' ≠ c := fun heq => hc (by rw [heq])
    have hdouble : ¬ Doubled c (rest ++ '}' :: cs) := mt (doubled_append hchar rest cs).1 (not_doubled hopen hclose)
    rw [List.cons_append, unescape_of_not_doubled hdouble, ih hrest, List.cons_append]
  | case4 => intro _; exact unescape_cons_of_head? hnext

/-! ## The names of what was read -/

/-- The name of a capture is found, and the names after it, iff nothing in it is doubled. -/
theorem templateNames_eq_cons_iff {a cs : List Char} {names : List String} (ha : NameText a) (fuel : Nat) :
    templateNames (fuel + 1) ('{' :: (a ++ '}' :: cs)) = .ofList (plain a) :: names ↔
      (∀ m ∈ unescape a, m.escaped = false) ∧ templateNames fuel cs = names := by
  rw [← plain_eq_iff]
  by_cases hclose : '}' ∈ a
  · have hne : plain a ≠ a := by
      intro heq
      obtain ⟨⟨c, escaped⟩, hm, rfl⟩ := (mem_iff_exists_unescape a).1 hclose
      obtain rfl := (plain_eq_iff a).1 heq _ hm
      exact ha.closing hm
    refine iff_of_false (fun h => ?_) (fun h => hne h.1)
    have hname := closing_not_mem_templateNames (h ▸ List.mem_cons_self)
    rw [String.toList_ofList, mem_plain] at hname
    exact hname hclose
  · rw [templateNames_closed hclose, captureName_of_not_mem ha.star, if_neg ha.ne_nil, List.cons.injEq,
      String.ofList_inj, eq_comm (a := a)]

theorem Reads.names_eq_nil {cs : List Char} {t : Template} (h : Reads cs t) : '}' ∉ cs → t.names = [] := by
  induction h with
  | nil => intro _; rfl
  | opening _ ih => intro hcs; exact ih (by simpa using hcs)
  | closing => intro hcs; simp at hcs
  | literal _ _ _ ih => intro hcs; exact ih (mt (List.mem_cons_of_mem _) hcs)
  | segment => intro hcs; simp at hcs
  | rest => intro hcs; simp at hcs

/-- A name that starts with a brace is that of what takes all of the rest, where a star keeps the braces apart. -/
theorem Reads.names_eq_cons {cs name : List Char} {t : Template} {names : List String} (h : Reads cs t) :
    t.names = .ofList ('{' :: name) :: names → names = [] ∧ '*' ∉ name ∧
      ∃ before after, cs = before ++ '{' :: '*' :: '{' :: after ∧ '}' ∈ after := by
  induction h with
  | nil => intro h; cases h
  | @opening cs t _ ih =>
    intro h
    obtain ⟨hnames, hname, before, after, rfl, hafter⟩ := ih h
    exact ⟨hnames, hname, '{' :: '{' :: before, after, rfl, hafter⟩
  | @closing cs t _ ih =>
    intro h
    obtain ⟨hnames, hname, before, after, rfl, hafter⟩ := ih h
    exact ⟨hnames, hname, '}' :: '}' :: before, after, rfl, hafter⟩
  | @literal c cs t _ _ _ ih =>
    intro h
    obtain ⟨hnames, hname, before, after, rfl, hafter⟩ := ih h
    exact ⟨hnames, hname, c :: before, after, rfl, hafter⟩
  | @segment a cs t ha hopen _ _ _ =>
    intro h
    have hplain := String.ofList_inj.1 (List.cons.inj h).1
    rw [← head?_plain, hplain] at hopen
    exact absurd rfl hopen
  | @rest a ha =>
    intro h
    obtain ⟨hname, rfl⟩ := List.cons.inj h
    have hplain := String.ofList_inj.1 hname
    have hhead := head?_plain a
    rw [hplain] at hhead
    obtain ⟨after, rfl⟩ := List.head?_eq_some_iff.1 hhead.symm
    have hstar : '*' ∉ plain ('{' :: after) := mt mem_plain.1 ha.star
    rw [hplain] at hstar
    exact ⟨rfl, mt (List.mem_cons_of_mem _) hstar, [], after ++ ['}'], rfl, by simp⟩

/-- After a doubled brace that opens, what stands up to a closing one is taken for a name, and it is not that of a
capture. -/
theorem Reads.names_ne {cs : List Char} {t : Template} (h : Reads cs t) (hclose : '}' ∈ cs) {fuel : Nat}
    (hfuel : cs.length < fuel) : templateNames (fuel + 1) ('{' :: '{' :: cs) ≠ t.names := by
  intro heq
  obtain ⟨name, rest, rfl, hname⟩ := List.eq_append_cons_of_mem hclose
  have hinside : '}' ∉ '{' :: name := by simpa using hname
  have hkept : captureName ('{' :: name) = '{' :: name := captureName_of_head? (by simp)
  rw [← List.cons_append, templateNames_closed hinside, hkept, if_neg (List.cons_ne_nil _ _)] at heq
  obtain ⟨hnames, hstar, before, after, hcs, hafter⟩ := h.names_eq_cons heq.symm
  obtain ⟨more, rfl, hmore⟩ | ⟨more, rfl, hmore⟩ := List.append_eq_append_iff.1 hcs
  · -- the capture stands after the closing brace, where the search finds it
    cases more with
    | nil => cases hmore
    | cons e more =>
      refine templateNames_ne_nil (List.cons.inj hmore).2 (by simp [hafter]) (by simp [captureName]) ?_ hnames
      simp only [List.length_append, List.length_cons] at hfuel
      omega
  · -- the capture starts inside of the name
    match more, hmore with
    | _ :: _ :: more, hmore =>
      obtain ⟨-, hmore⟩ := List.cons.inj hmore
      obtain ⟨rfl, -⟩ := List.cons.inj hmore
      simp at hstar

/-- **The names between the braces of a text are those that its template captures iff its braces are told apart.** -/
theorem Reads.names_iff {cs : List Char} {t : Template} (h : Reads cs t) : ∀ {fuel : Nat}, cs.length < fuel →
    (templateNames fuel cs = t.names ↔ legible false (unescape cs) = true) := by
  induction h with
  | nil => intro fuel _; simp [templateNames_nil, names, legible, unescape]
  | @opening cs t hread ih =>
    rintro (_ | fuel) hfuel
    · exact absurd hfuel (Nat.not_lt_zero _)
    have hall : legible false (unescape ('{' :: '{' :: cs)) = true ↔ '}' ∉ cs := by
      rw [mem_iff_exists_unescape cs]
      simp [legible, unescape]
    rw [hall]
    by_cases hclose : '}' ∈ cs
    · exact iff_of_false (hread.names_ne hclose (by simp only [List.length_cons] at hfuel; omega)) (not_not.2 hclose)
    · have hunclosed : '}' ∉ '{' :: '{' :: cs := by simpa using hclose
      exact iff_of_true ((templateNames_unclosed hunclosed _).trans (hread.names_eq_nil hclose).symm) hclose
  | @closing cs t _ ih =>
    rintro (_ | fuel) hfuel
    · exact absurd hfuel (Nat.not_lt_zero _)
    rw [templateNames_literal (by decide), templateNames_literal (by decide), names]
    refine (ih ?_).trans (by simp [legible, unescape])
    simp only [List.length_cons] at hfuel
    omega
  | @literal c cs t hopen hclose _ ih =>
    rintro (_ | fuel) hfuel
    · exact absurd hfuel (Nat.not_lt_zero _)
    rw [templateNames_literal hopen, names, unescape_cons hopen hclose]
    exact (ih (Nat.lt_of_succ_lt hfuel)).trans (by simp [legible, beq_false_of_ne hopen])
  | @segment a cs t ha hopen hnext _ ih =>
    rintro (_ | fuel) hfuel
    · exact absurd hfuel (Nat.not_lt_zero _)
    have hhead : (a ++ '}' :: cs).head? ≠ some '{' := by
      rwa [List.head?_append, Option.or_of_isSome (by simpa using ha.ne_nil)]
    have hend : cs.head? ≠ some '}' := fun heq => absurd (hnext _ heq) (by decide)
    rw [names, templateNames_eq_cons_iff ha, unescape_cons_of_head? hhead, unescape_append hend ha.closing]
    simp only [List.length_cons, List.length_append] at hfuel
    exact (and_congr_right' (ih (by omega))).trans (by simp [legible, legible_capture ha.closing])
  | @rest a ha =>
    rintro (_ | fuel) hfuel
    · exact absurd hfuel (Nat.not_lt_zero _)
    rw [names, templateNames_star, templateNames_eq_cons_iff ha, unescape_cons_of_head? (by simp),
      unescape_cons (by decide) (by decide), unescape_append (by simp) ha.closing]
    simp [legible, legible_capture ha.closing, templateNames_nil, unescape]

end Template

end Switchyard

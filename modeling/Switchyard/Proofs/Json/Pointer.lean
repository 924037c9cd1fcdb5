import Switchyard.Json.Pointer
import Switchyard.Proofs.Number.Digits
import Switchyard.Proofs.Text.Split

/-!
# Pointers lead where their tokens say

Any text is read back from a token: where slashes are escaped after tildes, their escapes are resolved before those of
tildes, and an escaped token holds no slash. So a pointer is cut where it was joined, and following it is following the
tokens that it was made of: members by their names, items by the digits of their indices.

Main results: `pointer?_pointerOf` and `follow?_eq_some_iff`.
-/

namespace Switchyard.Json

/-! ## Escapes -/

theorem replaceChar_cons (c : Char) (by' : List Char) (d : Char) (cs : List Char) :
    replaceChar c by' (d :: cs) = (if d = c then by' else [d]) ++ replaceChar c by' cs := by
  rw [replaceChar, List.flatMap_cons]
  rfl

theorem replacePair_cons {first second by' c : Char} {cs : List Char} (h : c = first → cs.head? ≠ some second) :
    replacePair first second by' (c :: cs) = c :: replacePair first second by' cs := by
  cases cs with
  | nil => rfl
  | cons d cs =>
    rw [replacePair, if_neg]
    rintro ⟨hc, hd⟩
    exact h hc (by rw [hd, List.head?_cons])

/-- The escapes of tildes are resolved. -/
theorem replacePair_tildes (cs : List Char) : replacePair '~' '0' '~' (replaceChar '~' ['~', '0'] cs) = cs := by
  induction cs with
  | nil => rfl
  | cons c cs ih =>
    rw [replaceChar_cons]
    by_cases hc : c = '~'
    · rw [if_pos hc, hc]
      simp only [List.cons_append, List.nil_append]
      rw [replacePair, if_pos ⟨rfl, rfl⟩, ih]
    · rw [if_neg hc, List.singleton_append, replacePair_cons fun h => absurd h hc, ih]

/-- The escapes of slashes are resolved, and the escapes of tildes are left as they are. -/
theorem replacePair_slashes (cs : List Char) :
    replacePair '~' '1' '/' (escapeToken cs) = replaceChar '~' ['~', '0'] cs := by
  unfold escapeToken
  induction cs with
  | nil => rfl
  | cons c cs ih =>
    rw [replaceChar_cons '~']
    by_cases htilde : c = '~'
    · -- a zero follows the tilde, so no escape of a slash begins there
      rw [if_pos htilde]
      simp only [List.cons_append, List.nil_append, replaceChar_cons '/']
      rw [if_neg (by decide), if_neg (by decide), List.singleton_append, List.singleton_append,
        replacePair_cons (by simp), replacePair_cons (by simp), ih]
    · rw [if_neg htilde, List.singleton_append, replaceChar_cons '/']
      by_cases hslash : c = '/'
      · rw [if_pos hslash, hslash]
        simp only [List.cons_append, List.nil_append]
        rw [replacePair, if_pos ⟨rfl, rfl⟩, ih]
      · rw [if_neg hslash, List.singleton_append, replacePair_cons fun h => absurd h htilde, ih]

theorem unescapeToken_escapeToken (token : List Char) : unescapeToken (escapeToken token) = token := by
  rw [unescapeToken, replacePair_slashes, replacePair_tildes]

example : unescapeToken "~01".toList = "~1".toList := by decide

/-- An escaped token holds no slash. -/
theorem no_slash_escapeToken {token : List Char} {c : Char} (hc : c ∈ escapeToken token) : (c == '/') = false := by
  unfold escapeToken at hc
  obtain ⟨d, -, hd⟩ := List.mem_flatMap.1 hc
  by_cases hslash : d = '/'
  · rw [if_pos hslash] at hd
    simp only [List.mem_cons, List.not_mem_nil, or_false] at hd
    rcases hd with rfl | rfl <;> decide
  · rw [if_neg hslash, List.mem_singleton] at hd
    simpa [hd] using hslash

/-! ## Pointers -/

/-- A pointer is cut into the tokens that it was made of. -/
theorem splitAll_pointerOf (token : List Char) (tokens : List (List Char)) :
    splitAll (· == '/') (escapeToken token ++ pointerOf tokens) = escapeToken token :: tokens.map escapeToken := by
  induction tokens generalizing token with
  | nil =>
    rw [pointerOf, List.flatMap_nil, List.append_nil, List.map_nil]
    exact splitAll_of_forall fun c hc => no_slash_escapeToken hc
  | cons next tokens ih =>
    have hcut : splitAll (· == '/') (escapeToken token ++ '/' :: (escapeToken next ++ pointerOf tokens)) =
        escapeToken token :: splitAll (· == '/') (escapeToken next ++ pointerOf tokens) :=
      splitAll_append (fun c hc => no_slash_escapeToken hc) (by decide)
    rw [List.map_cons, ← ih next, ← hcut]
    rfl

/-- **A pointer leads where its tokens lead.** -/
theorem pointer?_pointerOf (v : Json) (tokens : List (List Char)) : v.pointer? (pointerOf tokens) = follow? v tokens := by
  cases tokens with
  | nil => rfl
  | cons token tokens =>
    have hread : (splitAll (· == '/') (escapeToken token ++ pointerOf tokens)).map unescapeToken = token :: tokens := by
      rw [splitAll_pointerOf]
      simp [unescapeToken_escapeToken, Function.comp_def]
    have hwalk : v.pointer? (pointerOf (token :: tokens)) =
        follow? v ((splitAll (· == '/') (escapeToken token ++ pointerOf tokens)).map unescapeToken) := rfl
    rw [hwalk, hread]

/-! ## Steps -/

theorem index?_eq_some_iff {token : List Char} {i : Nat} : index? token = some i ↔ token = decimalDigits i := by
  constructor
  · intro h
    unfold index? at h
    split at h
    · obtain rfl := Option.some.inj h
      rfl
    · cases h
    · rename_i hzero hlead
      split at h
      · rename_i hdigits
        obtain rfl := Option.some.inj h
        simp only [Bool.and_eq_true, List.all_eq_true, isDigit_eq, Bool.not_eq_true', List.isEmpty_eq_false_iff] at hdigits
        rw [digitsValue_eq]
        refine (decimalDigits_ofDigitChars hdigits.1 hdigits.2 fun hhead => ?_).symm
        cases token with
        | nil => cases hhead
        | cons c cs =>
          obtain rfl := Option.some.inj hhead
          exact absurd rfl (hlead cs)
      · cases h
  · rintro rfl
    by_cases hi : i = 0
    · subst hi
      rfl
    · obtain ⟨c, cs, hdigits, hall, hfirst, -⟩ := exists_decimalDigits_of_ne_zero hi
      have hvalue := ofDigitChars_decimalDigits i
      have hlead : c ≠ '0' := by
        rintro rfl
        exact hfirst rfl
      rw [hdigits] at hvalue ⊢
      rw [index?]
      · rw [if_pos, digitsValue_eq, hvalue]
        simpa [isDigit_eq] using hall
      · rintro ⟨⟩
        exact hlead rfl
      · rintro rest ⟨⟩
        exact hlead rfl

/-- A value is reached from another by names of members and digits of indices. -/
inductive Reaches : Json → List (List Char) → Json → Prop
  | here (v : Json) : Reaches v [] v
  | member {members : List (String × Json)} {name : String} {v w : Json} {rest : List (List Char)}
      (hmember : lookup? name members = some v) (hrest : Reaches v rest w) : Reaches (.object members) (name.toList :: rest) w
  | item {items : List Json} {i : Nat} {v w : Json} {rest : List (List Char)} (hitem : items[i]? = some v)
      (hrest : Reaches v rest w) : Reaches (.array items) (decimalDigits i :: rest) w

/-- **Following tokens reaches what they name**, and nothing else. -/
theorem follow?_eq_some_iff {tokens : List (List Char)} {v w : Json} : follow? v tokens = some w ↔ Reaches v tokens w := by
  constructor
  · intro h
    induction tokens generalizing v with
    | nil =>
      obtain rfl := Option.some.inj h
      exact .here v
    | cons token tokens ih =>
      obtain ⟨u, hstep, hrest⟩ := Option.bind_eq_some_iff.1 h
      cases v with
      | object members =>
        have hmember := Reaches.member hstep (ih hrest)
        rwa [String.toList_ofList] at hmember
      | array items =>
        obtain ⟨i, hi, hitem⟩ := Option.bind_eq_some_iff.1 hstep
        obtain rfl := index?_eq_some_iff.1 hi
        exact .item hitem (ih hrest)
      | _ => cases hstep
  · intro h
    induction h with
    | here v => rfl
    | member hmember hrest ih =>
      refine Option.bind_eq_some_iff.2 ⟨_, ?_, ih⟩
      rwa [step?, String.ofList_toList]
    | item hitem hrest ih =>
      refine Option.bind_eq_some_iff.2 ⟨_, ?_, ih⟩
      rw [step?, index?_eq_some_iff.2 rfl]
      exact hitem

/-- From a value, tokens reach at most one other. -/
theorem Reaches.unique {tokens : List (List Char)} {v w w' : Json} (h : Reaches v tokens w) (h' : Reaches v tokens w') :
    w = w' := by
  have hw := follow?_eq_some_iff.2 h
  rw [follow?_eq_some_iff.2 h', Option.some.injEq] at hw
  exact hw.symm

end Switchyard.Json

import Switchyard.Number.Scaled
import Switchyard.Proofs.Except
import Switchyard.Proofs.Number.Digits

/-!
# Numerals

An optional sign and at least one digit make a numeral, which has a value whatever its length. A text is read as an
integer of a type iff it is a numeral whose value the type contains, and only a signed type takes a minus: on the way
the value only moves away from zero, so it is refused as soon as it leaves the type and never wraps around. As an
integer of any size every numeral is read, and nothing with other characters than digits, underscores and signs.

Main results: `readChars_eq_ok_iff` and `readBigInteger_numeral`.
-/

namespace Switchyard

/-- The sign in front of a number. -/
inductive Sign where
  | none
  | plus
  | minus
  deriving DecidableEq, Repr

/-- The characters of a sign. -/
def Sign.chars : Sign → List Char
  | .none => []
  | .plus => ['+']
  | .minus => ['-']

/-- An optional sign, then at least one decimal digit. -/
structure Numeral where
  sign : Sign
  digits : List Char
  isDigit : ∀ c ∈ digits, c.isDigit = true
  ne_nil : digits ≠ []

namespace Numeral

/-- The characters of a numeral. -/
def chars (l : Numeral) : List Char := l.sign.chars ++ l.digits

/-- The text of a numeral. -/
def text (l : Numeral) : String := .ofList l.chars

/-- The number that the digits stand for. -/
def magnitude (l : Numeral) : Nat := Nat.ofDigitChars 10 l.digits 0

/-- The number that a numeral stands for. -/
def value (l : Numeral) : Int := if l.sign = .minus then -(l.magnitude : Int) else l.magnitude

/-- The shortest numeral of an integer. -/
def ofInt (n : Int) : Numeral where
  sign := if n < 0 then .minus else .none
  digits := decimalDigits n.natAbs
  isDigit := fun _ hc => isDigit_of_mem_decimalDigits hc
  ne_nil := by
    obtain ⟨c, cs, hdigits, -⟩ := exists_decimalDigits n.natAbs
    simp [hdigits]

theorem text_ofInt (n : Int) : (ofInt n).text = integerText n := by
  unfold text chars ofInt integerText
  split <;> rfl

theorem value_ofInt (n : Int) : (ofInt n).value = n := by
  have hmagnitude : (ofInt n).magnitude = n.natAbs := ofDigitChars_decimalDigits n.natAbs
  unfold value
  rw [hmagnitude]
  by_cases hneg : n < 0
  · rw [if_pos (by simp [ofInt, hneg])]
    omega
  · rw [if_neg (by simp [ofInt, hneg])]
    omega

theorem exists_cons (l : Numeral) : ∃ c cs, l.digits = c :: cs ∧ c.isDigit = true := by
  cases hdigits : l.digits with
  | nil => exact absurd hdigits l.ne_nil
  | cons c cs => exact ⟨c, cs, rfl, l.isDigit c (by simp [hdigits])⟩

theorem ne_sign_of_isDigit {c : Char} (h : c.isDigit = true) : '+' ≠ c ∧ '-' ≠ c := by
  constructor
  · rintro rfl
    exact absurd h (by decide)
  · rintro rfl
    exact absurd h (by decide)

theorem chars_injective {l m : Numeral} (h : l.chars = m.chars) : l = m := by
  obtain ⟨c, cs, hl, hc⟩ := l.exists_cons
  obtain ⟨d, ds, hm, hd⟩ := m.exists_cons
  have hcsign := ne_sign_of_isDigit hc
  have hdsign := ne_sign_of_isDigit hd
  have hsame : l.sign = m.sign ∧ l.digits = m.digits := by
    unfold chars at h
    rw [hl, hm] at h ⊢
    cases hs : l.sign <;> cases hs' : m.sign <;> simp [Sign.chars, hs, hs'] at h ⊢
    all_goals grind
  cases l
  cases m
  simpa using hsame

/-! ### Literals -/

/-- A numeral without a plus and without needless zeros in front. -/
structure Literal (l : Numeral) : Prop where
  no_plus : l.sign ≠ .plus
  no_zeros : l.digits.head? = some '0' → l.digits = ['0']

theorem Literal.digits_eq {l : Numeral} (h : l.Literal) : l.digits = decimalDigits l.magnitude :=
  (decimalDigits_ofDigitChars l.isDigit l.ne_nil h.no_zeros).symm

theorem literal_ofInt (n : Int) : (ofInt n).Literal where
  no_plus := by
    unfold ofInt
    simp only
    split <;> decide
  no_zeros := by
    intro hzero
    obtain ⟨c, cs, hdigits, hfirst, hlone⟩ := exists_decimalDigits n.natAbs
    have hcons : (ofInt n).digits = c :: cs := hdigits
    rw [hcons, List.head?_cons, Option.some.injEq] at hzero
    rw [hcons, hzero, hlone (hfirst hzero)]

/-- A literal is the decimal text of its value, unless it is a zero with a minus. -/
theorem Literal.text_eq {l : Numeral} (h : l.Literal) (hzero : l.sign = .minus → l.value ≠ 0) :
    l.text = integerText l.value := by
  have hdigits := h.digits_eq
  unfold text chars integerText
  cases hsign : l.sign with
  | none =>
    have hvalue : l.value = l.magnitude := by simp [value, hsign]
    rw [hvalue, if_neg (by omega), Int.natAbs_natCast, ← hdigits]
    rfl
  | plus => exact absurd hsign h.no_plus
  | minus =>
    have hnonzero := hzero hsign
    have hvalue : l.value = -(l.magnitude : Int) := by simp [value, hsign]
    rw [hvalue] at hnonzero
    rw [hvalue, if_pos (by omega), Int.natAbs_neg, Int.natAbs_natCast, ← hdigits]
    rfl

end Numeral

/-! ## Integer types -/

namespace IntegerType

variable {t : IntegerType} {n : Int} {c : Char}

theorem least_le_zero (t : IntegerType) : t.least ≤ 0 := by
  unfold least
  split <;> omega

theorem zero_le_greatest (t : IntegerType) : 0 ≤ t.greatest := by
  have hpos : ∀ bits, 0 < twoTo bits := fun bits => Nat.pow_pos (by decide)
  unfold greatest
  split
  · have := hpos (t.bits - 1)
    omega
  · have := hpos t.bits
    omega

theorem readUp_cons (hc : c.isDigit = true) (m : Nat) (cs : List Char) :
    t.readUp m (c :: cs) =
      if ((m * 10 + (c.toNat - 48) : Nat) : Int) ≤ t.greatest then t.readUp ((m * 10 + (c.toNat - 48) : Nat) : Int) cs
      else .error .tooLarge := by
  have hnext : (m : Int) * 10 + ((c.toNat - 48 : Nat) : Int) = ((m * 10 + (c.toNat - 48) : Nat) : Int) := by
    omega
  simp only [readUp, digitValue?_of_isDigit hc, hnext]

theorem readDown_cons (hc : c.isDigit = true) (m : Nat) (cs : List Char) :
    t.readDown (-m) (c :: cs) =
      if t.least ≤ -((m * 10 + (c.toNat - 48) : Nat) : Int) then t.readDown (-((m * 10 + (c.toNat - 48) : Nat) : Int)) cs
      else .error .tooSmall := by
  have hnext : -(m : Int) * 10 - ((c.toNat - 48 : Nat) : Int) = -((m * 10 + (c.toNat - 48) : Nat) : Int) := by
    omega
  simp only [readDown, digitValue?_of_isDigit hc, hnext]

/-- Digits and nothing else are read upwards, up to the greatest value. -/
theorem readUp_eq_ok_iff (cs : List Char) (m : Nat) (hm : (m : Int) ≤ t.greatest) :
    t.readUp m cs = .ok n ↔
      (∀ c ∈ cs, c.isDigit = true) ∧ (Nat.ofDigitChars 10 cs m : Int) ≤ t.greatest ∧ (Nat.ofDigitChars 10 cs m : Int) = n := by
  induction cs generalizing m with
  | nil => simpa [readUp] using fun _ => hm
  | cons c cs ih =>
    by_cases hc : c.isDigit = true
    · have hle := le_ofDigitChars cs (m * 10 + (c.toNat - 48))
      rw [readUp_cons hc, ofDigitChars_digit_cons]
      split
      · rename_i hfits
        rw [ih _ hfits]
        simp [hc]
      · rename_i hlarge
        -- further digits only move the value away from the type
        constructor
        · rintro ⟨⟩
        · rintro ⟨-, hfits, -⟩
          omega
    · have hnone : digitValue? c = none := by
        rw [Option.eq_none_iff_forall_ne_some]
        intro d hd
        exact hc (digitValue?_eq_some_iff.1 hd).1
      simp [readUp, hnone, hc]

theorem readDown_eq_ok_iff (cs : List Char) (m : Nat) (hm : t.least ≤ -(m : Int)) :
    t.readDown (-m) cs = .ok n ↔
      (∀ c ∈ cs, c.isDigit = true) ∧ t.least ≤ -(Nat.ofDigitChars 10 cs m : Int) ∧ -(Nat.ofDigitChars 10 cs m : Int) = n := by
  induction cs generalizing m with
  | nil => simpa [readDown] using fun _ => hm
  | cons c cs ih =>
    by_cases hc : c.isDigit = true
    · have hle := le_ofDigitChars cs (m * 10 + (c.toNat - 48))
      rw [readDown_cons hc, ofDigitChars_digit_cons]
      split
      · rename_i hfits
        rw [ih _ hfits]
        simp [hc]
      · rename_i hsmall
        constructor
        · rintro ⟨⟩
        · rintro ⟨-, hfits, -⟩
          omega
    · have hnone : digitValue? c = none := by
        rw [Option.eq_none_iff_forall_ne_some]
        intro d hd
        exact hc (digitValue?_eq_some_iff.1 hd).1
      simp [readDown, hnone, hc]

/-- What starts with a digit is read upwards. -/
theorem readChars_of_isDigit {c : Char} (h : c.isDigit = true) (cs : List Char) :
    t.readChars (c :: cs) = t.readUp 0 (c :: cs) := by
  have hplus : c ≠ '+' := by rintro rfl; exact absurd h (by decide)
  have hminus : c ≠ '-' := by rintro rfl; exact absurd h (by decide)
  rw [readChars] <;> simp_all

/-- A type that takes the sign of a numeral and contains its value. -/
structure Takes (t : IntegerType) (l : Numeral) : Prop where
  sign : l.sign = .minus → t.signed = true
  contains : t.Contains l.value

/-- A numeral that the type takes is read as its value. -/
theorem readChars_numeral {l : Numeral} (h : t.Takes l) : t.readChars l.chars = .ok l.value := by
  obtain ⟨c, cs, hdigits, hc⟩ := l.exists_cons
  have hall : ∀ d ∈ c :: cs, d.isDigit = true := hdigits ▸ l.isDigit
  have hmagnitude : l.magnitude = Nat.ofDigitChars 10 (c :: cs) 0 := by rw [Numeral.magnitude, hdigits]
  have hchars : l.chars = l.sign.chars ++ c :: cs := by rw [Numeral.chars, hdigits]
  have hup : l.sign ≠ .minus → t.readUp 0 (c :: cs) = .ok l.value := by
    intro hsign
    have hgreatest := h.contains.2
    rw [Numeral.value, if_neg hsign, hmagnitude] at hgreatest ⊢
    exact (readUp_eq_ok_iff _ 0 t.zero_le_greatest).2 ⟨hall, hgreatest, rfl⟩
  cases hsign : l.sign with
  | none =>
    rw [hchars, hsign, Sign.chars, List.nil_append, readChars_of_isDigit hc]
    exact hup (by simp [hsign])
  | plus =>
    rw [hchars, hsign, Sign.chars, List.singleton_append, readChars]
    · exact hup (by simp [hsign])
    · simp
  | minus =>
    have hleast := h.contains.1
    rw [Numeral.value, if_pos hsign, hmagnitude] at hleast ⊢
    rw [hchars, hsign, Sign.chars, List.singleton_append, readChars, if_pos (h.sign hsign)]
    · exact (readDown_eq_ok_iff _ 0 (by simpa using t.least_le_zero)).2 ⟨hall, hleast, rfl⟩
    · simp

/-- What is read is a numeral that the type takes. -/
theorem exists_numeral {cs : List Char} (h : t.readChars cs = .ok n) :
    ∃ l : Numeral, l.chars = cs ∧ t.Takes l ∧ l.value = n := by
  have hleast := t.least_le_zero
  have hgreatest := t.zero_le_greatest
  -- after no sign and after a plus the digits are read alike
  have hup : ∀ (s : Sign) (ds : List Char), s ≠ .minus → ds ≠ [] → t.readUp 0 ds = .ok n →
      ∃ l : Numeral, l.chars = s.chars ++ ds ∧ t.Takes l ∧ l.value = n := by
    intro s ds hs hds hread
    obtain ⟨hdigits, hfits, rfl⟩ := (readUp_eq_ok_iff ds 0 hgreatest).1 hread
    have hvalue : (⟨s, ds, hdigits, hds⟩ : Numeral).value = Nat.ofDigitChars 10 ds 0 := by
      simp [Numeral.value, Numeral.magnitude, hs]
    refine ⟨⟨s, ds, hdigits, hds⟩, rfl, ⟨fun hminus => absurd hminus hs, ?_⟩, hvalue⟩
    rw [hvalue]
    exact ⟨by omega, hfits⟩
  unfold readChars at h
  split at h
  · cases h
  · cases h
  · cases h
  · rename_i ds hds
    exact hup .plus ds (by decide) hds h
  · rename_i ds hds
    split at h
    · rename_i hsigned
      obtain ⟨hdigits, hfits, rfl⟩ := (readDown_eq_ok_iff ds 0 (by simpa using hleast)).1 h
      refine ⟨⟨.minus, ds, hdigits, hds⟩, rfl, ⟨fun _ => hsigned, hfits, ?_⟩, rfl⟩
      simp only [Numeral.value, Numeral.magnitude, if_true]
      omega
    · cases h
  · rename_i hcs _ _ _ _
    exact hup .none cs (by decide) hcs h

/-- **Exactly the numerals that a type takes are read, each as its value.** -/
theorem readChars_eq_ok_iff {cs : List Char} :
    t.readChars cs = .ok n ↔ ∃ l : Numeral, l.chars = cs ∧ t.Takes l ∧ l.value = n := by
  constructor
  · exact exists_numeral
  · rintro ⟨l, rfl, htakes, rfl⟩
    exact readChars_numeral htakes

/-- The shortest numeral of a value is one that the type takes. -/
theorem takes_ofInt (h : t.Contains n) : t.Takes (.ofInt n) where
  sign := by
    intro hminus
    have hneg : n < 0 := by
      by_contra hpos
      simp [Numeral.ofInt, hpos] at hminus
    by_contra hunsigned
    have hleast := h.1
    simp only [least, hunsigned, if_false] at hleast
    omega
  contains := by rwa [Numeral.value_ofInt]

end IntegerType

/-! ## Integers of any size -/

theorem readGrouped_digits : ∀ (cs : List Char) (n : Nat), (∀ c ∈ cs, c.isDigit = true) →
    readGrouped n cs = .ok (Nat.ofDigitChars 10 cs n)
  | [], n, _ => by rw [readGrouped, Nat.ofDigitChars_nil]
  | c :: cs, n, h => by
    have hc : c.isDigit = true := h c List.mem_cons_self
    have hne : c ≠ '_' := by
      rintro rfl
      exact absurd hc (by decide)
    simp only [readGrouped, if_neg hne, digitValue?_of_isDigit hc]
    rw [ofDigitChars_digit_cons]
    exact readGrouped_digits cs _ fun d hd => h d (List.mem_cons_of_mem _ hd)

/-- Digits are read as their number, whether a plus stands before them or not. -/
theorem readMagnitude_digits {cs : List Char} (h : ∀ c ∈ cs, c.isDigit = true) (hne : cs ≠ []) :
    readMagnitude cs = .ok (Nat.ofDigitChars 10 cs 0) ∧ readMagnitude ('+' :: cs) = .ok (Nat.ofDigitChars 10 cs 0) := by
  have hread := readGrouped_digits cs 0 h
  cases cs with
  | nil => exact absurd rfl hne
  | cons c cs =>
    have hc : c.isDigit = true := h c List.mem_cons_self
    have hplus : c ≠ '+' := (Numeral.ne_sign_of_isDigit hc).1.symm
    have hgroup : c ≠ '_' := by
      rintro rfl
      exact absurd hc (by decide)
    constructor
    · simpa [readMagnitude, hplus, hgroup] using hread
    · simpa [readMagnitude, hplus, hgroup] using hread

theorem readBigInteger_numeral (l : Numeral) : readBigInteger l.chars = .ok l.value := by
  obtain ⟨c, cs, hdigits, hc⟩ := l.exists_cons
  obtain ⟨hplus, hminus⟩ := Numeral.ne_sign_of_isDigit hc
  obtain ⟨hplain, hsigned⟩ := readMagnitude_digits l.isDigit l.ne_nil
  unfold Numeral.chars Numeral.value Numeral.magnitude
  cases hsign : l.sign with
  | none =>
    rw [hdigits] at hplain ⊢
    simp [Sign.chars, readBigInteger, hminus.symm, hplain, Except.map]
  | plus =>
    rw [hdigits] at hsigned ⊢
    simp [Sign.chars, readBigInteger, hsigned, Except.map]
  | minus =>
    rw [hdigits] at hplain ⊢
    simp [Sign.chars, readBigInteger, hplus.symm, hplain, Except.map]

/-! ## Characters of numerals -/

/-- A character that an integer may be written with. -/
def isNumeralChar (c : Char) : Bool := c.isDigit || c == '_' || c == '+' || c == '-'

theorem Numeral.isNumeralChar_of_mem {l : Numeral} {c : Char} (h : c ∈ l.chars) : isNumeralChar c = true := by
  unfold chars at h
  rcases List.mem_append.1 h with hsign | hdigit
  · cases hs : l.sign <;> simp [Sign.chars, hs] at hsign <;> subst hsign <;> decide
  · simp [isNumeralChar, l.isDigit c hdigit]

theorem isNumeralChar_of_readGrouped : ∀ {cs : List Char} {n m : Nat}, readGrouped n cs = .ok m →
    ∀ c ∈ cs, isNumeralChar c = true
  | [], _, _, _ => nofun
  | d :: cs, n, m, h => by
    intro c hc
    unfold readGrouped at h
    split at h
    · rename_i hgroup
      rcases List.mem_cons.1 hc with rfl | hc
      · subst hgroup
        decide
      · exact isNumeralChar_of_readGrouped h c hc
    · split at h
      · rename_i hdigit
        rcases List.mem_cons.1 hc with rfl | hc
        · simp [isNumeralChar, (digitValue?_eq_some_iff.1 hdigit).1]
        · exact isNumeralChar_of_readGrouped h c hc
      · cases h

/-- A magnitude is read from its digits after an optional plus. -/
theorem exists_readGrouped {cs : List Char} {n : Nat} (h : readMagnitude cs = .ok n) :
    ∃ digits, (cs = digits ∨ cs = '+' :: digits) ∧ readGrouped 0 digits = .ok n := by
  unfold readMagnitude at h
  split at h
  · exact ⟨_, .inl rfl, h⟩
  · simp only at h
    split at h
    · cases h
    · cases h
    · exact ⟨_, .inr rfl, h⟩
  · simp only at h
    split at h
    · cases h
    · cases h
    · exact ⟨_, .inl rfl, h⟩

theorem isNumeralChar_of_readMagnitude {cs : List Char} {n : Nat} (h : readMagnitude cs = .ok n) :
    ∀ c ∈ cs, isNumeralChar c = true := by
  intro c hc
  obtain ⟨digits, rfl | rfl, hread⟩ := exists_readGrouped h
  · exact isNumeralChar_of_readGrouped hread c hc
  · rcases List.mem_cons.1 hc with rfl | hc
    · decide
    · exact isNumeralChar_of_readGrouped hread c hc

/-- An integer of any size is read from nothing but digits, underscores and signs. -/
theorem isNumeralChar_of_readBigInteger {cs : List Char} {n : Int} (h : readBigInteger cs = .ok n) :
    ∀ c ∈ cs, isNumeralChar c = true := by
  intro c hc
  unfold readBigInteger at h
  split at h
  · cases h
  · rename_i digits _
    rcases List.mem_cons.1 hc with rfl | hc
    · decide
    · cases hread : readMagnitude digits with
      | error e => simp [hread, bind, Except.bind, Except.map] at h
      | ok m => exact isNumeralChar_of_readMagnitude hread c hc
  · obtain ⟨m, hm, -⟩ := map_eq_ok_iff.1 h
    exact isNumeralChar_of_readMagnitude hm c hc

end Switchyard

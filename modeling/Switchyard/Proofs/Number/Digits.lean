import Mathlib.Data.List.Basic
import Mathlib.Data.List.Induction
import Mathlib.Tactic.IntervalCases
import Switchyard.Number.Decimal
import Switchyard.Number.Integer

/-!
# Decimal digits

The digits of a number have its value, and only zero starts with a zero. So there is one way to write a number in
digits that do not start with a needless zero.

Main results: `ofDigitChars_decimalDigits` and `decimalDigits_ofDigitChars`.
-/

namespace Switchyard

/-- A character that is a decimal digit. -/
theorem isDigit_of_mem_decimalDigits {n : Nat} {c : Char} (h : c ∈ decimalDigits n) : c.isDigit = true :=
  Nat.isDigit_of_mem_toDigits (by decide) (by decide) h

theorem ofDigitChars_decimalDigits (n : Nat) : Nat.ofDigitChars 10 (decimalDigits n) 0 = n :=
  Nat.ofDigitChars_toDigits (by decide) (by decide)

/-- A digit moves those before it one place up. -/
theorem ofDigitChars_digit_cons (c : Char) (cs : List Char) (n : Nat) :
    Nat.ofDigitChars 10 (c :: cs) n = Nat.ofDigitChars 10 cs (n * 10 + (c.toNat - 48)) := by
  rw [Nat.ofDigitChars_cons, Nat.mul_comm]
  rfl

theorem isDigit_iff {c : Char} : c.isDigit = true ↔ 48 ≤ c.toNat ∧ c.toNat ≤ 57 := by
  simp only [Char.isDigit, Bool.and_eq_true, decide_eq_true_eq, ge_iff_le, UInt32.le_iff_toNat_le]
  rfl

theorem digitValue?_of_isDigit {c : Char} (h : c.isDigit = true) : digitValue? c = some (c.toNat - 48) := by
  rw [digitValue?, if_pos]
  simpa [Char.le_def, UInt32.le_iff_toNat_le] using isDigit_iff.1 h

theorem digitValue?_eq_some_iff {c : Char} {d : Nat} : digitValue? c = some d ↔ c.isDigit = true ∧ d = c.toNat - 48 := by
  constructor
  · intro h
    unfold digitValue? at h
    split at h
    · rename_i hbounds
      have hdigit : c.isDigit = true := by
        rw [isDigit_iff]
        simpa [Char.le_def, UInt32.le_iff_toNat_le] using hbounds
      exact ⟨hdigit, (Option.some.inj h).symm⟩
    · cases h
  · rintro ⟨hdigit, rfl⟩
    exact digitValue?_of_isDigit hdigit

theorem isDigit_eq (c : Char) : isDigit c = c.isDigit := by
  rw [Bool.eq_iff_iff, isDigit_iff]
  simp [isDigit, Char.le_def, UInt32.le_iff_toNat_le]

theorem digitsValue_eq (cs : List Char) : digitsValue cs = Nat.ofDigitChars 10 cs 0 := by
  have hfrom : ∀ n, cs.foldl (fun n c => n * 10 + (c.toNat - 48)) n = Nat.ofDigitChars 10 cs n := by
    induction cs with
    | nil => simp
    | cons c cs ih =>
      intro n
      rw [List.foldl_cons, ih, ofDigitChars_digit_cons]
  exact hfrom 0

/-- A number is written with at least one digit, and the first is a zero only if the number is. -/
theorem exists_decimalDigits (n : Nat) :
    ∃ c cs, decimalDigits n = c :: cs ∧ (c = '0' → n = 0) ∧ (n = 0 → cs = []) := by
  induction n using Nat.strongRecOn with
  | _ n ih =>
    by_cases hn : n < 10
    · refine ⟨n.digitChar, [], Nat.toDigits_of_lt_base hn, ?_, fun _ => rfl⟩
      interval_cases n <;> decide
    · have hsplit : decimalDigits n = decimalDigits (n / 10) ++ [(n % 10).digitChar] :=
        Nat.toDigits_of_base_le (by decide) (Nat.le_of_not_lt hn)
      obtain ⟨c, cs, hcs, hzero, -⟩ := ih (n / 10) (by omega)
      refine ⟨c, cs ++ [(n % 10).digitChar], by rw [hsplit, hcs, List.cons_append], fun hc => ?_, by omega⟩
      have := hzero hc
      omega

theorem exists_decimalDigits_of_ne_zero {n : Nat} (hn : n ≠ 0) : ∃ c cs, decimalDigits n = c :: cs ∧
    (∀ d ∈ c :: cs, d.isDigit = true) ∧ c.toNat - 48 ≠ 0 ∧ Nat.ofDigitChars 10 cs (c.toNat - 48) = n := by
  obtain ⟨c, cs, hdigits, hzero, -⟩ := exists_decimalDigits n
  have hall : ∀ d ∈ c :: cs, d.isDigit = true := fun d hd => isDigit_of_mem_decimalDigits (hdigits ▸ hd)
  have hc := isDigit_iff.1 (hall c List.mem_cons_self)
  refine ⟨c, cs, hdigits, hall, fun hsame => hn (hzero (Char.toNat_inj.1 (show c.toNat = 48 by omega))), ?_⟩
  have hread := ofDigitChars_decimalDigits n
  rwa [hdigits, ofDigitChars_digit_cons, Nat.zero_mul, Nat.zero_add] at hread

theorem digitChar_of_isDigit {c : Char} (h : c.isDigit = true) : (c.toNat - 48).digitChar = c := by
  obtain ⟨hlow, hhigh⟩ := isDigit_iff.1 h
  rw [← Char.toNat_inj, Nat.toNat_digitChar_of_lt_ten (by omega)]
  omega

/-- Digits that do not start with a needless zero are those of their value. -/
theorem decimalDigits_ofDigitChars {cs : List Char} (hdigits : ∀ c ∈ cs, c.isDigit = true) (hne : cs ≠ [])
    (hlead : cs.head? = some '0' → cs = ['0']) : decimalDigits (Nat.ofDigitChars 10 cs 0) = cs := by
  -- by induction on the digits from the last one, since a number is written from its last digit
  induction cs using List.reverseRecOn with
  | nil => exact absurd rfl hne
  | append_singleton cs c ih =>
    have hc : c.isDigit = true := hdigits c (by simp)
    have hdigit := isDigit_iff.1 hc
    have hvalue : Nat.ofDigitChars 10 (cs ++ [c]) 0 = Nat.ofDigitChars 10 cs 0 * 10 + (c.toNat - 48) := by
      rw [Nat.ofDigitChars_append, ofDigitChars_digit_cons, Nat.ofDigitChars_nil]
    rw [hvalue]
    by_cases hcs : cs = []
    · subst hcs
      rw [Nat.ofDigitChars_nil, decimalDigits, Nat.toDigits_of_lt_base (by omega), Nat.zero_mul, Nat.zero_add,
        digitChar_of_isDigit hc, List.nil_append]
    · have hfirst : cs.head? ≠ some '0' := by
        intro hzero
        have hone := congrArg List.length (hlead (by rw [List.head?_append_of_ne_nil _ hcs, hzero]))
        rw [List.length_append] at hone
        exact hcs (List.length_eq_zero_iff.1 (by simpa using hone))
      have hbefore := ih (fun d hd => hdigits d (by simp [hd])) hcs (fun hzero => absurd hzero hfirst)
      have hpos : Nat.ofDigitChars 10 cs 0 ≠ 0 := by
        intro hzero
        rw [hzero] at hbefore
        exact hfirst (hbefore ▸ rfl)
      rw [decimalDigits, Nat.toDigits_of_base_le (by decide) (by omega),
        show (Nat.ofDigitChars 10 cs 0 * 10 + (c.toNat - 48)) / 10 = Nat.ofDigitChars 10 cs 0 by omega,
        show (Nat.ofDigitChars 10 cs 0 * 10 + (c.toNat - 48)) % 10 = c.toNat - 48 by omega, digitChar_of_isDigit hc]
      exact congrArg (· ++ [c]) hbefore

/-- Further digits never make a number smaller. -/
theorem le_ofDigitChars : ∀ (cs : List Char) (n : Nat), n ≤ Nat.ofDigitChars 10 cs n
  | [], n => by rw [Nat.ofDigitChars_nil]
  | c :: cs, n => by
    rw [ofDigitChars_digit_cons]
    have := le_ofDigitChars cs (n * 10 + (c.toNat - 48))
    omega

end Switchyard

import Mathlib.Data.Nat.Digits.Defs
import Switchyard.Code.Literal
import Switchyard.Proofs.Text.Utf8
import Switchyard.Text.Quoted

/-!
# Literals of texts

Every text has a literal in program text, and the literal stands for that text: each escape is read as the character it
was written for.

Main result: `stringValue?_literal`.
-/

namespace Switchyard.Code

/-! ## Escapes by number -/

theorem hexValue?_digitChar : ∀ d < 16, hexValue? d.digitChar = some d := by decide

theorem unicodeDigits?_toDigits {n : Nat} : ∀ {rest : List Char}, (Nat.toDigits 16 n).length ≤ 6 →
    unicodeDigits? 0 0 (Nat.toDigits 16 n ++ rest) = unicodeDigits? n (Nat.toDigits 16 n).length rest := by
  -- a number is written from its last digit
  induction n using Nat.strongRecOn with
  | _ n ih =>
    intro rest hlength
    by_cases hn : n < 16
    · simp [Nat.toDigits_of_lt_base hn, unicodeDigits?, hexValue?_digitChar n hn]
    · have hsplit : Nat.toDigits 16 n = Nat.toDigits 16 (n / 16) ++ [(n % 16).digitChar] :=
        Nat.toDigits_of_base_le (by decide) (Nat.le_of_not_lt hn)
      rw [hsplit, List.length_append, List.length_singleton] at hlength ⊢
      have hroom : (Nat.toDigits 16 (n / 16)).length ≠ 6 := by omega
      have hlast := hexValue?_digitChar (n % 16) (by omega)
      rw [List.append_assoc, ih (n / 16) (by omega) (by omega), List.singleton_append, unicodeDigits?, hlast]
      simp [hroom, Nat.div_add_mod]

theorem unicodeEscape?_digits (c : Char) (rest : List Char) :
    unicodeEscape? ('{' :: (Nat.toDigits 16 c.toNat ++ '}' :: rest)) = some (c, rest) := by
  have hlength : (Nat.toDigits 16 c.toNat).length ≤ 6 := by
    rw [Nat.length_toDigits_le_iff (by decide) (by decide)]
    have := Utf8.char_bounds c
    omega
  have hsome : (Nat.toDigits 16 c.toNat).length ≠ 0 := Nat.length_toDigits_pos.ne'
  have hvalid : c.toNat.isValidChar := c.valid
  have hclose : hexValue? '}' = none := by decide
  rw [unicodeEscape?, unicodeDigits?_toDigits hlength, unicodeDigits?, hclose]
  simp [hsome, hvalid]

/-! ## Texts -/

theorem cookedValue_quotedChar (c : Char) (fuel : Nat) (rest : List Char) :
    cookedValue (fuel + 1) (quotedChar c ++ rest) = c :: cookedValue fuel rest := by
  unfold quotedChar
  split_ifs with hquote hbackslash hline hreturn htab
  · subst hquote; rfl
  · subst hbackslash; rfl
  · subst hline; rfl
  · subst hreturn; rfl
  · subst htab; rfl
  · simp [unicodeEscape, cookedValue, unicodeEscape?_digits]
  · -- what is left has no meaning of its own inside quotes
    rw [List.singleton_append, cookedValue.eq_def]
    split <;> simp_all

theorem quotedChar_ne_nil (c : Char) : quotedChar c ≠ [] := by
  unfold quotedChar unicodeEscape
  split_ifs <;> simp

/-- The first character of a text is written with characters that are read as it. -/
theorem exists_literalChars (c : Char) (cs : List Char) : ∃ text, text ≠ [] ∧
    literalChars (c :: cs) = text ++ literalChars cs ∧
    ∀ fuel rest, cookedValue (fuel + 1) (text ++ rest) = c :: cookedValue fuel rest := by
  rw [literalChars.eq_def]
  dsimp only
  split
  case isTrue => exact ⟨_, quotedChar_ne_nil c, rfl, fun fuel rest => cookedValue_quotedChar c fuel rest⟩
  case isFalse hzero =>
    -- a zero is written with two digits or with one, as the digit after it asks
    obtain rfl : c = .ofNat 0 := by rw [← not_not.1 hzero, Char.ofNat_toNat]
    cases cs with
    | nil => exact ⟨_, List.cons_ne_nil _ _, rfl, fun fuel rest => rfl⟩
    | cons d cs =>
      dsimp only
      split <;> exact ⟨_, List.cons_ne_nil _ _, rfl, fun fuel rest => rfl⟩

/-- The characters of a literal are read as those it was written for, up to the closing quote. -/
theorem cookedValue_literalChars : ∀ {cs : List Char} {fuel : Nat} (rest : List Char), cs.length ≤ fuel →
    cookedValue fuel (literalChars cs ++ '"' :: rest) = cs
  | [], 0, _, _ => rfl
  | [], _ + 1, _, _ => rfl
  | c :: cs, fuel + 1, rest, h => by
    obtain ⟨text, -, htext, hread⟩ := exists_literalChars c cs
    rw [htext, List.append_assoc, hread, cookedValue_literalChars rest (Nat.le_of_succ_le_succ h)]

theorem length_le_literalChars : ∀ cs : List Char, cs.length ≤ (literalChars cs).length
  | [] => Nat.zero_le _
  | c :: cs => by
    obtain ⟨text, hne, htext, -⟩ := exists_literalChars c cs
    have hsome : 0 < text.length := List.length_pos_iff.2 hne
    have ih := length_le_literalChars cs
    rw [htext, List.length_append, List.length_cons]
    omega

/-- **The literal of a text stands for the text.** -/
theorem stringValue?_literal (s : String) : stringValue? (literal s) = some s := by
  have hroom : s.toList.length ≤ (literalChars s.toList ++ ['"']).length :=
    (length_le_literalChars _).trans (by simp)
  rw [stringValue?, literal, String.toList_ofList, List.cons_append]
  exact congrArg some (by rw [cookedValue_literalChars [] hroom, String.ofList_toList])

end Switchyard.Code

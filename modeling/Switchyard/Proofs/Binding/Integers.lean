import Switchyard.Binding.Param
import Switchyard.Proofs.Except
import Switchyard.Proofs.Number.Numeral
import Switchyard.Proofs.Text.Trim

/-!
# Integer parameters

A parameter of an integer type is bound from a numeral with any blanks around it, as the number that the numeral stands
for. A number that the type does not contain is an error, at both ends of every type and whatever the number of digits.

Main result: `integers_exact`.
-/

namespace Switchyard

/-! ## Blanks around numerals -/

namespace Numeral

/-- A text that is a numeral with blanks around it. -/
def Padded (l : Numeral) (s : String) : Prop :=
  ∃ before after, s.toList = before ++ (l.chars ++ after) ∧ (∀ c ∈ before, isBlank c = true) ∧ ∀ c ∈ after, isBlank c = true

theorem isBlank_of_mem_chars {l : Numeral} {c : Char} (h : c ∈ l.chars) : isBlank c = false := by
  unfold chars at h
  rcases List.mem_append.1 h with hsign | hdigit
  · cases hs : l.sign <;> simp [Sign.chars, hs] at hsign <;> subst hsign <;> decide
  · have := isDigit_iff.1 (l.isDigit c hdigit)
    simp [isBlank]
    omega

theorem trimmed_chars (l : Numeral) : Trimmed isBlank l.chars := .of_forall fun _ hc => isBlank_of_mem_chars hc

theorem padded_iff {l : Numeral} {s : String} : l.Padded s ↔ l.text = trimBlanks s := by
  unfold text trimBlanks
  rw [String.ofList_inj]
  constructor
  · rintro ⟨before, after, hs, hbefore, hafter⟩
    rw [hs, trimChars_append l.trimmed_chars hbefore hafter]
  · intro h
    obtain ⟨before, after, hs, hbefore, hafter⟩ := exists_trimChars isBlank s.toList
    exact ⟨before, after, h ▸ hs, hbefore, hafter⟩

theorem trimBlanks_text (l : Numeral) : trimBlanks l.text = l.text := by
  unfold text trimBlanks
  rw [String.toList_ofList, trimChars_of_trimmed l.trimmed_chars]

theorem padded_text (l : Numeral) : l.Padded l.text := padded_iff.2 l.trimBlanks_text.symm

end Numeral

/-! ## Binding integers -/

theorem ParamType.read_integer (t : IntegerType) (s : String) : (ParamType.integer t).read s =
    ((t.readChars (trimBlanks s).toList).mapError IntegerFault.message).map ParamValue.integer :=
  rfl

/-- What is bound is a numeral between blanks that the type takes. -/
theorem ParamType.read_integer_eq_ok_iff {t : IntegerType} {s : String} {v : ParamValue} :
    (ParamType.integer t).read s = .ok v ↔ ∃ l : Numeral, l.Padded s ∧ t.Takes l ∧ v = .integer l.value := by
  rw [read_integer, map_eq_ok_iff]
  constructor
  · rintro ⟨n, hread, rfl⟩
    obtain ⟨l, hchars, htakes, rfl⟩ := IntegerType.readChars_eq_ok_iff.1 (mapError_eq_ok_iff.1 hread)
    refine ⟨l, Numeral.padded_iff.2 ?_, htakes, rfl⟩
    rw [Numeral.text, hchars, String.ofList_toList]
  · rintro ⟨l, hpadded, htakes, rfl⟩
    refine ⟨l.value, mapError_eq_ok_iff.2 ?_, rfl⟩
    rw [← Numeral.padded_iff.1 hpadded, Numeral.text, String.toList_ofList]
    exact IntegerType.readChars_numeral htakes

theorem ParamType.read_integerText {t : IntegerType} {n : Int} (h : t.Contains n) :
    (ParamType.integer t).read (integerText n) = .ok (.integer n) := by
  rw [← Numeral.text_ofInt]
  refine ParamType.read_integer_eq_ok_iff.2 ⟨.ofInt n, Numeral.padded_text _, IntegerType.takes_ofInt h, ?_⟩
  rw [Numeral.value_ofInt]

/-- **Integers are bound exactly.** A text is bound as an integer of a type iff blanks around a sign and digits are all
that it holds, only a signed type taking a minus, and the type contains their number; and that is the number it is bound
as. Any other text is an error. So the decimal text of every value of the type is bound as the value. -/
theorem integers_exact (t : IntegerType) :
    (∀ (s : String) (v : ParamValue), (ParamType.integer t).read s = .ok v ↔
      ∃ l : Numeral, l.Padded s ∧ (l.sign = .minus → t.signed = true) ∧ t.Contains l.value ∧ v = .integer l.value) ∧
    ∀ n : Bounded t, (ParamType.integer t).read (integerText n.val) = .ok (.integer n.val) := by
  refine ⟨?numerals, fun n => ParamType.read_integerText n.inRange⟩
  case numerals =>
    intro s v
    rw [ParamType.read_integer_eq_ok_iff]
    constructor
    · rintro ⟨l, hpadded, ⟨hsign, hcontains⟩, hv⟩
      exact ⟨l, hpadded, hsign, hcontains, hv⟩
    · rintro ⟨l, hpadded, hsign, hcontains, hv⟩
      exact ⟨l, hpadded, ⟨hsign, hcontains⟩, hv⟩

end Switchyard

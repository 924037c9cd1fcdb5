import Mathlib.Data.List.TakeWhile
import Switchyard.Proofs.Json.Written
import Switchyard.Proofs.Number.Numeral

/-!
# Literals of integers

A literal is kept as its number if that fits 64 bits, with a sign or without, and if it is no zero with a minus. Any
other literal becomes a floating-point number or is refused. So is an object that holds such a literal as its one member.

Main results: `readValue_kept`, `readValue_not_kept` and `readDocument_alone`.
-/

namespace Switchyard

namespace Numeral

/-- The bytes of a numeral. -/
def bytes (l : Numeral) : Bytes := Utf8.encodeChars l.chars

/-- A numeral whose number a document holds: it fits 64 bits, and it is no zero with a minus. -/
def Kept (l : Numeral) : Prop := Json.Exact (.integer l.value) ∧ (l.sign = .minus → l.value ≠ 0)

end Numeral

namespace Json

/-! ## Floating-point numbers -/

theorem readScale_of_endsNumber {rest : Bytes} (h : EndsNumber rest) (negative : Bool) (significand : Nat) (exponent : Int) :
    readScale negative significand exponent rest = realOfParts negative significand exponent rest := by
  cases rest with
  | nil => rfl
  | cons b rest =>
    obtain ⟨-, -, hlower, hupper⟩ := h b rfl
    rw [readScale]
    · rintro rest' ⟨⟩; exact hlower rfl
    · rintro rest' ⟨⟩; exact hupper rfl

/-- Digits that no longer fit are counted. -/
theorem readLong_digits {rest : Bytes} (hrest : EndsNumber rest) (negative : Bool) (significand : Nat) :
    ∀ {cs : List Char} (dropped : Int), (∀ c ∈ cs, c.isDigit = true) →
      readLong negative significand dropped (cs.map byteOf ++ rest) =
        realOfParts negative significand (dropped + cs.length) rest
  | [], dropped, _ => by
    rw [List.map_nil, List.nil_append, List.length_nil, Int.natCast_zero, Int.add_zero]
    cases rest with
    | nil => rfl
    | cons b rest =>
      obtain ⟨hdigit, hpoint, -, -⟩ := hrest b rfl
      rw [readLong, hdigit, if_neg (by simp), if_neg hpoint]
      exact readScale_of_endsNumber hrest negative significand dropped
  | c :: cs, dropped, hdigits => by
    have hc := digit?_byteOf (hdigits c List.mem_cons_self)
    have hlength : dropped + 1 + (cs.length : Int) = dropped + ((c :: cs).length : Nat) := by
      rw [List.length_cons]
      push_cast
      omega
    rw [List.map_cons, List.cons_append, readLong, hc, Option.isSome_some, if_pos rfl, ← hlength]
    exact readLong_digits hrest negative significand (dropped + 1) fun d hd => hdigits d (List.mem_cons_of_mem _ hd)

/-- Digits of more than 64 bits are those that fit, and how many come after them. -/
theorem readDigits_long (negative : Bool) : ∀ {cs : List Char} {n : Nat}, (∀ c ∈ cs, c.isDigit = true) →
    n ≤ significandLimit → significandLimit < Nat.ofDigitChars 10 cs n →
      ∃ significand dropped, ∀ rest, EndsNumber rest →
        readDigits negative n (cs.map byteOf ++ rest) = realOfParts negative significand dropped rest
  | [], n, _, hfits, hlong => by
    rw [Nat.ofDigitChars_nil] at hlong
    omega
  | c :: cs, n, hdigits, _, hlong => by
    have hc := digit?_byteOf (hdigits c List.mem_cons_self)
    rw [ofDigitChars_digit_cons] at hlong
    by_cases hcut : significandLimit < n * 10 + (c.toNat - 48)
    · refine ⟨n, 0 + ((c :: cs).length : Nat), fun rest hrest => ?_⟩
      simp only [List.map_cons, List.cons_append, readDigits, hc]
      rw [if_pos hcut, ← List.cons_append, ← List.map_cons]
      exact readLong_digits hrest negative n 0 hdigits
    · obtain ⟨significand, dropped, hread⟩ :=
        readDigits_long negative (fun d hd => hdigits d (List.mem_cons_of_mem _ hd)) (Nat.le_of_not_lt hcut) hlong
      refine ⟨significand, dropped, fun rest hrest => ?_⟩
      simp only [List.map_cons, List.cons_append, readDigits, hc]
      rw [if_neg hcut]
      exact hread rest hrest

/-- A reader that stops right behind a number gives a floating-point one, or refuses it wherever it stands. -/
def Rounds (read : Bytes → Reading Json) : Prop :=
  (∃ x, ∀ rest, EndsNumber rest → read rest = .ok (.real x, rest)) ∨ ∀ rest, EndsNumber rest → ∃ e, read rest = .error e

theorem rounds_realOfParts (negative : Bool) (significand : Nat) (exponent : Int) :
    Rounds (realOfParts negative significand exponent) := by
  unfold Rounds realOfParts
  cases scale? 10 (.ofNat significand) exponent with
  | some x => exact .inl ⟨_, fun _ _ => rfl⟩
  | none => exact .inr fun _ _ => ⟨_, rfl⟩

theorem Rounds.congr {read read' : Bytes → Reading Json} (h : Rounds read)
    (heq : ∀ rest, EndsNumber rest → read' rest = read rest) : Rounds read' := by
  rcases h with ⟨x, hreal⟩ | herror
  · exact .inl ⟨x, fun rest hrest => (heq rest hrest).trans (hreal rest hrest)⟩
  · refine .inr fun rest hrest => ?_
    rw [heq rest hrest]
    exact herror rest hrest

/-- Digits of more than 64 bits are read as a floating-point number. -/
theorem rounds_readNumber_long (negative : Bool) {n : Nat} (h : significandLimit < n) :
    Rounds fun rest => readNumber negative ((decimalDigits n).map byteOf ++ rest) := by
  obtain ⟨c, cs, hdigits, hall, hfirst, hvalue⟩ := exists_decimalDigits_of_ne_zero (Nat.ne_zero_of_lt h)
  have hc := isDigit_iff.1 (hall c List.mem_cons_self)
  have hten : 10 ≤ significandLimit := by decide
  have hlong : significandLimit < Nat.ofDigitChars 10 cs (c.toNat - 48) := hvalue ▸ h
  obtain ⟨significand, dropped, hread⟩ := readDigits_long negative (fun d hd => hall d (List.mem_cons_of_mem _ hd))
    (show c.toNat - 48 ≤ significandLimit by omega) hlong
  refine (rounds_realOfParts negative significand dropped).congr fun rest hrest => ?_
  simp only [hdigits, List.map_cons, List.cons_append]
  rw [readNumber_digit (digit?_byteOf (hall c List.mem_cons_self)) hfirst]
  exact hread rest hrest

/-! ## Literals -/

variable {l : Numeral}

theorem readValue_literal (h : l.Literal) (fuel limit : Nat) (rest : Bytes) :
    readValue (fuel + 1) limit (l.bytes ++ rest) =
      readNumber (l.sign = .minus) ((decimalDigits l.magnitude).map byteOf ++ rest) := by
  have hbytes : Utf8.encodeChars l.digits = l.digits.map byteOf := encodeChars_digits l.isDigit
  obtain ⟨c, cs, hcons, hc⟩ := l.exists_cons
  rw [← h.digits_eq, Numeral.bytes, Numeral.chars, Utf8.encodeChars_append, hbytes]
  cases hsign : l.sign with
  | none =>
    rw [hcons]
    exact readValue_digit fuel limit _ (digit?_byteOf hc)
  | plus => exact absurd hsign h.no_plus
  | minus => exact readValue_minus fuel limit _

theorem readValue_kept (h : l.Literal) (hkept : l.Kept) (fuel limit : Nat) {rest : Bytes} (hrest : EndsNumber rest) :
    readValue (fuel + 1) limit (l.bytes ++ rest) = .ok (.integer l.value, rest) := by
  have hread := readNumber_integer hrest hkept.1.1 hkept.1.2
  have hmagnitude : l.value.natAbs = l.magnitude := by
    unfold Numeral.value
    split <;> omega
  have hsign : l.value < 0 ↔ l.sign = .minus := by
    constructor
    · intro hnegative
      by_contra hplain
      rw [Numeral.value, if_neg hplain] at hnegative
      omega
    · intro hminus
      have hnonzero := hkept.2 hminus
      rw [Numeral.value, if_pos hminus] at hnonzero ⊢
      omega
  rw [readValue_literal h, ← decide_eq_decide.2 hsign, ← hmagnitude]
  exact hread

/-- **A literal that is not kept is read as a floating-point number or refused.** -/
theorem readValue_not_kept (h : l.Literal) (hkept : ¬ l.Kept) (fuel limit : Nat) :
    Rounds fun rest => readValue (fuel + 1) limit (l.bytes ++ rest) := by
  simp only [readValue_literal h]
  by_cases hlong : significandLimit < l.magnitude
  · exact rounds_readNumber_long _ hlong
  · have hlimit : significandLimit = twoTo 64 - 1 := rfl
    have hpos : 0 < twoTo 64 := by decide
    have hgreatest : IntegerType.u64.greatest = (twoTo 64 : Nat) - 1 := rfl
    have hleast : IntegerType.i64.least = -(twoTo 63 : Nat) := rfl
    have hminus : l.sign = .minus := by
      by_contra hplain
      refine hkept ⟨?_, fun hminus => absurd hminus hplain⟩
      simp only [Exact, Numeral.value, if_neg hplain, hleast, hgreatest]
      omega
    have hnegated : ¬ (0 < l.magnitude ∧ l.magnitude ≤ twoTo 63) := by
      rintro ⟨hpos, hfits⟩
      refine hkept ⟨?_, fun _ => ?_⟩
      · simp only [Exact, Numeral.value, if_pos hminus, hleast, hgreatest]
        omega
      · simp only [Numeral.value, if_pos hminus]
        omega
    refine .inl ⟨Floating.neg (.ofNat l.magnitude), fun rest hrest => ?_⟩
    have hread := readNumber_decimalDigits hrest true (Nat.le_of_not_lt hlong)
    rw [finishNumber_eq hrest, if_neg (by simp), if_neg hnegated] at hread
    simpa only [hminus, decide_true] using hread

/-! ## Objects of one member -/

/-- The bytes are an object whose one member is written as `text`; blanks may stand in every gap. -/
def WrittenAlone (key : String) (text bytes : Bytes) : Prop :=
  ∃ front before colon gap behind back, Blank front ∧ Blank before ∧ Blank colon ∧ Blank gap ∧ Blank behind ∧ Blank back ∧
    bytes = front ++ 0x7B :: (before ++ (quoteBytes key ++ (colon ++ 0x3A :: (gap ++ (text ++ (behind ++ 0x7D :: back))))))

theorem afterColon_blank {blank : Bytes} (h : Blank blank) (rest : Bytes) : afterColon (blank ++ 0x3A :: rest) = .ok rest := by
  rw [afterColon, skipSpace_blank h, skipSpace_cons (by decide)]
  rfl

section Alone

variable {key : String} {text bytes : Bytes} {fuel limit : Nat}

/-- The first member is read up to what follows its value, and refused if the value is. -/
theorem readMembers_first {before colon gap : Bytes} (hbefore : Blank before) (hcolon : Blank colon) (hgap : Blank gap)
    (rest : Bytes) :
    (∀ v, readValue (fuel + 1) limit (text ++ rest) = .ok (v, rest) →
      readMembers (fuel + 1 + 1) limit [] (before ++ (quoteBytes key ++ (colon ++ 0x3A :: (gap ++ (text ++ rest))))) =
        readMembers (fuel + 1) limit [(key, v)] rest) ∧
    ∀ e, readValue (fuel + 1) limit (text ++ rest) = .error e →
      readMembers (fuel + 1 + 1) limit [] (before ++ (quoteBytes key ++ (colon ++ 0x3A :: (gap ++ (text ++ rest))))) =
        .error e := by
  obtain ⟨inside, hinside, hname⟩ := readText_quote key (colon ++ 0x3A :: (gap ++ (text ++ rest)))
  have hmember := beforeMember_member true hbefore (inside ++ (colon ++ 0x3A :: (gap ++ (text ++ rest))))
  rw [comma, if_pos rfl, List.nil_append] at hmember
  rw [hinside, List.cons_append, readMembers, List.isEmpty_nil, hmember]
  simp only [hname, afterColon_blank hcolon]
  rw [readValue_blank hgap]
  constructor
  · intro v hv
    simp only [hv]
  · intro e he
    simp only [he]

theorem readDocument_alone (h : WrittenAlone key text bytes) : ∃ fuel rest, EndsNumber rest ∧
    (∀ v, readValue (fuel + 1) 127 (text ++ rest) = .ok (v, rest) → readDocument bytes = .ok (.object [(key, v)])) ∧
    ∀ e, readValue (fuel + 1) 127 (text ++ rest) = .error e → readDocument bytes = .error e := by
  obtain ⟨front, before, colon, gap, behind, back, hfront, hbefore, hcolon, hgap, hbehind, hback, hbytes⟩ := h
  have hlength : 2 ≤ bytes.length := by
    rw [hbytes, quoteBytes_eq]
    simp only [List.length_append, List.length_cons]
    omega
  obtain ⟨fuel, hfuel⟩ : ∃ fuel, 2 * bytes.length + 2 = fuel + 1 + 1 + 1 := ⟨2 * bytes.length - 1, by omega⟩
  have hends : EndsNumber (behind ++ 0x7D :: back) := by
    have hclose := endsNumber_close hbehind (.inr rfl) back
    rwa [List.append_assoc, List.singleton_append] at hclose
  obtain ⟨hmember, hmemberError⟩ := readMembers_first hbefore hcolon hgap (behind ++ 0x7D :: back)
  refine ⟨fuel, behind ++ 0x7D :: back, hends, fun v hv => ?read, fun e he => ?refused⟩
  case read =>
    have hclosed : readMembers (fuel + 1) 127 [(key, v)] (behind ++ 0x7D :: back) = .ok ([(key, v)], back) := by
      rw [readMembers, beforeMember_close _ hbehind]
      rfl
    have hobject : readValue (2 * bytes.length + 2) depthLimit bytes = .ok (.object [(key, v)], back) := by
      rw [hfuel, hbytes, readValue_blank hfront, readValue_brace _ _ _ (by decide)]
      exact congrArg (Except.map _) ((hmember v hv).trans hclosed)
    have hend : skipSpace back = [] := by
      rw [skipSpace, List.dropWhile_eq_nil_iff]
      exact hback
    rw [readDocument, hobject]
    simp only [hend]
  case refused =>
    have hobject : readValue (2 * bytes.length + 2) depthLimit bytes = .error e := by
      rw [hfuel, hbytes, readValue_blank hfront, readValue_brace _ _ _ (by decide)]
      exact congrArg (Except.map _) (hmemberError e he)
    rw [readDocument, hobject]

theorem readDocument_kept (h : WrittenAlone key l.bytes bytes) (hl : l.Literal) (hkept : l.Kept) :
    readDocument bytes = .ok (.object [(key, .integer l.value)]) := by
  obtain ⟨fuel, rest, hends, hread, -⟩ := readDocument_alone h
  exact hread _ (readValue_kept hl hkept fuel 127 hends)

/-- A literal that is not kept is held as a floating-point number, or the object is refused. -/
theorem readDocument_not_kept (h : WrittenAlone key l.bytes bytes) (hl : l.Literal) (hkept : ¬ l.Kept) :
    (∃ x, readDocument bytes = .ok (.object [(key, .real x)])) ∨ ∃ e, readDocument bytes = .error e := by
  obtain ⟨fuel, rest, hends, hread, hrefuse⟩ := readDocument_alone h
  rcases readValue_not_kept hl hkept fuel 127 with ⟨x, hreal⟩ | herror
  · exact .inl ⟨x, hread _ (hreal rest hends)⟩
  · obtain ⟨e, he⟩ := herror rest hends
    exact .inr ⟨e, hrefuse e he⟩

end Alone

/-! ## Floating-point numbers as texts -/

theorem mem_positional (d : Decimal) : '.' ∈ d.positional := by
  unfold Decimal.positional
  simp only
  split_ifs <;> simp

theorem mem_scientific (plus : Bool) (d : Decimal) : 'e' ∈ d.scientific plus := by
  unfold Decimal.scientific
  simp

/-- A finite number is written with a point or with the letter of an exponent, any other as a word. -/
theorem exists_mark_renderReal (x : Binary64) : ∃ c ∈ (renderReal x).toList, c = '.' ∨ c = 'e' ∨ c = 'n' := by
  unfold renderReal
  by_cases hfinite : x.isFinite = true
  · rw [if_pos hfinite]
    unfold Floating.isFinite at hfinite
    unfold RealFormat.write
    cases hclass : x.classify with
    | nan => simp [hclass] at hfinite
    | infinite s => simp [hclass] at hfinite
    | finite s m p =>
      by_cases hzero : m = 0
      · exact ⟨'.', by simp [hzero], by simp⟩
      · simp only [if_neg hzero, String.toList_ofList, List.mem_append]
        split_ifs
        · exact ⟨'.', .inr (mem_positional _), by simp⟩
        · exact ⟨'e', .inr (mem_scientific _ _), by simp⟩
        · exact ⟨'.', .inr (mem_positional _), by simp⟩
        · exact ⟨'e', .inr (mem_scientific _ _), by simp⟩
  · rw [if_neg hfinite]
    exact ⟨'n', by decide, by simp⟩

end Json

end Switchyard

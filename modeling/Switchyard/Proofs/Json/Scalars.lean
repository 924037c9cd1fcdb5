import Switchyard.Json.Parser
import Switchyard.Json.Printer
import Switchyard.Proofs.Json.Members
import Switchyard.Proofs.Number.Digits
import Switchyard.Proofs.Text.Utf8

/-!
# Scalars of documents are read back

A word, an integer of 64 bits and a text in quotes are read back from what is written for them, and reading stops
right behind them. A text may hold any characters: what needs an escape is escaped, and the bytes of the others are
taken as they are.

Main results: `readNumber_integer` and `readText_quote`.
-/

namespace Switchyard.Json

/-! ## Words -/

theorem readWord_append (value : Json) (rest : Bytes) : ∀ word : Bytes, readWord value word (word ++ rest) = .ok (value, rest)
  | [] => rfl
  | b :: word => by
    rw [List.cons_append, readWord, if_pos rfl]
    exact readWord_append value rest word

/-! ## Numbers -/

/-- What comes next belongs to no number. -/
def EndsNumber (rest : Bytes) : Prop := ∀ b ∈ rest.head?, digit? b = none ∧ b ≠ 0x2E ∧ b ≠ 0x65 ∧ b ≠ 0x45

theorem digit?_byteOf {c : Char} (h : c.isDigit = true) : digit? (byteOf c) = some (c.toNat - 48) := by
  obtain ⟨hlow, hhigh⟩ := isDigit_iff.1 h
  have hbyte : (byteOf c).toNat = c.toNat := Utf8.toNat_ofNat_byte (by omega)
  rw [digit?, hbyte, if_pos]
  simp only [UInt8.le_iff_toNat_le, hbyte]
  exact ⟨hlow, hhigh⟩

theorem encodeChars_digits {cs : List Char} (h : ∀ c ∈ cs, c.isDigit = true) : Utf8.encodeChars cs = cs.map byteOf :=
  Utf8.encodeChars_ascii fun c hc => Nat.lt_of_le_of_lt (isDigit_iff.1 (h c hc)).2 (by decide)

/-- Where a number ends behind its digits, its sign and its size decide what it is. -/
theorem finishNumber_eq {rest : Bytes} (h : EndsNumber rest) (negative : Bool) (n : Nat) :
    finishNumber negative n rest =
      if !negative then .ok (.integer n, rest)
      else if 0 < n ∧ n ≤ twoTo 63 then .ok (.integer (-(n : Int)), rest)
      else .ok (.real (Floating.neg (.ofNat n)), rest) := by
  cases rest with
  | nil => rfl
  | cons b rest =>
    obtain ⟨-, hpoint, hlower, hupper⟩ := h b rfl
    rw [finishNumber]
    · rintro rest' ⟨⟩; exact hpoint rfl
    · rintro rest' ⟨⟩; exact hlower rfl
    · rintro rest' ⟨⟩; exact hupper rfl

theorem finishNumber_of_endsNumber {rest : Bytes} (h : EndsNumber rest) (negative : Bool) (n : Nat)
    (hfits : negative = true → 0 < n ∧ n ≤ twoTo 63) :
    finishNumber negative n rest = .ok (.integer (if negative then -(n : Int) else n), rest) := by
  rw [finishNumber_eq h]
  cases negative with
  | false => rfl
  | true => rw [if_neg (by simp), if_pos (hfits rfl)]; rfl

theorem readDigits_digits {rest : Bytes} (hrest : EndsNumber rest) (negative : Bool) : ∀ {cs : List Char} {n : Nat},
    (∀ c ∈ cs, c.isDigit = true) → Nat.ofDigitChars 10 cs n ≤ significandLimit →
      readDigits negative n (cs.map byteOf ++ rest) = finishNumber negative (Nat.ofDigitChars 10 cs n) rest
  | [], n, _, _ => by
    cases rest with
    | nil => rfl
    | cons b rest =>
      rw [List.map_nil, List.nil_append, readDigits, (hrest b rfl).1]
      rfl
  | c :: cs, n, hdigits, hfits => by
    rw [ofDigitChars_digit_cons] at hfits ⊢
    have hle := le_ofDigitChars cs (n * 10 + (c.toNat - 48))
    simp only [List.map_cons, List.cons_append, readDigits, digit?_byteOf (hdigits c List.mem_cons_self)]
    rw [if_neg (by omega)]
    exact readDigits_digits hrest negative (fun d hd => hdigits d (List.mem_cons_of_mem _ hd)) hfits

theorem readNumber_zero {rest : Bytes} (hrest : EndsNumber rest) (negative : Bool) :
    readNumber negative (0x30 :: rest) = finishNumber negative 0 rest := by
  have hzero : digit? 0x30 = some 0 := by decide
  cases rest with
  | nil => rfl
  | cons b rest => simp [readNumber, hzero, (hrest b rfl).1]

theorem readNumber_digit {b : UInt8} {d : Nat} (hb : digit? b = some d) (hd : d ≠ 0) (negative : Bool) (rest : Bytes) :
    readNumber negative (b :: rest) = readDigits negative d rest := by
  obtain ⟨d, rfl⟩ := Nat.exists_eq_succ_of_ne_zero hd
  simp only [readNumber, hb]

/-- The digits of a number that fits are read as the number. -/
theorem readNumber_decimalDigits {rest : Bytes} (hrest : EndsNumber rest) (negative : Bool) {n : Nat}
    (hfits : n ≤ significandLimit) :
    readNumber negative ((decimalDigits n).map byteOf ++ rest) = finishNumber negative n rest := by
  by_cases hn : n = 0
  · rw [hn]
    exact readNumber_zero hrest negative
  · obtain ⟨c, cs, hdigits, hall, hfirst, hvalue⟩ := exists_decimalDigits_of_ne_zero hn
    rw [hdigits, List.map_cons, List.cons_append,
      readNumber_digit (digit?_byteOf (hall c List.mem_cons_self)) hfirst, ← hvalue]
    exact readDigits_digits hrest negative (fun d hd => hall d (List.mem_cons_of_mem _ hd)) (by omega)

/-- **An integer of 64 bits is read back** from its digits, after its sign. -/
theorem readNumber_integer {rest : Bytes} (hrest : EndsNumber rest) {n : Int} (hleast : IntegerType.i64.least ≤ n)
    (hgreatest : n ≤ IntegerType.u64.greatest) :
    readNumber (decide (n < 0)) ((decimalDigits n.natAbs).map byteOf ++ rest) = .ok (.integer n, rest) := by
  rw [show IntegerType.i64.least = -(twoTo 63 : Nat) from rfl] at hleast
  rw [show IntegerType.u64.greatest = (twoTo 64 : Nat) - 1 from rfl] at hgreatest
  have hlimit : n.natAbs ≤ significandLimit := by
    have h63 : twoTo 63 ≤ significandLimit := by decide
    have h64 : significandLimit = twoTo 64 - 1 := rfl
    omega
  rw [readNumber_decimalDigits hrest _ hlimit, finishNumber_of_endsNumber hrest]
  · by_cases hneg : n < 0
    · simp only [hneg, decide_true, if_true, show -(n.natAbs : Int) = n by omega]
    · simp only [hneg, decide_false, Bool.false_eq_true, if_false, show (n.natAbs : Int) = n by omega]
  · intro hneg
    have := of_decide_eq_true hneg
    omega

/-! ## Texts -/

/-- A byte that stands for itself inside a text. -/
def PlainByte (b : UInt8) : Prop := b ≠ 0x22 ∧ b ≠ 0x5C ∧ ¬ b < 0x20

theorem hexByte?_hexDigit : ∀ d < 16, hexByte? (byteOf (hexDigit d)) = some d := by decide

/-- A control character is read back from its escape. -/
theorem readEscape_control {n : Nat} (hn : n < 0x20) (rest : Bytes) :
    readEscape (0x75 :: 0x30 :: 0x30 :: byteOf (hexDigit (n / 16)) :: byteOf (hexDigit (n % 16)) :: rest) =
      .ok (Char.ofNat n, rest) := by
  have hzero : hexByte? 0x30 = some 0 := by decide
  have hvalue : ((0 * 16 + 0) * 16 + n / 16) * 16 + n % 16 = n := by omega
  have hhex : readHex (0x30 :: 0x30 :: byteOf (hexDigit (n / 16)) :: byteOf (hexDigit (n % 16)) :: rest) =
      .ok (n, rest) := by
    simp only [readHex, hzero, hexByte?_hexDigit (n / 16) (by omega), hexByte?_hexDigit (n % 16) (by omega), hvalue]
  rw [readEscape, hhex]
  simp [bind, Except.bind, pure, Except.pure, show ¬ (0xDC00 ≤ n ∧ n ≤ 0xDFFF) by omega, show n < 0xD800 by omega]

/-- The bytes of a character that needs no escape stand for themselves. -/
theorem plainByte_of_mem_encodeChar {c : Char} (hquote : c ≠ '"') (hslash : c ≠ '\\') (hcontrol : ¬ c.toNat < 32)
    {b : UInt8} (hb : b ∈ Utf8.encodeChar c) : PlainByte b := by
  have hplain : ∀ {n : Nat}, n < 256 → 32 ≤ n → n ≠ 0x22 → n ≠ 0x5C → PlainByte (UInt8.ofNat n) := by
    intro n hn hlow hne hne'
    have hbyte := Utf8.toNat_ofNat_byte hn
    refine ⟨fun h => hne ?_, fun h => hne' ?_, fun h => ?_⟩
    · rw [← hbyte, h]; rfl
    · rw [← hbyte, h]; rfl
    · rw [UInt8.lt_iff_toNat_lt, hbyte] at h
      exact absurd h (Nat.not_lt.2 hlow)
  have hc := Utf8.char_bounds c
  have hne : c.toNat ≠ 0x22 := fun h => hquote (Char.toNat_inj.1 h)
  have hne' : c.toNat ≠ 0x5C := fun h => hslash (Char.toNat_inj.1 h)
  simp only [Utf8.encodeChar] at hb
  split_ifs at hb
  all_goals
    simp only [List.mem_cons, List.not_mem_nil, or_false] at hb
    rcases hb with rfl | rfl | rfl | rfl <;> exact hplain (by omega) (by omega) (by omega) (by omega)

/-- A character inside a text is escaped, or its bytes stand for themselves. -/
theorem escapeChar_cases (c : Char) :
    (∃ escape, Utf8.encodeChars (escapeChar c) = 0x5C :: escape ∧ ∀ rest, readEscape (escape ++ rest) = .ok (c, rest)) ∨
      (Utf8.encodeChars (escapeChar c) = Utf8.encodeChar c ∧ ∀ b ∈ Utf8.encodeChar c, PlainByte b) := by
  unfold escapeChar
  split_ifs with hquote hslash hline hreturn htab hback hfeed hcontrol
  · exact .inl ⟨[0x22], rfl, fun rest => by rw [hquote]; rfl⟩
  · exact .inl ⟨[0x5C], rfl, fun rest => by rw [hslash]; rfl⟩
  · exact .inl ⟨[0x6E], rfl, fun rest => by rw [hline]; rfl⟩
  · exact .inl ⟨[0x72], rfl, fun rest => by rw [hreturn]; rfl⟩
  · exact .inl ⟨[0x74], rfl, fun rest => by rw [htab]; rfl⟩
  · exact .inl ⟨[0x62], rfl, fun rest => by rw [← Char.ofNat_toNat c, hback]; rfl⟩
  · exact .inl ⟨[0x66], rfl, fun rest => by rw [← Char.ofNat_toNat c, hfeed]; rfl⟩
  · have hascii : ∀ d < 16, Utf8.encodeChar (hexDigit d) = [byteOf (hexDigit d)] := by decide
    refine .inl ⟨[0x75, 0x30, 0x30, byteOf (hexDigit (c.toNat / 16)), byteOf (hexDigit (c.toNat % 16))], ?_, fun rest => ?_⟩
    · have hhigh := hascii (c.toNat / 16) (by omega)
      have hlow := hascii (c.toNat % 16) (by omega)
      simp only [Utf8.encodeChars, List.flatMap_cons, List.flatMap_nil, hhigh, hlow]
      rfl
    · have hread := readEscape_control hcontrol rest
      rwa [Char.ofNat_toNat] at hread
  · exact .inr ⟨by rw [Utf8.encodeChars_cons]; exact List.append_nil _,
      fun b hb => plainByte_of_mem_encodeChar hquote hslash hcontrol hb⟩

theorem readTextFrom_plain : ∀ {bytes : Bytes} (fuel : Nat) (read rest : Bytes), (∀ b ∈ bytes, PlainByte b) →
    readTextFrom (fuel + bytes.length) read (bytes ++ rest) = readTextFrom fuel (bytes.reverse ++ read) rest
  | [], _, _, _, _ => rfl
  | b :: bytes, fuel, read, rest, h => by
    obtain ⟨hquote, hslash, hcontrol⟩ := h b List.mem_cons_self
    rw [List.length_cons, ← Nat.add_assoc, List.cons_append, readTextFrom, if_neg hquote, if_neg hslash,
      if_neg hcontrol, readTextFrom_plain fuel (b :: read) rest fun b' hb' => h b' (List.mem_cons_of_mem _ hb')]
    simp

/-- Escaped characters are read up to the closing quote; `done` are those before them. -/
theorem readTextFrom_escaped (rest : Bytes) : ∀ {cs : List Char} (done : List Char) {fuel : Nat} {read : Bytes},
    read.reverse = Utf8.encodeChars done → (Utf8.encodeChars (cs.flatMap escapeChar)).length < fuel →
      readTextFrom fuel read (Utf8.encodeChars (cs.flatMap escapeChar) ++ 0x22 :: rest) = .ok (.ofList (done ++ cs), rest)
  | [], done, fuel, read, hread, hfuel => by
    obtain ⟨fuel, rfl⟩ := Nat.exists_eq_succ_of_ne_zero (Nat.ne_of_gt hfuel)
    rw [List.flatMap_nil, Utf8.encodeChars, List.flatMap_nil, List.nil_append, readTextFrom, if_pos rfl, hread,
      Utf8.decode_encodeChars, List.append_nil]
  | c :: cs, done, fuel, read, hread, hfuel => by
    rw [List.flatMap_cons, Utf8.encodeChars_append] at hfuel ⊢
    rw [List.length_append] at hfuel
    have hdone : ((Utf8.encodeChar c).reverse ++ read).reverse = Utf8.encodeChars (done ++ [c]) := by
      rw [List.reverse_append, List.reverse_reverse, hread, Utf8.encodeChars_append, Utf8.encodeChars_cons]
      exact congrArg _ (List.append_nil _).symm
    rw [List.append_assoc, List.append_cons done]
    obtain ⟨escape, hescape, hc⟩ | ⟨hplain, hc⟩ := escapeChar_cases c
    · rw [hescape, List.length_cons] at hfuel
      obtain ⟨fuel, rfl⟩ := Nat.exists_eq_succ_of_ne_zero (show fuel ≠ 0 by omega)
      rw [hescape, List.cons_append, readTextFrom, if_neg (by decide), if_pos rfl, hc]
      exact readTextFrom_escaped rest (done ++ [c]) hdone (by omega)
    · rw [hplain] at hfuel ⊢
      obtain ⟨fuel, rfl⟩ := Nat.exists_eq_add_of_le' (show (Utf8.encodeChar c).length ≤ fuel by omega)
      rw [readTextFrom_plain fuel read _ hc]
      exact readTextFrom_escaped rest (done ++ [c]) hdone (by omega)

/-- The bytes of a text in quotes. -/
def quoteBytes (s : String) : Bytes := Utf8.encodeChars (quote s)

/-- Between the quotes stand the escaped characters. -/
theorem quoteBytes_eq (s : String) :
    quoteBytes s = 0x22 :: (Utf8.encodeChars (s.toList.flatMap escapeChar) ++ [0x22]) := by
  rw [quoteBytes, quote, quoteChars, Utf8.encodeChars_cons, Utf8.encodeChars_append]
  rfl

/-- **A text in quotes is read back**, whatever it holds and whatever comes after it. -/
theorem readText_quote (s : String) (rest : Bytes) :
    ∃ inside, quoteBytes s = 0x22 :: inside ∧ readText (inside ++ rest) = .ok (s, rest) := by
  refine ⟨_, quoteBytes_eq s, ?_⟩
  rw [List.append_assoc, List.singleton_append, readText]
  have hfuel : (Utf8.encodeChars (s.toList.flatMap escapeChar)).length <
      (Utf8.encodeChars (s.toList.flatMap escapeChar) ++ 0x22 :: rest).length + 1 := by
    rw [List.length_append]
    omega
  have hnone : ([] : Bytes).reverse = Utf8.encodeChars [] := rfl
  have hread := readTextFrom_escaped rest [] hnone hfuel
  rwa [List.nil_append, String.ofList_toList] at hread

end Switchyard.Json

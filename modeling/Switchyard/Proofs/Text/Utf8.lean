import Mathlib.Tactic.SplitIfs
import Switchyard.Text.Utf8

/-!
# Texts are read back from their bytes

A character of one to four bytes is read back by `step`, and a text by the two readers, whatever bytes follow.

Main results: `decode?_encode` and `decodeLossy_encode`.
-/

namespace Switchyard.Utf8

/-! ## One character -/

theorem toNat_ofNat_byte {n : Nat} (h : n < 256) : (UInt8.ofNat n).toNat = n := by
  simp [Nat.mod_eq_of_lt h]

/-- A second byte is a tail byte, whatever the lead byte. -/
theorem secondRange_le (a : Nat) : 0x80 ≤ (secondRange a).1 ∧ (secondRange a).2 ≤ 0xBF := by
  unfold secondRange
  split_ifs <;> decide

/-- A tail byte holds six bits. -/
theorem isTail_byte (n : Nat) : isTail (UInt8.ofNat (0x80 + n % 0x40)) = true := by
  simp only [isTail, toNat_ofNat_byte (show 0x80 + n % 0x40 < 256 by omega), Bool.and_eq_true, decide_eq_true_eq]
  omega

theorem step_one {a : Nat} (ha : a < 0x80) (rest : Bytes) : step (UInt8.ofNat a) rest = .char (Char.ofNat a) 0 := by
  simp only [step, toNat_ofNat_byte (show a < 256 by omega), if_pos ha]

theorem step_two {a b : Nat} (ha : 0xC2 ≤ a) (ha' : a < 0xE0) (hb : 0x80 ≤ b) (hb' : b ≤ 0xBF) (rest : Bytes) :
    step (UInt8.ofNat a) (UInt8.ofNat b :: rest) = .char (Char.ofNat ((a - 0xC0) * 0x40 + (b - 0x80))) 1 := by
  have hrange : secondRange a = (0x80, 0xBF) := by
    rw [secondRange, if_neg (by omega), if_neg (by omega), if_neg (by omega), if_neg (by omega)]
  simp only [step, toNat_ofNat_byte (show a < 256 by omega), toNat_ofNat_byte (show b < 256 by omega), hrange]
  rw [if_neg (by omega), if_neg (by omega), if_neg (by omega), if_pos (by omega)]

theorem step_three {a b : Nat} {c : UInt8} (ha : 0xE0 ≤ a) (ha' : a < 0xF0) (hb : (secondRange a).1 ≤ b)
    (hb' : b ≤ (secondRange a).2) (hc : isTail c) (rest : Bytes) :
    step (UInt8.ofNat a) (UInt8.ofNat b :: c :: rest) =
      .char (Char.ofNat ((a - 0xE0) * 0x1000 + (b - 0x80) * 0x40 + (c.toNat - 0x80))) 2 := by
  have hrange := secondRange_le a
  simp only [step, toNat_ofNat_byte (show a < 256 by omega), toNat_ofNat_byte (show b < 256 by omega), hc]
  rw [if_neg (by omega), if_neg (by omega), if_neg (by omega), if_neg (by omega), if_neg (by simp),
    if_pos (by omega)]

theorem step_four {a b : Nat} {c d : UInt8} (ha : 0xF0 ≤ a) (ha' : a ≤ 0xF4) (hb : (secondRange a).1 ≤ b)
    (hb' : b ≤ (secondRange a).2) (hc : isTail c) (hd : isTail d) (rest : Bytes) :
    step (UInt8.ofNat a) (UInt8.ofNat b :: c :: d :: rest) =
      .char (Char.ofNat ((a - 0xF0) * 0x40000 + (b - 0x80) * 0x1000 + (c.toNat - 0x80) * 0x40
        + (d.toNat - 0x80))) 3 := by
  have hrange := secondRange_le a
  simp only [step, toNat_ofNat_byte (show a < 256 by omega), toNat_ofNat_byte (show b < 256 by omega), hc, hd]
  rw [if_neg (by omega), if_neg (by omega), if_neg (by omega), if_neg (by omega), if_neg (by simp),
    if_neg (by omega), if_neg (by simp)]

theorem char_bounds (c : Char) : c.toNat < 0xD800 ∨ 0xDFFF < c.toNat ∧ c.toNat < 0x110000 := c.valid

/-- The bytes of a character are read back as the character. -/
theorem step_encodeChar (c : Char) (rest : Bytes) :
    ∃ lead tail, encodeChar c = lead :: tail ∧ step lead (tail ++ rest) = .char c tail.length := by
  have hc := char_bounds c
  generalize hn : c.toNat = n at hc
  obtain rfl : Char.ofNat n = c := by rw [← hn, Char.ofNat_toNat]
  have htail : ∀ k, (UInt8.ofNat (0x80 + k % 0x40)).toNat = 0x80 + k % 0x40 := fun k =>
    toNat_ofNat_byte (by omega)
  simp only [encodeChar, hn]
  by_cases h1 : n < 0x80
  · rw [if_pos h1]
    exact ⟨_, [], rfl, step_one h1 _⟩
  by_cases h2 : n < 0x800
  · rw [if_neg h1, if_pos h2]
    have hvalue : (0xC0 + n / 0x40 - 0xC0) * 0x40 + (0x80 + n % 0x40 - 0x80) = n := by omega
    refine ⟨_, _, rfl, (step_two (by omega) (by omega) (by omega) (by omega) rest).trans ?_⟩
    rw [hvalue]
    rfl
  by_cases h3 : n < 0x10000
  · rw [if_neg h1, if_neg h2, if_pos h3]
    -- the second byte of a surrogate, or of a character that is too long, is out of range
    have hsecond : (secondRange (0xE0 + n / 0x1000)).1 ≤ 0x80 + n / 0x40 % 0x40 ∧
        0x80 + n / 0x40 % 0x40 ≤ (secondRange (0xE0 + n / 0x1000)).2 := by
      unfold secondRange
      split_ifs <;> simp only <;> omega
    have hvalue : (0xE0 + n / 0x1000 - 0xE0) * 0x1000 + (0x80 + n / 0x40 % 0x40 - 0x80) * 0x40
        + (0x80 + n % 0x40 - 0x80) = n := by omega
    refine ⟨_, _, rfl, (step_three (by omega) (by omega) hsecond.1 hsecond.2 (isTail_byte n) rest).trans ?_⟩
    rw [htail, hvalue]
    rfl
  · rw [if_neg h1, if_neg h2, if_neg h3]
    have hsecond : (secondRange (0xF0 + n / 0x40000)).1 ≤ 0x80 + n / 0x1000 % 0x40 ∧
        0x80 + n / 0x1000 % 0x40 ≤ (secondRange (0xF0 + n / 0x40000)).2 := by
      unfold secondRange
      split_ifs <;> simp only <;> omega
    have hvalue : (0xF0 + n / 0x40000 - 0xF0) * 0x40000 + (0x80 + n / 0x1000 % 0x40 - 0x80) * 0x1000
        + (0x80 + n / 0x40 % 0x40 - 0x80) * 0x40 + (0x80 + n % 0x40 - 0x80) = n := by omega
    refine ⟨_, _, rfl, (step_four (by omega) (by omega) hsecond.1 hsecond.2 (isTail_byte (n / 0x40)) (isTail_byte n)
      rest).trans ?_⟩
    rw [htail, htail, hvalue]
    rfl

/-! ## Texts -/

theorem encodeChars_cons (c : Char) (cs : List Char) : encodeChars (c :: cs) = encodeChar c ++ encodeChars cs := rfl

theorem encodeChars_append (l₁ l₂ : List Char) : encodeChars (l₁ ++ l₂) = encodeChars l₁ ++ encodeChars l₂ :=
  List.flatMap_append

theorem encodeChars_ascii : ∀ {cs : List Char}, (∀ c ∈ cs, c.toNat < 0x80) →
    encodeChars cs = cs.map fun c => UInt8.ofNat c.toNat
  | [], _ => rfl
  | c :: cs, h => by
    rw [encodeChars_cons, encodeChars_ascii fun d hd => h d (List.mem_cons_of_mem c hd)]
    simp only [encodeChar]
    rw [if_pos (h c List.mem_cons_self)]
    rfl

/-- The strict reader reads characters that it finds, and goes on behind them. -/
theorem decodeFrom_encodeChars : ∀ (cs : List Char) (index : Nat) (read : List Char) (bytes : Bytes),
    decodeFrom index read (encodeChars cs ++ bytes) =
      decodeFrom (index + (encodeChars cs).length) (cs.reverse ++ read) bytes
  | [], _, _, _ => rfl
  | c :: cs, index, read, bytes => by
    obtain ⟨lead, tail, hc, hstep⟩ := step_encodeChar c (encodeChars cs ++ bytes)
    rw [encodeChars_cons, List.append_assoc, hc, List.cons_append, decodeFrom, hstep]
    simp only [List.drop_left, List.length_append, List.length_cons]
    rw [decodeFrom_encodeChars cs]
    congr 1
    · omega
    · simp

theorem decodeLossyFrom_encodeChars : ∀ (cs : List Char) (read : List Char) (bytes : Bytes),
    decodeLossyFrom read (encodeChars cs ++ bytes) = decodeLossyFrom (cs.reverse ++ read) bytes
  | [], _, _ => rfl
  | c :: cs, read, bytes => by
    obtain ⟨lead, tail, hc, hstep⟩ := step_encodeChar c (encodeChars cs ++ bytes)
    rw [encodeChars_cons, List.append_assoc, hc, List.cons_append, decodeLossyFrom, hstep]
    simp only [List.drop_left]
    rw [decodeLossyFrom_encodeChars cs]
    simp

/-- Characters are read back from their bytes. -/
theorem decode_encodeChars (cs : List Char) : decode (encodeChars cs) = .ok (.ofList cs) := by
  have h := decodeFrom_encodeChars cs 0 [] []
  rw [List.append_nil] at h
  simp [decode, decodeChars, h, decodeFrom, Except.map]

/-- **A text is read back from its bytes.** -/
theorem decode?_encode (s : String) : decode? (encode s) = some s := by
  rw [decode?, encode, decode_encodeChars, String.ofList_toList]
  rfl

theorem decodeLossy_encode (s : String) : decodeLossy (encode s) = s := by
  have h := decodeLossyFrom_encodeChars s.toList [] []
  rw [List.append_nil] at h
  simp [decodeLossy, encode, h, decodeLossyFrom]

end Switchyard.Utf8

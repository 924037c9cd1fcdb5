import Switchyard.Http.Percent
import Switchyard.Proofs.Text.Split
import Switchyard.Proofs.Text.Utf8

/-!
# Forms are read back

A byte is written in one of three ways, and none of them holds an ampersand or an equals sign. So the segments
of a form are found where they were joined, and their names and values are those that were written.

Main results: `decode_encode`, and `decode_append` for forms that are joined.
-/

namespace Switchyard

theorem percentDecode_cons {b : UInt8} (hb : b ≠ 0x25) (rest : Bytes) :
    percentDecode (b :: rest) = b :: percentDecode rest := by
  rw [percentDecode]
  rintro h l rest rfl
  exact absurd rfl hb

namespace Form

/-! ## One byte -/

/-- A plus stands for a blank. -/
def unplus (b : UInt8) : UInt8 := if b = 0x2B then 0x20 else b

/-- A byte that is no mark of a form. -/
def IsQuiet (b : UInt8) : Prop := b ≠ 0x26 ∧ b ≠ 0x3D

/-- A byte is the upper-case digit of a value. -/
structure IsDigit (d : UInt8) (n : Nat) : Prop where
  value : hexValue? (Char.ofNat d.toNat) = some n
  unplus : unplus d = d
  quiet : IsQuiet d

theorem isDigit_upperHexDigit {n : Nat} (hn : n < 16) :
    ∃ d, Utf8.encodeChar (upperHexDigit n) = [d] ∧ IsDigit d n := by
  have h : ∀ n : Fin 16, Utf8.encodeChar (upperHexDigit n) = [UInt8.ofNat (upperHexDigit n).toNat] ∧
      hexValue? (Char.ofNat (UInt8.ofNat (upperHexDigit n).toNat).toNat) = some n.val ∧
      unplus (UInt8.ofNat (upperHexDigit n).toNat) = UInt8.ofNat (upperHexDigit n).toNat ∧
      UInt8.ofNat (upperHexDigit n).toNat ≠ 0x26 ∧ UInt8.ofNat (upperHexDigit n).toNat ≠ 0x3D := by
    decide
  obtain ⟨hbytes, hvalue, hplus, hquiet⟩ := h ⟨n, hn⟩
  exact ⟨_, hbytes, hvalue, hplus, hquiet⟩

/-- The three ways in which a byte is written. -/
inductive Written : UInt8 → Bytes → Prop
  | plain {b : UInt8} : b ≠ 0x25 → unplus b = b → IsQuiet b → Written b [b]
  | blank : Written 0x20 [0x2B]
  | escape {b h l : UInt8} : IsDigit h (b.toNat / 16) → IsDigit l (b.toNat % 16) → Written b [0x25, h, l]

theorem written_encodeByte (b : UInt8) : Written b (Utf8.encodeChars (encodeByte b)) := by
  have hplain : ∀ n : Fin 256, isPlain (UInt8.ofNat n) →
      Utf8.encodeChar (Char.ofNat n) = [UInt8.ofNat n] ∧ UInt8.ofNat n ≠ 0x25 ∧
      unplus (UInt8.ofNat n) = UInt8.ofNat n ∧ UInt8.ofNat n ≠ 0x26 ∧ UInt8.ofNat n ≠ 0x3D := by
    decide +kernel
  unfold encodeByte
  by_cases hp : isPlain b
  · obtain ⟨hbytes, hpercent, hplus, hquiet⟩ := hplain ⟨b.toNat, b.toNat_lt⟩ (by simpa using hp)
    rw [if_pos hp, Utf8.encodeChars_cons, hbytes]
    simp only [UInt8.ofNat_toNat] at hpercent hplus hquiet ⊢
    exact .plain hpercent hplus hquiet
  · by_cases hb : b = 0x20
    · subst hb
      rw [if_neg hp, if_pos rfl]
      exact .blank
    · have hlt := b.toNat_lt
      obtain ⟨h, hh, hdigit⟩ := isDigit_upperHexDigit (n := b.toNat / 16) (by omega)
      obtain ⟨l, hl, ldigit⟩ := isDigit_upperHexDigit (n := b.toNat % 16) (by omega)
      rw [if_neg hp, if_neg hb, Utf8.encodeChars_cons, Utf8.encodeChars_cons, Utf8.encodeChars_cons, hh, hl]
      exact .escape hdigit ldigit

/-- A byte is read back from any of its written forms. -/
theorem Written.read {b : UInt8} {bytes : Bytes} (h : Written b bytes) (rest : Bytes) :
    percentDecode ((bytes ++ rest).map unplus) = b :: percentDecode (rest.map unplus) := by
  cases h with
  | plain hpercent hplus _ =>
    rw [List.singleton_append, List.map_cons, hplus, percentDecode_cons hpercent]
  | blank => exact percentDecode_cons (by decide) _
  | escape hdigit ldigit =>
    have hvalue : b.toNat / 16 * 16 + b.toNat % 16 = b.toNat := by omega
    simp only [List.cons_append, List.nil_append, List.map_cons, hdigit.unplus, ldigit.unplus]
    rw [show unplus 0x25 = 0x25 from rfl, percentDecode, hdigit.value, ldigit.value]
    simp only [hvalue, UInt8.ofNat_toNat]

/-- No written form holds a mark of a form. -/
theorem Written.quiet {b : UInt8} {bytes : Bytes} (h : Written b bytes) : ∀ d ∈ bytes, IsQuiet d := by
  intro d hd
  cases h with
  | plain _ _ hquiet =>
    obtain rfl := List.mem_singleton.1 hd
    exact hquiet
  | blank =>
    obtain rfl := List.mem_singleton.1 hd
    exact ⟨by decide, by decide⟩
  | escape hdigit ldigit =>
    simp only [List.mem_cons, List.not_mem_nil, or_false] at hd
    rcases hd with rfl | rfl | rfl
    · exact ⟨by decide, by decide⟩
    · exact hdigit.quiet
    · exact ldigit.quiet

/-! ## Names and values -/

/-- The bytes of a written name or value. -/
def part (s : String) : Bytes := Utf8.encodeChars (encodePart s)

theorem percentDecode_written : ∀ bytes : Bytes,
    percentDecode ((Utf8.encodeChars (bytes.flatMap encodeByte)).map unplus) = bytes
  | [] => rfl
  | b :: bytes => by
    rw [List.flatMap_cons, Utf8.encodeChars_append, (written_encodeByte b).read, percentDecode_written bytes]

theorem decodePart_part (s : String) : decodePart (part s) = s := by
  rw [decodePart, part, encodePart]
  exact (congrArg Utf8.decodeLossy (percentDecode_written _)).trans (Utf8.decodeLossy_encode s)

theorem quiet_part (s : String) : ∀ d ∈ part s, IsQuiet d := by
  intro d hd
  rw [part, encodePart, Utf8.encodeChars, List.flatMap_assoc, List.mem_flatMap] at hd
  obtain ⟨b, -, hd⟩ := hd
  exact (written_encodeByte b).quiet d hd

/-! ## Pairs -/

/-- The bytes of a written pair. -/
def segment (p : String × String) : Bytes := part p.1 ++ 0x3D :: part p.2

theorem decodePair_segment (p : String × String) : decodePair (segment p) = p := by
  have hsplit : splitFirst? (· == 0x3D) (segment p) = some (part p.1, part p.2) :=
    splitFirst?_append (fun d hd => by simpa using (quiet_part p.1 d hd).2) rfl
  rw [decodePair, hsplit]
  simp only [decodePart_part]

/-- No segment holds an ampersand. -/
theorem no_ampersand (p : String × String) : ∀ d ∈ segment p, (d == 0x26) = false := by
  intro d hd
  rw [segment, List.mem_append, List.mem_cons] at hd
  rcases hd with hd | rfl | hd
  · simpa using (quiet_part p.1 d hd).1
  · decide
  · simpa using (quiet_part p.2 d hd).1

theorem encode_append (s t : String) : Utf8.encode (s ++ t) = Utf8.encode s ++ Utf8.encode t := by
  simp [Utf8.encode, Utf8.encodeChars_append]

theorem encode_pair (p : String × String) :
    Utf8.encode (.ofList (encodePart p.1 ++ '=' :: encodePart p.2)) = segment p := by
  rw [Utf8.encode, String.toList_ofList, Utf8.encodeChars_append, Utf8.encodeChars_cons]
  rfl

/-- The segments of a form are those of its pairs. -/
theorem splitAll_encode : ∀ (p : String × String) (pairs : List (String × String)),
    splitAll (· == 0x26) (Utf8.encode (encode (p :: pairs))) = segment p :: pairs.map segment
  | p, [] => by
    have hone : encode [p] = .ofList (encodePart p.1 ++ '=' :: encodePart p.2) := rfl
    rw [hone, encode_pair, splitAll_of_forall (no_ampersand p)]
    rfl
  | p, q :: pairs => by
    have hfirst : encode (p :: q :: pairs) =
        .ofList (encodePart p.1 ++ '=' :: encodePart p.2) ++ "&" ++ encode (q :: pairs) := rfl
    have hmark : Utf8.encode "&" = [0x26] := by decide
    rw [hfirst, encode_append, encode_append, encode_pair, hmark, List.append_assoc, List.singleton_append,
      splitAll_append (no_ampersand p) rfl, splitAll_encode q pairs]
    rfl

/-- **The pairs of a form are read back.** -/
theorem decode_encode (pairs : List (String × String)) : decode (Utf8.encode (encode pairs)) = pairs := by
  cases pairs with
  | nil => rfl
  | cons p pairs =>
    have hsegments : ∀ bytes ∈ segment p :: pairs.map segment, (!bytes.isEmpty) = true := by
      intro bytes hbytes
      rw [← List.map_cons, List.mem_map] at hbytes
      obtain ⟨q, -, rfl⟩ := hbytes
      simp [segment]
    have hread : (decodePair ∘ segment) = id := funext decodePair_segment
    rw [decode, splitAll_encode, List.filter_eq_self.2 hsegments, ← List.map_cons, List.map_map, hread, List.map_id]

/-- Forms on the two sides of an ampersand are read one after the other. -/
theorem decode_append (left right : Bytes) : decode (left ++ 0x26 :: right) = decode left ++ decode right := by
  have hsegments : splitAll (· == 0x26) (left ++ 0x26 :: right) = _ := splitAll_append_cons rfl left
  rw [decode, decode, decode, hsegments, List.filter_append, List.map_append]

/-! ## What no form holds -/

theorem encode_toList (pairs : List (String × String)) {c : Char} (hc : c ∈ (encode pairs).toList) :
    c = '&' ∨ c = '=' ∨ ∃ b, c ∈ encodeByte b := by
  have hpart : ∀ {s : String}, c ∈ encodePart s → ∃ b, c ∈ encodeByte b := by
    intro s hc
    obtain ⟨b, -, hc⟩ := List.mem_flatMap.1 hc
    exact ⟨b, hc⟩
  have hpair : ∀ {p : String × String}, c ∈ (String.ofList (encodePart p.1 ++ '=' :: encodePart p.2)).toList →
      c = '&' ∨ c = '=' ∨ ∃ b, c ∈ encodeByte b := by
    intro p hc
    rw [String.toList_ofList, List.mem_append, List.mem_cons] at hc
    rcases hc with hc | rfl | hc
    · exact .inr (.inr (hpart hc))
    · exact .inr (.inl rfl)
    · exact .inr (.inr (hpart hc))
  induction pairs with
  | nil => simp [encode, joinWith] at hc
  | cons p pairs ih =>
    cases pairs with
    | nil => exact hpair hc
    | cons q pairs =>
      have hcons : encode (p :: q :: pairs) =
          .ofList (encodePart p.1 ++ '=' :: encodePart p.2) ++ "&" ++ encode (q :: pairs) := rfl
      rw [hcons, String.toList_append, String.toList_append, List.mem_append, List.mem_append] at hc
      rcases hc with (hc | hc) | hc
      · exact hpair hc
      · exact .inl (by simpa using hc)
      · exact ih hc

theorem no_hash (pairs : List (String × String)) : '#' ∉ (encode pairs).toList := by
  intro hc
  have hbytes : ∀ n : Fin 256, '#' ∉ encodeByte (UInt8.ofNat n) := by decide +kernel
  rcases encode_toList pairs hc with h | h | ⟨b, hb⟩
  · exact absurd h (by decide)
  · exact absurd h (by decide)
  · have hnot := hbytes ⟨b.toNat, b.toNat_lt⟩
    rw [UInt8.ofNat_toNat] at hnot
    exact hnot hb

end Form

end Switchyard

import Switchyard.Proofs.Http.Cookie

/-!
# Segments of a line of cookies

Lines of cookies do each other no harm: the cookies of a request are those of its lines, one by one. Within a line that
is not so. A line that is a text has the cookies of its segments; but in a line that is no text, no segment has its
cookie, not even one that is a text by itself.

Main result: `segments_alone_iff`.
-/

namespace Switchyard

/-- The cookies of a line of bytes; one that is no text has none. -/
def cookiesOfValue (value : Bytes) : List (String × String) := ((headerText? value).map cookiesOfLine).getD []

/-- The segments of a line of bytes, between semicolons. -/
def segmentsOf (value : Bytes) : List Bytes := splitAll (· == 59) value

/-- The characters that stand for bytes. -/
def byteChars (value : Bytes) : List Char := value.map fun b => Char.ofNat b.toNat

/-- A request with a line of cookies, and no other line of them. -/
def RequestHead.withCookies (head : RequestHead) (value : Bytes) : RequestHead :=
  { head with headers := head.headers.insert "cookie" value }

/-! ## Lines -/

/-- The cookies of a request are those of its lines. -/
theorem parseCookies_eq_flatMap (headers : Headers) :
    parseCookies headers = (headers.values "cookie").flatMap cookiesOfValue := by
  rw [parseCookies]
  induction headers.values "cookie" with
  | nil => rfl
  | cons value values ih =>
    rw [List.flatMap_cons, ← ih, cookiesOfValue]
    cases htext : headerText? value <;> simp [htext]

theorem decode_withCookies (head : RequestHead) (body value : Bytes) :
    (Request.decode (head.withCookies value) body).cookies = cookiesOfValue value := by
  have hvalues : (head.withCookies value).headers.values "cookie" = [value] := by
    rw [RequestHead.withCookies, Headers.values_insert, if_pos rfl]
  rw [Request.decode, parseCookies_eq_flatMap, hvalues, List.flatMap_singleton]

/-! ## Bytes and characters -/

theorem headerText?_eq (value : Bytes) :
    headerText? value = if (headerText? value).isSome then some (.ofList (byteChars value)) else none := by
  rw [headerText?]
  split <;> rfl

theorem isSome_headerText?_iff (value : Bytes) :
    (headerText? value).isSome ↔ ∀ b ∈ value, isHeaderTextByte b = true := by
  rw [headerText?]
  split <;> simp_all

theorem toNat_charOfByte (b : UInt8) : (Char.ofNat b.toNat).toNat = b.toNat := by
  have hvalid : b.toNat.isValidChar := .inl (by have := b.toNat_lt; omega)
  rw [Char.ofNat, dif_pos hvalid]
  rfl

/-- A byte stands for a character iff it is its number. -/
theorem ofNat_toNat_eq_iff {c : Char} (hc : c.toNat < 256) (b : UInt8) :
    Char.ofNat b.toNat = c ↔ b = UInt8.ofNat c.toNat := by
  constructor
  · rintro rfl
    rw [toNat_charOfByte, UInt8.ofNat_toNat]
  · rintro rfl
    rw [Utf8.toNat_ofNat_byte hc, Char.ofNat_toNat]

theorem mem_byteChars_iff {c : Char} (hc : c.toNat < 256) (value : Bytes) :
    c ∈ byteChars value ↔ UInt8.ofNat c.toNat ∈ value := by
  simp [byteChars, ofNat_toNat_eq_iff hc]

/-- Characters are cut into segments where their bytes are. -/
theorem splitAll_byteChars (value : Bytes) :
    splitAll (· == ';') (byteChars value) = (segmentsOf value).map byteChars := by
  have hmark : ∀ b : UInt8, (Char.ofNat b.toNat == ';') = (b == 59) := by
    intro b
    rw [Bool.eq_iff_iff, beq_iff_eq, beq_iff_eq, ofNat_toNat_eq_iff (by decide)]
    rfl
  rw [byteChars, splitAll_map]
  simp only [hmark]
  rfl

/-! ## Segments -/

theorem text_of_segment {value segment : Bytes} (htext : (headerText? value).isSome)
    (hsegment : segment ∈ segmentsOf value) : (headerText? segment).isSome := by
  rw [isSome_headerText?_iff] at htext ⊢
  intro b hb
  exact htext b (mem_of_mem_splitAll hsegment hb).1

/-- A segment is not cut again. -/
theorem segmentsOf_segment {value segment : Bytes} (hsegment : segment ∈ segmentsOf value) :
    segmentsOf segment = [segment] :=
  splitAll_of_forall fun _ hb => (mem_of_mem_splitAll hsegment hb).2

/-- The cookies of a text are those of its segments. -/
theorem cookiesOfValue_of_text {value : Bytes} (htext : (headerText? value).isSome) :
    cookiesOfValue value = (segmentsOf value).filterMap fun segment => cookieOfSegment? (byteChars segment) := by
  rw [cookiesOfValue, headerText?_eq, if_pos htext, Option.map_some, Option.getD_some, cookiesOfLine,
    String.toList_ofList, splitAll_byteChars, List.filterMap_map]
  rfl

theorem cookiesOfValue_of_not_text {value : Bytes} (htext : ¬ (headerText? value).isSome) :
    cookiesOfValue value = [] := by
  rw [cookiesOfValue, headerText?_eq, if_neg htext]
  rfl

/-- A text has the cookies that its segments have by themselves. -/
theorem cookiesOfValue_eq_flatMap {value : Bytes} (htext : (headerText? value).isSome) :
    cookiesOfValue value = (segmentsOf value).flatMap cookiesOfValue := by
  have halone : ∀ segment ∈ segmentsOf value,
      cookiesOfValue segment = (cookieOfSegment? (byteChars segment)).toList := by
    intro segment hsegment
    rw [cookiesOfValue_of_text (text_of_segment htext hsegment), segmentsOf_segment hsegment]
    cases h : cookieOfSegment? (byteChars segment) <;> simp [h]
  rw [cookiesOfValue_of_text htext, List.filterMap_eq_flatMap_toList, List.flatMap_def, List.flatMap_def,
    List.map_congr_left halone]

theorem cookiesOfValue_eq_nil_iff (value : Bytes) :
    cookiesOfValue value = [] ↔ ((headerText? value).isSome → 61 ∉ value) := by
  by_cases htext : (headerText? value).isSome
  · have hequals : (∀ segment ∈ segmentsOf value, 61 ∉ segment) ↔ 61 ∉ value := by
      constructor
      · intro hnone hmem
        have hcut : ∃ segment ∈ segmentsOf value, 61 ∈ segment := exists_mem_splitAll hmem rfl
        obtain ⟨segment, hsegment, hmem⟩ := hcut
        exact hnone segment hsegment hmem
      · intro hnot segment hsegment hmem
        exact hnot (mem_of_mem_splitAll hsegment hmem).1
    rw [cookiesOfValue_of_text htext, List.filterMap_eq_nil_iff]
    simp only [cookieOfSegment?_eq_none_iff, mem_byteChars_iff (c := '=') (by decide), htext, true_imp_iff]
    exact hequals
  · simp [cookiesOfValue_of_not_text htext, htext]

/-- **A line has the cookies of its segments iff it is a text, or none of them has a cookie.** The cookies of a request
are those of its lines, each by itself. But a line that is no text has none, and so it loses the cookies of all the
segments that are texts by themselves. -/
theorem segments_alone_iff (head : RequestHead) (body value : Bytes) :
    ((Request.decode head body).cookies =
      (head.headers.values "cookie").flatMap fun line => (Request.decode (head.withCookies line) body).cookies) ∧
    (¬ (headerText? value).isSome → (Request.decode (head.withCookies value) body).cookies = []) ∧
    ((Request.decode (head.withCookies value) body).cookies =
        ((segmentsOf value).flatMap fun segment => (Request.decode (head.withCookies segment) body).cookies) ↔
      (headerText? value).isSome ∨
        ∀ segment ∈ segmentsOf value, (headerText? segment).isSome → 61 ∉ segment) := by
  simp only [decode_withCookies]
  refine ⟨parseCookies_eq_flatMap head.headers, cookiesOfValue_of_not_text, ?law⟩
  case law =>
    by_cases htext : (headerText? value).isSome
    · exact iff_of_true (cookiesOfValue_eq_flatMap htext) (.inl htext)
    · rw [cookiesOfValue_of_not_text htext, eq_comm, List.flatMap_eq_nil_iff]
      simp only [cookiesOfValue_eq_nil_iff, htext, Bool.false_eq_true, false_or]

/-- A request without headers. -/
def bareHead : RequestHead := ⟨"GET", ⟨none, none, "/", none⟩, .empty, []⟩

/-- A line of three cookies, the second of which has a value beyond ASCII. -/
def accentedLine : Bytes := Utf8.encode "a=1; b=é; c=3"

/-- The first and the third cookie are lost beside the second. -/
theorem cookies_lost_in_line : isHeaderValue accentedLine = true ∧
    segmentsOf accentedLine = [Utf8.encode "a=1", Utf8.encode " b=é", Utf8.encode " c=3"] ∧
    ((segmentsOf accentedLine).flatMap fun segment =>
      (Request.decode (bareHead.withCookies segment) []).cookies) = [("a", "1"), ("c", "3")] ∧
    (Request.decode (bareHead.withCookies accentedLine) []).cookies = [] ∧
    (Request.decode (bareHead.withCookies accentedLine) []).cookies ≠
      (segmentsOf accentedLine).flatMap fun segment =>
        (Request.decode (bareHead.withCookies segment) []).cookies := by
  decide +kernel

end Switchyard

import Switchyard.Proofs.Json.Scalars

/-!
# Written values are read back

A value can be written in many ways, since blanks may stand in front of an item, a member, a value after its colon
and a closing bracket. Each of them is read as the value, whatever comes after it, if the value is exact and its
containers are not nested too deep. The compact and the pretty form are two such ways.

Main results: `readValue_written`, `written_compactChars` and `written_prettyChars`.
-/

namespace Switchyard.Json

/-! ## Exact values -/

mutual

/-- A value without floating-point numbers, as documents hold it: integers fit 64 bits, with a sign or without, and
the members of an object ascend. -/
def Exact : Json → Prop
  | .integer n => IntegerType.i64.least ≤ n ∧ n ≤ IntegerType.u64.greatest
  | .real _ => False
  | .array items => ExactItems items
  | .object members => Sorted members ∧ ExactMembers members
  | _ => True

/-- All items are exact. -/
def ExactItems : List Json → Prop
  | [] => True
  | v :: rest => Exact v ∧ ExactItems rest

/-- The values of all members are exact. -/
def ExactMembers : List (String × Json) → Prop
  | [] => True
  | (_, v) :: rest => Exact v ∧ ExactMembers rest

end

mutual

/-- How deep the containers of a value are nested. -/
def depth : Json → Nat
  | .array items => itemsDepth items + 1
  | .object members => membersDepth members + 1
  | _ => 0

/-- The depth of the deepest item. -/
def itemsDepth : List Json → Nat
  | [] => 0
  | v :: rest => max (depth v) (itemsDepth rest)

/-- The depth of the deepest member. -/
def membersDepth : List (String × Json) → Nat
  | [] => 0
  | (_, v) :: rest => max (depth v) (membersDepth rest)

end

/-! ## Blanks -/

/-- Bytes that may stand between tokens. -/
def Blank (bytes : Bytes) : Prop := ∀ b ∈ bytes, isSpace b = true

theorem blank_nil : Blank [] := fun _ h => nomatch h

theorem skipSpace_blank {blank : Bytes} (h : Blank blank) (bytes : Bytes) :
    skipSpace (blank ++ bytes) = skipSpace bytes :=
  List.dropWhile_append_of_pos h

theorem skipSpace_cons {b : UInt8} (h : isSpace b = false) (rest : Bytes) : skipSpace (b :: rest) = b :: rest := by
  simp [skipSpace, h]

theorem readValue_blank {blank : Bytes} (h : Blank blank) (fuel depth : Nat) (bytes : Bytes) :
    readValue (fuel + 1) depth (blank ++ bytes) = readValue (fuel + 1) depth bytes := by
  simp only [readValue, skipSpace_blank h]

theorem endsNumber_cons {b : UInt8} (h : isSpace b = true ∨ b = 0x2C ∨ b = 0x5D ∨ b = 0x7D) (rest : Bytes) :
    EndsNumber (b :: rest) := by
  rintro b' ⟨⟩
  simp only [isSpace, Bool.or_eq_true, beq_iff_eq] at h
  obtain (((rfl | rfl) | rfl) | rfl) | rfl | rfl | rfl := h <;> decide

/-- What closes a container, after blanks, ends a number. -/
theorem endsNumber_close {blank : Bytes} (h : Blank blank) {b : UInt8} (hb : b = 0x5D ∨ b = 0x7D) (rest : Bytes) :
    EndsNumber (blank ++ [b] ++ rest) := by
  cases blank with
  | nil => exact endsNumber_cons (.inr (.inr hb)) rest
  | cons c blank => exact endsNumber_cons (.inl (h c List.mem_cons_self)) _

/-! ## Written values -/

/-- What stands between two items or members. -/
def comma (first : Bool) : Bytes := if first then [] else [0x2C]

mutual

/-- The bytes are a way to write the value. -/
def Written : Json → Bytes → Prop
  | .null, text => text = [0x6E, 0x75, 0x6C, 0x6C]
  | .bool true, text => text = [0x74, 0x72, 0x75, 0x65]
  | .bool false, text => text = [0x66, 0x61, 0x6C, 0x73, 0x65]
  | .integer n, text => text = (if n < 0 then [0x2D] else []) ++ (decimalDigits n.natAbs).map byteOf
  | .real _, _ => False
  | .string s, text => text = quoteBytes s
  | .array items, text => ∃ body, text = 0x5B :: body ∧ WrittenItems true items body
  | .object members, text => ∃ body, text = 0x7B :: body ∧ WrittenMembers true members body

/-- The bytes are a way to write the items, up to the closing bracket. -/
def WrittenItems (first : Bool) : List Json → Bytes → Prop
  | [], body => ∃ blank, Blank blank ∧ body = blank ++ [0x5D]
  | v :: rest, body => ∃ blank text tail, Blank blank ∧ Written v text ∧ WrittenItems false rest tail ∧
      body = comma first ++ (blank ++ (text ++ tail))

/-- The bytes are a way to write the members, up to the closing brace. -/
def WrittenMembers (first : Bool) : List (String × Json) → Bytes → Prop
  | [], body => ∃ blank, Blank blank ∧ body = blank ++ [0x7D]
  | (name, v) :: rest, body => ∃ blank gap text tail, Blank blank ∧ Blank gap ∧ Written v text ∧
      WrittenMembers false rest tail ∧
      body = comma first ++ (blank ++ (quoteBytes name ++ 0x3A :: (gap ++ (text ++ tail))))

end

/-- A value starts with no blank and closes no list. -/
theorem Written.head {v : Json} {text : Bytes} (h : Written v text) :
    ∃ b rest, text = b :: rest ∧ isSpace b = false ∧ b ≠ 0x5D := by
  cases v with
  | null => exact ⟨_, _, h, by decide⟩
  | bool b => cases b <;> exact ⟨_, _, h, by decide⟩
  | integer n =>
    rw [Written] at h
    split at h
    · exact ⟨_, _, h, by decide⟩
    · obtain ⟨c, cs, hdigits, -⟩ := exists_decimalDigits n.natAbs
      have hdigit := digit?_byteOf (isDigit_of_mem_decimalDigits (hdigits ▸ List.mem_cons_self (a := c)))
      rw [hdigits] at h
      refine ⟨_, _, h, ?_, ?_⟩
      · by_contra hspace
        rw [(endsNumber_cons (.inl (by simpa using hspace)) [] _ rfl).1] at hdigit
        cases hdigit
      · rintro hclose
        rw [hclose] at hdigit
        cases hdigit
  | real x => exact h.elim
  | string s =>
    rw [Written, quoteBytes_eq] at h
    exact ⟨_, _, h, by decide⟩
  | array items =>
    obtain ⟨body, rfl, -⟩ := h
    exact ⟨_, _, rfl, by decide⟩
  | object members =>
    obtain ⟨body, rfl, -⟩ := h
    exact ⟨_, _, rfl, by decide⟩

/-- What follows an item ends a number. -/
theorem WrittenItems.endsNumber {items : List Json} {body : Bytes} (h : WrittenItems false items body) (rest : Bytes) :
    EndsNumber (body ++ rest) := by
  cases items with
  | nil =>
    obtain ⟨blank, hblank, rfl⟩ := h
    exact endsNumber_close hblank (.inl rfl) rest
  | cons v items =>
    obtain ⟨blank, text, tail, -, -, -, rfl⟩ := h
    exact endsNumber_cons (by decide) _

theorem WrittenMembers.endsNumber {members : List (String × Json)} {body : Bytes}
    (h : WrittenMembers false members body) (rest : Bytes) : EndsNumber (body ++ rest) := by
  cases members with
  | nil =>
    obtain ⟨blank, hblank, rfl⟩ := h
    exact endsNumber_close hblank (.inr rfl) rest
  | cons m members =>
    obtain ⟨blank, gap, text, tail, -, -, -, -, rfl⟩ := h
    exact endsNumber_cons (by decide) _

theorem Written.length_pos {v : Json} {text : Bytes} (h : Written v text) : 0 < text.length := by
  obtain ⟨b, rest, rfl, -⟩ := h.head
  exact Nat.succ_pos _

theorem WrittenItems.length_pos {first : Bool} {items : List Json} {body : Bytes} (h : WrittenItems first items body) :
    0 < body.length := by
  cases items with
  | nil =>
    obtain ⟨blank, -, rfl⟩ := h
    simp
  | cons v items =>
    obtain ⟨blank, text, tail, -, hv, -, rfl⟩ := h
    have := hv.length_pos
    simp only [List.length_append]
    omega

theorem WrittenMembers.length_pos {first : Bool} {members : List (String × Json)} {body : Bytes}
    (h : WrittenMembers first members body) : 0 < body.length := by
  cases members with
  | nil =>
    obtain ⟨blank, -, rfl⟩ := h
    simp
  | cons m members =>
    obtain ⟨blank, gap, text, tail, -, -, -, -, rfl⟩ := h
    simp only [List.length_append, List.length_cons]
    omega

/-! ## Reading what stands between values -/

theorem beforeItem_close (first : Bool) {blank : Bytes} (h : Blank blank) (rest : Bytes) :
    beforeItem first (blank ++ 0x5D :: rest) = .ok (false, rest) := by
  rw [beforeItem, skipSpace_blank h, skipSpace_cons (by decide)]
  rfl

theorem beforeItem_item (first : Bool) {blank : Bytes} (h : Blank blank) {v : Json} {text : Bytes} (hv : Written v text)
    (rest : Bytes) : beforeItem first (comma first ++ (blank ++ (text ++ rest))) = .ok (true, text ++ rest) := by
  obtain ⟨b, tail, rfl, hspace, hclose⟩ := hv.head
  cases first with
  | true =>
    rw [comma, if_pos rfl, List.nil_append, beforeItem, skipSpace_blank h, List.cons_append, skipSpace_cons hspace]
    split <;> simp_all
  | false =>
    have htext : skipSpace (blank ++ b :: (tail ++ rest)) = b :: (tail ++ rest) := by
      rw [skipSpace_blank h, skipSpace_cons hspace]
    rw [comma, if_neg (by decide), List.singleton_append, beforeItem, skipSpace_cons (by decide)]
    simp [htext, hclose]

theorem beforeMember_close (first : Bool) {blank : Bytes} (h : Blank blank) (rest : Bytes) :
    beforeMember first (blank ++ 0x7D :: rest) = .ok (false, rest) := by
  rw [beforeMember, skipSpace_blank h, skipSpace_cons (by decide)]
  rfl

theorem beforeMember_member (first : Bool) {blank : Bytes} (h : Blank blank) (rest : Bytes) :
    beforeMember first (comma first ++ (blank ++ 0x22 :: rest)) = .ok (true, rest) := by
  cases first with
  | true =>
    rw [comma, if_pos rfl, List.nil_append, beforeMember, skipSpace_blank h, skipSpace_cons (by decide)]
    rfl
  | false =>
    have hquote : skipSpace (blank ++ 0x22 :: rest) = 0x22 :: rest := by
      rw [skipSpace_blank h, skipSpace_cons (by decide)]
    rw [comma, if_neg (by decide), List.singleton_append, beforeMember, skipSpace_cons (by decide)]
    simp [hquote]

theorem afterColon_cons (rest : Bytes) : afterColon (0x3A :: rest) = .ok rest := by
  rw [afterColon, skipSpace_cons (by decide)]
  rfl

/-! ## Reading values -/

section FirstByte

variable (fuel limit : Nat) (rest : Bytes)

theorem readValue_digit {b : UInt8} {d : Nat} (hb : digit? b = some d) :
    readValue (fuel + 1) limit (b :: rest) = readNumber false (b :: rest) := by
  have hne : ∀ c : UInt8, digit? c = none → b ≠ c := by
    rintro c hc rfl
    rw [hc] at hb
    cases hb
  have hspace : isSpace b = false := by
    by_contra hspace
    rw [(endsNumber_cons (.inl (by simpa using hspace)) [] _ rfl).1] at hb
    cases hb
  rw [readValue, skipSpace_cons hspace]
  simp only
  rw [if_neg (hne 0x6E (by decide)), if_neg (hne 0x74 (by decide)), if_neg (hne 0x66 (by decide)),
    if_neg (hne 0x2D (by decide)), if_pos (by simp [hb])]

theorem readValue_minus : readValue (fuel + 1) limit (0x2D :: rest) = readNumber true rest := by
  rw [readValue, skipSpace_cons (by decide)]
  rfl

theorem readValue_quote :
    readValue (fuel + 1) limit (0x22 :: rest) = (readText rest).map fun (s, rest) => (.string s, rest) := by
  rw [readValue, skipSpace_cons (by decide)]
  rfl

theorem readValue_bracket (h : 1 < limit) : readValue (fuel + 1) limit (0x5B :: rest) =
    (readItems fuel (limit - 1) [] rest).map fun (items, rest) => (.array items, rest) := by
  rw [readValue, skipSpace_cons (by decide)]
  exact if_neg (Nat.not_le.2 h)

theorem readValue_brace (h : 1 < limit) : readValue (fuel + 1) limit (0x7B :: rest) =
    (readMembers fuel (limit - 1) [] rest).map fun (members, rest) => (ofMembers members, rest) := by
  rw [readValue, skipSpace_cons (by decide)]
  exact if_neg (Nat.not_le.2 h)

end FirstByte

theorem readValue_integer {n : Int} (h : Exact (.integer n)) {text rest : Bytes} (htext : Written (.integer n) text)
    (hrest : EndsNumber rest) (fuel limit : Nat) :
    readValue (fuel + 1) limit (text ++ rest) = .ok (.integer n, rest) := by
  have hread := readNumber_integer hrest h.1 h.2
  obtain rfl := htext
  split
  · rename_i hneg
    rw [List.singleton_append, List.cons_append, readValue_minus]
    rwa [decide_eq_true hneg] at hread
  · rename_i hneg
    obtain ⟨c, cs, hdigits, -⟩ := exists_decimalDigits n.natAbs
    have hdigit := digit?_byteOf (isDigit_of_mem_decimalDigits (hdigits ▸ List.mem_cons_self (a := c)))
    rw [decide_eq_false hneg] at hread
    rw [List.nil_append, hdigits, List.map_cons, List.cons_append, readValue_digit _ _ _ hdigit, ← List.cons_append,
      ← List.map_cons, ← hdigits]
    exact hread

mutual

/-- **A written value is read**, whatever comes after it that does not go on a number. -/
theorem readValue_written : ∀ {v : Json} {text : Bytes} (rest : Bytes) {fuel limit : Nat}, Written v text → Exact v →
    depth v < limit → text.length ≤ fuel → EndsNumber rest → readValue fuel limit (text ++ rest) = .ok (v, rest)
  | v, text, rest, 0, limit, hv, _, _, hfuel, _ => absurd hv.length_pos (by omega)
  | .null, text, rest, fuel + 1, limit, hv, _, _, _, _ => by
    obtain rfl := hv
    exact readWord_append .null rest [0x75, 0x6C, 0x6C]
  | .bool true, text, rest, fuel + 1, limit, hv, _, _, _, _ => by
    obtain rfl := hv
    exact readWord_append (.bool true) rest [0x72, 0x75, 0x65]
  | .bool false, text, rest, fuel + 1, limit, hv, _, _, _, _ => by
    obtain rfl := hv
    exact readWord_append (.bool false) rest [0x61, 0x6C, 0x73, 0x65]
  | .integer n, text, rest, fuel + 1, limit, hv, hexact, _, _, hrest => readValue_integer hexact hv hrest fuel limit
  | .string s, text, rest, fuel + 1, limit, hv, _, _, _, _ => by
    obtain ⟨inside, hinside, hread⟩ := readText_quote s rest
    obtain rfl := hv.trans hinside
    rw [List.cons_append, readValue_quote, hread]
    rfl
  | .array items, text, rest, fuel + 1, limit, hv, hexact, hdepth, hfuel, _ => by
    obtain ⟨body, rfl, hbody⟩ := hv
    rw [depth] at hdepth
    rw [List.length_cons] at hfuel
    have hread := readItems_written [] rest hbody hexact (show itemsDepth items < limit - 1 by omega)
      (show body.length ≤ fuel by omega)
    rw [List.cons_append, readValue_bracket _ _ _ (by omega), hread]
    rfl
  | .object members, text, rest, fuel + 1, limit, hv, hexact, hdepth, hfuel, _ => by
    obtain ⟨body, rfl, hbody⟩ := hv
    rw [depth] at hdepth
    rw [List.length_cons] at hfuel
    have hread := readMembers_written [] rest hbody hexact.2 (show membersDepth members < limit - 1 by omega)
      (show body.length ≤ fuel by omega)
    rw [List.cons_append, readValue_brace _ _ _ (by omega), hread]
    exact congrArg (fun v => Except.ok (v, rest)) (ofMembers_of_sorted hexact.1)

theorem readItems_written : ∀ {items : List Json} (read : List Json) {body : Bytes} (rest : Bytes) {fuel limit : Nat},
    WrittenItems read.isEmpty items body → ExactItems items → itemsDepth items < limit → body.length ≤ fuel →
      readItems fuel limit read (body ++ rest) = .ok (read.reverse ++ items, rest)
  | items, read, body, rest, 0, limit, hitems, _, _, hfuel => absurd hitems.length_pos (by omega)
  | [], read, body, rest, fuel + 1, limit, hitems, _, _, _ => by
    obtain ⟨blank, hblank, rfl⟩ := hitems
    rw [List.append_assoc, List.singleton_append, readItems, beforeItem_close _ hblank, List.append_nil]
  | v :: items, read, body, rest, fuel + 1, limit, hitems, hexact, hdepth, hfuel => by
    obtain ⟨blank, text, tail, hblank, hv, htail, rfl⟩ := hitems
    have htext := hv.length_pos
    have hclose := htail.length_pos
    simp only [List.length_append] at hfuel
    rw [itemsDepth] at hdepth
    have hvalue := readValue_written (tail ++ rest) hv hexact.1 (show depth v < limit by omega)
      (show text.length ≤ fuel by omega) (htail.endsNumber rest)
    have hrest := readItems_written (v :: read) rest htail hexact.2 (show itemsDepth items < limit by omega)
      (show tail.length ≤ fuel by omega)
    simp only [List.append_assoc]
    rw [readItems, beforeItem_item _ hblank hv]
    simp only [hvalue, hrest]
    rw [List.reverse_cons, List.append_assoc, List.singleton_append]

theorem readMembers_written : ∀ {members : List (String × Json)} (read : List (String × Json)) {body : Bytes}
    (rest : Bytes) {fuel limit : Nat}, WrittenMembers read.isEmpty members body → ExactMembers members →
      membersDepth members < limit → body.length ≤ fuel →
        readMembers fuel limit read (body ++ rest) = .ok (read.reverse ++ members, rest)
  | members, read, body, rest, 0, limit, hmembers, _, _, hfuel => absurd hmembers.length_pos (by omega)
  | [], read, body, rest, fuel + 1, limit, hmembers, _, _, _ => by
    obtain ⟨blank, hblank, rfl⟩ := hmembers
    rw [List.append_assoc, List.singleton_append, readMembers, beforeMember_close _ hblank, List.append_nil]
  | (name, v) :: members, read, body, rest, fuel + 1, limit, hmembers, hexact, hdepth, hfuel => by
    obtain ⟨blank, gap, text, tail, hblank, hgap, hv, htail, rfl⟩ := hmembers
    obtain ⟨inside, hinside, hname⟩ := readText_quote name (0x3A :: (gap ++ (text ++ (tail ++ rest))))
    have htext := hv.length_pos
    have hclose := htail.length_pos
    simp only [List.length_append, List.length_cons] at hfuel
    rw [membersDepth] at hdepth
    have hvalue := readValue_written (tail ++ rest) hv hexact.1 (show depth v < limit by omega)
      (show text.length ≤ fuel by omega) (htail.endsNumber rest)
    have hrest := readMembers_written ((name, v) :: read) rest htail hexact.2
      (show membersDepth members < limit by omega) (show tail.length ≤ fuel by omega)
    obtain ⟨fuel, rfl⟩ := Nat.exists_eq_succ_of_ne_zero (show fuel ≠ 0 by omega)
    rw [hinside]
    simp only [List.append_assoc, List.cons_append]
    rw [readMembers, beforeMember_member _ hblank]
    simp only [hname, afterColon_cons]
    rw [readValue_blank hgap]
    simp only [hvalue, hrest]
    rw [List.reverse_cons, List.append_assoc, List.singleton_append]

end

/-- A written value is read as a document, if its containers are not nested too deep. -/
theorem readDocument_written {v : Json} {text : Bytes} (h : Written v text) (hexact : Exact v) (hdepth : depth v ≤ 127) :
    readDocument text = .ok v := by
  have hread := readValue_written [] h hexact (show depth v < depthLimit from Nat.lt_succ_of_le hdepth)
    (show text.length ≤ 2 * text.length + 2 by omega) (fun _ hb => nomatch hb)
  rw [List.append_nil] at hread
  rw [readDocument, hread]
  rfl

/-! ## The compact and the pretty form -/

theorem encodeChars_integerChars (n : Int) :
    Utf8.encodeChars (integerChars n) = (if n < 0 then [0x2D] else []) ++ (decimalDigits n.natAbs).map byteOf := by
  have hdigits := encodeChars_digits fun c (hc : c ∈ decimalDigits n.natAbs) => isDigit_of_mem_decimalDigits hc
  rw [integerChars]
  split
  · rw [Utf8.encodeChars_cons, hdigits]
    rfl
  · exact hdigits

theorem blank_newLine (depth : Nat) : Blank (Utf8.encodeChars (newLine depth)) := by
  intro b hb
  simp only [Utf8.encodeChars, newLine, List.flatMap_cons, List.mem_append, List.mem_flatMap, List.mem_replicate] at hb
  obtain hb | ⟨c, ⟨-, rfl⟩, hb⟩ := hb
  · obtain rfl := List.mem_singleton.1 hb
    decide
  · obtain rfl := List.mem_singleton.1 hb
    decide

theorem encodeChars_comma (first : Bool) : Utf8.encodeChars (if first then [] else [',']) = comma first := by
  cases first <;> rfl

mutual

/-- The compact form is a way to write a value. -/
theorem written_compactChars : ∀ {v : Json}, Exact v → Written v (Utf8.encodeChars v.compactChars)
  | .null, _ => rfl
  | .bool true, _ => rfl
  | .bool false, _ => rfl
  | .integer n, _ => encodeChars_integerChars n
  | .string _, _ => rfl
  | .array _, h => ⟨_, rfl, writtenItems_compactItems true h⟩
  | .object _, h => ⟨_, rfl, writtenMembers_compactMembers true h.2⟩

theorem writtenItems_compactItems (first : Bool) : ∀ {items : List Json}, ExactItems items →
    WrittenItems first items (Utf8.encodeChars (compactItems first items ++ [']']))
  | [], _ => ⟨[], blank_nil, rfl⟩
  | v :: rest, h => by
    refine ⟨[], _, _, blank_nil, written_compactChars h.1, writtenItems_compactItems false h.2, ?_⟩
    simp only [compactItems, List.append_assoc, Utf8.encodeChars_append, encodeChars_comma, List.nil_append]

theorem writtenMembers_compactMembers (first : Bool) : ∀ {members : List (String × Json)}, ExactMembers members →
    WrittenMembers first members (Utf8.encodeChars (compactMembers first members ++ ['}']))
  | [], _ => ⟨[], blank_nil, rfl⟩
  | (name, v) :: rest, h => by
    refine ⟨[], [], _, _, blank_nil, blank_nil, written_compactChars h.1, writtenMembers_compactMembers false h.2, ?_⟩
    simp only [compactMembers, List.append_assoc, List.cons_append, Utf8.encodeChars_append, encodeChars_comma,
      List.nil_append, Utf8.encodeChars_cons]
    rfl

end

mutual

/-- The pretty form is a way to write a value, wherever it stands. -/
theorem written_prettyChars (depth : Nat) : ∀ {v : Json}, Exact v → Written v (Utf8.encodeChars (v.prettyChars depth))
  | .null, _ => rfl
  | .bool true, _ => rfl
  | .bool false, _ => rfl
  | .integer n, _ => encodeChars_integerChars n
  | .string _, _ => rfl
  | .array [], _ => ⟨_, rfl, [], blank_nil, rfl⟩
  | .array (_ :: _), h => ⟨_, rfl, writtenItems_prettyItems depth true h⟩
  | .object [], _ => ⟨_, rfl, [], blank_nil, rfl⟩
  | .object (_ :: _), h => ⟨_, rfl, writtenMembers_prettyMembers depth true h.2⟩

theorem writtenItems_prettyItems (depth : Nat) (first : Bool) : ∀ {items : List Json}, ExactItems items →
    WrittenItems first items (Utf8.encodeChars (prettyItems (depth + 1) first items ++ newLine depth ++ [']']))
  | [], _ => ⟨_, blank_newLine depth, by rw [prettyItems, List.nil_append, Utf8.encodeChars_append]; rfl⟩
  | v :: rest, h => by
    refine ⟨_, _, _, blank_newLine (depth + 1), written_prettyChars (depth + 1) h.1,
      writtenItems_prettyItems depth false h.2, ?_⟩
    simp only [prettyItems, List.append_assoc, Utf8.encodeChars_append, encodeChars_comma]

theorem writtenMembers_prettyMembers (depth : Nat) (first : Bool) : ∀ {members : List (String × Json)},
    ExactMembers members → WrittenMembers first members
      (Utf8.encodeChars (prettyMembers (depth + 1) first members ++ newLine depth ++ ['}']))
  | [], _ => ⟨_, blank_newLine depth, by rw [prettyMembers, List.nil_append, Utf8.encodeChars_append]; rfl⟩
  | (name, v) :: rest, h => by
    have hblank : Blank [0x20] := by simp [Blank, isSpace]
    refine ⟨_, [0x20], _, _, blank_newLine (depth + 1), hblank, written_prettyChars (depth + 1) h.1,
      writtenMembers_prettyMembers depth false h.2, ?_⟩
    simp only [prettyMembers, List.append_assoc, List.cons_append, Utf8.encodeChars_append, encodeChars_comma,
      Utf8.encodeChars_cons]
    rfl

end

end Switchyard.Json

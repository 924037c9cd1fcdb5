import Switchyard.Json.Codec
import Switchyard.Proofs.Json.Document

/-!
# Documents survive their bytes

A document that is written by the plain codec, compact or pretty, is read back from the bytes by either of the two,
but for what its value does not tell.

Main result: `Codec.documents_survive`.
-/

namespace Switchyard.Codec

open Json (Document DocumentType Recodes)

variable {α : Type} [Document α] {a b : α} {v : Json}

/-- The plain codec reads what it wrote, in either form, if the value is exact and not nested too deep. -/
theorem deserialize_plain_serialize (hexact : v.Exact) (hdepth : v.depth ≤ 127) (pretty : Bool) :
    ∃ bytes, (plain pretty).serialize v = .ok bytes ∧ ∀ other, (plain other).deserialize bytes = .ok v := by
  refine ⟨_, rfl, fun other => ?_⟩
  have hwritten : v.Written (Utf8.encodeChars (if pretty then v.prettyChars 0 else v.compactChars)) := by
    cases pretty with
    | false => exact Json.written_compactChars hexact
    | true => exact Json.written_prettyChars 0 hexact
  simp only [plain, Json.parse]
  rw [Json.readDocument_written hwritten hexact hdepth]
  rfl

/-- A document is written as its value is, and read as its value is. -/
theorem exists_encode (h : Recodes a b v) (hdepth : v.depth ≤ 127) (pretty : Bool) :
    ∃ bytes, (plain pretty).encode a = .ok bytes ∧
      ∀ other, (plain other).deserialize bytes = .ok v ∧ (plain other).decode bytes = .ok b := by
  obtain ⟨bytes, hserialize, hdeserialize⟩ := deserialize_plain_serialize h.exact hdepth pretty
  refine ⟨bytes, ?_, fun other => ⟨hdeserialize other, ?_⟩⟩
  · rw [encode, h.encode]
    exact hserialize
  · rw [decode, hdeserialize other]
    simp only [h.decode]
    rfl

/-- **A document is written in either form, and every reading of either gives one document.** It is the document that was
written iff nothing that is there is written as what is missing would be. -/
theorem documents_survive (t : DocumentType) (a : t.Carrier) (hexact : t.Exact a) (hdepth : t.depth a ≤ 127) :
    ∃ b, (b = a ↔ t.ToldApart a) ∧ ∀ pretty, ∃ bytes, (plain pretty).encode a = .ok bytes ∧
      ∀ other, (plain other).decode bytes = .ok b := by
  obtain ⟨b, v, hv⟩ := t.exists_recodes hexact
  refine ⟨b, hv.same, fun pretty => ?_⟩
  obtain ⟨bytes, hencode, hread⟩ := exists_encode hv.recodes (hv.depth ▸ hdepth) pretty
  exact ⟨bytes, hencode, fun other => (hread other).2⟩

/-- A document beside a record of a list with a missing slot and an option that is missing. -/
def mixedType : DocumentType :=
  .pair .value (.record "Mixed" (by decide : ["slots", "mark"].Nodup)
    (.cons "slots" true (.list (.option (.integer .i64))) (.cons "mark" false (.option .bool) .nil)))

/-- Texts that need escapes, characters of one to four bytes, and integers at both ends. -/
def mixed : mixedType.Carrier :=
  (.object [("", .array [.string "\"\\\u0001\n", .string "aé€😀", .array []]), ("n", .integer 18446744073709551615)],
    [some ⟨-9223372036854775808, by decide⟩, none, some ⟨0, by decide⟩], none, ())

theorem documents_survive_mixed : mixedType.Exact mixed ∧ mixedType.depth mixed ≤ 127 ∧ mixedType.ToldApart mixed ∧
    ∃ bytes, (plain true).encode mixed = .ok bytes ∧ (plain false).decode bytes = .ok mixed := by
  have hexact : mixedType.Exact mixed := by
    refine ⟨⟨?_, ⟨trivial, trivial, trivial, trivial⟩, ⟨by decide, by decide⟩, trivial⟩, ?_⟩
    · exact Json.sorted_iff.2 (by decide)
    · exact ⟨⟨⟨by decide, by decide⟩, trivial, ⟨by decide, by decide⟩⟩, trivial, trivial⟩
  have hdepth : mixedType.depth mixed ≤ 127 := by decide
  have hapart : mixedType.ToldApart mixed := ⟨trivial, ⟨⟨trivial, nofun⟩, trivial, ⟨trivial, nofun⟩⟩, trivial, trivial⟩
  obtain ⟨b, hsame, hread⟩ := documents_survive mixedType mixed hexact hdepth
  obtain rfl := hsame.2 hapart
  obtain ⟨bytes, hencode, hdecode⟩ := hread true
  exact ⟨hexact, hdepth, hapart, bytes, hencode, hdecode false⟩

/-! ## Documents that do not survive -/

def nestedType : Nat → DocumentType
  | 0 => .bool
  | n + 1 => .list (nestedType n)

/-- A truth value inside of so many lists. -/
def nested : (n : Nat) → (nestedType n).Carrier
  | 0 => true
  | n + 1 => [nested n]

def nestedValue : Nat → Json
  | 0 => .bool true
  | n + 1 => .array [nestedValue n]

theorem encode_nested : ∀ n, Document.encode (nested n) = .ok (nestedValue n)
  | 0 => rfl
  | n + 1 => by
    show (Json.encodeItems [nested n]).map Json.array = .ok (.array [nestedValue n])
    rw [Json.encodeItems, encode_nested n]
    rfl

theorem nested_not_decoded : ∃ bytes, (plain false).encode (nested 128) = .ok bytes ∧
    ∀ a : (nestedType 128).Carrier, (plain false).decode bytes ≠ .ok a := by
  have hrefused : ((plain false).deserialize (Utf8.encodeChars (nestedValue 128).compactChars)).isOk = false := by
    decide +kernel
  refine ⟨Utf8.encodeChars (nestedValue 128).compactChars, ?_, fun a h => ?_⟩
  · rw [encode, encode_nested]
    rfl
  · rw [decode] at h
    split at h
    · cases h
    · rename_i hread
      rw [hread] at hrefused
      cases hrefused

/-- Not every document survives: an option that holds a missing option is read as a missing one, an integer of more
than 64 bits is not written at all, and what is nested deeper than 127 is written but not read. -/
theorem not_survives_some_none :
    (∃ bytes, (plain false).encode (some none : Option (Option Bool)) = .ok bytes ∧
      (plain false).decode bytes = .ok (none : Option (Option Bool))) ∧
    (¬ ∃ bytes, (plain false).encode (some none : Option (Option Bool)) = .ok bytes ∧
      (plain false).decode bytes = .ok (some none : Option (Option Bool))) ∧
    (plain false).encode (⟨18446744073709551616, by decide⟩ : Bounded .i128) = .error (.encode "number out of range") ∧
    ∃ bytes, (plain false).encode (nested 128) = .ok bytes ∧
      ∀ a : (nestedType 128).Carrier, (plain false).decode bytes ≠ .ok a := by
  obtain ⟨bytes, hencode, hread⟩ := exists_encode
    (Json.recodes_some_of_isNull (t := .option .bool) (a := none) trivial trivial) (Nat.zero_le _) false
  refine ⟨⟨bytes, hencode, (hread false).2⟩, ?_, rfl, nested_not_decoded⟩
  rintro ⟨bytes', hencode', hdecode⟩
  obtain rfl : bytes = bytes' := Except.ok.inj (hencode.symm.trans hencode')
  exact nomatch (hread false).2.symm.trans hdecode

end Switchyard.Codec

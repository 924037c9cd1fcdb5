import Switchyard.Http.Header
import Switchyard.Proofs.Text.Utf8

/-!
# Values of headers

The values of a name after a change of headers, and texts that are header values and are read back from them.

Main results: `Headers.values_insert` and `headerText?_encode`.
-/

namespace Switchyard

namespace Headers

/-! ## Values of a name -/

theorem values_append (h : Headers) (name key : String) (value : Bytes) :
    (h.append name value).values key = h.values key ++ if name = key then [value] else [] := by
  by_cases hname : name = key <;> simp [append, values, hname]

theorem values_remove (h : Headers) (name key : String) :
    (h.remove name).values key = if name = key then [] else h.values key := by
  rw [values, remove, List.filter_filter]
  split
  · rename_i hname
    simp [hname]
  · rename_i hname
    congr 2
    funext e
    by_cases he : e.1 = key
    · simp [he, Ne.symm hname]
    · simp [he]

theorem values_insert (h : Headers) (name key : String) (value : Bytes) :
    (h.insert name value).values key = if name = key then [value] else h.values key := by
  rw [insert, values_append, values_remove]
  split <;> simp

theorem contains_iff (h : Headers) (name : String) : h.contains name = true ↔ h.values name ≠ [] := by
  simp [contains, values]

end Headers

/-! ## Texts as values -/

/-- A text of visible ASCII characters, blanks and tabs. -/
def VisibleText (s : String) : Prop := ∀ c ∈ s.toList, c.toNat = 9 ∨ 32 ≤ c.toNat ∧ c.toNat < 127

instance (s : String) : Decidable (VisibleText s) := List.decidableBAll _ s.toList

theorem VisibleText.append {s t : String} (hs : VisibleText s) (ht : VisibleText t) : VisibleText (s ++ t) := by
  intro c hc
  rw [String.toList_append] at hc
  exact (List.mem_append.1 hc).elim (hs c) (ht c)

theorem VisibleText.intercalate {s : String} (hs : VisibleText s) : ∀ {texts : List String},
    (∀ t ∈ texts, VisibleText t) → VisibleText (s.intercalate texts)
  | [], _ => by
    rw [String.intercalate_nil]
    exact fun c hc => nomatch hc
  | [t], h => by
    rw [String.intercalate_singleton]
    exact h t List.mem_cons_self
  | t :: u :: texts, h => by
    rw [String.intercalate_cons_cons]
    exact ((h t List.mem_cons_self).append hs).append (hs.intercalate fun v hv => h v (List.mem_cons_of_mem t hv))

theorem VisibleText.encode {s : String} (h : VisibleText s) :
    Utf8.encode s = s.toList.map fun c => UInt8.ofNat c.toNat := by
  refine Utf8.encodeChars_ascii fun c hc => ?_
  have := h c hc
  omega

/-- The bytes of a text may stand in a header, and in one that is read as a text. -/
theorem VisibleText.headerBytes {s : String} (h : VisibleText s) :
    ∀ b ∈ Utf8.encode s, isHeaderByte b = true ∧ isHeaderTextByte b = true := by
  intro b hb
  rw [h.encode] at hb
  obtain ⟨c, hc, rfl⟩ := List.mem_map.1 hb
  have hvisible := h c hc
  have hbyte : (UInt8.ofNat c.toNat).toNat = c.toNat := Utf8.toNat_ofNat_byte (by omega)
  simp only [isHeaderByte, isHeaderTextByte, Bool.or_eq_true, Bool.and_eq_true, decide_eq_true_eq, beq_iff_eq,
    bne_iff_ne, ne_eq, UInt8.le_iff_toNat_le, UInt8.lt_iff_toNat_lt, ← UInt8.toNat_inj, hbyte, UInt8.reduceToNat]
  omega

theorem isHeaderValue_encode {s : String} (h : VisibleText s) : isHeaderValue (Utf8.encode s) = true :=
  List.all_eq_true.2 fun b hb => (h.headerBytes b hb).1

theorem headerText?_encode {s : String} (h : VisibleText s) : headerText? (Utf8.encode s) = some s := by
  have hall : (Utf8.encode s).all isHeaderTextByte = true := List.all_eq_true.2 fun b hb => (h.headerBytes b hb).2
  have hchars : ∀ c ∈ s.toList, Char.ofNat (UInt8.ofNat c.toNat).toNat = c := by
    intro c hc
    have := h c hc
    rw [Utf8.toNat_ofNat_byte (by omega), Char.ofNat_toNat]
  rw [headerText?, if_pos hall, h.encode, List.map_map, List.map_congr_left (f := _ ∘ _) (g := id) hchars, List.map_id,
    String.ofList_toList]

theorem filterMap_headerText?_encode : ∀ {texts : List String}, (∀ t ∈ texts, VisibleText t) →
    (texts.map Utf8.encode).filterMap headerText? = texts
  | [], _ => rfl
  | t :: texts, h => by
    rw [List.map_cons, List.filterMap_cons, headerText?_encode (h t List.mem_cons_self),
      filterMap_headerText?_encode fun u hu => h u (List.mem_cons_of_mem t hu)]

end Switchyard

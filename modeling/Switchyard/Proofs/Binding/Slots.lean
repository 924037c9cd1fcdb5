import Switchyard.Http.Request
import Switchyard.Proofs.Binding.Holes
import Switchyard.Proofs.Binding.Integers
import Switchyard.Proofs.Json.Codec

/-!
# Lists with missing slots

A list of integers with missing slots is carried by a document, by a field of a message and by the occurrences of a
key in a query. In a document a missing slot is null and in a query it is empty; every carrier gives the list back slot
by slot.

Main result: `slots_carried`.
-/

namespace Switchyard

/-! ## Integers as texts -/

theorem integerText_isEmpty (n : Int) : (integerText n).isEmpty = false := by
  obtain ⟨c, cs, hdigits, -⟩ := exists_decimalDigits n.natAbs
  rw [← Bool.not_eq_true, String.isEmpty_iff, ← String.toList_inj, integerText, String.toList_ofList, hdigits]
  split <;> simp

theorem slot_integerText {t : IntegerType} {n : Int} (h : t.Contains n) :
    Binder.slot (ParamType.integer t).read (some (integerText n)) = some (.integer n) := by
  rw [Binder.slot, integerText_isEmpty, ParamType.read_integerText h]
  rfl

/-! ## Slots -/

section Slots

variable {t : IntegerType}

/-- The value of a slot in a document. -/
def slotJson (slot : Option (Bounded t)) : Json := slot.elim .null fun n => .integer n.val

/-- The text of a slot in a query. -/
def slotText (slot : Option (Bounded t)) : String := slot.elim "" fun n => integerText n.val

/-- The value that is bound for a slot. -/
def slotParam (slot : Option (Bounded t)) : Option ParamValue := slot.map fun n => .integer n.val

theorem slot_scalarText (slot : Option (Bounded t)) :
    Binder.slot (ParamType.integer t).read (scalarText (slotJson slot)) = slotParam slot := by
  cases slot with
  | none => rfl
  | some n => exact slot_integerText n.inRange

theorem slot_slotText (slot : Option (Bounded t)) :
    Binder.slot (ParamType.integer t).read (some (slotText slot)) = slotParam slot := by
  cases slot with
  | none => rfl
  | some n => exact slot_integerText n.inRange

end Slots

/-- A list of slots is written as the list of their values. -/
theorem recodes_slots (xs : List (Option (Bounded .i64))) : Json.Recodes xs xs (.array (xs.map slotJson)) := by
  have hslot : ∀ x ∈ xs, ∃ y v, Json.Recodes x y v ∧ (x, slotJson x) = (y, v) := by
    rintro (_ | n) -
    · exact ⟨none, .null, ⟨rfl, rfl, trivial⟩, rfl⟩
    · have hwide : n.val ≤ IntegerType.u64.greatest := le_trans n.inRange.2 (by decide)
      refine ⟨some n, .integer n.val, ⟨if_pos ⟨n.inRange.1, hwide⟩, ?_, n.inRange.1, hwide⟩, rfl⟩
      exact congrArg (Except.map some) (dif_pos n.inRange)
  obtain ⟨read, hencode, hdecode, hexact, hread⟩ := Json.exists_encodeItems hslot
  obtain rfl : xs.map (fun x => (x, slotJson x)) = read := List.forall₂_eq_eq_eq ▸ List.forall₂_map_left_iff.2 hread
  simp only [List.map_map, Function.comp_def, List.map_id'] at hencode hdecode hexact
  exact ⟨congrArg (Except.map Json.array) hencode, hdecode, hexact⟩

theorem depth_slots (xs : List (Option (Bounded .i64))) : Json.depth (.array (xs.map slotJson)) = 1 := by
  rw [Json.depth]
  induction xs with
  | nil => rfl
  | cons x xs ih => cases x <;> simpa [Json.itemsDepth, slotJson, Json.depth] using ih

/-- **A list with missing slots means the same on every carrier**: as a document, as a field of a message, and as the
occurrences of a key in a query. -/
theorem slots_carried (xs : List (Option (Bounded .i64))) (hne : xs ≠ []) (key : String) (pretty : Bool) :
    ∃ bytes v, (Codec.plain pretty).encode xs = .ok bytes ∧
      (∀ other, (Codec.plain other).deserialize bytes = .ok v ∧ (Codec.plain other).decode bytes = .ok xs) ∧
      (∀ (r : Request) (document : Json), document.member? key = some v →
        (r.binder (some document)).nullableMany (ParamType.integer .i64).read [.message] key =
          .ok (some (xs.map slotParam))) ∧
      ∀ (r : Request) (message : Option Json), r.queryValues key = xs.map slotText →
        (r.binder message).nullableMany (ParamType.integer .i64).read [.query] key =
          .ok (some (xs.map slotParam)) := by
  have hdepth : Json.depth (.array (xs.map slotJson)) ≤ 127 := by
    rw [depth_slots]
    decide
  obtain ⟨bytes, hencode, hread⟩ := Codec.exists_encode (recodes_slots xs) hdepth pretty
  refine ⟨bytes, _, hencode, hread, fun r document hfield => ?_, fun r message hquery => ?_⟩
  · have hlookup : r.binder (some document) .message key = some ((xs.map slotJson).map scalarText) := by
      simp only [Request.binder, Option.bind_some, messageField, hfield, Option.map_some]
    rw [Binder.nullableMany_singleton hlookup, List.map_map, List.map_map]
    exact congrArg (Except.ok ∘ some) (List.map_congr_left fun x _ => slot_scalarText x)
  · have hpresent : (xs.map slotText).isEmpty = false := by
      rw [List.isEmpty_eq_false_iff]
      exact fun hnone => hne (List.map_eq_nil_iff.1 hnone)
    have hlookup : r.binder message .query key = some ((xs.map slotText).map some) := by
      simp only [Request.binder, Request.occurrences, hquery, hpresent, Bool.false_eq_true, if_false]
    rw [Binder.nullableMany_singleton hlookup, List.map_map, List.map_map]
    exact congrArg (Except.ok ∘ some) (List.map_congr_left fun x _ => slot_slotText x)

/-- A list with a hole between the greatest integer and a negative one. -/
def gapped : List (Option (Bounded .i64)) := [some ⟨9223372036854775807, by decide⟩, none, some ⟨-7, by decide⟩]

/-- A request whose query carries the list between other keys. -/
def gappedRequest : Request where
  method := "GET"
  uri := ⟨none, none, "/", some "page=2&v=9223372036854775807&v=&=v&v=-7"⟩
  headers := .empty
  pathParams := []
  query := [("page", "2"), ("v", "9223372036854775807"), ("v", ""), ("", "v"), ("v", "-7")]
  cookies := []
  body := []

theorem slots_carried_gapped : gapped ≠ [] ∧
    (∃ bytes v, (Codec.plain true).encode gapped = .ok bytes ∧ (Codec.plain false).decode bytes = .ok gapped ∧
      (gappedRequest.binder (some (.object [("v", v)]))).nullableMany (ParamType.integer .i64).read [.message] "v" =
        .ok (some (gapped.map slotParam))) ∧
    (gappedRequest.binder none).nullableMany (ParamType.integer .i64).read [.query] "v" =
      .ok (some [some (.integer 9223372036854775807), none, some (.integer (-7))]) := by
  have hne : gapped ≠ [] := nofun
  obtain ⟨bytes, v, hencode, hread, hmessage, hquery⟩ := slots_carried gapped hne "v" true
  refine ⟨hne, ⟨bytes, v, hencode, (hread false).2, hmessage _ _ rfl⟩, hquery _ none ?_⟩
  decide +kernel

end Switchyard

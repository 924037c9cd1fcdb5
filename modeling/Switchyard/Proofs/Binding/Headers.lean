import Switchyard.Binding.Param
import Switchyard.Http.Request
import Switchyard.Proofs.Binding.Holes

/-!
# Lists of headers

A list with missing slots is bound from the occurrences of a header that are texts. Those that are none have no slot,
not even a missing one: the slots after them move up, and a header that never is a text looks as if it were not there.

Main result: `header_slots_iff`.
-/

namespace Switchyard

variable {α : Type}

/-- Whether an occurrence of a header is a text. -/
def isHeaderText (value : Bytes) : Bool := (headerText? value).isSome

/-- The slot of an occurrence of a header: what its text is read as, if it is a text and not empty. -/
def headerSlot (read : TextReader α) (value : Bytes) : Option α :=
  (headerText? value).bind fun text => Binder.slot read (some text)

theorem headerSlot_eq_some_iff {read : TextReader α} {value : Bytes} {a : α} :
    headerSlot read value = some a ↔ ∃ text, headerText? value = some text ∧ text ≠ "" ∧ read text = .ok a := by
  simp only [headerSlot, Option.bind_eq_some_iff, Binder.slot_eq_some_iff .header "",
    Binder.convertPresent_eq_ok_iff, ne_eq, Option.some.injEq, exists_eq_left']

section Request

variable (head : RequestHead) (body : Bytes) (message : Option Json) {key name : String}

theorem map_slot_headerText? (read : TextReader α) : ∀ values : List Bytes,
    ((values.filterMap headerText?).map some).map (Binder.slot read) =
      (values.filter isHeaderText).map (headerSlot read)
  | [] => rfl
  | value :: rest => by
    have ih := map_slot_headerText? read rest
    cases htext : headerText? value with
    | none => simpa [htext, isHeaderText] using ih
    | some text => simpa [htext, isHeaderText, headerSlot] using ih

/-- The texts of a header, in their order, are looked up under its name in whatever letter case. -/
theorem binder_header (hname : headerName? key = some name) :
    (Request.decode head body).binder message .header key =
      Request.occurrences ((head.headers.values name).filterMap headerText?) := by
  simp only [Request.binder, Request.headerValues, hname, Request.decode]

/-- A list of headers has a slot for every occurrence that is a text, and is missing if there is none. -/
theorem nullableMany_header (hname : headerName? key = some name) (read : TextReader α) :
    ((Request.decode head body).binder message).nullableMany read [.header] key =
      if (head.headers.values name).filter isHeaderText = [] then .ok none
      else .ok (some (((head.headers.values name).filter isHeaderText).map (headerSlot read))) := by
  have hlookup := binder_header head body message hname
  have hnone : (head.headers.values name).filterMap headerText? = [] ↔
      (head.headers.values name).filter isHeaderText = [] := by
    simp [isHeaderText]
  split
  · rename_i htexts
    rw [hnone.2 htexts] at hlookup
    exact (Binder.lists_absent fun s hs => List.mem_singleton.1 hs ▸ hlookup).2
  · rename_i htexts
    rw [Request.occurrences, if_neg (by simpa [hnone] using htexts)] at hlookup
    rw [Binder.nullableMany_singleton hlookup, map_slot_headerText?]

/-- **A list of headers has a slot for each occurrence iff all of them are texts.** A slot holds what its occurrence is
read as, and it is missing if the occurrence is empty, no text or cannot be read. The list that is bound has the slots
of the occurrences that are texts, in their order, and it is missing if none is; so it has one for each occurrence, at
its place, iff all are texts. -/
theorem header_slots_iff (hname : headerName? key = some name) (hpresent : head.headers.values name ≠ [])
    (read : TextReader α) :
    (∀ value a, headerSlot read value = some a ↔
      ∃ text, headerText? value = some text ∧ text ≠ "" ∧ read text = .ok a) ∧
    ((Request.decode head body).binder message).nullableMany read [.header] key =
      (if (head.headers.values name).filter isHeaderText = [] then .ok none
      else .ok (some (((head.headers.values name).filter isHeaderText).map (headerSlot read)))) ∧
    (((Request.decode head body).binder message).nullableMany read [.header] key =
        .ok (some ((head.headers.values name).map (headerSlot read))) ↔
      ∀ value ∈ head.headers.values name, (headerText? value).isSome) := by
  refine ⟨fun value a => headerSlot_eq_some_iff, nullableMany_header head body message hname read, ?slots⟩
  case slots =>
    rw [nullableMany_header head body message hname]
    constructor
    · intro hslots
      split at hslots
      · cases hslots
      · have hlength := congrArg List.length (Option.some.inj (Except.ok.inj hslots))
        rw [List.length_map, List.length_map] at hlength
        exact List.length_filter_eq_length_iff.1 hlength
    · intro htexts
      have hall : (head.headers.values name).filter isHeaderText = head.headers.values name :=
        List.filter_eq_self.2 htexts
      rw [hall, if_neg hpresent]

/-- A request that carries a number, an empty value, a number and a word under one header. -/
def numberedHead : RequestHead where
  method := "GET"
  uri := ⟨none, none, "/", none⟩
  headers := ⟨[("x-id", [49]), ("x-id", []), ("x-other", [255]), ("x-id", [45, 55]), ("x-id", [120])]⟩
  captures := []

theorem header_slots_numbered : headerName? "X-Id" = some "x-id" ∧ numberedHead.headers.values "x-id" ≠ [] ∧
    ((Request.decode numberedHead []).binder none).nullableMany (ParamType.integer .i32).read [.header] "X-Id" =
      .ok (some [some (.integer 1), none, some (.integer (-7)), none]) := by
  have hname : headerName? "X-Id" = some "x-id" := by decide +kernel
  have hpresent : numberedHead.headers.values "x-id" ≠ [] := by decide
  obtain ⟨-, -, hslots⟩ := header_slots_iff numberedHead [] none hname hpresent
    (ParamType.integer .i32).read
  refine ⟨hname, hpresent, ?_⟩
  rw [hslots.2 (by decide)]
  rfl

/-- A request whose second of three occurrences of a header is no text. -/
def brokenHead : RequestHead where
  method := "GET"
  uri := ⟨none, none, "/", none⟩
  headers := ⟨[("x-id", [49]), ("x-id", [255]), ("x-id", [51])]⟩
  captures := []

/-- The second occurrence has no slot, and the third has the second one. -/
theorem header_slot_lost : headerName? "X-Id" = some "x-id" ∧
    (∀ value ∈ brokenHead.headers.values "x-id", isHeaderValue value = true) ∧
    (brokenHead.headers.values "x-id").map (headerSlot (ParamType.integer .i32).read) =
      [some (.integer 1), none, some (.integer 3)] ∧
    ((Request.decode brokenHead []).binder none).nullableMany (ParamType.integer .i32).read [.header] "X-Id" =
      .ok (some [some (.integer 1), some (.integer 3)]) ∧
    ((Request.decode brokenHead []).binder none).nullableMany (ParamType.integer .i32).read [.header] "X-Id" ≠
      .ok (some ((brokenHead.headers.values "x-id").map (headerSlot (ParamType.integer .i32).read))) := by
  have hname : headerName? "X-Id" = some "x-id" := by decide +kernel
  have hslots : (brokenHead.headers.values "x-id").map (headerSlot (ParamType.integer .i32).read) =
      [some (.integer 1), none, some (.integer 3)] := rfl
  have hbound : ((Request.decode brokenHead []).binder none).nullableMany (ParamType.integer .i32).read [.header]
      "X-Id" = .ok (some [some (.integer 1), some (.integer 3)]) := by
    rw [nullableMany_header brokenHead [] none hname]
    rfl
  refine ⟨hname, by decide, hslots, hbound, ?_⟩
  rw [hbound, hslots]
  nofun

end Request

end Switchyard

import Switchyard.Binding.Param
import Switchyard.Proofs.Binding.Precedence
import Switchyard.Proofs.Except

/-!
# Strict lists and lists with missing slots

A list of values is bound strictly, so that every occurrence of its key has to be read, or with a missing slot for every
occurrence that is null, empty or cannot be read. An empty occurrence is never a slot, but it is an item of a strict
list if the type of its items reads the empty text; all else is the same both ways.

Main result: `listsAgree_characterized`.
-/

namespace Switchyard

namespace Binder

variable {α : Type} {read : TextReader α} {b : Binder} {plan : List Source} {key : String} {s : Source}
  {values : List (Option String)} {items : List α} {o : Option String} {a : α}

/-! ## One occurrence -/

/-- An occurrence that a slot cannot hold. -/
inductive Hole (read : TextReader α) : Option String → Prop
  | null : Hole read none
  | empty : Hole read (some "")
  | unreadable {raw reason : String} : read raw = .error reason → Hole read (some raw)

theorem convertPresent_eq_ok_iff :
    convertPresent read s key o = .ok a ↔ ∃ raw, o = some raw ∧ read raw = .ok a := by
  cases o with
  | none => simp [convertPresent]
  | some raw =>
    simp only [convertPresent, convert, Option.some.injEq, exists_eq_left']
    cases read raw <;> simp [Except.mapError]

theorem slot_eq_some_iff (s : Source) (key : String) :
    slot read o = some a ↔ o ≠ some "" ∧ convertPresent read s key o = .ok a := by
  rw [convertPresent_eq_ok_iff]
  cases o with
  | none => simp [slot]
  | some raw =>
    by_cases hempty : raw = ""
    · simp [slot, hempty]
    · cases hread : read raw <;> simp [slot, hempty, hread, Except.toOption]

theorem slot_eq_none_iff : slot read o = none ↔ Hole read o := by
  constructor
  · intro hnone
    cases o with
    | none => exact .null
    | some raw =>
      by_cases hempty : raw = ""
      · exact hempty ▸ .empty
      · cases hread : read raw with
        | error reason => exact .unreadable hread
        | ok a => simp [slot, hempty, hread, Except.toOption] at hnone
  · intro hhole
    cases hhole with
    | null => rfl
    | empty => rfl
    | unreadable hread =>
      rw [slot, hread]
      split <;> rfl

/-! ## Lists of occurrences -/

theorem many_eq_ok_iff (hwin : b.winner? plan key = some (s, values)) :
    b.many read plan key = .ok (some items) ↔
      List.Forall₂ (fun o a => convertPresent read s key o = .ok a) values items := by
  simp only [many, hwin, map_eq_ok_iff, Option.some.injEq, exists_eq_right, mapM_eq_ok_iff]

theorem nullableMany_eq (hwin : b.winner? plan key = some (s, values)) :
    b.nullableMany read plan key = .ok (some (values.map (slot read))) := by
  simp only [nullableMany, hwin]

/-- From a single source every occurrence has a slot. -/
theorem nullableMany_singleton (h : b s key = some values) :
    b.nullableMany read [s] key = .ok (some (values.map (slot read))) :=
  nullableMany_eq (s := s) (winner?_eq_some_iff.2 ⟨[], [], rfl, h, nofun⟩)

/-- Slots of which none is missing are the items of a strict list without empty occurrences. -/
theorem map_slot_eq_iff (s : Source) (key : String) :
    values.map (slot read) = items.map some ↔
      some "" ∉ values ∧ List.Forall₂ (fun o a => convertPresent read s key o = .ok a) values items := by
  have hempty : some "" ∉ values ↔ ∀ o ∈ values, o ≠ some "" :=
    ⟨fun h o ho heq => h (heq ▸ ho), fun h hmem => h _ hmem rfl⟩
  rw [← List.forall₂_eq_eq_eq, List.forall₂_map_left_iff, List.forall₂_map_right_iff, hempty,
    ← List.forall₂_and_left]
  simp only [slot_eq_some_iff s key]

theorem exists_items : ∀ {slots : List (Option α)}, none ∉ slots → ∃ items : List α, slots = items.map some
  | [], _ => ⟨[], rfl⟩
  | none :: _, h => absurd List.mem_cons_self h
  | some a :: rest, h => by
    obtain ⟨items, rfl⟩ := exists_items fun hrest => h (List.mem_cons_of_mem _ hrest)
    exact ⟨a :: items, rfl⟩

/-- The slots of a strict list are its items, but for those of empty occurrences. -/
theorem map_slot_of_items (h : List.Forall₂ (fun o a => convertPresent read s key o = .ok a) values items) :
    values.map (slot read) = List.zipWith (fun o a => if o = some "" then none else some a) values items := by
  induction h with
  | nil => rfl
  | @cons o a _ _ hitem _ ih =>
    rw [List.map_cons, List.zipWith_cons_cons, ih]
    congr 1
    split
    · rename_i hempty
      rw [hempty]
      rfl
    · rename_i hempty
      exact (slot_eq_some_iff s key).2 ⟨hempty, hitem⟩

/-! ## Agreement -/

/-- Lists agree: both are missing where no source carries the key, and elsewhere the strict one is bound iff no slot is
missing, and then its items are the slots. -/
structure ListsAgree (b : Binder) (read : TextReader α) (plan : List Source) (key : String) : Prop where
  absent : (∀ s ∈ plan, b s key = none) →
    b.many read plan key = .ok none ∧ b.nullableMany read plan key = .ok none
  present : ∀ {s values}, b.winner? plan key = some (s, values) →
    ∃ slots, b.nullableMany read plan key = .ok (some slots) ∧
      ((∃ items, b.many read plan key = .ok (some items)) ↔ none ∉ slots) ∧
      ∀ items, b.many read plan key = .ok (some items) → slots = items.map some

theorem lists_absent (h : ∀ s ∈ plan, b s key = none) :
    b.many read plan key = .ok none ∧ b.nullableMany read plan key = .ok none := by
  simp only [many, nullableMany, winner?_eq_none_iff.2 h, and_self]

/-- Lists agree unless a strict list has an item for an empty occurrence. -/
theorem listsAgree_iff :
    b.ListsAgree read plan key ↔
      ∀ s values items, b.winner? plan key = some (s, values) → b.many read plan key = .ok (some items) →
        some "" ∉ values := by
  constructor
  · intro hagree s values items hwin hmany
    obtain ⟨slots, hslots, -, hitems⟩ := hagree.present hwin
    rw [nullableMany_eq hwin, Except.ok.injEq, Option.some.injEq] at hslots
    exact ((map_slot_eq_iff s key).1 (hslots.trans (hitems items hmany))).1
  · intro hempty
    refine ⟨lists_absent, fun {s values} hwin => ⟨_, nullableMany_eq hwin, ⟨?_, ?_⟩, ?_⟩⟩
    · rintro ⟨items, hmany⟩
      rw [(map_slot_eq_iff s key).2 ⟨hempty s values items hwin hmany, (many_eq_ok_iff hwin).1 hmany⟩]
      simp
    · intro hslots
      obtain ⟨items, hitems⟩ := exists_items hslots
      exact ⟨items, (many_eq_ok_iff hwin).2 ((map_slot_eq_iff s key).1 hitems).2⟩
    · intro items hmany
      exact (map_slot_eq_iff s key).2 ⟨hempty s values items hwin hmany, (many_eq_ok_iff hwin).1 hmany⟩

/-- Lists agree wherever they are bound iff the type of their items does not read the empty text. -/
theorem forall_listsAgree_iff :
    (∀ (b : Binder) (plan : List Source) (key : String), b.ListsAgree read plan key) ↔ ∀ a, read "" ≠ .ok a := by
  constructor
  · intro hagree a ha
    -- a query that carries the key once, with an empty value
    let once : Binder := fun _ _ => some [some ""]
    have hmany : once.many read [.query] "" = .ok (some [a]) :=
      (many_eq_ok_iff rfl).2 (.cons (convertPresent_eq_ok_iff.2 ⟨_, rfl, ha⟩) .nil)
    exact listsAgree_iff.1 (hagree once [.query] "") .query [some ""] [a] rfl hmany List.mem_cons_self
  · intro hread b plan key
    refine listsAgree_iff.2 fun s values items hwin hmany hempty => ?_
    have hitems : List.Forall₂ (fun o a => o ≠ some "" ∧ convertPresent read s key o = .ok a) values items := by
      refine ((many_eq_ok_iff hwin).1 hmany).imp fun o a hitem => ⟨?_, hitem⟩
      rintro rfl
      obtain ⟨raw, hraw, ha⟩ := convertPresent_eq_ok_iff.1 hitem
      exact hread a (Option.some.inj hraw ▸ ha)
    exact ((List.forall₂_and_left _ _).1 hitems).1 _ hempty rfl

end Binder

/-- Only texts and slugs read the empty text. -/
theorem ParamType.read_empty (type : ParamType) :
    (∀ v, type.read "" ≠ .ok v) ↔ type ≠ .string ∧ type ≠ .slug := by
  cases type with
  | string => exact iff_of_false (fun h => h _ rfl) fun h => h.1 rfl
  | slug => exact iff_of_false (fun h => h _ rfl) fun h => h.2 rfl
  | _ => exact iff_of_true nofun ⟨nofun, nofun⟩

/-- **Strict lists and lists with missing slots agree but for empty occurrences that are read.** A slot is missing iff
its occurrence is null, empty or cannot be read. The lists of a key agree unless the strict one is bound with an empty
occurrence, and then its items are the slots but for those of empty occurrences. So they agree wherever they are bound
iff the type of the items does not read the empty text, as all types but texts and slugs. -/
theorem listsAgree_characterized {α : Type} (read : TextReader α) (type : ParamType) :
    (∀ o, Binder.slot read o = none ↔ Binder.Hole read o) ∧
    (∀ (b : Binder) (plan : List Source) (key : String),
      (b.ListsAgree read plan key ↔
        ∀ s values items, b.winner? plan key = some (s, values) → b.many read plan key = .ok (some items) →
          some "" ∉ values) ∧
      ∀ s values items, b.winner? plan key = some (s, values) → b.many read plan key = .ok (some items) →
        b.nullableMany read plan key =
          .ok (some (List.zipWith (fun o a => if o = some "" then none else some a) values items))) ∧
    ((∀ (b : Binder) (plan : List Source) (key : String), b.ListsAgree read plan key) ↔ ∀ a, read "" ≠ .ok a) ∧
    ((∀ (b : Binder) (plan : List Source) (key : String), b.ListsAgree type.read plan key) ↔
      type ≠ .string ∧ type ≠ .slug) := by
  refine ⟨fun o => Binder.slot_eq_none_iff, fun b plan key => ⟨Binder.listsAgree_iff, ?slots⟩,
    Binder.forall_listsAgree_iff, Binder.forall_listsAgree_iff.trans type.read_empty⟩
  case slots =>
    intro s values items hwin hmany
    rw [Binder.nullableMany_eq hwin, Binder.map_slot_of_items ((Binder.many_eq_ok_iff hwin).1 hmany)]

/-- A query with a tag and an empty tag. -/
def taggedQuery : Binder := fun source key =>
  match source, key with
  | .query, "tag" => some [some "a", some ""]
  | _, _ => none

/-- An empty tag is an item of the strict list, and a missing slot of the other. -/
theorem empty_tag_bound :
    taggedQuery.many ParamType.string.read [.query] "tag" = .ok (some [.string "a", .string ""]) ∧
    taggedQuery.nullableMany ParamType.string.read [.query] "tag" = .ok (some [some (.string "a"), none]) ∧
    ¬ taggedQuery.ListsAgree ParamType.string.read [.query] "tag" := by
  refine ⟨rfl, rfl, fun hagree => ?_⟩
  exact Binder.listsAgree_iff.1 hagree .query [some "a", some ""] _ rfl rfl (by decide)

end Switchyard

import Mathlib.Data.List.Forall2
import Mathlib.Data.List.Perm.Basic
import Mathlib.Order.MinMax
import Switchyard.Json.Document
import Switchyard.Proofs.Json.Written

/-!
# Typed documents are read back from their values

Documents are built from scalars by options, lists, maps, pairs and records. What such a document is written as is
read back as the document: a missing slot of a list and a missing field of a record stay missing, and a number keeps
its type. Only a value under an option that is itself written as null is not told apart from a missing one, and
nothing else is lost.

Main results: `DocumentType.exists_recodes` and `recodes_some_of_isNull`.
-/

namespace Switchyard.Json

variable {α β : Type} [Document α] [Document β]

/-- The value is what a document is written as, and another document is what the value is read as. -/
structure Recodes (a b : α) (v : Json) : Prop where
  encode : Document.encode a = .ok v
  decode : Document.decode v = .ok b
  exact : Exact v

theorem contains_zero (t : IntegerType) : t.Contains 0 := by
  obtain ⟨signed, bits⟩ := t
  have hpos : ∀ n : Nat, (0 : Int) < twoTo n := fun n => Int.natCast_pos.2 (Nat.two_pow_pos n)
  cases signed with
  | false => exact ⟨le_rfl, Int.le_sub_one_of_lt (hpos bits)⟩
  | true => exact ⟨Int.neg_nonpos_of_nonneg (hpos _).le, Int.le_sub_one_of_lt (hpos (bits - 1))⟩

/-! ## Types of documents -/

mutual

/-- A type of documents without floating-point numbers. -/
inductive DocumentType : Type where
  | value
  | bool
  | text
  | character
  | integer (type : IntegerType)
  | option (of : DocumentType)
  | list (of : DocumentType)
  | dictionary (of : DocumentType)
  | pair (first second : DocumentType)
  | record (name : String) {names : List String} (distinct : names.Nodup) (fields : FieldTypes names)

/-- The types of the fields of a record, under their names. -/
inductive FieldTypes : List String → Type where
  | nil : FieldTypes []
  /-- A field that has a default may be missing; one that is an option always may. -/
  | cons {names : List String} (name : String) (hasDefault : Bool) (type : DocumentType) (rest : FieldTypes names) :
      FieldTypes (name :: names)

end

mutual

/-- The documents of a type. -/
def DocumentType.Carrier : DocumentType → Type
  | .value => Json
  | .bool => Bool
  | .text => String
  | .character => Char
  | .integer t => Bounded t
  | .option t => Option t.Carrier
  | .list t => List t.Carrier
  | .dictionary t => Dictionary t.Carrier
  | .pair t u => t.Carrier × u.Carrier
  | .record _ _ fields => fields.Carrier

/-- The values of fields, one after another. -/
def FieldTypes.Carrier : {names : List String} → FieldTypes names → Type
  | _, .nil => Unit
  | _, .cons _ _ t rest => t.Carrier × rest.Carrier

end

mutual

/-- The document that stands for a missing field with a default. -/
def DocumentType.default : (t : DocumentType) → t.Carrier
  | .value => Json.null
  | .bool => false
  | .text => ""
  | .character => Char.ofNat 0
  | .integer t => ⟨0, contains_zero t⟩
  | .option _ => none
  | .list _ => []
  | .dictionary _ => ⟨[]⟩
  | .pair t u => (t.default, u.default)
  | .record _ _ fields => fields.default

/-- The defaults of fields. -/
def FieldTypes.default : {names : List String} → (fields : FieldTypes names) → fields.Carrier
  | _, .nil => ()
  | _, .cons _ _ t rest => (t.default, rest.default)

end

/-- The document that stands for a missing field without a default, which has to be an option. -/
def DocumentType.absent? : (t : DocumentType) → Option t.Carrier
  | .option _ => some none
  | _ => none

mutual

/-- How the documents of a type are read and written. -/
@[reducible]
def DocumentType.document : (t : DocumentType) → Document t.Carrier
  | .value => inferInstanceAs (Document Json)
  | .bool => inferInstanceAs (Document Bool)
  | .text => inferInstanceAs (Document String)
  | .character => inferInstanceAs (Document Char)
  | .integer t => inferInstanceAs (Document (Bounded t))
  | .option t => have := t.document; inferInstanceAs (Document (Option t.Carrier))
  | .list t => have := t.document; inferInstanceAs (Document (List t.Carrier))
  | .dictionary t => have := t.document; inferInstanceAs (Document (Dictionary t.Carrier))
  | .pair t u => have := t.document; have := u.document; inferInstanceAs (Document (t.Carrier × u.Carrier))
  | .record name _ fields => fields.fields.record name

/-- How fields are read and written. -/
def FieldTypes.fields : {names : List String} → (fields : FieldTypes names) → Fields fields.Carrier
  | _, .nil => .nil
  | _, .cons name hasDefault t rest =>
    have := t.document
    .cons
      { name := name
        absent := if hasDefault then some t.default else t.absent?
        cut := if hasDefault then some t.default else none }
      rest.fields

end

instance (t : DocumentType) : Document t.Carrier := t.document

/-- The document is written as null. -/
def DocumentType.IsNull : (t : DocumentType) → t.Carrier → Prop
  | .value, v => v = Json.null
  | .option _, none => True
  | .option t, some a => t.IsNull a
  | _, _ => False

mutual

/-- The document holds no floating-point number, an integer in it fits 64 bits, and names ascend. -/
def DocumentType.Exact : (t : DocumentType) → t.Carrier → Prop
  | .value, v => Json.Exact v
  | .integer _, n => IntegerType.i64.least ≤ n.val ∧ n.val ≤ IntegerType.u64.greatest
  | .option t, some a => t.Exact a
  | .list t, as => List.Forall t.Exact as
  | .dictionary t, d => d.entries.Pairwise (fun e f => e.1 < f.1) ∧ d.entries.Forall fun e => t.Exact e.2
  | .pair t u, p => t.Exact p.1 ∧ u.Exact p.2
  | .record _ _ fields, r => fields.Exact r
  | _, _ => True

def FieldTypes.Exact : {names : List String} → (fields : FieldTypes names) → fields.Carrier → Prop
  | _, .nil, _ => True
  | _, .cons _ _ t rest, r => t.Exact r.1 ∧ rest.Exact r.2

end

mutual

/-- Nothing that is there is written as what is missing would be. -/
def DocumentType.ToldApart : (t : DocumentType) → t.Carrier → Prop
  | .option t, some a => t.ToldApart a ∧ ¬ t.IsNull a
  | .list t, as => List.Forall t.ToldApart as
  | .dictionary t, d => d.entries.Forall fun e => t.ToldApart e.2
  | .pair t u, p => t.ToldApart p.1 ∧ u.ToldApart p.2
  | .record _ _ fields, r => fields.ToldApart r
  | _, _ => True

def FieldTypes.ToldApart : {names : List String} → (fields : FieldTypes names) → fields.Carrier → Prop
  | _, .nil, _ => True
  | _, .cons _ _ t rest, r => t.ToldApart r.1 ∧ rest.ToldApart r.2

end

mutual

/-- How deep the lists, maps, pairs and records of a document are nested. -/
def DocumentType.depth : (t : DocumentType) → t.Carrier → Nat
  | .value, v => Json.depth v
  | .option t, some a => t.depth a
  | .list t, as => (List.map t.depth as).foldr max 0 + 1
  | .dictionary t, d => (d.entries.map fun e => t.depth e.2).foldr max 0 + 1
  | .pair t u, p => max (t.depth p.1) (u.depth p.2) + 1
  | .record _ _ fields, r => fields.depth r + 1
  | _, _ => 0

def FieldTypes.depth : {names : List String} → (fields : FieldTypes names) → fields.Carrier → Nat
  | _, .nil, _ => 0
  | _, .cons _ _ t rest, r => max (t.depth r.1) (rest.depth r.2)

end

/-! ## Parts of documents -/

theorem recodes_char (c : Char) : Recodes c c (.string (.singleton c)) := by
  refine ⟨rfl, ?_, trivial⟩
  simp only [Document.decode, String.toList_singleton]

theorem exactItems_iff : ∀ items : List Json, ExactItems items ↔ ∀ v ∈ items, Exact v
  | [] => by simp [ExactItems]
  | v :: rest => by simp [ExactItems, exactItems_iff rest]

theorem exactMembers_iff : ∀ members : List (String × Json), ExactMembers members ↔ ∀ m ∈ members, Exact m.2
  | [] => by simp [ExactMembers]
  | m :: rest => by simp [ExactMembers, exactMembers_iff rest]

theorem itemsDepth_eq : ∀ items : List Json, itemsDepth items = (items.map depth).foldr max 0
  | [] => rfl
  | v :: rest => by rw [itemsDepth, itemsDepth_eq rest, List.map_cons, List.foldr_cons]

theorem membersDepth_eq : ∀ members : List (String × Json),
    membersDepth members = (members.map fun m => depth m.2).foldr max 0
  | [] => rfl
  | m :: rest => by rw [membersDepth, membersDepth_eq rest, List.map_cons, List.foldr_cons]

/-- Items are written one by one, and read back. -/
theorem exists_encodeItems {P : α → α → Json → Prop} : ∀ {as : List α},
    (∀ a ∈ as, ∃ b v, Recodes a b v ∧ P a b v) →
      ∃ read : List (α × Json), encodeItems as = .ok (read.map Prod.snd) ∧
        decodeItems (read.map Prod.snd) = .ok (read.map Prod.fst) ∧ ExactItems (read.map Prod.snd) ∧
        List.Forall₂ (fun a r => P a r.1 r.2) as read
  | [], _ => ⟨[], rfl, rfl, trivial, .nil⟩
  | a :: as, h => by
    obtain ⟨b, v, hv, hp⟩ := h a List.mem_cons_self
    obtain ⟨read, hencode, hdecode, hexact, hread⟩ := exists_encodeItems fun b hb => h b (List.mem_cons_of_mem _ hb)
    refine ⟨(b, v) :: read, ?_, ?_, ⟨hv.exact, hexact⟩, .cons hp hread⟩
    · rw [encodeItems, hv.encode, hencode]
      rfl
    · rw [List.map_cons, decodeItems, hv.decode, hdecode]
      rfl

theorem exists_encodeEntries {P : α → α → Json → Prop} : ∀ {entries : List (String × α)},
    (∀ e ∈ entries, ∃ b v, Recodes e.2 b v ∧ P e.2 b v) →
      ∃ read : List (String × α × Json), encodeEntries entries = .ok (read.map fun r => (r.1, r.2.2)) ∧
        decodeEntries (read.map fun r => (r.1, r.2.2)) = .ok (read.map fun r => (r.1, r.2.1)) ∧
        ExactMembers (read.map fun r => (r.1, r.2.2)) ∧
        List.Forall₂ (fun e r => e.1 = r.1 ∧ P e.2 r.2.1 r.2.2) entries read
  | [], _ => ⟨[], rfl, rfl, trivial, .nil⟩
  | (name, a) :: entries, h => by
    obtain ⟨b, v, hv, hp⟩ := h (name, a) List.mem_cons_self
    obtain ⟨read, hencode, hdecode, hexact, hread⟩ :=
      exists_encodeEntries fun e he => h e (List.mem_cons_of_mem _ he)
    refine ⟨(name, b, v) :: read, ?_, ?_, ⟨hv.exact, hexact⟩, .cons ⟨rfl, hp⟩ hread⟩
    · rw [encodeEntries, hv.encode, hencode]
      rfl
    · rw [List.map_cons, decodeEntries, hv.decode, hdecode]
      rfl

/-- Lists that are alike place by place are the same list iff the places are the same. -/
theorem map_eq_iff_of_forall₂ {γ δ : Type} {f : δ → γ} {Q : γ → Prop} {as : List γ} {read : List δ}
    (h : List.Forall₂ (fun a r => f r = a ↔ Q a) as read) : read.map f = as ↔ List.Forall Q as := by
  induction h with
  | nil => simp
  | cons hr _ ih => rw [List.map_cons, List.cons.injEq, hr, ih, List.forall_cons]

theorem map_eq_of_forall₂ {γ δ : Type} {f : γ → Nat} {g : δ → Nat} {as : List γ} {read : List δ}
    (h : List.Forall₂ (fun a r => g r = f a) as read) : read.map g = as.map f := by
  induction h with
  | nil => rfl
  | cons hr _ ih => rw [List.map_cons, List.map_cons, hr, ih]

/-! ## Fields -/

theorem checkAll_eq_ok {γ : Type} {fields : Fields γ} : ∀ {members : List (String × Json)},
    (∀ m ∈ members, fields.check m.1 m.2 = .ok ()) → fields.checkAll members = .ok ()
  | [], _ => rfl
  | (name, v) :: rest, h => by
    rw [Fields.checkAll, h (name, v) List.mem_cons_self]
    exact checkAll_eq_ok fun m hm => h m (List.mem_cons_of_mem _ hm)

/-- Members that fields are written as are read back wherever they are found. -/
structure FieldsRecode {γ : Type} (fields : Fields γ) (r s : γ) (members : List (String × Json)) : Prop where
  encode : fields.toMembers r = .ok members
  check : ∀ m ∈ members, fields.check m.1 m.2 = .ok ()
  decode : ∀ all, (∀ m ∈ members, lookup? m.1 all = some m.2) → fields.ofMembers all = .ok s
  exact : ∀ m ∈ members, Exact m.2

section Cons

variable {γ : Type} {f : Field α} {rest : Fields γ}

theorem check_cons (name : String) (v : Json) : (Fields.cons f rest).check name v =
    if name = f.name then (Document.decode v : Except Mismatch α).map fun _ => () else rest.check name v := rfl

theorem ofMembers_cons (members : List (String × Json)) : (Fields.cons f rest).ofMembers members = (do
    let a ← f.ofMembers members
    return (a, ← rest.ofMembers members)) := rfl

theorem toMembers_cons (a : α) (r : γ) : (Fields.cons f rest).toMembers (a, r) = (do
    let v ← Document.encode a
    return (f.name, v) :: (← rest.toMembers r)) := rfl

/-- One more field in front of others, which have other names. -/
theorem FieldsRecode.cons {r s : γ} {members : List (String × Json)} (h : FieldsRecode rest r s members) {a b : α}
    {v : Json} (hv : Recodes a b v) (hfresh : f.name ∉ members.map Prod.fst) :
    FieldsRecode (.cons f rest) (a, r) (b, s) ((f.name, v) :: members) := by
  constructor
  case encode =>
    rw [toMembers_cons, hv.encode, h.encode]
    rfl
  case check =>
    refine List.forall_mem_cons.2 ⟨?_, fun m hm => ?_⟩
    · rw [check_cons, if_pos rfl, hv.decode]
      rfl
    · have hother : m.1 ≠ f.name := fun heq => hfresh (heq ▸ List.mem_map_of_mem hm)
      rw [check_cons, if_neg hother, h.check m hm]
  case decode =>
    intro all hall
    obtain ⟨hfirst, hrest⟩ := List.forall_mem_cons.1 hall
    have hfield : f.ofMembers all = .ok b := by
      simp only [Field.ofMembers, hfirst, hv.decode]
    rw [ofMembers_cons, hfield, h.decode all hrest]
    rfl
  case exact => exact List.forall_mem_cons.2 ⟨hv.exact, h.exact⟩

end Cons

/-- A record is written as an object of the members of its fields. -/
theorem FieldsRecode.exists_object {γ : Type} {fields : Fields γ} {r s : γ} {members : List (String × Json)}
    (h : FieldsRecode fields r s members) (hdistinct : (members.map Prod.fst).Nodup) (name : String) :
    ∃ v, @Recodes γ (fields.record name) r s v ∧ depth v = membersDepth members + 1 ∧ v ≠ .null := by
  obtain ⟨all, hobject, hsorted, hperm⟩ := exists_ofMembers hdistinct
  refine ⟨.object all, @Recodes.mk γ (fields.record name) r s (.object all) ?_ ?_ ⟨hsorted, ?_⟩, ?_, nofun⟩
  · show (fields.toMembers r).map Json.ofMembers = .ok (.object all)
    rw [h.encode]
    exact congrArg Except.ok hobject
  · show (do fields.checkAll all; fields.ofMembers all) = .ok s
    rw [checkAll_eq_ok fun m hm => h.check m (hperm.mem_iff.1 hm)]
    exact h.decode all fun m hm => (lookup?_eq_some_iff hsorted).2 (hperm.mem_iff.2 hm)
  · exact (exactMembers_iff all).2 fun m hm => h.exact m (hperm.mem_iff.1 hm)
  · have hcomm : LeftCommutative (max : Nat → Nat → Nat) := ⟨max_left_comm⟩
    rw [depth, membersDepth_eq, membersDepth_eq, (hperm.map _).foldr_eq]

/-! ## All documents -/

/-- A document is read as itself iff all that is there in it is told apart from what is missing. -/
structure Returns (t : DocumentType) (a b : t.Carrier) (v : Json) : Prop where
  recodes : Recodes a b v
  same : b = a ↔ t.ToldApart a
  depth : Json.depth v = t.depth a
  isNull : v = .null ↔ t.IsNull a

namespace Returns

variable {t u : DocumentType}

theorem some {a b : t.Carrier} {v : Json} (h : Returns t a b v) : ∃ b', Returns (.option t) (some a) b' v := by
  obtain ⟨hv, hsame, hdepth, hnull⟩ := h
  by_cases hmissing : v = .null
  · -- what is written as null is read as missing
    refine ⟨none, ⟨hv.encode, by rw [hmissing]; rfl, hv.exact⟩, ?_, hdepth, hnull⟩
    exact iff_of_false nofun fun h => h.2 (hnull.1 hmissing)
  · have hdecode : (Document.decode v : Except Mismatch (Option t.Carrier)) = (Document.decode v).map .some := by
      cases v with
      | null => exact absurd rfl hmissing
      | _ => rfl
    refine ⟨.some b, ⟨hv.encode, hdecode.trans (congrArg _ hv.decode), hv.exact⟩, ?_, hdepth, hnull⟩
    exact Option.some_inj.trans (hsame.trans ⟨fun h => ⟨h, fun hn => hmissing (hnull.2 hn)⟩, fun h => h.1⟩)

theorem exists_list {as : List t.Carrier} (h : ∀ a ∈ as, ∃ b v, Returns t a b v) :
    ∃ bs v, Returns (.list t) as bs v := by
  obtain ⟨read, hencode, hdecode, hexact, hread⟩ := exists_encodeItems fun a ha =>
    (h a ha).imp fun b hb => hb.imp fun v hv => ⟨hv.recodes, hv⟩
  refine ⟨read.map Prod.fst, .array (read.map Prod.snd), ⟨congrArg (Except.map Json.array) hencode, hdecode, hexact⟩,
    map_eq_iff_of_forall₂ (hread.imp fun _ _ hr => hr.same), congrArg (· + 1) ?_, iff_of_false nofun id⟩
  have hdepths : (read.map Prod.snd).map Json.depth = List.map t.depth as := by
    rw [List.map_map]
    exact map_eq_of_forall₂ (hread.imp fun _ _ hr => hr.depth)
  rw [itemsDepth_eq, hdepths]

theorem exists_dictionary {d : Dictionary t.Carrier} (hsorted : d.entries.Pairwise fun e f => e.1 < f.1)
    (h : ∀ e ∈ d.entries, ∃ b v, Returns t e.2 b v) : ∃ d' v, Returns (.dictionary t) d d' v := by
  obtain ⟨read, hencode, hdecode, hexact, hread⟩ := exists_encodeEntries fun e he =>
    (h e he).imp fun b hb => hb.imp fun v hv => ⟨hv.recodes, hv⟩
  have hnames : d.entries.map Prod.fst = read.map Prod.fst :=
    List.forall₂_eq_eq_eq ▸ List.forall₂_map_left_iff.2 (List.forall₂_map_right_iff.2 (hread.imp fun _ _ h => h.1))
  have hmembers : Sorted (read.map fun r => (r.1, r.2.2)) := by
    have hread := List.pairwise_map.2 hsorted
    rw [hnames] at hread
    exact List.pairwise_map.2 (List.pairwise_map.1 hread)
  have hentries : read.map (fun r => (r.1, r.2.1)) = d.entries ↔ d.entries.Forall fun e => t.ToldApart e.2 :=
    map_eq_iff_of_forall₂ (hread.imp fun e r hr => by rw [← hr.1, Prod.ext_iff]; simp [hr.2.same])
  have hdepths : (read.map fun r => (r.1, r.2.2)).map (fun m => Json.depth m.2) = d.entries.map fun e => t.depth e.2 := by
    rw [List.map_map]
    exact map_eq_of_forall₂ (hread.imp fun _ _ hr => hr.2.depth)
  refine ⟨⟨read.map fun r => (r.1, r.2.1)⟩, .object (read.map fun r => (r.1, r.2.2)),
    ⟨?_, ?_, hmembers, hexact⟩, ?_, congrArg (· + 1) ?_, iff_of_false nofun id⟩
  · exact congrArg (Except.map Json.object) hencode
  · exact congrArg (Except.map Dictionary.mk) hdecode
  · exact ⟨fun heq => hentries.1 (congrArg Dictionary.entries heq), fun h => congrArg Dictionary.mk (hentries.2 h)⟩
  · rw [membersDepth_eq, hdepths]

theorem pair {a a' : t.Carrier} {b b' : u.Carrier} {v w : Json} (hv : Returns t a a' v) (hw : Returns u b b' w) :
    Returns (.pair t u) (a, b) (a', b') (.array [v, w]) := by
  refine ⟨⟨?encode, ?decode, hv.recodes.exact, hw.recodes.exact, trivial⟩,
    Prod.mk_inj.trans (and_congr hv.same hw.same), ?depth, iff_of_false nofun id⟩
  case encode =>
    have hencode : (Document.encode (a, b) : Except EncodeFault Json) = (do
        let a ← Document.encode a
        let b ← Document.encode b
        return .array [a, b]) := rfl
    exact hencode.trans (by rw [hv.recodes.encode, hw.recodes.encode]; rfl)
  case decode =>
    have hdecode : (Document.decode (.array [v, w]) : Except Mismatch (t.Carrier × u.Carrier)) = (do
        let a ← Document.decode v
        let b ← Document.decode w
        return (a, b)) := rfl
    exact hdecode.trans (by rw [hv.recodes.decode, hw.recodes.decode]; rfl)
  case depth =>
    show max (Json.depth v) (max (Json.depth w) 0) + 1 = max (t.depth a) (u.depth b) + 1
    rw [hv.depth, hw.depth, Nat.max_zero]

end Returns

mutual

/-- **A document is written as an exact value**, as deep as the document is nested, and null only if the document is. The
value is read back as the document, unless something in it is not told apart from what is missing. -/
theorem DocumentType.exists_recodes : ∀ (t : DocumentType) {a : t.Carrier}, t.Exact a → ∃ b v, Returns t a b v
  | .value, v, h => ⟨v, v, ⟨rfl, rfl, h⟩, iff_of_true rfl trivial, rfl, .rfl⟩
  | .bool, b, _ => ⟨b, .bool b, ⟨rfl, rfl, trivial⟩, iff_of_true rfl trivial, rfl, iff_of_false nofun id⟩
  | .text, s, _ => ⟨s, .string s, ⟨rfl, rfl, trivial⟩, iff_of_true rfl trivial, rfl, iff_of_false nofun id⟩
  | .character, c, _ => ⟨c, _, recodes_char c, iff_of_true rfl trivial, rfl, iff_of_false nofun id⟩
  | .integer t, n, h => ⟨n, .integer n.val, ⟨if_pos h, dif_pos n.inRange, h⟩, iff_of_true rfl trivial, rfl,
      iff_of_false nofun id⟩
  | .option t, none, _ => ⟨none, .null, ⟨rfl, rfl, trivial⟩, iff_of_true rfl trivial, rfl, iff_of_true rfl trivial⟩
  | .option t, some a, h => by
    obtain ⟨b, v, hv⟩ := t.exists_recodes (a := a) h
    obtain ⟨b', hsome⟩ := hv.some
    exact ⟨b', v, hsome⟩
  | .list t, as, h => Returns.exists_list fun a ha => t.exists_recodes (List.forall_iff_forall_mem.1 h a ha)
  | .dictionary t, d, h =>
    Returns.exists_dictionary h.1 fun e he => t.exists_recodes (List.forall_iff_forall_mem.1 h.2 e he)
  | .pair t u, (a, b), h => by
    obtain ⟨a', v, hv⟩ := t.exists_recodes h.1
    obtain ⟨b', w, hw⟩ := u.exists_recodes h.2
    exact ⟨(a', b'), .array [v, w], hv.pair hw⟩
  | .record name distinct fields, r, h => by
    obtain ⟨s, members, hfields, hnames, hsame, hdepth⟩ := fields.exists_recode distinct h
    obtain ⟨v, hv, hdeep, hobject⟩ := hfields.exists_object (hnames ▸ distinct) name
    exact ⟨s, v, hv, hsame, hdeep.trans (congrArg (· + 1) hdepth), iff_of_false hobject id⟩

theorem FieldTypes.exists_recode : ∀ {names : List String} (fields : FieldTypes names) {r : fields.Carrier},
    names.Nodup → fields.Exact r → ∃ s members, FieldsRecode fields.fields r s members ∧
      members.map Prod.fst = names ∧ (s = r ↔ fields.ToldApart r) ∧ membersDepth members = fields.depth r
  | _, .nil, _, _, _ => ⟨(), [], ⟨rfl, by simp, fun _ _ => rfl, by simp⟩, rfl, iff_of_true rfl trivial, rfl⟩
  | _, .cons name hasDefault t rest, r, hdistinct, h => by
    obtain ⟨a, r⟩ : t.Carrier × rest.Carrier := r
    obtain ⟨hfresh, hrest⟩ := List.nodup_cons.1 hdistinct
    obtain ⟨b, v, hv, hsame, hdepth, -⟩ := t.exists_recodes h.1
    obtain ⟨s, members, hfields, rfl, hsame', hdepth'⟩ := rest.exists_recode hrest h.2
    refine ⟨(b, s), (name, v) :: members, hfields.cons hv hfresh, rfl, Prod.mk_inj.trans (and_congr hsame hsame'), ?_⟩
    show max (Json.depth v) (membersDepth members) = max (t.depth a) (rest.depth r)
    rw [hdepth, hdepth']

end

/-- A document that is written as null is read as missing where an option of it is asked for. -/
theorem recodes_some_of_isNull {t : DocumentType} {a : t.Carrier} (hexact : t.Exact a) (h : t.IsNull a) :
    Recodes (some a) none .null := by
  obtain ⟨b, v, hv⟩ := t.exists_recodes hexact
  obtain rfl := hv.isNull.2 h
  exact ⟨hv.recodes.encode, rfl, trivial⟩

end Switchyard.Json

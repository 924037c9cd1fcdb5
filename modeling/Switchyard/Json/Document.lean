import Switchyard.Json.Printer
import Switchyard.Number.Integer
import Switchyard.Text.Quoted

/-!
# Typed documents

A type of documents is read from a JSON value and written to one. A record is read from an object, whose
unknown members are ignored, or from the list of its fields.
-/

namespace Switchyard.Json

/-- Why a value is no document of a type. -/
inductive Mismatch where
  | type (found : Json) (expected : String)
  | value (found : Json) (expected : String)
  | length (length : Nat) (expected : String)
  | missing (field : String)

/-- What a value is, in messages. -/
def describe : Json → String
  | .null => "null"
  | .bool b => s!"boolean `{b}`"
  | .integer n => s!"integer `{n}`"
  | .real x => s!"floating point `{renderReal x}`"
  | .string s => s!"string {quoted s}"
  | .array _ => "sequence"
  | .object _ => "map"

/-- The wording of a mismatch. -/
def Mismatch.message : Mismatch → String
  | .type found expected => s!"invalid type: {describe found}, expected {expected}"
  | .value found expected => s!"invalid value: {describe found}, expected {expected}"
  | .length n expected => s!"invalid length {n}, expected {expected}"
  | .missing field => s!"missing field `{field}`"

/-- Why a document has no JSON value. -/
inductive EncodeFault where
  | numberOutOfRange
  /-- The document itself refuses to be written. -/
  | refused (reason : String)
  deriving DecidableEq, Repr

/-- The wording of a fault. -/
def EncodeFault.message : EncodeFault → String
  | .numberOutOfRange => "number out of range"
  | .refused reason => reason

/-- A type of documents. -/
class Document (α : Type) where
  decode : Json → Except Mismatch α
  encode : α → Except EncodeFault Json

/-- An integer, if a document can hold it. -/
def ofInteger (n : Int) : Except EncodeFault Json :=
  if IntegerType.i64.least ≤ n ∧ n ≤ IntegerType.u64.greatest then .ok (.integer n)
  else .error .numberOutOfRange

/-! ## Scalars -/

instance : Document Json := ⟨.ok, .ok⟩

instance : Document Bool where
  decode
    | .bool b => .ok b
    | v => .error (.type v "a boolean")
  encode b := .ok (.bool b)

instance : Document String where
  decode
    | .string s => .ok s
    | v => .error (.type v "a string")
  encode s := .ok (.string s)

instance : Document Char where
  decode
    | .string s =>
      match s.toList with
      | [c] => .ok c
      | _ => .error (.value (.string s) "a character")
    | v => .error (.type v "a character")
  encode c := .ok (.string (.singleton c))

instance (t : IntegerType) : Document (Bounded t) where
  decode
    | .integer n =>
      if h : t.Contains n then .ok ⟨n, h⟩ else .error (.value (.integer n) t.name)
    | v => .error (.type v t.name)
  encode n := ofInteger n.val

/-! ## Containers -/

section Containers

variable {α β : Type} [Document α] [Document β]

instance : Document (Option α) where
  decode
    | .null => .ok none
    | v => (Document.decode v).map some
  encode
    | none => .ok .null
    | some a => Document.encode a

/-- Reads every item. -/
def decodeItems : List Json → Except Mismatch (List α)
  | [] => .ok []
  | v :: rest => do
    let a ← Document.decode v
    let as ← decodeItems rest
    return a :: as

/-- Writes every item. -/
def encodeItems : List α → Except EncodeFault (List Json)
  | [] => .ok []
  | a :: rest => do
    let v ← Document.encode a
    let vs ← encodeItems rest
    return v :: vs

instance : Document (List α) where
  decode
    | .array items => decodeItems items
    | v => .error (.type v "a sequence")
  encode as := (encodeItems as).map .array

/-- Refuses a list that is longer than its document. -/
def refuseLonger (expected : Nat) (items : List Json) : Except Mismatch Unit :=
  if expected < items.length then .error (.length items.length "fewer elements in array") else .ok ()

instance : Document (α × β) where
  decode
    | .array (a :: b :: rest) => do
      let a ← Document.decode a
      let b ← Document.decode b
      refuseLonger 2 (.null :: .null :: rest)
      return (a, b)
    | .array [a] => do
      let _ : α ← Document.decode a
      .error (.length 1 "a tuple of size 2")
    | .array [] => .error (.length 0 "a tuple of size 2")
    | v => .error (.type v "a tuple of size 2")
  encode p := do
    let a ← Document.encode p.1
    let b ← Document.encode p.2
    return .array [a, b]

end Containers

/-! ## Maps -/

/-- A map from names to documents, in ascending order of the names. -/
structure Dictionary (α : Type) where
  entries : List (String × α)

/-- Reads the value of every member. -/
def decodeEntries {α : Type} [Document α] : List (String × Json) → Except Mismatch (List (String × α))
  | [] => .ok []
  | (name, v) :: rest => do
    let a ← Document.decode v
    let as ← decodeEntries rest
    return (name, a) :: as

/-- Writes the value of every entry. -/
def encodeEntries {α : Type} [Document α] : List (String × α) → Except EncodeFault (List (String × Json))
  | [] => .ok []
  | (name, a) :: rest => do
    let v ← Document.encode a
    let vs ← encodeEntries rest
    return (name, v) :: vs

instance {α : Type} [Document α] : Document (Dictionary α) where
  decode
    | .object members => (decodeEntries members).map .mk
    | v => .error (.type v "a map")
  encode d := (encodeEntries d.entries).map .object

/-! ## Records -/

/-- A field of a record. -/
structure Field (α : Type) where
  name : String
  /-- What the field is in an object that has no member for it. Without this the object is refused. -/
  absent : Option α := none
  /-- What the field is in a list that ends before it. Without this the list is refused. -/
  cut : Option α := none

/-- Reads a field from the members of an object. -/
def Field.ofMembers {α : Type} [Document α] (f : Field α) (members : List (String × Json)) : Except Mismatch α :=
  match lookup? f.name members, f.absent with
  | some v, _ => Document.decode v
  | none, some a => .ok a
  | none, none => .error (.missing f.name)

/-- The fields of a record, in the order in which they are declared. -/
structure Fields (α : Type) where
  count : Nat
  /-- Refuses the member of a field if its value is no document. Members of other names are passed over. -/
  check : String → Json → Except Mismatch Unit
  /-- Reads the fields from the members of an object. -/
  ofMembers : List (String × Json) → Except Mismatch α
  /-- Reads the fields from what follows the first `index` items of a list; `whole` describes the whole list. -/
  ofItems : (whole : String) → (index : Nat) → List Json → Except Mismatch α
  toMembers : α → Except EncodeFault (List (String × Json))

namespace Fields

variable {α β : Type}

/-- A record without fields. -/
def nil : Fields Unit where
  count := 0
  check _ _ := .ok ()
  ofMembers _ := .ok ()
  ofItems _ index items :=
    if items.isEmpty then .ok () else .error (.length (index + items.length) "fewer elements in array")
  toMembers _ := .ok []

/-- One more field in front of others. -/
def cons [Document α] (f : Field α) (rest : Fields β) : Fields (α × β) where
  count := rest.count + 1
  check name v :=
    if name = f.name then (Document.decode v : Except Mismatch α).map fun _ => () else rest.check name v
  ofMembers members := do
    let a ← f.ofMembers members
    return (a, ← rest.ofMembers members)
  ofItems whole index
    | v :: items => do
      let a ← Document.decode v
      return (a, ← rest.ofItems whole (index + 1) items)
    | [] =>
      match f.cut with
      | some a => (rest.ofItems whole (index + 1) []).map fun b => (a, b)
      | none => .error (.length index whole)
  toMembers p := do
    let v ← Document.encode p.1
    return (f.name, v) :: (← rest.toMembers p.2)

/-- Refuses the members of an object, in their order, that are no documents of their fields. -/
def checkAll (fields : Fields α) : List (String × Json) → Except Mismatch Unit
  | [] => .ok ()
  | (name, v) :: rest => do
    fields.check name v
    fields.checkAll rest

/-- The documents of a record of some name. -/
@[reducible]
def record (name : String) (fields : Fields α) : Document α where
  decode
    | .object members => do
      fields.checkAll members
      fields.ofMembers members
    | .array items =>
      let plural := if fields.count = 1 then "" else "s"
      fields.ofItems s!"struct {name} with {fields.count} element{plural}" 0 items
    | v => .error (.type v s!"struct {name}")
  encode a := (fields.toMembers a).map Json.ofMembers

end Fields

/-! ## Notes -/

/-- A note with optional tags and an optional mark. -/
structure Note where
  title : String
  words : Bounded .u32
  tags : List String
  draft : Option Bool

/-- The fields of a note. -/
def Note.fields : Fields (String × Bounded .u32 × List String × Option Bool × Unit) :=
  .cons { name := "title" } <| .cons { name := "words" } <|
    .cons { name := "tags", absent := some [], cut := some [] } <|
    .cons { name := "draft", absent := some none } .nil

instance : Document Note where
  decode v := (Note.fields.record "Note").decode v |>.map fun (title, words, tags, draft, _) =>
    ⟨title, words, tags, draft⟩
  encode n := (Note.fields.record "Note").encode (n.title, n.words, n.tags, n.draft, ())

end Switchyard.Json

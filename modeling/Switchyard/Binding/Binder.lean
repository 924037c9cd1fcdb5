import Switchyard.Binding.Source
import Switchyard.Http.Error

/-!
# Binding

A binder looks a key up in one source. Binding takes every occurrence of the key from the first source of
a plan that carries it, and reads them as a scalar, an optional scalar, a list or a list with missing
slots. Later sources of the plan are never asked.
-/

namespace Switchyard

/-- The occurrences of a key in a source, in order, or nothing when the source does not carry the key. An
occurrence may be null. -/
abbrev Binder := Source → String → Option (List (Option String))

/-- How a text is read as a value; a refusal gives its reason. -/
abbrev TextReader (α : Type) := String → Except String α

/-- Why a parameter was not bound. -/
inductive BindError where
  /-- No source carries the key, or its value is null. -/
  | missing (key : String)
  /-- The value could not be read. -/
  | conversion (key : String) (source : Source) (value reason : String)
  deriving DecidableEq, Repr

/-- The text of an error. -/
def BindError.text : BindError → String
  | .missing key => s!"missing required parameter '{key}'"
  | .conversion key source value reason => s!"invalid {source.name} parameter '{key}' = '{value}': {reason}"

/-- A failing parameter is a fault of the request. -/
def HttpError.ofBind (e : BindError) : HttpError := .badRequest e.text

namespace Binder

variable {α : Type}

/-- The first source of a plan that carries the key, with the occurrences there. -/
def winner? (b : Binder) (plan : List Source) (key : String) : Option (Source × List (Option String)) :=
  plan.findSome? fun source => (b source key).map fun values => (source, values)

/-- Reads one occurrence. -/
def convert (read : TextReader α) (source : Source) (key raw : String) : Except BindError α :=
  (read raw).mapError fun reason => .conversion key source raw reason

/-- A value that must be present; an empty text is still read. -/
def required (b : Binder) (read : TextReader α) (plan : List Source) (key : String) : Except BindError α :=
  match b.winner? plan key with
  | none => .error (.missing key)
  | some (source, values) =>
    match values.head?.join with
    | none => .error (.missing key)
    | some raw => convert read source key raw

/-- A value that may be absent, null or empty. -/
def optional (b : Binder) (read : TextReader α) (plan : List Source) (key : String) :
    Except BindError (Option α) :=
  match b.winner? plan key with
  | none => .ok none
  | some (source, values) =>
    match values.head?.join with
    | none => .ok none
    | some raw => if raw.isEmpty then .ok none else (convert read source key raw).map some

/-- Reads an occurrence that must not be null. -/
def convertPresent (read : TextReader α) (source : Source) (key : String) : Option String → Except BindError α
  | some raw => convert read source key raw
  | none => .error (.conversion key source "null" "null element")

/-- Every occurrence; one that is null or cannot be read fails the whole. -/
def many (b : Binder) (read : TextReader α) (plan : List Source) (key : String) :
    Except BindError (Option (List α)) :=
  match b.winner? plan key with
  | none => .ok none
  | some (source, values) => (values.mapM (convertPresent read source key)).map some

/-- Reads an occurrence; null, empty and unreadable ones are missing slots. -/
def slot (read : TextReader α) : Option String → Option α
  | some raw => if raw.isEmpty then none else (read raw).toOption
  | none => none

/-- Every occurrence, with a slot for each. -/
def nullableMany (b : Binder) (read : TextReader α) (plan : List Source) (key : String) :
    Except BindError (Option (List (Option α))) :=
  match b.winner? plan key with
  | none => .ok none
  | some (_, values) => .ok (some (values.map (slot read)))

end Binder

/-! ## Messages -/

/-- The text of a scalar in a document; null has none. -/
def scalarText : Json → Option String
  | .null => none
  | .string s => some s
  | v => some v.compact

/-- The occurrences of a key in a document: the items of a list, or the one value. -/
def messageField (document : Json) (key : String) : Option (List (Option String)) :=
  (document.member? key).map fun
    | .array items => items.map scalarText
    | v => [scalarText v]

end Switchyard

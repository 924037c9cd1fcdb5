import Switchyard.Http.Error
import Switchyard.Json.Document
import Switchyard.Json.Parser
import Switchyard.Json.Path
import Switchyard.Text.Quoted

/-!
# Expectations of a response

A client looks into a response, or expects something of it; an expectation that is not met says what was found
instead.
-/

namespace Switchyard

/-! ## Values in messages -/

namespace Json

mutual

/-- A value as messages show it, with its kind. -/
def shown : Json → String
  | .null => "Null"
  | .bool b => s!"Bool({b})"
  | .integer n => s!"Number({n})"
  | .real x => s!"Number({renderReal x})"
  | .string s => s!"String({quoted s})"
  | .array items => "Array [" ++ ", ".intercalate (shownItems items) ++ "]"
  | .object members => "Object \x7b" ++ ", ".intercalate (shownMembers members) ++ "\x7d"

/-- Items as messages show them. -/
def shownItems : List Json → List String
  | [] => []
  | v :: rest => v.shown :: shownItems rest

/-- Members as messages show them. -/
def shownMembers : List (String × Json) → List String
  | [] => []
  | (name, v) :: rest => s!"{quoted name}: {v.shown}" :: shownMembers rest

end

end Json

/-- What a comparison that fails says. -/
def mismatchText (context left right : String) : String :=
  s!"assertion `left == right` failed: {context}\n  left: {left}\n right: {right}"

/-! ## Looking into a response -/

namespace Response

/-- The body as a text, with replacement characters for what is none. -/
def text (r : Response) : String := Utf8.decodeLossy r.body

/-- The body as a document. -/
def document (r : Response) : Except String Json :=
  (Json.parse r.body).mapError fun reason => s!"body is not the expected JSON ({reason}): {r.text}"

/-- The value at a path of the body. -/
def valueAt (r : Response) (path : String) : Except String Json :=
  match r.document with
  | .error e => .error e
  | .ok v => Json.resolvePath v path

/-- The value at a path of the body, as a document of a type. -/
def documentAt {α : Type} [Json.Document α] (r : Response) (path : String) : Except String α :=
  match r.valueAt path with
  | .error e => .error e
  | .ok v => (Json.Document.decode v).mapError fun e => s!"`{path}` does not decode: {e.message}"

/-- The first value of a header, if it is a text. -/
def header? (r : Response) (name : String) : Option String :=
  match headerName? name with
  | none => none
  | some name => (r.headers.values name).head?.bind headerText?

/-- Expects a status. -/
def expectStatus (r : Response) (expected : Status) : Except String Unit :=
  if r.status = expected then .ok ()
  else .error (mismatchText s!"unexpected status; body: {r.text}" (toString r.status.code) (toString expected.code))

/-- Expects a value at a path of the body. -/
def expectValue (r : Response) (path : String) (expected : Json) : Except String Unit :=
  match r.document with
  | .error e => .error e
  | .ok v =>
    match Json.resolvePath v path with
    | .error e => .error e
    | .ok found =>
      if found == expected then .ok ()
      else .error (mismatchText s!"at `{path}` in {v.compact}" found.shown expected.shown)

end Response

end Switchyard

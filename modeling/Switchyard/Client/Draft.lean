import Switchyard.Application.Basic
import Switchyard.Http.Percent

/-!
# Drafts of requests

A client writes a request down by the values that it offers to each source. Queries are appended to the path
as a form, cookies share one header, and headers keep the order in which they were offered.
-/

namespace Switchyard

/-- The body of a draft. -/
inductive DraftBody where
  | none
  | document (body : Json)
  | bytes (body : Bytes)

/-- A request that is not sent yet. -/
structure Draft where
  method : String
  path : String
  /-- The values that are offered, in order. -/
  values : List (Source × String × String) := []
  body : DraftBody := .none

namespace Draft

/-- Whether values can be offered to a source; those of the path belong into the path. -/
def accepts : Source → Bool
  | .query => true
  | .header => true
  | .cookie => true
  | _ => false

/-- Offers a value, if the source takes any. -/
def offer? (d : Draft) (source : Source) (key value : String) : Option Draft :=
  if accepts source then some { d with values := d.values ++ [(source, key, value)] } else none

/-- The values that are offered to a source. -/
def valuesOf (d : Draft) (source : Source) : List (String × String) :=
  d.values.filterMap fun v => if v.1 = source then some v.2 else none

/-- The target of a draft. -/
def target (d : Draft) : String :=
  let query := Form.encode (d.valuesOf .query)
  if query.isEmpty then d.path
  else if d.path.toList.contains '?' then s!"{d.path}&{query}"
  else s!"{d.path}?{query}"

/-- The bytes of a header value, if a header may hold them. -/
def headerValue? (value : String) : Option Bytes :=
  let bytes := Utf8.encode value
  if isHeaderValue bytes then some bytes else none

/-- The line of the cookies that are offered. -/
def cookieLine (d : Draft) : String :=
  "; ".intercalate ((d.valuesOf .cookie).map fun c => s!"{c.1}={c.2}")

/-- The headers that are offered. -/
def offeredHeaders? (d : Draft) : Option Headers :=
  (d.valuesOf .header).foldlM (fun h (name, value) => do
    let name ← headerName? name
    let value ← headerValue? value
    return h.append name value) Headers.empty

/-- The headers of a draft: those that are offered, the cookies, and the type of a document. -/
def headers? (d : Draft) : Option Headers := do
  let h ← d.offeredHeaders?
  let h ← if (d.valuesOf .cookie).isEmpty then pure h else (headerValue? d.cookieLine).map (h.insert "cookie")
  match d.body with
  | .document _ => return if h.contains contentType then h else h.insert contentType (Utf8.encode "application/json")
  | _ => return h

/-- The bytes of a draft's body. -/
def content (d : Draft) : Bytes :=
  match d.body with
  | .none => []
  | .document v => Utf8.encodeChars v.compactChars
  | .bytes b => b

/-- The request that is sent; there is none if the target or a header cannot be written. -/
def incoming? (d : Draft) : Option Incoming := do
  let uri ← Uri.parse? d.target
  let headers ← d.headers?
  return ⟨⟨d.method, uri, headers, []⟩, [d.content], false⟩

end Draft

end Switchyard

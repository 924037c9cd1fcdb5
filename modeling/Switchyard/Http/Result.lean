import Switchyard.Http.Context

/-!
# Results of actions

A result writes the response: a document in the context's codec, content of a given type, a bare status or
a redirection. One that cannot be written fails before it has written anything.
-/

namespace Switchyard

/-- What a result does to an invocation. -/
abbrev Execution := HttpContext → Except HttpError Unit × HttpContext

/-- A result of an action. -/
inductive ActionResult where
  /-- A document, or why there is none. -/
  | json (document : Except Json.EncodeFault Json) (status : Status)
  | content (content type : String) (status : Status)
  | status (status : Status)
  | redirect (location : String) (status : Status)

namespace ActionResult

/-- A document with the usual status. -/
def ofJson (v : Json) : ActionResult := .json (.ok v) .ok

/-- Plain text. -/
def plainText (content : String) : ActionResult := .content content "text/plain; charset=utf-8" .ok

/-- A page. -/
def html (content : String) : ActionResult := .content content "text/html; charset=utf-8" .ok

/-- Redirections for now, to a page to get, and for good. -/
def redirectTo (location : String) : ActionResult := .redirect location .found
def seeOther (location : String) : ActionResult := .redirect location .seeOther
def permanent (location : String) : ActionResult := .redirect location .permanentRedirect

/-- The bytes of a header value, if the text may be one. -/
def headerBytes? (s : String) : Option Bytes :=
  let bytes := Utf8.encode s
  if isHeaderValue bytes then some bytes else none

/-- Writes a result. -/
def execute (result : ActionResult) : Execution := fun ctx =>
  match result with
  | .json document code =>
    match encodeDocument ctx.codec document with
    | .error e => (.error e, ctx)
    | .ok bytes =>
      let response := { ctx.response with status := code }
      (.ok (), { ctx with response := response.setBody (Utf8.encode "application/json") bytes })
  | .content text type code =>
    match headerBytes? type with
    | none => (.error (.internal s!"invalid content type '{type}'"), ctx)
    | some bytes =>
      let response := { ctx.response with status := code }
      (.ok (), { ctx with response := response.setBody bytes (Utf8.encode text) })
  | .status code => (.ok (), { ctx with response := { ctx.response with status := code } })
  | .redirect location code =>
    match headerBytes? location with
    | none => (.error (.internal s!"invalid redirect location '{location}'"), ctx)
    | some bytes =>
      let response := { ctx.response with
        status := code, headers := ctx.response.headers.insert "location" bytes }
      (.ok (), { ctx with response := response })

end ActionResult

/-- Executes what an action returned unmarked: what executes itself does so, and anything else is written as a
document. -/
def executeUnmarked (own : Option Execution) (document : Except Json.EncodeFault Json) : Execution :=
  own.getD (ActionResult.json document .ok).execute

end Switchyard

import Switchyard.Http.Result
import Switchyard.Proofs.Http.Header

/-!
# What results leave of a response

A result that is refused leaves the response as it was. One that is sent writes its status, its header if it has one,
and its body if it has one; every other header stays, and the text of the header is one that a header may hold. A bare
status and a redirection have no body of their own: they send the one that they find.

Main results: `execute_refused_or_sent` and `bodies_agree_iff`.
-/

namespace Switchyard

/-- A text that a header may hold: no control stands in it but the tab. -/
def HeaderSafe (text : String) : Prop := ∀ b ∈ Utf8.encode text, b = 9 ∨ 32 ≤ b ∧ b ≠ 127

theorem isHeaderValue_encode_iff {text : String} : isHeaderValue (Utf8.encode text) = true ↔ HeaderSafe text := by
  simp [isHeaderValue, HeaderSafe, isHeaderByte]

instance (text : String) : Decidable (HeaderSafe text) := decidable_of_iff _ isHeaderValue_encode_iff

namespace ActionResult

/-! ## What a result sends -/

/-- The status of a result. -/
def code : ActionResult → Status
  | .json _ s => s
  | .content _ _ s => s
  | .status s => s
  | .redirect _ s => s

/-- The header that a result writes, and its text. -/
def header? : ActionResult → Option (String × String)
  | .json _ _ => some (contentType, "application/json")
  | .content _ type _ => some (contentType, type)
  | .status _ => none
  | .redirect location _ => some ("location", location)

/-- The body that a result has of its own. -/
def body? (codec : Codec) : ActionResult → Option Bytes
  | .json document _ => (encodeDocument codec document).toOption
  | .content text _ _ => some (Utf8.encode text)
  | .status _ => none
  | .redirect _ _ => none

/-- Why a result is refused: its document cannot be written, or no header may hold its text. -/
inductive Refused (codec : Codec) : ActionResult → HttpError → Prop
  | document {document : Except Json.EncodeFault Json} {status : Status} {e : HttpError} :
      encodeDocument codec document = .error e → Refused codec (.json document status) e
  | type {text type : String} {status : Status} :
      ¬ HeaderSafe type → Refused codec (.content text type status) (.internal s!"invalid content type '{type}'")
  | location {location : String} {status : Status} :
      ¬ HeaderSafe location →
        Refused codec (.redirect location status) (.internal s!"invalid redirect location '{location}'")

section Refused

variable {codec : Codec} {s : Status} {e : HttpError}

theorem refused_json_iff {document : Except Json.EncodeFault Json} :
    (json document s).Refused codec e ↔ encodeDocument codec document = .error e := by
  constructor
  · intro h
    cases h with
    | document hdocument => exact hdocument
  · exact .document

theorem refused_content_iff {text type : String} : (content text type s).Refused codec e ↔
    ¬ HeaderSafe type ∧ e = .internal s!"invalid content type '{type}'" := by
  constructor
  · intro h
    cases h with
    | type hrefused => exact ⟨hrefused, rfl⟩
  · rintro ⟨hrefused, rfl⟩
    exact .type hrefused

theorem not_refused_status : ¬ (status s).Refused codec e := by
  intro h
  cases h

theorem refused_redirect_iff {location : String} : (redirect location s).Refused codec e ↔
    ¬ HeaderSafe location ∧ e = .internal s!"invalid redirect location '{location}'" := by
  constructor
  · intro h
    cases h with
    | location hrefused => exact ⟨hrefused, rfl⟩
  · rintro ⟨hrefused, rfl⟩
    exact .location hrefused

end Refused

/-- What becomes of a response by a result that is sent. -/
structure Sent (codec : Codec) (result : ActionResult) (before after : Response) : Prop where
  status : after.status = result.code
  header : ∀ name text, result.header? = some (name, text) →
    HeaderSafe text ∧ after.headers.values name = [Utf8.encode text]
  others : ∀ name, result.header?.map Prod.fst ≠ some name →
    after.headers.values name = before.headers.values name
  body : after.body = (result.body? codec).getD before.body

/-! ## Executing a result -/

theorem sent_of_insert {codec : Codec} {result : ActionResult} {name text : String} {before after : Response}
    (hheader : result.header? = some (name, text)) (hsafe : HeaderSafe text) (hstatus : after.status = result.code)
    (hheaders : after.headers = before.headers.insert name (Utf8.encode text))
    (hbody : after.body = (result.body? codec).getD before.body) : result.Sent codec before after where
  status := hstatus
  header := by
    intro name' text' h
    rw [hheader] at h
    cases h
    exact ⟨hsafe, by rw [hheaders, Headers.values_insert, if_pos rfl]⟩
  others := by
    intro name' h
    rw [hheaders, Headers.values_insert, if_neg (by simpa [hheader] using h)]
  body := hbody

theorem sent_status {codec : Codec} {s : Status} (before : Response) :
    (status s).Sent codec before { before with status := s } where
  status := rfl
  header := by simp [header?]
  others _ _ := rfl
  body := rfl

theorem headerBytes?_eq (text : String) :
    headerBytes? text = if HeaderSafe text then some (Utf8.encode text) else none := by
  simp only [headerBytes?, isHeaderValue_encode_iff]

/-- A result is refused, and nothing is written, or it is sent. -/
theorem execute_cases (result : ActionResult) (ctx : HttpContext) :
    (∃ e, result.Refused ctx.codec e ∧ result.execute ctx = (.error e, ctx)) ∨
    ((∀ e, ¬ result.Refused ctx.codec e) ∧
      ∃ response, result.Sent ctx.codec ctx.response response ∧
        result.execute ctx = (.ok (), { ctx with response := response })) := by
  cases result with
  | json document s =>
    simp only [execute, refused_json_iff]
    cases hbytes : encodeDocument ctx.codec document with
    | error e => exact .inl ⟨e, rfl, rfl⟩
    | ok bytes =>
      refine .inr ⟨by simp, _, sent_of_insert rfl (by decide) rfl rfl ?_, rfl⟩
      simp [body?, hbytes, Response.setBody, Except.toOption]
  | content text type s =>
    simp only [execute, headerBytes?_eq, refused_content_iff]
    by_cases hsafe : HeaderSafe type
    · rw [if_pos hsafe]
      exact .inr ⟨fun e h => h.1 hsafe, _, sent_of_insert rfl hsafe rfl rfl rfl, rfl⟩
    · rw [if_neg hsafe]
      exact .inl ⟨_, ⟨hsafe, rfl⟩, rfl⟩
  | status s => exact .inr ⟨fun e => not_refused_status, _, sent_status ctx.response, rfl⟩
  | redirect location s =>
    simp only [execute, headerBytes?_eq, refused_redirect_iff]
    by_cases hsafe : HeaderSafe location
    · rw [if_pos hsafe]
      let headers := ctx.response.headers.insert "location" (Utf8.encode location)
      refine .inr ⟨fun e h => h.1 hsafe, { ctx.response with status := s, headers }, ?_, rfl⟩
      exact sent_of_insert rfl hsafe rfl rfl rfl
    · rw [if_neg hsafe]
      exact .inl ⟨_, ⟨hsafe, rfl⟩, rfl⟩

theorem Refused.unique {codec : Codec} {result : ActionResult} {e e' : HttpError} (h : result.Refused codec e)
    (h' : result.Refused codec e') : e = e' := by
  cases h with
  | document hdocument => exact Except.error.inj (hdocument.symm.trans (refused_json_iff.1 h'))
  | type _ => exact (refused_content_iff.1 h').2.symm
  | location _ => exact (refused_redirect_iff.1 h').2.symm

theorem execute_eq_error_iff (result : ActionResult) (ctx : HttpContext) (e : HttpError) :
    (result.execute ctx).1 = .error e ↔ result.Refused ctx.codec e := by
  obtain ⟨e', hrefused, hexecute⟩ | ⟨hnot, response, -, hexecute⟩ := result.execute_cases ctx
  · rw [hexecute, Except.error.injEq]
    exact ⟨fun he => he ▸ hrefused, hrefused.unique⟩
  · simp [hexecute, hnot]

/-- Whether a result is sent depends on the codec alone. -/
theorem execute_eq_ok_iff (result : ActionResult) (ctx : HttpContext) :
    (result.execute ctx).1 = .ok () ↔ ∀ e, ¬ result.Refused ctx.codec e := by
  obtain ⟨e, hrefused, hexecute⟩ | ⟨hnot, response, -, hexecute⟩ := result.execute_cases ctx
  · simp only [hexecute, reduceCtorEq, false_iff]
    exact fun hnot => hnot e hrefused
  · simp [hexecute, hnot]

/-- A result that is not refused is sent. -/
theorem sent_of_ok {result : ActionResult} {ctx : HttpContext} (hok : (result.execute ctx).1 = .ok ()) :
    result.Sent ctx.codec ctx.response (result.execute ctx).2.response := by
  obtain ⟨e, -, hexecute⟩ | ⟨-, response, hsent, hexecute⟩ := result.execute_cases ctx
  · rw [hexecute] at hok
    cases hok
  · rw [hexecute]
    exact hsent

end ActionResult

/-! ## What an action returns -/

/-- What an action may return of the kinds that are known here: a result, marked as one or not, or a value. -/
inductive Returned where
  | marked (result : ActionResult)
  /-- A result that is not marked, and that could be written as a document too. -/
  | unmarked (result : ActionResult) (document : Except Json.EncodeFault Json)
  /-- A value that is no result. -/
  | value (document : Except Json.EncodeFault Json)

namespace Returned

/-- How a returned value is executed. -/
def execute : Returned → Execution
  | .marked result => result.execute
  | .unmarked result document => executeUnmarked (some result.execute) document
  | .value document => executeUnmarked none document

/-- The result that a returned value stands for. -/
def result : Returned → ActionResult
  | .marked result => result
  | .unmarked result _ => result
  | .value document => .json document .ok

theorem execute_eq (r : Returned) : r.execute = r.result.execute := by
  cases r <;> rfl

end Returned

/-- **A result that is refused leaves the response alone, and one that is sent writes its own header only.** A result
fails iff its document cannot be written or no header may hold its text, and then nothing has changed. If it does not
fail, its header has the text as it was given, and all other headers are as before. -/
theorem execute_refused_or_sent (r : Returned) (ctx : HttpContext) :
    (∀ e, (r.execute ctx).1 = .error e ↔ r.result.Refused ctx.codec e) ∧
    ((∃ e, r.execute ctx = (.error e, ctx)) ∨
      ∃ response, r.execute ctx = (.ok (), { ctx with response := response }) ∧
        r.result.Sent ctx.codec ctx.response response) := by
  rw [r.execute_eq]
  refine ⟨r.result.execute_eq_error_iff ctx, ?_⟩
  obtain ⟨e, -, hexecute⟩ | ⟨-, response, hsent, hexecute⟩ := r.result.execute_cases ctx
  · exact .inl ⟨e, hexecute⟩
  · exact .inr ⟨response, hexecute, hsent⟩

/-- **Two responses to the same result have the same body iff the result has a body of its own, or they had the same body
before.** A result that is sent from one context is sent from every context with the same codec, with the same status.
But a bare status and a redirection leave the body as it is; so after a bare status the body is empty only if it was. -/
theorem bodies_agree_iff (r : Returned) {ctx ctx' : HttpContext} (hcodec : ctx.codec = ctx'.codec)
    (hok : (r.execute ctx).1 = .ok ()) :
    (r.execute ctx').1 = .ok () ∧
    (r.execute ctx).2.response.status = (r.execute ctx').2.response.status ∧
    ((r.execute ctx).2.response.body = (r.execute ctx').2.response.body ↔
      (r.result.body? ctx.codec).isSome ∨ ctx.response.body = ctx'.response.body) ∧
    (∀ s, r.result = .status s → ((r.execute ctx).2.response.body = [] ↔ ctx.response.body = [])) := by
  rw [r.execute_eq] at *
  have hok' : (r.result.execute ctx').1 = .ok () := by
    rw [ActionResult.execute_eq_ok_iff] at hok ⊢
    rwa [← hcodec]
  have hsent := ActionResult.sent_of_ok hok
  have hsent' := ActionResult.sent_of_ok hok'
  refine ⟨hok', hsent.status.trans hsent'.status.symm, ?bodies, fun s hs => ?empty⟩
  case bodies =>
    rw [hsent.body, hsent'.body, ← hcodec]
    cases r.result.body? ctx.codec <;> simp
  case empty =>
    rw [hsent.body, hs]
    rfl

/-- A context in which nothing is written. -/
def freshContext : HttpContext :=
  .start (Request.decode ⟨"GET", ⟨none, none, "/", none⟩, .empty, []⟩ []) (.plain false)

/-- The same context after a body was written. -/
def draftedContext : HttpContext :=
  { freshContext with response := freshContext.response.setBody (Utf8.encode "text/plain") (Utf8.encode "draft") }

/-- A document replaces the body. -/
theorem bodies_agree_document : freshContext.codec = draftedContext.codec ∧
    ((Returned.value (.ok .null)).execute freshContext).1 = .ok () ∧
    ((Returned.value (.ok .null)).execute freshContext).2.response.body =
      ((Returned.value (.ok .null)).execute draftedContext).2.response.body := by
  have hcodec : freshContext.codec = draftedContext.codec := rfl
  have hok : ((Returned.value (.ok .null)).execute freshContext).1 = .ok () := rfl
  obtain ⟨-, -, hbodies, -⟩ := bodies_agree_iff (.value (.ok .null)) hcodec hok
  exact ⟨hcodec, hok, hbodies.2 (.inl rfl)⟩

/-- A bare status and a redirection send the body that was written before. -/
theorem drafted_body_sent : freshContext.codec = draftedContext.codec ∧
    ∀ result ∈ [ActionResult.status .noContent, .redirectTo "/"],
      (result.execute freshContext).1 = .ok () ∧ (result.execute draftedContext).1 = .ok () ∧
      (result.execute freshContext).2.response.body = [] ∧
      (result.execute draftedContext).2.response.body = Utf8.encode "draft" ∧
      (result.execute draftedContext).2.response.body ≠ (result.execute freshContext).2.response.body := by
  have hdraft : Utf8.encode "draft" ≠ [] := by decide
  refine ⟨rfl, List.forall_mem_cons.2 ⟨⟨rfl, rfl, rfl, rfl, hdraft⟩, List.forall_mem_singleton.2 ?_⟩⟩
  exact ⟨rfl, rfl, rfl, rfl, hdraft⟩

end Switchyard

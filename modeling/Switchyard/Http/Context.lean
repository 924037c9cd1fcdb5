import Switchyard.Http.Request

/-!
# Invocations

One invocation holds a decoded request, the response under construction and a codec. Interceptors and
results write the response; it is rendered when the invocation is over.
-/

namespace Switchyard

/-- The request and the response of one invocation. -/
structure HttpContext where
  request : Request
  response : Response
  codec : Codec

/-- The response before anything is written. -/
def Response.initial : Response := ⟨.ok, .empty, []⟩

namespace Response

/-- Replaces the body and its type. -/
def setBody (r : Response) (type body : Bytes) : Response :=
  { r with headers := r.headers.insert contentType type, body := body }

end Response

namespace HttpContext

/-- An invocation that has not written anything. -/
def start (request : Request) (codec : Codec) : HttpContext := ⟨request, .initial, codec⟩

/-- Reads a request whose body comes in chunks. -/
def ofChunks (head : RequestHead) (chunks : List Bytes) (broken : Bool) (limit : Nat) (codec : Codec) :
    Except HttpError HttpContext :=
  (bufferBody limit chunks broken).map fun body => start (.decode head body) codec

/-- Reads the body as a document. -/
def bodyDocument {α : Type} [Json.Document α] (ctx : HttpContext) : Except HttpError α :=
  (ctx.codec.decode ctx.request.body).mapError .ofCodec

end HttpContext

/-- The bytes of a document that was written, or the error that it was not. -/
def encodeDocument (codec : Codec) : Except Json.EncodeFault Json → Except HttpError Bytes
  | .error e => .error (.ofCodec (.encode e.message))
  | .ok v => (codec.serialize v).mapError .ofCodec

/-! ## After-interceptors -/

/-- What an after-interceptor sees: the invocation, and the error that is left of it. -/
structure AfterContext where
  http : HttpContext
  error : Option HttpError

namespace AfterContext

/-- Whether an error is left. -/
def hasError (ctx : AfterContext) : Bool := ctx.error.isSome

/-- Takes the error away and gives it. -/
def clearError (ctx : AfterContext) : Option HttpError × AfterContext := (ctx.error, { ctx with error := none })

/-- Replaces the error. -/
def setError (ctx : AfterContext) (e : HttpError) : AfterContext := { ctx with error := some e }

end AfterContext

end Switchyard

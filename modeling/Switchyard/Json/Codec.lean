import Switchyard.Json.Document
import Switchyard.Json.Parser
import Switchyard.Json.Printer

/-!
# Codecs

A codec writes a JSON value as bytes and reads it back. Typed documents pass through a value, so that the
value's rules (the order of members, the range of numbers) hold for every codec.
-/

namespace Switchyard

/-- Why a document was not written or not read. -/
inductive CodecError where
  | encode (reason : String)
  | decode (reason : String)
  deriving DecidableEq, Repr

/-- The wording of an error. -/
def CodecError.message : CodecError → String
  | .encode reason => s!"json encode: {reason}"
  | .decode reason => s!"json decode: {reason}"

/-- A way to write and to read JSON values. -/
structure Codec where
  serialize : Json → Except CodecError Bytes
  deserialize : Bytes → Except CodecError Json

namespace Codec

/-- The codec of plain JSON text, compact or pretty. -/
def plain (pretty : Bool) : Codec where
  serialize v := .ok (Utf8.encodeChars (if pretty then v.prettyChars 0 else v.compactChars))
  deserialize bytes := (Json.parse bytes).mapError .decode

/-- Writes a document. -/
def encode {α : Type} [Json.Document α] (codec : Codec) (a : α) : Except CodecError Bytes :=
  match Json.Document.encode a with
  | .error e => .error (.encode e.message)
  | .ok v => codec.serialize v

/-- Reads a document. -/
def decode {α : Type} [Json.Document α] (codec : Codec) (bytes : Bytes) : Except CodecError α :=
  match codec.deserialize bytes with
  | .error e => .error e
  | .ok v => (Json.Document.decode v).mapError fun e => .decode e.message

end Codec

end Switchyard

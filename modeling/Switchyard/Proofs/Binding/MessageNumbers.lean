import Switchyard.Application.Invocation
import Switchyard.Proofs.Binding.Integers
import Switchyard.Proofs.Binding.Precedence
import Switchyard.Proofs.Http.Form
import Switchyard.Proofs.Json.Number

/-!
# Numbers in messages

A literal in a query is read by the type of the parameter. In a message it is read as a number of a document first, and
the type reads the text of that number. Both bind alike as long as the document keeps the number.

Main result: `numbers_agree_iff`.
-/

namespace Switchyard

/-! ## Types of whole numbers -/

/-- A type of whole numbers: one of a width, or the one without bounds. -/
inductive WholeType where
  | fixed (type : IntegerType)
  | unbounded
  deriving DecidableEq, Repr

namespace WholeType

/-- The type of parameters. -/
def param : WholeType → ParamType
  | .fixed t => .integer t
  | .unbounded => .bigInteger

/-- A number as a value of the type. -/
def value : WholeType → Int → ParamValue
  | .fixed _, n => .integer n
  | .unbounded, n => .bigInteger n

/-- The numerals that the type takes. -/
def Takes : WholeType → Numeral → Prop
  | .fixed t, l => t.Takes l
  | .unbounded, _ => True

variable {w : WholeType} {l : Numeral} {s : String} {v : ParamValue}

theorem read_unbounded (s : String) : unbounded.param.read s =
    ((readBigInteger (trimBlanks s).toList).mapError NumeralFault.message).map ParamValue.bigInteger :=
  rfl

/-- A numeral is read as its value by the types that take it, and by no other. -/
theorem read_text_eq_ok_iff : w.param.read l.text = .ok v ↔ w.Takes l ∧ v = w.value l.value := by
  cases w with
  | fixed t =>
    have hiff := ParamType.read_integer_eq_ok_iff (t := t) (s := l.text) (v := v)
    constructor
    · intro h
      obtain ⟨m, hpadded, htakes, hv⟩ := hiff.1 h
      have htext : m.text = l.text := (Numeral.padded_iff.1 hpadded).trans l.trimBlanks_text
      obtain rfl := Numeral.chars_injective (String.ofList_inj.1 htext)
      exact ⟨htakes, hv⟩
    · rintro ⟨htakes, hv⟩
      exact hiff.2 ⟨l, l.padded_text, htakes, hv⟩
  | unbounded =>
    rw [read_unbounded, l.trimBlanks_text, Numeral.text, String.toList_ofList, readBigInteger_numeral]
    simp [Except.mapError, Except.map, Takes, value, eq_comm]

theorem isNumeralChar_of_read (h : w.param.read s = .ok v) {c : Char} (hc : c ∈ s.toList) (hblank : isBlank c = false) :
    isNumeralChar c = true := by
  have hkept : c ∈ trimChars isBlank s.toList := (mem_trimChars_iff hblank).2 hc
  cases w with
  | fixed t =>
    obtain ⟨l, hpadded, -⟩ := ParamType.read_integer_eq_ok_iff.1 h
    have hchars : l.chars = trimChars isBlank s.toList := String.ofList_inj.1 (Numeral.padded_iff.1 hpadded)
    exact Numeral.isNumeralChar_of_mem (hchars ▸ hkept)
  | unbounded =>
    rw [read_unbounded] at h
    obtain ⟨n, hread, -⟩ := map_eq_ok_iff.1 h
    have hchars := isNumeralChar_of_readBigInteger (mapError_eq_ok_iff.1 hread)
    rw [trimBlanks, String.toList_ofList] at hchars
    exact hchars c hkept

/-- The text of a floating-point number is no whole number. -/
theorem read_renderReal_ne (x : Binary64) : w.param.read (Json.renderReal x) ≠ .ok v := by
  intro h
  obtain ⟨c, hc, hmark⟩ := Json.exists_mark_renderReal x
  have hnone : isBlank c = false ∧ isNumeralChar c = false := by
    rcases hmark with rfl | rfl | rfl <;> decide
  have hnumeral := isNumeralChar_of_read h hc hnone.1
  rw [hnone.2] at hnumeral
  cases hnumeral

end WholeType

/-! ## Binding from the query and from the message -/

namespace EventContext

/-- Binds a key that must be in the query of the request. -/
def requiredInQuery {α : Type} (ctx : EventContext) (read : TextReader α) (key : String) : Except HttpError α :=
  ((ctx.session.request.binder none).required read [.query] key).mapError .ofBind

/-- Binds a key that must be in the document of the message. -/
def requiredInMessage {α : Type} (ctx : EventContext) (read : TextReader α) (key : String) : Except HttpError α :=
  match Carrier.document ctx with
  | .error e => .error e
  | .ok document => ((ctx.session.request.binder (some document)).required read [.message] key).mapError .ofBind

variable {α : Type} {ctx : EventContext} {read : TextReader α} {key s : String} {a : α}

theorem requiredInQuery_eq_ok_iff (h : (ctx.session.request.queryValues key).head? = some s) :
    ctx.requiredInQuery read key = .ok a ↔ read s = .ok a := by
  have hlookup : ctx.session.request.binder none .query key =
      some ((ctx.session.request.queryValues key).map some) := by
    simp only [Request.binder, Request.occurrences]
    cases hvalues : ctx.session.request.queryValues key with
    | nil => simp [hvalues] at h
    | cons value values => rfl
  have hhead : (((ctx.session.request.queryValues key).map some).head?).join = some s := by
    rw [List.head?_map, h]
    rfl
  rw [requiredInQuery, Binder.required_singleton hlookup hhead, mapError_eq_ok_iff, Binder.convert, mapError_eq_ok_iff]

theorem requiredInMessage_eq_ok_iff {v : Json} (hdocument : Carrier.document ctx = .ok (.object [(key, v)]))
    (hscalar : ∀ items, v ≠ .array items) (hs : scalarText v = some s) :
    ctx.requiredInMessage read key = .ok a ↔ read s = .ok a := by
  have hlookup : ctx.session.request.binder (some (.object [(key, v)])) .message key = some [some s] := by
    simp only [Request.binder, Option.bind_some, messageField, Json.member?, Json.lookup?, if_true, Option.map_some]
    cases v with
    | array items => exact absurd rfl (hscalar items)
    | _ => simp_all
  simp only [requiredInMessage, hdocument]
  rw [Binder.required_singleton hlookup rfl, mapError_eq_ok_iff, Binder.convert, mapError_eq_ok_iff]

theorem exists_document (h : ctx.requiredInMessage read key = .ok a) : ∃ v, Carrier.document ctx = .ok v := by
  unfold requiredInMessage at h
  cases hdocument : Carrier.document ctx with
  | error e => simp [hdocument] at h
  | ok v => exact ⟨v, rfl⟩

/-- With plain JSON text, the document of a message is what its bytes are read as. -/
theorem document_eq_ok_iff {pretty : Bool} (hcodec : ctx.session.codec = .plain pretty) {v : Json} :
    Carrier.document ctx = .ok v ↔ Json.readDocument (Carrier.content ctx) = .ok v := by
  rw [Carrier.document, mapError_eq_ok_iff, show Carrier.codec ctx = ctx.session.codec from rfl, hcodec, Codec.plain,
    mapError_eq_ok_iff, Json.parse, mapError_eq_ok_iff]

section Literals

variable {pretty : Bool} {w : WholeType} {l : Numeral} {v : ParamValue}

/-- A literal that is kept is bound from the message as it is from the query. -/
theorem required_of_kept (hcodec : ctx.session.codec = .plain pretty) (hl : l.Literal) (hkept : l.Kept)
    (hmessage : Json.WrittenAlone key l.bytes (Carrier.content ctx)) :
    ctx.requiredInMessage w.param.read key = .ok v ↔ w.Takes l ∧ v = w.value l.value := by
  have hdocument := (document_eq_ok_iff hcodec).2 (Json.readDocument_kept hmessage hl hkept)
  have htext : scalarText (.integer l.value) = some l.text := by
    rw [hl.text_eq hkept.2]
    rfl
  rw [requiredInMessage_eq_ok_iff hdocument nofun htext, WholeType.read_text_eq_ok_iff]

/-- A literal that is not kept is not bound from the message. -/
theorem required_ne_of_not_kept (hcodec : ctx.session.codec = .plain pretty) (hl : l.Literal) (hkept : ¬ l.Kept)
    (hmessage : Json.WrittenAlone key l.bytes (Carrier.content ctx)) :
    ctx.requiredInMessage w.param.read key ≠ .ok v := by
  intro hbound
  rcases Json.readDocument_not_kept hmessage hl hkept with ⟨x, hreal⟩ | ⟨e, herror⟩
  · have hdocument := (document_eq_ok_iff hcodec).2 hreal
    have htext : scalarText (.real x) = some (Json.renderReal x) := by
      simp [scalarText, Json.compact, Json.compactChars]
    exact WholeType.read_renderReal_ne x ((requiredInMessage_eq_ok_iff hdocument nofun htext).1 hbound)
  · obtain ⟨document, hdocument⟩ := exists_document hbound
    rw [document_eq_ok_iff hcodec, herror] at hdocument
    cases hdocument

end Literals

end EventContext

/-- **When a literal is bound alike from a message and from a query.** From the query every type binds what it takes, as
the number. From the message it does so only if the document keeps the number: if that fits 64 bits, with a sign or
without, and is no zero with a minus. So the two agree iff the literal is kept or the type does not take it anyway. -/
theorem numbers_agree_iff (ctx : EventContext) (pretty : Bool) (key : String) (w : WholeType) (l : Numeral)
    (hcodec : ctx.session.codec = .plain pretty) (hl : l.Literal)
    (hmessage : Json.WrittenAlone key l.bytes (Carrier.content ctx))
    (hquery : (ctx.session.request.queryValues key).head? = some l.text) :
    (∀ v, ctx.requiredInQuery w.param.read key = .ok v ↔ w.Takes l ∧ v = w.value l.value) ∧
    (∀ v, ctx.requiredInMessage w.param.read key = .ok v ↔ l.Kept ∧ w.Takes l ∧ v = w.value l.value) ∧
    ((∀ v, ctx.requiredInMessage w.param.read key = .ok v ↔ ctx.requiredInQuery w.param.read key = .ok v) ↔
      l.Kept ∨ ¬ w.Takes l) := by
  have hfromQuery : ∀ v, ctx.requiredInQuery w.param.read key = .ok v ↔ w.Takes l ∧ v = w.value l.value := by
    intro v
    rw [EventContext.requiredInQuery_eq_ok_iff hquery, WholeType.read_text_eq_ok_iff]
  have hfromMessage : ∀ v, ctx.requiredInMessage w.param.read key = .ok v ↔
      l.Kept ∧ w.Takes l ∧ v = w.value l.value := by
    intro v
    by_cases hkept : l.Kept
    · rw [EventContext.required_of_kept hcodec hl hkept hmessage]
      simp [hkept]
    · have hne := EventContext.required_ne_of_not_kept (w := w) (v := v) hcodec hl hkept hmessage
      simp [hkept, hne]
  refine ⟨hfromQuery, hfromMessage, ?agree⟩
  case agree =>
    simp only [hfromQuery, hfromMessage]
    constructor
    · intro hagree
      by_cases htakes : w.Takes l
      · exact .inl ((hagree (w.value l.value)).2 ⟨htakes, rfl⟩).1
      · exact .inr htakes
    · rintro (hkept | hrefused) v
      · simp [hkept]
      · simp [hrefused]

/-! ## At the ends of 64 bits -/

/-- A message that holds a numeral under a key, from a connection whose request has the same in its query. -/
def Numeral.event (l : Numeral) (key : String) : EventContext where
  session := {
    request := .decode ⟨"GET", ⟨none, none, "/", some (Form.encode [(key, l.text)])⟩, .empty, []⟩ []
    codec := .plain false
    outbox := .empty }
  payload := .text (.ofList ('{' :: (Json.quote key ++ ':' :: ' ' :: (l.chars ++ ['\n', '}']))))

theorem Numeral.writtenAlone_event (l : Numeral) (key : String) :
    Json.WrittenAlone key l.bytes (Carrier.content (l.event key)) := by
  have hblank : Json.Blank [0x20] ∧ Json.Blank [0x0A] := by simp [Json.Blank, Json.isSpace]
  refine ⟨[], [], [], [0x20], [0x0A], [], Json.blank_nil, Json.blank_nil, Json.blank_nil, hblank.1, hblank.2,
    Json.blank_nil, ?_⟩
  simp only [Carrier.content, event, Payload.content, Utf8.encode, String.toList_ofList, Utf8.encodeChars_append,
    Utf8.encodeChars_cons, Json.quoteBytes, bytes]
  rfl

theorem Numeral.queryValues_event (l : Numeral) (key : String) :
    ((l.event key).session.request.queryValues key).head? = some l.text := by
  have hquery : (l.event key).session.request.query = [(key, l.text)] := by
    simp only [event, Request.decode, Option.map_some, Option.getD_some]
    exact Form.decode_encode [(key, l.text)]
  simp [Request.queryValues, hquery, Request.valuesOf]

/-- The greatest number of 64 bits. -/
def greatestKept : Numeral := .ofInt 18446744073709551615

theorem numbers_agree_greatest :
    greatestKept.Literal ∧
    Json.WrittenAlone "n\"" greatestKept.bytes (Carrier.content (greatestKept.event "n\"")) ∧
    ((greatestKept.event "n\"").session.request.queryValues "n\"").head? = some greatestKept.text ∧
    (greatestKept.event "n\"").requiredInMessage (ParamType.integer .u64).read "n\"" =
      .ok (.integer 18446744073709551615) ∧
    (greatestKept.event "n\"").requiredInQuery (ParamType.integer .u64).read "n\"" =
      .ok (.integer 18446744073709551615) := by
  have hliteral : greatestKept.Literal := Numeral.literal_ofInt _
  have hwritten := greatestKept.writtenAlone_event "n\""
  have hqueried := greatestKept.queryValues_event "n\""
  have hvalue : greatestKept.value = 18446744073709551615 := Numeral.value_ofInt _
  obtain ⟨hquery, hmessage, -⟩ :=
    numbers_agree_iff (greatestKept.event "n\"") false "n\"" (.fixed .u64) greatestKept rfl hliteral hwritten hqueried
  have htakes : IntegerType.u64.Takes greatestKept := IntegerType.takes_ofInt (by decide)
  have hkept : greatestKept.Kept := by
    unfold Numeral.Kept
    rw [hvalue]
    exact ⟨⟨by decide, by decide⟩, fun _ => by decide⟩
  refine ⟨hliteral, hwritten, hqueried, ?_, ?_⟩
  · exact (hmessage _).2 ⟨hkept, htakes, by rw [hvalue]; rfl⟩
  · exact (hquery _).2 ⟨htakes, by rw [hvalue]; rfl⟩

/-- The first number of more than 64 bits. -/
def firstLost : Numeral := .ofInt 18446744073709551616

/-- It is bound from the query by types that take it, and from the message by none. -/
theorem large_number_lost :
    firstLost.Literal ∧
    Json.WrittenAlone "n" firstLost.bytes (Carrier.content (firstLost.event "n")) ∧
    ((firstLost.event "n").session.request.queryValues "n").head? = some firstLost.text ∧
    (firstLost.event "n").requiredInQuery (ParamType.integer .i128).read "n" = .ok (.integer 18446744073709551616) ∧
    (firstLost.event "n").requiredInQuery ParamType.bigInteger.read "n" = .ok (.bigInteger 18446744073709551616) ∧
    ∀ (w : WholeType) (v : ParamValue), (firstLost.event "n").requiredInMessage w.param.read "n" ≠ .ok v := by
  have hliteral : firstLost.Literal := Numeral.literal_ofInt _
  have hwritten := firstLost.writtenAlone_event "n"
  have hqueried := firstLost.queryValues_event "n"
  have hvalue : firstLost.value = 18446744073709551616 := Numeral.value_ofInt _
  have hquery : ∀ {w : WholeType} {v : ParamValue},
      (firstLost.event "n").requiredInQuery w.param.read "n" = .ok v ↔ w.Takes firstLost ∧ v = w.value firstLost.value := by
    intro w v
    rw [EventContext.requiredInQuery_eq_ok_iff hqueried, WholeType.read_text_eq_ok_iff]
  have htakes : IntegerType.i128.Takes firstLost := IntegerType.takes_ofInt (by decide)
  have hkept : ¬ firstLost.Kept := by
    rintro ⟨⟨-, hgreatest⟩, -⟩
    rw [hvalue] at hgreatest
    exact absurd hgreatest (by decide)
  refine ⟨hliteral, hwritten, hqueried, ?fixed, ?unbounded, fun w v => ?lost⟩
  case fixed => exact (hquery (w := .fixed .i128)).2 ⟨htakes, by rw [hvalue]; rfl⟩
  case unbounded => exact (hquery (w := .unbounded)).2 ⟨trivial, by rw [hvalue]; rfl⟩
  case lost => exact EventContext.required_ne_of_not_kept rfl hliteral hkept hwritten

end Switchyard

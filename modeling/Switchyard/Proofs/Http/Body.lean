import Mathlib
import Switchyard.Http.Context
import Switchyard.Proofs.Except

/-!
# Buffered bodies

A body arrives in chunks, and each of them takes up some of the room that the limit leaves. The bytes that were read
and the room that is left always make up the limit, so it is the length of the whole body that decides, however the
body was cut and wherever its chunks fail.

Main result: `buffered_iff`.
-/

namespace Switchyard

variable {limit : Nat}

/-- What becomes of a body as a whole. -/
def wholeBody (limit : Nat) (broken : Bool) (body : Bytes) : Except HttpError Bytes :=
  if limit < body.length then .error (.payloadTooLarge s!"request body exceeds {limit} bytes")
  else if broken then .error (.badRequest "failed to read request body")
  else .ok body

theorem wholeBody_eq_ok_iff {broken : Bool} {body bytes : Bytes} :
    wholeBody limit broken body = .ok bytes ↔ body.length ≤ limit ∧ broken = false ∧ body = bytes := by
  unfold wholeBody
  by_cases hlong : limit < body.length
  · simp [hlong, Nat.not_le_of_lt hlong]
  · cases broken <;> simp [hlong, Nat.le_of_not_lt hlong]

theorem wholeBody_eq_error_iff {broken : Bool} {body : Bytes} {e : HttpError} :
    wholeBody limit broken body = .error e ↔
      (limit < body.length ∧ e = .payloadTooLarge s!"request body exceeds {limit} bytes") ∨
        (body.length ≤ limit ∧ broken = true ∧ e = .badRequest "failed to read request body") := by
  unfold wholeBody
  by_cases hlong : limit < body.length
  · simp [hlong, Nat.not_le_of_lt hlong, eq_comm]
  · cases broken <;> simp [hlong, Nat.le_of_not_lt hlong, eq_comm]

/-- While the bytes that were read and the room that is left make up the limit, what is still to come is collected as
the whole body would be. -/
theorem collectBody_eq (broken : Bool) (chunks read : List Bytes) (room : Nat)
    (hroom : read.reverse.flatten.length + room = limit) :
    collectBody limit room broken read chunks = wholeBody limit broken (read.reverse ++ chunks).flatten := by
  -- by induction on the chunks to come: each moves its length from the room to what was read, or is too long for it
  induction chunks generalizing read room with
  | nil =>
    have hfits : ¬ limit < read.reverse.flatten.length := by omega
    rw [List.append_nil, wholeBody, if_neg hfits]
    rfl
  | cons chunk rest ih =>
    rw [collectBody]
    by_cases hchunk : room < chunk.length
    · have htotal : limit < (read.reverse ++ chunk :: rest).flatten.length := by
        simp only [List.flatten_append, List.flatten_cons, List.length_append]
        omega
      rw [if_pos hchunk, wholeBody, if_pos htotal]
    · have hleft : (chunk :: read).reverse.flatten.length + (room - chunk.length) = limit := by
        simp only [List.reverse_cons, List.flatten_append, List.flatten_singleton, List.length_append]
        omega
      rw [if_neg hchunk, ih _ _ hleft, List.reverse_cons, List.append_assoc, List.singleton_append]

/-- A body is buffered by its bytes, in whatever chunks they came. -/
theorem bufferBody_eq (limit : Nat) (chunks : List Bytes) (broken : Bool) :
    bufferBody limit chunks broken = wholeBody limit broken chunks.flatten :=
  collectBody_eq broken chunks [] limit (Nat.zero_add limit)

/-- **The length of a body decides, and not its chunks.** A request is read iff its chunks do not fail and have no more
bytes than the limit, and then its body is all of them in their order. It is too large iff they have more, whether or
not they would fail later, and the error names the limit; it is a bad request iff they fail within the limit. So every
way to cut a body has the outcome of the body in one piece. -/
theorem buffered_iff (head : RequestHead) (chunks : List Bytes) (broken : Bool) (limit : Nat) (codec : Codec) :
    (∀ ctx, HttpContext.ofChunks head chunks broken limit codec = .ok ctx ↔
      (chunks.map List.length).sum ≤ limit ∧ broken = false ∧ ctx.request.body = chunks.flatten ∧
        HttpContext.start (.decode head chunks.flatten) codec = ctx) ∧
    (∀ e, HttpContext.ofChunks head chunks broken limit codec = .error e ↔
      (limit < (chunks.map List.length).sum ∧ e = .payloadTooLarge s!"request body exceeds {limit} bytes") ∨
        ((chunks.map List.length).sum ≤ limit ∧ broken = true ∧ e = .badRequest "failed to read request body")) ∧
    HttpContext.ofChunks head chunks broken limit codec =
      HttpContext.ofChunks head [chunks.flatten] broken limit codec := by
  have hread : ∀ cut : List Bytes, HttpContext.ofChunks head cut broken limit codec =
      (wholeBody limit broken cut.flatten).map fun body => .start (.decode head body) codec := by
    intro cut
    rw [HttpContext.ofChunks, bufferBody_eq]
  rw [hread chunks, hread [chunks.flatten], List.flatten_singleton, ← List.length_flatten]
  refine ⟨?read, ?refused, rfl⟩
  case read =>
    intro ctx
    rw [map_eq_ok_iff]
    constructor
    · rintro ⟨body, hbody, rfl⟩
      obtain ⟨hfits, hwhole, rfl⟩ := wholeBody_eq_ok_iff.1 hbody
      exact ⟨hfits, hwhole, rfl, rfl⟩
    · rintro ⟨hfits, hwhole, -, rfl⟩
      exact ⟨_, wholeBody_eq_ok_iff.2 ⟨hfits, hwhole, rfl⟩, rfl⟩
  case refused =>
    intro e
    rw [map_eq_error_iff]
    exact wholeBody_eq_error_iff

/-- A request for a body of three bytes. -/
def postedHead : RequestHead := ⟨"POST", ⟨none, none, "/", none⟩, .empty, []⟩

/-- Three bytes in three chunks, one of them empty, fit a limit of three; for a limit of two they are too many, and
that is found before they fail. -/
theorem buffered_three_bytes (codec : Codec) :
    (∃ ctx, HttpContext.ofChunks postedHead [[97, 98], [], [99]] false 3 codec = .ok ctx ∧
      ctx.request.body = [97, 98, 99]) ∧
    HttpContext.ofChunks postedHead [[97, 98], [], [99]] true 2 codec =
      .error (.payloadTooLarge "request body exceeds 2 bytes") :=
  ⟨⟨_, ((buffered_iff postedHead _ _ _ codec).1 _).2 ⟨by decide, rfl, rfl, rfl⟩, rfl⟩,
    ((buffered_iff postedHead _ _ _ codec).2.1 _).2 (.inl ⟨by decide, rfl⟩)⟩

end Switchyard

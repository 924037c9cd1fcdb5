import Switchyard.Proofs.Route.Path

/-!
# Paths of options

The prefix of a controller is empty or starts with a slash, and the path of its socket starts with one.

Main result: `Options.absolute_ofTokens`.
-/

namespace Switchyard

open Code

/-! ## Readers -/

theorem Code.Reader.bind_eq_ok {α β : Type} {r : Reader α} {f : α → Reader β} {tokens rest : List Token} {b : β} :
    (r >>= f) tokens = .ok (b, rest) ↔ ∃ a mid, r tokens = .ok (a, mid) ∧ f a mid = .ok (b, rest) := by
  simp only [bind, StateT.bind, Except.bind]
  cases hr : r tokens with
  | error e => simp
  | ok read =>
    obtain ⟨a, mid⟩ := read
    constructor
    · intro h
      exact ⟨a, mid, rfl, h⟩
    · rintro ⟨a', mid', heq, h⟩
      cases heq
      exact h

/-- What one argument preserves, a row of arguments preserves. -/
theorem takeNested_preserves {α : Type} {one : α → Bool → List String → Position → Reader α} {P : α → Prop}
    (hone : ∀ {a isGlobal path p tokens a' rest}, P a → one a isGlobal path p tokens = .ok (a', rest) → P a') :
    ∀ {fuel : Nat} {a a' : α} {tokens rest : List Token}, P a →
      takeNested one fuel a tokens = .ok (a', rest) → P a'
  | 0, a, a', tokens, rest, ha, h => by
    cases h
    exact ha
  | fuel + 1, a, a', tokens, rest, ha, h => by
    rw [takeNested, Reader.bind_eq_ok] at h
    obtain ⟨⟨isGlobal, path, p⟩, mid, -, h⟩ := h
    rw [Reader.bind_eq_ok] at h
    obtain ⟨a₁, mid₁, hstep, h⟩ := h
    have ha₁ := hone ha hstep
    rw [Reader.bind_eq_ok] at h
    obtain ⟨left, mid₂, -, h⟩ := h
    split at h
    · cases h
      exact ha₁
    · rw [Reader.bind_eq_ok] at h
      obtain ⟨-, mid₃, -, h⟩ := h
      rw [Reader.bind_eq_ok] at h
      obtain ⟨left, mid₄, -, h⟩ := h
      split at h
      · cases h
        exact ha₁
      · exact takeNested_preserves hone ha₁ h

theorem takeArguments_preserves {α : Type} {one : α → Bool → List String → Position → Reader α} {P : α → Prop}
    (hone : ∀ {a isGlobal path p tokens a' rest}, P a → one a isGlobal path p tokens = .ok (a', rest) → P a')
    {a a' : α} {tokens rest : List Token} (ha : P a) (h : takeArguments one a tokens = .ok (a', rest)) : P a' := by
  rw [takeArguments, Reader.bind_eq_ok] at h
  obtain ⟨all, mid, -, h⟩ := h
  split at h
  · cases h
    exact ha
  · exact takeNested_preserves hone ha h

/-! ## Options -/

namespace Options

/-- The prefix and the socket of options are paths from the root. -/
structure Absolute (o : Options) : Prop where
  base : IsPrefix (o.base.getD "")
  socket : ∀ placed, o.socket = some placed → startsWithSlash placed.path = true

theorem takePath_absolute {mayBeEmpty : Bool} {tokens rest : List Token} {placed : PlacedPath}
    (h : takePath mayBeEmpty tokens = .ok (placed, rest)) :
    (mayBeEmpty = true ∧ placed.path = "") ∨ startsWithSlash placed.path = true := by
  rw [takePath, Reader.bind_eq_ok] at h
  obtain ⟨-, mid, -, h⟩ := h
  rw [Reader.bind_eq_ok] at h
  obtain ⟨⟨path, p⟩, mid₁, -, h⟩ := h
  simp only at h
  split at h
  · rename_i hpath
    cases h
    simpa using hpath
  · cases h

/-- Every option that is taken leaves the options absolute. -/
theorem takeOption_absolute {o o' : Options} {isGlobal : Bool} {path : List String} {p : Position}
    {tokens rest : List Token} (ho : o.Absolute) (h : takeOption o isGlobal path p tokens = .ok (o', rest)) :
    o'.Absolute := by
  unfold takeOption at h
  split at h
  case h_1 =>
    rw [Reader.bind_eq_ok] at h
    obtain ⟨-, mid, -, h⟩ := h
    rw [Reader.bind_eq_ok] at h
    obtain ⟨type, mid₁, -, h⟩ := h
    cases h
    exact ⟨ho.base, ho.socket⟩
  case h_2 =>
    rw [Reader.bind_eq_ok] at h
    obtain ⟨placed, mid, hplaced, h⟩ := h
    cases h
    refine ⟨?_, ho.socket⟩
    obtain ⟨-, hempty⟩ | hslash := takePath_absolute hplaced
    · exact .inl hempty
    · exact .inr hslash
  case h_3 =>
    rw [Reader.bind_eq_ok] at h
    obtain ⟨-, mid, -, h⟩ := h
    rw [Reader.bind_eq_ok] at h
    obtain ⟨name, mid₁, -, h⟩ := h
    cases h
    exact ⟨ho.base, ho.socket⟩
  case h_4 =>
    rw [Reader.bind_eq_ok] at h
    obtain ⟨placed, mid, hplaced, h⟩ := h
    cases h
    refine ⟨ho.base, ?_⟩
    rintro _ ⟨⟩
    obtain ⟨hno, -⟩ | hslash := takePath_absolute hplaced
    · cases hno
    · exact hslash
  case h_5 => cases h

/-- **Options that are read are absolute.** -/
theorem absolute_ofTokens {tokens : List Token} {o : Options} (h : ofTokens tokens = .ok o) : o.Absolute := by
  have hempty : Absolute {} := ⟨.inl rfl, fun _ hno => by cases hno⟩
  simp only [ofTokens, readAll] at h
  cases hread : takeArguments takeOption {} tokens with
  | error f =>
    rw [hread] at h
    cases h
  | ok read =>
    obtain ⟨o', rest⟩ := read
    rw [hread] at h
    cases rest with
    | nil =>
      cases h
      exact takeArguments_preserves takeOption_absolute hempty hread
    | cons t rest => cases h

end Options

end Switchyard

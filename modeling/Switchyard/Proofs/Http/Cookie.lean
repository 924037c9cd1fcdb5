import Switchyard.Http.Request
import Switchyard.Proofs.Http.Header
import Switchyard.Proofs.Text.Split
import Switchyard.Proofs.Text.Trim

/-!
# Cookies are read back

A line of cookies is written in parts between semicolons. A cookie is its name and its value around an equals sign; the
value may stand in quotes, and there may be blanks around the whole. A part without an equals sign holds no cookie.
Whatever the parts and the lines they are spread over, the cookies are read back in their order.

Main result: `parseCookies_written`.
-/

namespace Switchyard

/-! ## Written cookies -/

/-- A text of characters from the blank to the tilde. -/
def PrintableText (s : String) : Prop := ∀ c ∈ s.toList, 32 ≤ c.toNat ∧ c.toNat ≤ 126

/-- A text of blanks and tabs. -/
def Margin (s : String) : Prop := ∀ c ∈ s.toList, c = ' ' ∨ c = '\t'

instance (s : String) : Decidable (PrintableText s) := List.decidableBAll _ s.toList

instance (s : String) : Decidable (Margin s) := List.decidableBAll _ s.toList

/-- A text that may be the name of a cookie. -/
structure CookieName (name : String) : Prop where
  printable : PrintableText name
  noEquals : '=' ∉ name.toList
  noSemicolon : ';' ∉ name.toList
  trimmed : Trimmed (· == ' ') name.toList

instance (name : String) : Decidable (CookieName name) :=
  decidable_of_iff
    (PrintableText name ∧ '=' ∉ name.toList ∧ ';' ∉ name.toList ∧ Trimmed (· == ' ') name.toList)
    ⟨fun ⟨h₁, h₂, h₃, h₄⟩ => ⟨h₁, h₂, h₃, h₄⟩, fun ⟨h₁, h₂, h₃, h₄⟩ => ⟨h₁, h₂, h₃, h₄⟩⟩

/-- A text that may be the value of a cookie, in quotes or without. -/
structure CookieValue (quoted : Bool) (value : String) : Prop where
  printable : PrintableText value
  noSemicolon : ';' ∉ value.toList
  unquoted : Trimmed (· == '"') value.toList
  /-- Quotes keep the blanks at the ends of a value. -/
  trimmed : quoted = false → Trimmed (· == ' ') value.toList

instance (quoted : Bool) (value : String) : Decidable (CookieValue quoted value) :=
  decidable_of_iff
    (PrintableText value ∧ ';' ∉ value.toList ∧ Trimmed (· == '"') value.toList ∧
      (quoted = false → Trimmed (· == ' ') value.toList))
    ⟨fun ⟨h₁, h₂, h₃, h₄⟩ => ⟨h₁, h₂, h₃, h₄⟩, fun ⟨h₁, h₂, h₃, h₄⟩ => ⟨h₁, h₂, h₃, h₄⟩⟩

/-- A part of a line of cookies, between semicolons. -/
inductive CookiePart where
  /-- A cookie between two margins, its value in quotes or not. -/
  | cookie (before name value after : String) (quoted : Bool)
  /-- Something else. -/
  | other (text : String)
  deriving DecidableEq, Repr

namespace CookiePart

/-- The cookie of a part. -/
def cookie? : CookiePart → Option (String × String)
  | .cookie _ name value _ _ => some (name, value)
  | .other _ => none

/-- How the value of a cookie is written. -/
def valueText (value : String) (quoted : Bool) : String := if quoted then "\"" ++ value ++ "\"" else value

/-- How a part is written. -/
def text : CookiePart → String
  | .cookie before name value after quoted => before ++ (name ++ "=" ++ valueText value quoted ++ after)
  | .other text => text

/-- Parts that may stand in a line that is a text. -/
inductive Proper : CookiePart → Prop
  | cookie {before name value after : String} {quoted : Bool} : Margin before → CookieName name →
      CookieValue quoted value → Margin after → Proper (.cookie before name value after quoted)
  | other {text : String} : VisibleText text → '=' ∉ text.toList → ';' ∉ text.toList → Proper (.other text)

instance : DecidablePred Proper
  | .cookie before name value after quoted =>
    decidable_of_iff (Margin before ∧ CookieName name ∧ CookieValue quoted value ∧ Margin after)
      ⟨fun ⟨h₁, h₂, h₃, h₄⟩ => .cookie h₁ h₂ h₃ h₄, fun (.cookie h₁ h₂ h₃ h₄) => ⟨h₁, h₂, h₃, h₄⟩⟩
  | .other text =>
    decidable_of_iff (VisibleText text ∧ '=' ∉ text.toList ∧ ';' ∉ text.toList)
      ⟨fun ⟨h₁, h₂, h₃⟩ => .other h₁ h₂ h₃, fun (.other h₁ h₂ h₃) => ⟨h₁, h₂, h₃⟩⟩

end CookiePart

/-- How a line of cookies is written. -/
def cookieLineOf (parts : List CookiePart) : String := ";".intercalate (parts.map CookiePart.text)

/-! ## Characters of a part -/

theorem isBlank_of_printable {c : Char} (h : 32 ≤ c.toNat ∧ c.toNat ≤ 126) : isBlank c = (c == ' ') := by
  have heq : c = ' ' ↔ c.toNat = 32 := ⟨fun hc => hc ▸ rfl, fun hc => Char.toNat_inj.1 hc⟩
  rw [Bool.eq_iff_iff, beq_iff_eq, heq]
  simp [isBlank]
  omega

theorem Trimmed.of_printable {s : String} (hs : PrintableText s) (h : Trimmed (· == ' ') s.toList) :
    Trimmed isBlank s.toList where
  head c hc := (isBlank_of_printable (hs c (List.mem_of_head? hc))).trans (h.head c hc)
  last c hc := (isBlank_of_printable (hs c (List.mem_of_getLast? hc))).trans (h.last c hc)

theorem PrintableText.visible {s : String} (h : PrintableText s) : VisibleText s := by
  intro c hc
  have := h c hc
  omega

namespace Margin

variable {s : String} {c : Char}

theorem blank (h : Margin s) : ∀ c ∈ s.toList, isBlank c = true := by
  intro c hc
  obtain rfl | rfl := h c hc <;> decide

theorem visible (h : Margin s) : VisibleText s := by
  intro c hc
  obtain rfl | rfl := h c hc <;> decide

theorem not_mem (h : Margin s) (hblank : c ≠ ' ') (htab : c ≠ '\t') : c ∉ s.toList := by
  intro hc
  exact (h c hc).elim hblank htab

end Margin

namespace CookieValue

variable {value : String} {quoted : Bool}

theorem visible (h : CookieValue quoted value) : VisibleText (CookiePart.valueText value quoted) := by
  have hquote : VisibleText "\"" := by decide
  cases quoted with
  | false => exact h.printable.visible
  | true => exact (hquote.append h.printable.visible).append hquote

theorem semicolon_not_mem (h : CookieValue quoted value) : ';' ∉ (CookiePart.valueText value quoted).toList := by
  cases quoted <;> simp [CookiePart.valueText, h.noSemicolon]

theorem trimmed_valueText (h : CookieValue quoted value) :
    Trimmed isBlank (CookiePart.valueText value quoted).toList := by
  cases quoted with
  | false => exact .of_printable h.printable (h.trimmed rfl)
  | true =>
    have hquote : isBlank '"' = false := by decide
    have hquoted : (CookiePart.valueText value true).toList = ('"' :: value.toList) ++ ['"'] := by
      simp [CookiePart.valueText]
    rw [hquoted]
    exact ⟨by simpa using hquote, by simpa only [List.getLast?_concat, Option.mem_some_iff, forall_eq'] using hquote⟩

theorem unquote_valueText (h : CookieValue quoted value) :
    trimChars (· == '"') (CookiePart.valueText value quoted).toList = value.toList := by
  cases quoted with
  | false => exact trimChars_of_trimmed h.unquoted
  | true =>
    have hquote : ∀ c ∈ ['"'], (c == '"') = true := by simp
    simpa [CookiePart.valueText] using trimChars_append h.unquoted hquote hquote

end CookieValue

/-! ## Reading a part -/

theorem cookieOfSegment?_eq_none_iff (segment : List Char) : cookieOfSegment? segment = none ↔ '=' ∉ segment := by
  have hkeep : isBlank '=' = false := by decide
  rw [cookieOfSegment?, Option.map_eq_none_iff, ← mem_trimChars_iff hkeep]
  constructor
  · intro hnone hmem
    obtain ⟨before, after, hsides, hbefore⟩ := List.eq_append_cons_of_mem hmem
    rw [hsides, splitFirst?_append (forall_beq_eq_false_iff.2 hbefore) rfl] at hnone
    cases hnone
  · intro hnot
    exact splitFirst?_of_forall (forall_beq_eq_false_iff.2 hnot)

namespace CookiePart

theorem cookieOfSegment?_cookie {before name value after : String} {quoted : Bool} (hbefore : Margin before)
    (hname : CookieName name) (hvalue : CookieValue quoted value) (hafter : Margin after) :
    cookieOfSegment? (text (.cookie before name value after quoted)).toList = some (name, value) := by
  have hsegment : (text (.cookie before name value after quoted)).toList =
      before.toList ++ ((name.toList ++ '=' :: (valueText value quoted).toList) ++ after.toList) := by
    simp [text]
  have hnamed := Trimmed.of_printable hname.printable hname.trimmed
  have hshown := hvalue.trimmed_valueText
  -- the equals sign is an end of the cookie if the name or the value is empty
  have htrimmed : Trimmed isBlank (name.toList ++ '=' :: (valueText value quoted).toList) :=
    hnamed.append_cons (by decide) hshown
  have hcut : splitFirst? (· == '=') (name.toList ++ '=' :: (valueText value quoted).toList) =
      some (name.toList, (valueText value quoted).toList) :=
    splitFirst?_append (forall_beq_eq_false_iff.2 hname.noEquals) rfl
  rw [hsegment, cookieOfSegment?, trimChars_append htrimmed hbefore.blank hafter.blank, hcut]
  simp [trimChars_of_trimmed hnamed, trimChars_of_trimmed hshown, hvalue.unquote_valueText]

theorem Proper.read {part : CookiePart} (h : part.Proper) : cookieOfSegment? part.text.toList = part.cookie? := by
  cases h with
  | cookie hbefore hname hvalue hafter => exact cookieOfSegment?_cookie hbefore hname hvalue hafter
  | other _ hequals _ => exact (cookieOfSegment?_eq_none_iff _).2 hequals

theorem Proper.semicolon_not_mem {part : CookiePart} (h : part.Proper) : ';' ∉ part.text.toList := by
  cases h with
  | cookie hbefore hname hvalue hafter =>
    simp [text, hbefore.not_mem, hname.noSemicolon, hvalue.semicolon_not_mem, hafter.not_mem]
  | other _ _ hsemicolon => exact hsemicolon

theorem Proper.visible {part : CookiePart} (h : part.Proper) : VisibleText part.text := by
  have hequals : VisibleText "=" := by decide
  cases h with
  | cookie hbefore hname hvalue hafter =>
    exact hbefore.visible.append (((hname.printable.visible.append hequals).append hvalue.visible).append hafter.visible)
  | other htext _ _ => exact htext

end CookiePart

/-! ## Reading lines -/

section Lines

variable {line : List CookiePart} (hline : ∀ part ∈ line, part.Proper)

include hline

theorem visibleText_cookieLineOf : VisibleText (cookieLineOf line) := by
  have hsemicolon : VisibleText ";" := by decide
  refine hsemicolon.intercalate (List.forall_mem_map.2 fun part hpart => ?_)
  exact (hline part hpart).visible

/-- The parts of a line are found again; a line without parts has one that is empty. -/
theorem splitAll_cookieLineOf (hne : line ≠ []) :
    splitAll (· == ';') (cookieLineOf line).toList = line.map fun part => part.text.toList := by
  have htext : (cookieLineOf line).toList = [';'].intercalate (line.map fun part => part.text.toList) := by
    rw [cookieLineOf, String.toList_intercalate, List.map_map]
    rfl
  rw [htext]
  refine splitAll_intercalate rfl (by simpa using hne) (List.forall_mem_map.2 fun part hpart => ?_)
  exact forall_beq_eq_false_iff.2 (hline part hpart).semicolon_not_mem

/-- The cookies of a line are read back. -/
theorem cookiesOfLine_cookieLineOf : cookiesOfLine (cookieLineOf line) = line.filterMap CookiePart.cookie? := by
  by_cases hne : line = []
  · subst hne
    decide
  · rw [cookiesOfLine, splitAll_cookieLineOf hline hne, List.filterMap_map]
    exact List.filterMap_congr fun part hpart => (hline part hpart).read

end Lines

/-- **Cookies are read back from the lines that they are written in.** Every line may be the value of a header, and the
cookies of all lines are read in their order, whatever other headers there are. -/
theorem parseCookies_written (headers : Headers) (lines : List (List CookiePart))
    (hproper : ∀ line ∈ lines, ∀ part ∈ line, part.Proper)
    (hlines : headers.values "cookie" = lines.map fun line => Utf8.encode (cookieLineOf line)) :
    (∀ value ∈ headers.values "cookie", isHeaderValue value = true) ∧
    parseCookies headers = lines.flatten.filterMap CookiePart.cookie? := by
  have hvisible : ∀ text ∈ lines.map cookieLineOf, VisibleText text :=
    List.forall_mem_map.2 fun line hline => visibleText_cookieLineOf (hproper line hline)
  have hvalues : headers.values "cookie" = (lines.map cookieLineOf).map Utf8.encode := by
    rw [hlines, List.map_map]
    rfl
  constructor
  · rw [hvalues]
    exact List.forall_mem_map.2 fun text htext => isHeaderValue_encode (hvisible text htext)
  · have hread : ∀ line ∈ lines, cookiesOfLine (cookieLineOf line) = line.filterMap CookiePart.cookie? :=
      fun line hline => cookiesOfLine_cookieLineOf (hproper line hline)
    rw [parseCookies, hvalues, filterMap_headerText?_encode hvisible, List.flatMap_map, List.filterMap_flatten,
      List.flatMap_def, List.map_congr_left hread]

/-- Cookies without a name or a value, and with an equals sign and quotes inside a value. -/
def firstLine : List CookiePart :=
  [.cookie "" "a" "x=\"y\" z" "\t" false, .other " flag ", .cookie " " "" "" "  " true]

/-- A cookie of the same name again, with blanks that its quotes keep. -/
def lastLine : List CookiePart := [.other "", .cookie "\t " "b c" "" "" false, .cookie " " "a" " = " " " true]

/-- The headers of the two lines, of a line without parts between them, and another one. -/
def mixedHeaders : Headers := ⟨[
  ("cookie", Utf8.encode "a=x=\"y\" z\t; flag ; =\"\"  "), ("x-tag", [255]), ("cookie", []),
  ("cookie", Utf8.encode ";\t b c=; a=\" = \" ")]⟩

theorem parseCookies_written_mixed : (∀ line ∈ [firstLine, [], lastLine], ∀ part ∈ line, part.Proper) ∧
    mixedHeaders.values "cookie" =
      [firstLine, [], lastLine].map (fun line => Utf8.encode (cookieLineOf line)) ∧
    parseCookies mixedHeaders = [("a", "x=\"y\" z"), ("", ""), ("b c", ""), ("a", " = ")] := by
  have hproper : ∀ line ∈ [firstLine, [], lastLine], ∀ part ∈ line, part.Proper := by decide +kernel
  have hfirst : cookieLineOf firstLine = "a=x=\"y\" z\t; flag ; =\"\"  " := by decide +kernel
  have hlast : cookieLineOf lastLine = ";\t b c=; a=\" = \" " := by decide +kernel
  have hlines : mixedHeaders.values "cookie" =
      [firstLine, [], lastLine].map fun line => Utf8.encode (cookieLineOf line) := by
    rw [List.map_cons, List.map_cons, List.map_singleton, hfirst, hlast]
    rfl
  exact ⟨hproper, hlines, (parseCookies_written mixedHeaders _ hproper hlines).2⟩

end Switchyard

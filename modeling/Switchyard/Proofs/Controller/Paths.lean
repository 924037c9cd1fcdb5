import Switchyard.Controller.Reader
import Switchyard.Proofs.Code.Literal
import Switchyard.Proofs.Controller.Options
import Switchyard.Proofs.Route.Joining

/-!
# Paths of controllers

What is accepted as the prefix of a controller, or as the template of a route, are the texts that are empty or start with
a slash. Joined they give a path from the root, the same one however many slashes stand at the seam.

Main result: `paths_joined`.
-/

namespace Switchyard

open Code

/-! ## Accepted texts -/

/-- Options are read that have a text as the prefix of all paths. -/
def AcceptedBase (base : String) : Prop :=
  ∃ tokens options, Options.ofTokens tokens = .ok options ∧ options.base.getD "" = base

/-- An attribute is read that has a text as its template, or options that have it as the path of the socket. -/
def AcceptedTemplate (template : String) : Prop :=
  (∃ a, templateOf a = .ok template) ∨
  ∃ tokens options placed, Options.ofTokens tokens = .ok options ∧ options.socket = some placed ∧ placed.path = template

theorem isPrefix_iff (text : String) : IsPrefix text ↔ (text.isEmpty || startsWithSlash text) = true := by
  simp [IsPrefix]

/-- The template of a route is empty or starts with a slash. -/
theorem isPrefix_templateOf {a : Attribute} {template : String} (h : templateOf a = .ok template) :
    IsPrefix template := by
  unfold templateOf at h
  split at h
  · cases h
    exact .inr (by decide)
  · split at h
    · cases h
    · split at h
      case isTrue htext =>
        cases h
        exact (isPrefix_iff _).2 htext
      case isFalse => cases h

/-- The tokens `path = "..."`, with the literal of a prefix. -/
def baseTokens (base : String) : List Token :=
  [.word "path" .start, .mark '=' false .start, .literal (literal base) .start]

theorem takePath_literal {path : String} (h : IsPrefix path) :
    Options.takePath true [.mark '=' false .start, .literal (literal path) .start] = .ok (⟨path, .start⟩, []) := by
  have htext : (true && path.isEmpty || startsWithSlash path) = true := (isPrefix_iff path).1 h
  rw [Options.takePath, Reader.bind_eq_ok]
  refine ⟨(), [.literal (literal path) .start], rfl, ?_⟩
  rw [Reader.bind_eq_ok]
  refine ⟨(path, .start), [], by simp [takeString, stringValue?_literal], ?_⟩
  dsimp only
  rw [if_pos htext]
  rfl

theorem ofTokens_baseTokens {base : String} (h : IsPrefix base) :
    Options.ofTokens (baseTokens base) = .ok { base := some base } := by
  have hoption : Options.takeOption {} false ["path"] .start [.mark '=' false .start, .literal (literal base) .start] =
      .ok ({ base := some base }, []) := by
    rw [Options.takeOption, Reader.bind_eq_ok]
    exact ⟨_, _, takePath_literal h, rfl⟩
  -- the one option is taken, and nothing is left after it
  have harguments : takeArguments Options.takeOption {} (baseTokens base) = .ok ({ base := some base }, []) := by
    rw [takeArguments, Reader.bind_eq_ok]
    refine ⟨baseTokens base, baseTokens base, rfl, ?_⟩
    have hsome : ¬ (baseTokens base).isEmpty = true := Bool.false_ne_true
    rw [if_neg hsome, show (baseTokens base).length = 3 from rfl, takeNested, Reader.bind_eq_ok]
    refine ⟨(false, ["path"], .start), [.mark '=' false .start, .literal (literal base) .start], rfl, ?_⟩
    dsimp only
    rw [Reader.bind_eq_ok]
    exact ⟨_, _, hoption, rfl⟩
  rw [Options.ofTokens, readAll, harguments]

theorem acceptedBase_iff (base : String) : AcceptedBase base ↔ IsPrefix base := by
  constructor
  · rintro ⟨tokens, options, hoptions, rfl⟩
    exact (Options.absolute_ofTokens hoptions).base
  · intro h
    exact ⟨baseTokens base, _, ofTokens_baseTokens h, rfl⟩

/-- An attribute of a route with the literal of a template. -/
def templateAttribute (template : String) : Attribute :=
  ⟨false, ["get"], false, .list [.literal (literal template) .start] .start, .start, .start, []⟩

theorem templateOf_templateAttribute {template : String} (h : IsPrefix template) :
    templateOf (templateAttribute template) = .ok template := by
  have htext := (isPrefix_iff template).1 h
  simp [templateOf, templateAttribute, Attribute.arguments, readAll, takeString, stringValue?_literal, htext]

theorem acceptedTemplate_iff (template : String) : AcceptedTemplate template ↔ IsPrefix template := by
  constructor
  · rintro (⟨a, ha⟩ | ⟨tokens, options, placed, hoptions, hsocket, rfl⟩)
    · exact isPrefix_templateOf ha
    · exact .inr ((Options.absolute_ofTokens hoptions).socket placed hsocket)
  · intro h
    exact .inl ⟨templateAttribute template, templateOf_templateAttribute h⟩

/-! ## Joined paths -/

/-- **Accepted prefixes and templates are joined at a seam, and keep their names.** Both are the texts that are empty or
start with a slash. They are joined to a path from the root, which is the same however many slashes the prefix ends
with or the template starts with; at the seam there is exactly one slash, and where only one side is left none is added
to it. The names of the path are those of the prefix and then those of the template, for every template, iff the prefix
closes all braces that it opens. -/
theorem paths_joined :
    (∀ base, AcceptedBase base ↔ IsPrefix base) ∧ (∀ template, AcceptedTemplate template ↔ IsPrefix template) ∧
    ∀ base, AcceptedBase base →
      (∀ template, AcceptedTemplate template →
        startsWithSlash (joinPath base template) = true ∧
        (∀ m n, joinPath (base ++ slashes m) (slashes n ++ template) = joinPath base template) ∧
        ∀ path, Seam base template path ↔ path = joinPath base template) ∧
      ((∀ template, AcceptedTemplate template →
        templateParams (joinPath base template) = templateParams base ++ templateParams template) ↔
        ClosesBraces base.toList) := by
  refine ⟨acceptedBase_iff, acceptedTemplate_iff, fun base hbase => ⟨fun template htemplate => ?joined, ?names⟩⟩
  case joined =>
    have hprefix := (acceptedBase_iff base).1 hbase
    have htext := (acceptedTemplate_iff template).1 htemplate
    exact ⟨startsWithSlash_joinPath hprefix template, joinPath_slashes base template, fun path => seam_iff base htext⟩
  case names =>
    simp only [acceptedTemplate_iff]
    exact templateParams_joinPath_iff base

/-- The prefix `/v{major}/` with a needless slash, and the template `//users/{id}`. -/
theorem paths_joined_versioned :
    AcceptedBase "/v\x7bmajor\x7d//" ∧ AcceptedTemplate "//users/\x7bid\x7d" ∧
    joinPath "/v\x7bmajor\x7d//" "//users/\x7bid\x7d" = "/v\x7bmajor\x7d/users/\x7bid\x7d" ∧
    joinPath "/v\x7bmajor\x7d///" "///users/\x7bid\x7d" = joinPath "/v\x7bmajor\x7d//" "//users/\x7bid\x7d" ∧
    startsWithSlash (joinPath "/v\x7bmajor\x7d//" "//users/\x7bid\x7d") = true ∧
    Seam "/v\x7bmajor\x7d//" "//users/\x7bid\x7d" (joinPath "/v\x7bmajor\x7d//" "//users/\x7bid\x7d") ∧
    templateParams (joinPath "/v\x7bmajor\x7d//" "//users/\x7bid\x7d") = ["major", "id"] ∧
    ¬ ∀ template, AcceptedTemplate template →
      templateParams (joinPath "/v\x7bmajor" template) = templateParams "/v\x7bmajor" ++ templateParams template := by
  obtain ⟨hbases, htemplates, hjoin⟩ := paths_joined
  have hbase := (hbases "/v\x7bmajor\x7d//").2 (.inr (by decide))
  have hopen := (hbases "/v\x7bmajor").2 (.inr (by decide))
  have htemplate := (htemplates "//users/\x7bid\x7d").2 (.inr (by decide))
  obtain ⟨hjoined, hnames⟩ := hjoin _ hbase
  obtain ⟨hslash, hsame, hseam⟩ := hjoined _ htemplate
  refine ⟨hbase, htemplate, by decide +kernel, hsame 1 1, hslash, (hseam _).2 rfl, ?names, ?opened⟩
  case names =>
    rw [hnames.2 (by decide +kernel) _ htemplate]
    decide +kernel
  case opened =>
    rw [(hjoin _ hopen).2]
    decide +kernel

end Switchyard

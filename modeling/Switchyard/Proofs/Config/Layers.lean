import Mathlib.Data.List.Forall2
import Switchyard.Config.Load
import Switchyard.Proofs.Config.EnvironmentFile
import Switchyard.Proofs.Config.Section

/-!
# Layers of settings

Settings are loaded from layers, of which the higher go before the lower. Each setting has the value of the highest
layer that mentions it, whatever the layers hold of the other settings and whatever else they hold.

Main result: `prevails_of_load`.
-/

namespace Switchyard

open Yaml

/-! ## What layers mention -/

/-- A layer above the defaults. -/
inductive Layer where
  /-- The variables of the process. -/
  | environment
  /-- The assignments of the environment file. -/
  | assignments
  /-- The section of a file. -/
  | file (name : String)
  deriving DecidableEq, Repr

/-- The layers of a profile, from the highest to the lowest. -/
def layers (profile : String) : List Layer :=
  [.environment, .assignments, .file s!"application-{profile}.yaml", .file "application.yaml"]

namespace Surroundings

/-- What the environment file assigns, which is nothing if there is none. -/
def Assigns (s : Surroundings) (list : Variables) : Prop :=
  match s.files.lookup ".env" with
  | some (.file content) => EnvironmentFile.Assigns s.environment [] (EnvironmentFile.opened content) list
  | _ => list = []

/-- The section of a file has an entry. -/
def Holds (s : Surroundings) (name : String) (e : Value × Value) : Prop :=
  ∃ content text d, s.files.lookup name = some (.file content) ∧ Utf8.decode? content = some text ∧
    document? text = some d ∧ d.Mentions e

/-- A layer mentions a setting; what it writes may be no value of the setting. -/
def Mentions (s : Surroundings) (assigned : Variables) (k : SettingKey) : Layer → Option SettingValue → Prop
  | .environment, x => ∃ text, Variables.last? s.environment k.variableName = some text ∧ k.ofText? text = x
  | .assignments, x => ∃ text, assigned.lookup k.variableName = some text ∧ k.ofText? text = x
  | .file name, x => ∃ e, s.Holds name e ∧ e.1.IsName k.key ∧ k.ofValue? e.2 = x

end Surroundings

/-- The value of the highest layer that mentions a setting, or else the default. -/
inductive Prevails (mentions : Layer → Option SettingValue → Prop) (default : SettingValue) :
    List Layer → SettingValue → Prop
  | default : Prevails mentions default [] default
  | here {l : Layer} {rest : List Layer} {x : SettingValue} : (∃ y, mentions l y) →
      (∀ y, mentions l y → y = some x) → Prevails mentions default (l :: rest) x
  | lower {l : Layer} {rest : List Layer} {x : SettingValue} : (∀ y, ¬ mentions l y) →
      Prevails mentions default rest x → Prevails mentions default (l :: rest) x

namespace Prevails

variable {mentions mentions' : Layer → Option SettingValue → Prop} {default x y : SettingValue}

/-- One more layer on top decides only what it mentions. -/
theorem layOver {l : Layer} {rest : List Layer} (h : Prevails mentions default rest x)
    (hmentions : ∀ z, mentions l z → z = some y) (hothers : (∀ z, ¬ mentions l z) → y = x) :
    Prevails mentions default (l :: rest) y := by
  by_cases hl : ∃ z, mentions l z
  · exact .here hl hmentions
  · rw [not_exists] at hl
    rw [hothers hl]
    exact .lower hl h

/-- What prevails depends on nothing but what the layers mention of the setting. -/
theorem unique {ls ls' : List Layer} (h : Prevails mentions default ls x) (h' : Prevails mentions' default ls' y)
    (halike : List.Forall₂ (fun l l' => ∀ z, mentions l z ↔ mentions' l' z) ls ls') : x = y := by
  induction halike with
  | nil =>
    cases h
    cases h'
    rfl
  | cons hhead _ ih =>
    cases h with
    | here hsome hall =>
      obtain ⟨z, hz⟩ := hsome
      cases h' with
      | here _ hall' => exact Option.some.inj ((hall z hz).symm.trans (hall' z ((hhead z).1 hz)))
      | lower hnone' _ => exact absurd ((hhead z).1 hz) (hnone' z)
    | lower hnone h =>
      cases h' with
      | here hsome' _ =>
        obtain ⟨z, hz⟩ := hsome'
        exact absurd ((hhead z).2 hz) (hnone z)
      | lower _ h' => exact ih h h'

end Prevails

/-! ## Layer by layer -/

section Layers

variable {s : Surroundings} {assigned : Variables}

theorem holds_iff {name text : String} {content : Bytes} {d : Document} {e : Value × Value}
    (hfile : s.files.lookup name = some (.file content)) (htext : Utf8.decode? content = some text)
    (hdocument : document? text = some d) : s.Holds name e ↔ d.Mentions e := by
  constructor
  · rintro ⟨content', text', d', hfile', htext', hdocument', he⟩
    rw [hfile] at hfile'
    cases hfile'
    rw [htext] at htext'
    cases htext'
    rw [hdocument] at hdocument'
    cases hdocument'
    exact he
  · intro he
    exact ⟨content, text, d, hfile, htext, hdocument, he⟩

/-- A file changes what it mentions, and nothing else. -/
theorem value_of_mergeFile (assigned : Variables) {settings merged : Settings} {name : String}
    (h : s.mergeFile settings name = .ok merged) (k : SettingKey) :
    (∀ x, s.Mentions assigned k (.file name) x → x = some (merged.value k)) ∧
      ((∀ x, ¬ s.Mentions assigned k (.file name) x) → merged.value k = settings.value k) := by
  rw [Surroundings.mergeFile] at h
  split at h
  · rename_i hnone
    cases h
    refine ⟨?_, fun _ => rfl⟩
    rintro x ⟨e, ⟨content, text, d, hfile, -⟩, -⟩
    rw [hnone] at hfile
    cases hfile
  · rename_i entry hfile
    cases entry with
    | directory => cases h
    | file content =>
      rw [Surroundings.mergeEntry] at h
      split at h
      · cases h
      · rename_i text htext
        split at h
        · rename_i merged' hmerge
          cases h
          obtain ⟨d, hdocument, hvalue⟩ := value_of_merge hmerge
          obtain ⟨hmentioned, hothers⟩ := hvalue k
          constructor
          · rintro x ⟨e, he, hname, rfl⟩
            exact hmentioned e ((holds_iff hfile htext hdocument).1 he) hname
          · intro hnone
            apply hothers
            intro e he hname
            exact hnone _ ⟨e, (holds_iff hfile htext hdocument).2 he, hname, rfl⟩
        · cases h
        · cases h

theorem exists_assigned (s : Surroundings) : ∃ assigned, s.Assigns assigned := by
  unfold Surroundings.Assigns
  split
  · exact EnvironmentFile.exists_assigns _ _ _ _ (Nat.lt_succ_self _)
  · exact ⟨[], rfl⟩

theorem added_addedVariables (h : s.Assigns assigned) : Variables.Added s.environment assigned s.addedVariables := by
  unfold Surroundings.Assigns at h
  unfold Surroundings.addedVariables
  cases hentry : s.files.lookup ".env" with
  | none =>
    simp only [hentry] at h ⊢
    subst h
    exact Variables.added_nil _
  | some entry =>
    cases entry with
    | directory =>
      simp only [hentry] at h ⊢
      subst h
      exact Variables.added_nil _
    | file content =>
      simp only [hentry] at h ⊢
      exact added_environmentFile h

/-- A variable of the process is the last of its name, and else the first that is assigned. -/
theorem last?_variables (h : s.Assigns assigned) (name : String) :
    Variables.last? (s.environment ++ s.addedVariables) name =
      (Variables.last? s.environment name).or (assigned.lookup name) := by
  obtain ⟨hnodup, hfresh, hlookup⟩ := added_addedVariables h
  rw [Variables.last?_append, Variables.last?_of_nodup hnodup]
  cases hprocess : Variables.last? s.environment name with
  | none => rw [Option.or_none, Option.none_or, hlookup name (Variables.last?_eq_none_iff.1 hprocess)]
  | some text =>
    have hnone : s.addedVariables.lookup name = none := by
      rw [List.lookup_eq_none_iff]
      intro e he
      have hne : name ≠ e.1 := by
        rintro rfl
        have hunset := Variables.last?_eq_none_iff.2 (hfresh e he)
        rw [hprocess] at hunset
        cases hunset
      simpa using hne
    rw [hnone]
    rfl

/-- The variables decide what they mention, and among them those of the process before those of the environment
file. -/
theorem prevails_of_override {k : SettingKey} {merged settings : Settings} {default : SettingValue}
    {files : List Layer} (hassigned : s.Assigns assigned)
    (h : merged.override (s.environment ++ s.addedVariables) = (settings, none))
    (hfiles : Prevails (s.Mentions assigned k) default files (merged.value k)) :
    Prevails (s.Mentions assigned k) default (.environment :: .assignments :: files) (settings.value k) := by
  obtain ⟨hsome, hnone⟩ := value_of_override (k := k) h
  rw [last?_variables hassigned] at hsome hnone
  cases hprocess : Variables.last? s.environment k.variableName with
  | some text =>
    refine .here ⟨_, text, hprocess, rfl⟩ ?_
    rintro y ⟨text', htext', rfl⟩
    apply hsome
    rw [htext']
    rfl
  | none =>
    rw [hprocess, Option.none_or] at hsome hnone
    refine .lower ?_ (hfiles.layOver ?_ fun hunmentioned => hnone ?_)
    · rintro y ⟨text, htext, -⟩
      rw [hprocess] at htext
      cases htext
    · rintro z ⟨text, htext, rfl⟩
      exact hsome text htext
    · rw [Option.eq_none_iff_forall_ne_some]
      exact fun text htext => hunmentioned _ ⟨text, htext, rfl⟩

/-- Each setting that is loaded has the value of the highest layer that mentions it. -/
theorem prevails_load {profile : String} {settings : Settings} (h : Settings.load s profile = .ok settings)
    (hassigned : s.Assigns assigned) (k : SettingKey) :
    Prevails (s.Mentions assigned k) k.default (layers (s.activeProfile profile)) (settings.value k) := by
  rw [Settings.load] at h
  split at h
  · cases h
  · rename_i base hbase
    split at h
    · cases h
    · rename_i merged hmerged
      split at h
      · rename_i settings' hoverride
        cases h
        obtain ⟨hbaseMentioned, hbaseOthers⟩ := value_of_mergeFile assigned hbase k
        obtain ⟨hmentioned, hothers⟩ := value_of_mergeFile assigned hmerged k
        have hlowest : Prevails (s.Mentions assigned k) k.default [.file "application.yaml"] (base.value k) :=
          Prevails.default.layOver hbaseMentioned hbaseOthers
        exact prevails_of_override hassigned hoverride (hlowest.layOver hmentioned hothers)
      · cases h

end Layers

/-- A directory with a file of every layer, and a process that tells its profile. The value of the key that is not for
settings does not read, since it has a key twice. -/
def layered : Surroundings where
  files := [("application.yaml", .file (Utf8.encode "app: {a: 1, a: 2}\nmvc: {max_body_bytes: 1, pretty_json: true}")),
    ("application-test.yaml", .file (Utf8.encode "mvc: {max_body_bytes: 3}")),
    (".env", .file (Utf8.encode "AXMVC_PROFILE=dev\nAXMVC_WS_MAX_MESSAGE_BYTES=5"))]
  environment := [("AXMVC_PROFILE", "test")]

end Switchyard

import Switchyard.Config.EnvironmentFile
import Switchyard.Config.Override
import Switchyard.Proofs.Lookup

/-!
# Settings one by one

Each setting has a value of its own, which a variable replaces without touching the others: after all variables a
setting is what the last variable of its name holds, or what it was before.

Main result: `value_of_override`.
-/

namespace Switchyard

/-! ## Values of settings -/

/-- The value of one setting. -/
inductive SettingValue where
  | size (n : Nat)
  | flag (b : Bool)
  deriving DecidableEq, Repr

/-- The value of a setting. -/
def Settings.value (s : Settings) : SettingKey → SettingValue
  | .maxBodyBytes => .size s.maxBodyBytes
  | .prettyJson => .flag s.prettyJson
  | .maxMessageBytes => .size s.maxMessageBytes

namespace SettingKey

/-- The value of a setting that nothing mentions. -/
def default (k : SettingKey) : SettingValue := Settings.value {} k

/-- The value of a setting as a variable writes it. -/
def ofText? (text : String) : SettingKey → Option SettingValue
  | .maxBodyBytes => (readSize? text).map .size
  | .prettyJson => (readFlag? text).map .flag
  | .maxMessageBytes => (readSize? text).map .size

/-- The names of variables tell the settings apart. -/
theorem ofVariable?_eq_some_iff {name : String} {k : SettingKey} :
    ofVariable? name = some k ↔ name = k.variableName := by
  constructor
  · intro h
    have hname := List.find?_some h
    exact (beq_iff_eq.1 hname).symm
  · rintro rfl
    cases k <;> decide

theorem value_of_replace? {k : SettingKey} {s s' : Settings} {text : String} (h : k.replace? s text = some s') :
    k.ofText? text = some (s'.value k) ∧ ∀ j, j ≠ k → s'.value j = s.value j := by
  cases k with
  | maxBodyBytes =>
    rw [replace?] at h
    obtain ⟨n, hn, rfl⟩ := Option.map_eq_some_iff.1 h
    refine ⟨by rw [ofText?, hn]; rfl, fun j hj => ?_⟩
    cases j with
    | maxBodyBytes => exact absurd rfl hj
    | _ => rfl
  | prettyJson =>
    rw [replace?] at h
    obtain ⟨b, hb, rfl⟩ := Option.map_eq_some_iff.1 h
    refine ⟨by rw [ofText?, hb]; rfl, fun j hj => ?_⟩
    cases j with
    | prettyJson => exact absurd rfl hj
    | _ => rfl
  | maxMessageBytes =>
    rw [replace?] at h
    obtain ⟨n, hn, rfl⟩ := Option.map_eq_some_iff.1 h
    refine ⟨by rw [ofText?, hn]; rfl, fun j hj => ?_⟩
    cases j with
    | maxMessageBytes => exact absurd rfl hj
    | _ => rfl

end SettingKey

/-! ## Variables -/

/-- The value of a variable; of several of its name, the last one. -/
def Variables.last? (vars : Variables) (name : String) : Option String := vars.reverse.lookup name

namespace Variables

theorem last?_cons (name : String) (e : String × String) (vars : Variables) :
    last? (e :: vars) name = (last? vars name).or (if name = e.1 then some e.2 else none) := by
  rw [last?, List.reverse_cons, List.lookup_append, lookup_cons, List.lookup_nil]
  rfl

theorem last?_append (name : String) (vars others : Variables) :
    last? (vars ++ others) name = (last? others name).or (last? vars name) := by
  rw [last?, List.reverse_append, List.lookup_append]
  rfl

theorem last?_eq_none_iff {name : String} {vars : Variables} : last? vars name = none ↔ vars.lookup name = none := by
  simp only [last?, List.lookup_eq_none_iff, List.mem_reverse]

theorem last?_of_nodup {name : String} : ∀ {vars : Variables}, (vars.map Prod.fst).Nodup →
    last? vars name = vars.lookup name
  | [], _ => rfl
  | e :: rest, h => by
    rw [List.map_cons, List.nodup_cons] at h
    rw [last?_cons, last?_of_nodup h.2, lookup_cons]
    by_cases hname : name = e.1
    · have hnone : List.lookup name rest = none := by
        rw [List.lookup_eq_none_iff]
        intro p hp
        have hne : name ≠ p.1 := by
          rintro rfl
          exact h.1 (hname ▸ List.mem_map_of_mem hp)
        simpa using hne
      rw [hnone, if_pos hname]
      rfl
    · rw [if_neg hname, if_neg hname, Option.or_none]

end Variables

/-- A setting has the value that the last variable of its name writes, or the one it had. -/
theorem value_of_override {k : SettingKey} : ∀ {vars : Variables} {s s' : Settings},
    s.override vars = (s', none) →
      (∀ text, Variables.last? vars k.variableName = some text → k.ofText? text = some (s'.value k)) ∧
      (Variables.last? vars k.variableName = none → s'.value k = s.value k)
  | [], s, s', h => by
    cases h
    exact ⟨fun text htext => by simp [Variables.last?] at htext, fun _ => rfl⟩
  | (name, value) :: rest, s, s', h => by
    rw [Settings.override] at h
    rw [Variables.last?_cons]
    split at h
    · rename_i hnone
      have hname : k.variableName ≠ name := by
        intro hname
        rw [SettingKey.ofVariable?_eq_some_iff.2 hname.symm] at hnone
        cases hnone
      rw [if_neg hname, Option.or_none]
      exact value_of_override h
    · rename_i j hj
      obtain rfl := SettingKey.ofVariable?_eq_some_iff.1 hj
      split at h
      · rename_i s₁ hreplace
        obtain ⟨hvalue, hothers⟩ := SettingKey.value_of_replace? hreplace
        obtain ⟨hsome, hnone⟩ := value_of_override (k := k) h
        cases hlast : Variables.last? rest k.variableName with
        | some later =>
          -- a later variable of the name replaces the setting once more
          refine ⟨fun text htext => ?_, fun hnone => by cases hnone⟩
          cases htext
          exact hsome later hlast
        | none =>
          rw [Option.none_or]
          by_cases hk : k = j
          · subst hk
            rw [if_pos rfl, hnone hlast]
            refine ⟨fun text htext => ?_, fun hnone => by cases hnone⟩
            cases htext
            exact hvalue
          · have hname : k.variableName ≠ j.variableName := by
              intro hname
              rw [← hname, SettingKey.ofVariable?_eq_some_iff.2 rfl] at hj
              exact hk (Option.some.inj hj)
            rw [if_neg hname, hnone hlast]
            exact ⟨fun text htext => (by cases htext), fun _ => hothers k hk⟩
      · cases h

end Switchyard

import Mathlib.Data.List.Pairwise
import Switchyard.Config.Section
import Switchyard.Proofs.Config.Override
import Switchyard.Proofs.Except

/-!
# Settings that a document mentions

Laying the section of a document over settings and reading all of them again changes the settings that the section
mentions, each to what it is there, and no others.

Main result: `value_of_merge`.
-/

namespace Switchyard

open Yaml

/-! ## Keys -/

/-- The value of a setting as a document writes it. -/
def SettingKey.ofValue? (v : Value) : SettingKey → Option SettingValue
  | .maxBodyBytes => v.size.toOption.map .size
  | .prettyJson => v.truth.toOption.map .flag
  | .maxMessageBytes => v.size.toOption.map .size

namespace Yaml.Value

/-- A key that names something is a text, under tags or not. -/
inductive IsName : Value → String → Prop
  | text {name : String} : IsName (.text name) name
  | tagged {tag name : String} {v : Value} : IsName v name → IsName (.tagged tag v) name

theorem isName_iff {name : String} {v : Value} : v.fieldName = .ok name ↔ IsName v name := by
  constructor
  · intro h
    induction v using untagged.induct with
    | case1 tag v ih => exact .tagged (ih h)
    | case2 v hplain =>
      cases v with
      | text s => cases h; exact .text
      | tagged tag v => exact absurd rfl (hplain tag v)
      | _ => cases h
  · intro h
    induction h with
    | text => rfl
    | tagged _ ih => exact ih

theorem IsName.same_self {v : Value} {name : String} (h : IsName v name) : v.same v = true := by
  induction h with
  | text => simp [same]
  | tagged _ ih => simp [same, ih]

theorem IsName.eq_of_same {v : Value} {name : String} (h : IsName v name) :
    ∀ {w : Value}, v.same w = true → v = w := by
  induction h with
  | text =>
    intro w hsame
    cases w <;> simp_all [same]
  | tagged _ ih =>
    intro w hsame
    cases w <;> simp [same] at hsame
    rw [hsame.1, ih hsame.2]

theorem IsName.eq_of_same_right {v : Value} {name : String} (h : IsName v name) :
    ∀ {w : Value}, w.same v = true → w = v := by
  induction h with
  | text =>
    intro w hsame
    cases w <;> simp_all [same]
  | tagged _ ih =>
    intro w hsame
    cases w <;> simp [same] at hsame
    rw [hsame.1, ih hsame.2]

end Yaml.Value

/-! ## Laying a section over another -/

namespace Section

theorem mem_put {k v : Value} {name : String} (hname : k.IsName name) : ∀ base : Section, (k, v) ∈ base.put k v
  | [] => List.mem_singleton_self _
  | e :: rest => by
    rw [put]
    split
    · rename_i hsame
      rw [hname.eq_of_same hsame]
      exact List.mem_cons_self
    · exact List.mem_cons_of_mem _ (mem_put hname rest)

/-- What stands under a name stays there when something else is put. -/
theorem mem_put_of_ne {k v k' v' : Value} {name : String} (hname : k.IsName name) (hne : k' ≠ k) :
    ∀ {base : Section}, (k, v) ∈ base → (k, v) ∈ base.put k' v'
  | e :: rest, h => by
    rw [put]
    split
    · rename_i hsame
      cases h with
      | head => exact absurd (hname.eq_of_same_right hsame) hne
      | tail _ h => exact List.mem_cons_of_mem _ h
    · cases h with
      | head => exact List.mem_cons_self
      | tail _ h => exact List.mem_cons_of_mem _ (mem_put_of_ne hname hne h)

/-- What stands under a name is there after all that the name is not the key of. -/
theorem mem_overlay_of_base {k v : Value} {name : String} (hname : k.IsName name) : ∀ {above base : Section},
    (∀ e ∈ above, e.1 ≠ k) → (k, v) ∈ base → (k, v) ∈ base.overlay above
  | [], _, _, h => h
  | e :: above, base, hne, h => by
    rw [overlay, List.foldl_cons]
    exact mem_overlay_of_base hname (fun e' he' => hne e' (List.mem_cons_of_mem _ he'))
      (mem_put_of_ne hname (hne e List.mem_cons_self) h)

/-- What is laid over a section is there, if its keys are distinct. -/
theorem mem_overlay_of_above {k v : Value} {name : String} (hname : k.IsName name) : ∀ {above base : Section},
    above.Pairwise (fun e e' => e'.1.same e.1 = false) → (k, v) ∈ above → (k, v) ∈ base.overlay above
  | e :: above, base, hdistinct, h => by
    rw [overlay, List.foldl_cons]
    obtain ⟨hfirst, hrest⟩ := List.pairwise_cons.1 hdistinct
    cases h with
    | head =>
      refine mem_overlay_of_base hname (fun e' he' heq => ?_) (mem_put hname base)
      have hdiffer := hfirst e' he'
      rw [heq, hname.same_self] at hdiffer
      cases hdiffer
    | tail _ h => exact mem_overlay_of_above hname hrest h

end Section

/-! ## Reading all settings again -/

theorem SettingKey.ofKey?_eq_some_iff {name : String} {k : SettingKey} : ofKey? name = some k ↔ name = k.key := by
  constructor
  · intro h
    have hname := List.find?_some h
    exact (beq_iff_eq.1 hname).symm
  · rintro rfl
    cases k <;> decide

namespace PartialSettings

/-- The value of a setting that has been read. -/
def get? (p : PartialSettings) : SettingKey → Option SettingValue
  | .maxBodyBytes => p.maxBodyBytes.map .size
  | .prettyJson => p.prettyJson.map .flag
  | .maxMessageBytes => p.maxMessageBytes.map .size

theorem has_eq (p : PartialSettings) (k : SettingKey) : p.has k = (p.get? k).isSome := by
  cases k <;> simp [has, get?]

theorem get?_of_set {p p' : PartialSettings} {k : SettingKey} {v : Value} (h : p.set k v = .ok p') :
    (∃ x, k.ofValue? v = some x ∧ p'.get? k = some x) ∧ ∀ j, j ≠ k → p'.get? j = p.get? j := by
  cases k with
  | maxBodyBytes =>
    obtain ⟨n, hsize, rfl⟩ := map_eq_ok_iff.1 h
    refine ⟨⟨.size n, by rw [SettingKey.ofValue?, hsize]; rfl, rfl⟩, fun j hj => ?_⟩
    cases j with
    | maxBodyBytes => exact absurd rfl hj
    | _ => rfl
  | prettyJson =>
    obtain ⟨b, htruth, rfl⟩ := map_eq_ok_iff.1 h
    refine ⟨⟨.flag b, by rw [SettingKey.ofValue?, htruth]; rfl, rfl⟩, fun j hj => ?_⟩
    cases j with
    | prettyJson => exact absurd rfl hj
    | _ => rfl
  | maxMessageBytes =>
    obtain ⟨n, hsize, rfl⟩ := map_eq_ok_iff.1 h
    refine ⟨⟨.size n, by rw [SettingKey.ofValue?, hsize]; rfl, rfl⟩, fun j hj => ?_⟩
    cases j with
    | maxMessageBytes => exact absurd rfl hj
    | _ => rfl

/-- Reading one entry of a section more: it names no setting, or one that has not been read and is read now. -/
theorem read_cons {p p' : PartialSettings} {key v : Value} {rest : Section}
    (h : p.read ((key, v) :: rest) = .ok p') :
    (p.read rest = .ok p' ∧ ∀ k : SettingKey, ¬ key.IsName k.key) ∨
      ∃ k p₁, key.IsName (SettingKey.key k) ∧ p.get? k = none ∧ p.set k v = .ok p₁ ∧ p₁.read rest = .ok p' := by
  rw [read] at h
  split at h
  · cases h
  · rename_i name hname
    split at h
    · rename_i hnone
      refine .inl ⟨h, fun k hk => ?_⟩
      rw [← Value.isName_iff, hname] at hk
      cases hk
      rw [SettingKey.ofKey?_eq_some_iff.2 rfl] at hnone
      cases hnone
    · rename_i k hk
      obtain rfl := SettingKey.ofKey?_eq_some_iff.1 hk
      split at h
      · cases h
      · rename_i hfresh
        split at h
        · cases h
        · rename_i p₁ hset
          refine .inr ⟨k, p₁, Value.isName_iff.1 hname, ?_, hset, h⟩
          simpa [has_eq] using hfresh

theorem get?_of_read {k : SettingKey} {x : SettingValue} : ∀ {entries : Section} {p p' : PartialSettings},
    p.read entries = .ok p' → p.get? k = some x → p'.get? k = some x
  | [], p, p', h, hx => by
    cases h
    exact hx
  | (key, v) :: rest, p, p', h, hx => by
    obtain ⟨hread, -⟩ | ⟨j, p₁, -, hnone, hset, hread⟩ := read_cons h
    · exact get?_of_read hread hx
    · have hj : k ≠ j := by
        rintro rfl
        rw [hx] at hnone
        cases hnone
      obtain ⟨-, hothers⟩ := get?_of_set hset
      exact get?_of_read hread ((hothers k hj).trans hx)

theorem get?_of_mem {k : SettingKey} {key v : Value} (hkey : key.IsName k.key) : ∀ {entries : Section}
    {p p' : PartialSettings}, p.read entries = .ok p' → (key, v) ∈ entries →
      ∃ x, k.ofValue? v = some x ∧ p'.get? k = some x
  | (key', v') :: rest, p, p', h, hmem => by
    obtain ⟨hread, hnone⟩ | ⟨j, p₁, hname, -, hset, hread⟩ := read_cons h
    · cases hmem with
      | head => exact absurd hkey (hnone k)
      | tail _ hmem => exact get?_of_mem hkey hread hmem
    · cases hmem with
      | tail _ hmem => exact get?_of_mem hkey hread hmem
      | head =>
        have hj : j = k := by
          have hsame := (Value.isName_iff.2 hname).symm.trans (Value.isName_iff.2 hkey)
          have hof := SettingKey.ofKey?_eq_some_iff.2 (Except.ok.inj hsame)
          rw [SettingKey.ofKey?_eq_some_iff.2 rfl] at hof
          exact Option.some.inj hof
        subst hj
        obtain ⟨⟨x, hx, hget⟩, -⟩ := get?_of_set hset
        exact ⟨x, hx, get?_of_read hread hget⟩

/-- A setting that has been read has its value in the end. -/
theorem value_complete {p : PartialSettings} {k : SettingKey} {x : SettingValue} (h : p.get? k = some x) :
    p.complete.value k = x := by
  cases k with
  | maxBodyBytes =>
    obtain ⟨n, hn, rfl⟩ := Option.map_eq_some_iff.1 h
    simp [complete, Settings.value, hn]
  | prettyJson =>
    obtain ⟨b, hb, rfl⟩ := Option.map_eq_some_iff.1 h
    simp [complete, Settings.value, hb]
  | maxMessageBytes =>
    obtain ⟨n, hn, rfl⟩ := Option.map_eq_some_iff.1 h
    simp [complete, Settings.value, hn]

end PartialSettings

theorem exists_mem_section (s : Settings) (k : SettingKey) :
    ∃ v, (.text k.key, v) ∈ s.section_ ∧ k.ofValue? v = some (s.value k) := by
  have hsize : ∀ n : Nat, (Value.int n).size = .ok n := by
    intro n
    simp [Value.size, Value.untagged]
  cases k with
  | maxBodyBytes =>
    refine ⟨.int s.maxBodyBytes, by simp [Settings.section_], ?_⟩
    rw [SettingKey.ofValue?, hsize]
    rfl
  | prettyJson => exact ⟨.bool s.prettyJson, by simp [Settings.section_], rfl⟩
  | maxMessageBytes =>
    refine ⟨.int s.maxMessageBytes, by simp [Settings.section_], ?_⟩
    rw [SettingKey.ofValue?, hsize]
    rfl

/-- A section whose keys are distinct changes what it mentions, and nothing else. -/
theorem value_of_apply {s s' : Settings} {above : Section} (h : s.apply above = .ok s')
    (hdistinct : above.Pairwise fun e e' => e'.1.same e.1 = false) (k : SettingKey) :
    (∀ e ∈ above, e.1.IsName k.key → k.ofValue? e.2 = some (s'.value k)) ∧
      ((∀ e ∈ above, ¬ e.1.IsName k.key) → s'.value k = s.value k) := by
  obtain ⟨p, hread, rfl⟩ := map_eq_ok_iff.1 h
  constructor
  · rintro ⟨key, v⟩ hmem hname
    obtain ⟨x, hx, hget⟩ := PartialSettings.get?_of_mem hname hread
      (Section.mem_overlay_of_above hname hdistinct hmem)
    rw [hx, PartialSettings.value_complete hget]
  · intro hnone
    obtain ⟨v, hmem, hv⟩ := exists_mem_section s k
    have hbase : (Value.text k.key, v) ∈ s.section_.overlay above := by
      refine Section.mem_overlay_of_base .text (fun e he heq => hnone e he ?_) hmem
      rw [heq]
      exact .text
    obtain ⟨x, hx, hget⟩ := PartialSettings.get?_of_mem .text hread hbase
    rw [hv] at hx
    rw [PartialSettings.value_complete hget, Option.some.inj hx]

/-! ## The keys of a mapping -/

theorem exists_of_bind_eq_some {σ α β : Type} {x : StateT σ Option α} {f : α → StateT σ Option β} {s : σ} {r : β × σ}
    (h : (x >>= f) s = some r) : ∃ a s', x s = some (a, s') ∧ f a s' = some r := by
  obtain ⟨⟨a, s'⟩, hx, hf⟩ := Option.bind_eq_some_iff.1 h
  exact ⟨a, s', hx, hf⟩

theorem follow_alias_eq_some_iff {d : Document} {id jumps : Nat} {r : Node × Nat} :
    d.follow (.alias id) jumps = some r ↔
      ∃ target, d.target? id = some target ∧ jumps + 1 ≤ d.size * 100 ∧ r = (target, jumps + 1) := by
  simp only [Document.follow]
  split
  · simp
    omega
  · rw [Option.map_eq_some_iff]
    grind

/-- A tag that names a variant is kept around a value. -/
theorem eq_of_withVariant {tag : Option String} {v : Value} {entries : Section}
    (h : withVariant tag v = .mapping entries) : v = .mapping entries := by
  rw [withVariant] at h
  split at h
  · cases h
  · exact h

theorem scalarValue_ne_mapping {tag : Option String} {text : String} {plain : Bool} {entries : Section} :
    scalarValue tag text plain ≠ some (.mapping entries) := by
  intro h
  unfold scalarValue plainValue at h
  repeat' split at h
  all_goals simp at h

theorem exists_foldlM_readEntry {d : Document} {depth jumps jumps' : Nat} {n : Node} {entries : Section}
    (h : nodeValue d depth n jumps = some (.mapping entries, jumps')) :
    ∃ depth' nodes read jumps₁, List.foldlM (readEntry (nodeValue d depth')) [] nodes jumps₁ = some (read, jumps') ∧
      entries = read.reverse := by
  rw [nodeValue.eq_def] at h
  obtain ⟨target, jumps₁, -, h⟩ := exists_of_bind_eq_some h
  cases target with
  | scalar mark tag text plain =>
    obtain ⟨v, hscalar, h⟩ := Option.bind_eq_some_iff.1 h
    cases h
    obtain ⟨v, hv, hvariant⟩ := Option.map_eq_some_iff.1 hscalar
    rw [eq_of_withVariant hvariant] at hv
    exact absurd hv scalarValue_ne_mapping
  | sequence mark tag items =>
    cases depth with
    | zero => cases h
    | succ depth =>
      obtain ⟨values, _, _, h⟩ := exists_of_bind_eq_some h
      cases eq_of_withVariant (Prod.mk.inj (Option.some.inj h)).1
  | mapping mark tag nodes =>
    cases depth with
    | zero => cases h
    | succ depth =>
      obtain ⟨read, jumps₂, hread, h⟩ := exists_of_bind_eq_some h
      obtain ⟨hvalue, hjumps⟩ := Prod.mk.inj (Option.some.inj h)
      subst hjumps
      cases eq_of_withVariant hvalue
      exact ⟨depth, nodes, read, jumps₁, hread, rfl⟩
  | «alias» id => cases h

theorem pairwise_of_foldlM {value : Node → StateT Nat Option Value} : ∀ {nodes : List (Node × Node)} {read read' : Section}
    {jumps jumps' : Nat}, List.foldlM (readEntry value) read nodes jumps = some (read', jumps') →
    read.Pairwise (fun e e' => e.1.same e'.1 = false) → read'.Pairwise fun e e' => e.1.same e'.1 = false
  | [], read, read', jumps, jumps', h, hread => by
    cases h
    exact hread
  | (k, v) :: rest, read, read', jumps, jumps', h, hread => by
    rw [List.foldlM_cons] at h
    obtain ⟨read₁, jumps₁, hentry, h⟩ := exists_of_bind_eq_some h
    refine pairwise_of_foldlM h ?_
    obtain ⟨key, jumps₂, -, hentry⟩ := exists_of_bind_eq_some hentry
    split at hentry
    · cases hentry
    · rename_i hfresh
      obtain ⟨value, jumps₃, -, hentry⟩ := exists_of_bind_eq_some hentry
      cases hentry
      refine List.pairwise_cons.2 ⟨fun e he => ?_, hread⟩
      simp only [Value.hasKey, Bool.not_eq_true, List.any_eq_false] at hfresh
      exact hfresh e he

/-- The keys of a mapping are distinct. -/
theorem pairwise_of_nodeValue {d : Document} {depth jumps jumps' : Nat} {n : Node} {entries : Section}
    (h : nodeValue d depth n jumps = some (.mapping entries, jumps')) :
    entries.Pairwise fun e e' => e'.1.same e.1 = false := by
  obtain ⟨depth', nodes, read, jumps₁, hread, rfl⟩ := exists_foldlM_readEntry h
  rw [List.pairwise_reverse]
  exact pairwise_of_foldlM hread .nil

/-! ## Reading from another count

How many references were followed before a node does not matter to its value: a reading that succeeds also succeeds
where fewer were followed. So the value of a node in its place is the value that it has alone. -/

/-- A reader that reads the same where it starts from a smaller count. -/
def Relaxed {α : Type} (x : StateT Nat Option α) : Prop :=
  ∀ ⦃jumps less : Nat⦄ ⦃a : α⦄ ⦃jumps' : Nat⦄, less ≤ jumps → x jumps = some (a, jumps') →
    ∃ less', less' ≤ jumps' ∧ x less = some (a, less')

namespace Relaxed

variable {α β : Type}

theorem pure (a : α) : Relaxed (Pure.pure a) := by
  intro jumps less a' jumps' hless h
  cases h
  exact ⟨less, hless, rfl⟩

theorem failure : Relaxed (Alternative.failure : StateT Nat Option α) := nofun

theorem lift (x : Option α) : Relaxed (StateT.lift x) := by
  cases x with
  | none => exact failure
  | some a => exact pure a

theorem bind {x : StateT Nat Option α} {f : α → StateT Nat Option β} (hx : Relaxed x) (hf : ∀ a, Relaxed (f a)) :
    Relaxed (x >>= f) := by
  intro jumps less b jumps' hless h
  obtain ⟨a, jumps₁, hread, h⟩ := exists_of_bind_eq_some h
  obtain ⟨less₁, hless₁, hread⟩ := hx hless hread
  obtain ⟨less', hless', h⟩ := hf a hless₁ h
  exact ⟨less', hless', Option.bind_eq_some_iff.2 ⟨_, hread, h⟩⟩

theorem mapM {f : α → StateT Nat Option β} (hf : ∀ a, Relaxed (f a)) : ∀ as : List α, Relaxed (as.mapM f)
  | [] => by
    rw [List.mapM_nil]
    exact pure []
  | a :: as => by
    rw [List.mapM_cons]
    exact (hf a).bind fun b => (mapM hf as).bind fun bs => pure (b :: bs)

theorem foldlM {f : β → α → StateT Nat Option β} (hf : ∀ b a, Relaxed (f b a)) :
    ∀ (as : List α) (b : β), Relaxed (as.foldlM f b)
  | [], b => by
    rw [List.foldlM_nil]
    exact pure b
  | a :: as, b => by
    rw [List.foldlM_cons]
    exact (hf b a).bind fun b => foldlM hf as b

end Relaxed

theorem relaxed_follow (d : Document) (n : Node) : Relaxed (d.follow n) := by
  cases n with
  | «alias» id =>
    intro jumps less target jumps' hless h
    obtain ⟨target, htarget, hlimit, heq⟩ := follow_alias_eq_some_iff.1 h
    cases heq
    exact ⟨less + 1, Nat.succ_le_succ hless, follow_alias_eq_some_iff.2 ⟨target, htarget, by omega, rfl⟩⟩
  | _ => exact .pure _

theorem relaxed_readEntry {value : Node → StateT Nat Option Value} (hvalue : ∀ n, Relaxed (value n)) (read : Section)
    (e : Node × Node) : Relaxed (readEntry value read e) := by
  refine (hvalue e.1).bind fun key => ?_
  split
  · exact .failure
  · exact (hvalue e.2).bind fun v => .pure ((key, v) :: read)

theorem relaxed_nodeValue (d : Document) (depth : Nat) (n : Node) : Relaxed (nodeValue d depth n) := by
  induction depth generalizing n with
  | zero =>
    rw [nodeValue.eq_def]
    refine (relaxed_follow d n).bind fun target => ?_
    cases target with
    | scalar mark tag text plain => exact .lift _
    | _ => exact .failure
  | succ depth ih =>
    rw [nodeValue.eq_def]
    refine (relaxed_follow d n).bind fun target => ?_
    cases target with
    | scalar mark tag text plain => exact .lift _
    | sequence mark tag items => exact (Relaxed.mapM ih items).bind fun values => .pure _
    | mapping mark tag nodes =>
      exact (Relaxed.foldlM (relaxed_readEntry ih) nodes []).bind fun read => .pure _
    | «alias» id => exact .failure

/-! ## What a document mentions -/

/-- A key of a document has a text: it is a scalar, or a reference to one. -/
inductive Yaml.Document.IsKey (d : Document) (text : String) : Node → Prop
  | scalar {mark : Mark} {tag : Option String} {plain : Bool} : IsKey d text (.scalar mark tag text plain)
  | reference {id : Nat} {mark : Mark} {tag : Option String} {plain : Bool} :
      d.target? id = some (.scalar mark tag text plain) → IsKey d text (.alias id)

/-- A node stands under the key of settings and has a value, which is told of the node alone. -/
def Yaml.Document.HasSection (d : Document) (nodes : List (Node × Node)) (v : Value) : Prop :=
  ∃ key n jumps, (key, n) ∈ nodes ∧ d.IsKey sectionKey key ∧ nodeValue d (nestingLimit - 1) n 0 = some (v, jumps)

/-- An entry of the section of a document: the document is a mapping that has another mapping under the key of
settings, and the entry is one of that. Whatever else is in the document does not matter. -/
def Yaml.Document.Mentions (d : Document) (e : Value × Value) : Prop :=
  ∃ mark tag nodes entries, d.root = some (.mapping mark tag nodes) ∧ d.HasSection nodes (.mapping entries) ∧
    e ∈ entries

theorem Yaml.Document.IsKey.unique {d : Document} {text text' : String} {key : Node} (h : d.IsKey text key)
    (h' : d.IsKey text' key) : text = text' := by
  cases h with
  | scalar => cases h'; rfl
  | reference htarget =>
    cases h' with
    | reference htarget' =>
      rw [htarget] at htarget'
      cases htarget'
      rfl

theorem isKey_of_keyText {d : Document} {jumps jumps' : Nat} {key : Node} {text : String}
    (h : d.keyText jumps key = .ok (text, jumps')) : d.IsKey text key := by
  rw [Document.keyText] at h
  split at h
  · cases h
  · rename_i target jumps₁ hfollow
    cases target with
    | scalar mark tag text plain =>
      cases h
      cases key with
      | «alias» id =>
        obtain ⟨target, htarget, -, heq⟩ := follow_alias_eq_some_iff.1 hfollow
        cases heq
        exact .reference htarget
      | scalar mark tag text plain => cases hfollow; exact .scalar
      | _ => cases hfollow
    | _ => cases h

theorem hasSection_cons {d : Document} {k v : Node} {rest : List (Node × Node)} {x : Value} {text : String}
    (hkey : d.IsKey text k) : d.HasSection ((k, v) :: rest) x ↔
      (text = sectionKey ∧ ∃ jumps, nodeValue d (nestingLimit - 1) v 0 = some (x, jumps)) ∨ d.HasSection rest x := by
  constructor
  · rintro ⟨key, n, jumps, hmem, hsection, hvalue⟩
    cases hmem with
    | head => exact .inl ⟨hkey.unique hsection, jumps, hvalue⟩
    | tail _ hmem => exact .inr ⟨key, n, jumps, hmem, hsection, hvalue⟩
  · rintro (⟨rfl, jumps, hvalue⟩ | ⟨key, n, jumps, hmem, hsection, hvalue⟩)
    · exact ⟨k, v, jumps, List.mem_cons_self, hkey, hvalue⟩
    · exact ⟨key, n, jumps, List.mem_cons_of_mem _ hmem, hsection, hvalue⟩

/-- The value that is found is the one under the key of settings, as it would be read alone. -/
theorem sectionValue_eq_some_iff {d : Document} {mark : Mark} {x : Value} : ∀ {nodes : List (Node × Node)}
    {jumps : Nat} {found found' : Option Value}, d.sectionValue mark nodes jumps found = .ok found' →
      (found' = some x ↔ found = some x ∨ d.HasSection nodes x)
  | [], jumps, found, found', h => by
    cases h
    simp [Document.HasSection]
  | (k, v) :: rest, jumps, found, found', h => by
    rw [Document.sectionValue] at h
    split at h
    · cases h
    · rename_i text jumps₁ htext
      rw [hasSection_cons (isKey_of_keyText htext)]
      split at h
      · rename_i hother
        rw [sectionValue_eq_some_iff h]
        simp [hother]
      · rename_i hsection
        rw [not_not] at hsection
        subst hsection
        split at h
        · cases h
        · rename_i hfound
          rw [Bool.not_eq_true, Option.isSome_eq_false_iff, Option.isNone_iff_eq_none] at hfound
          subst hfound
          split at h
          · cases h
          · rename_i value jumps₂ hread
            obtain ⟨alone, -, halone⟩ := relaxed_nodeValue d _ v (Nat.zero_le _) hread
            rw [sectionValue_eq_some_iff h, halone]
            simp [eq_comm]

theorem asSection?_eq_some_iff {v : Value} {entries : Section} :
    v.asSection? = some entries ↔ v = .mapping entries := by
  cases v <;> simp [Value.asSection?]

theorem not_mentions {d : Document} (hroot : ∀ mark tag nodes, d.root ≠ some (.mapping mark tag nodes))
    (e : Value × Value) : ¬ d.Mentions e := by
  rintro ⟨mark, tag, nodes, entries, hmapping, -⟩
  exact hroot mark tag nodes hmapping

/-- The settings of a document are the entries that it mentions, with distinct keys. -/
theorem settings_spec {d : Document} {above : Option Section} (h : d.settings = .ok above) :
    (above.getD []).Pairwise (fun e e' => e'.1.same e.1 = false) ∧ ∀ e, e ∈ above.getD [] ↔ d.Mentions e := by
  rw [Document.settings] at h
  split at h
  · rename_i hroot
    cases h
    exact ⟨.nil, fun e => by simpa using not_mentions (by simp [hroot]) e⟩
  · cases h
  · rename_i mark tag nodes hroot
    obtain ⟨found, hfound, rfl⟩ := map_eq_ok_iff.1 h
    have hmentions : ∀ e, d.Mentions e ↔ ∃ entries, found = some (.mapping entries) ∧ e ∈ entries := by
      intro e
      rw [Document.Mentions, hroot]
      simp only [sectionValue_eq_some_iff hfound, Option.some.injEq, Node.mapping.injEq, reduceCtorEq, false_or]
      grind
    cases habove : found.bind Value.asSection? with
    | none =>
      refine ⟨.nil, fun e => ?_⟩
      rw [hmentions]
      constructor
      · nofun
      · rintro ⟨entries, rfl, -⟩
        cases habove
    | some entries =>
      obtain ⟨v, rfl, hv⟩ := Option.bind_eq_some_iff.1 habove
      rw [asSection?_eq_some_iff] at hv
      subst hv
      refine ⟨?_, fun e => by simp [hmentions]⟩
      obtain heq | ⟨key, n, jumps, -, -, hvalue⟩ := (sectionValue_eq_some_iff hfound).1 rfl
      · cases heq
      · exact pairwise_of_nodeValue hvalue
  · cases h
  · rename_i hroot
    split at h
    · cases h
      exact ⟨.nil, fun e => by simpa using not_mentions (by simp [hroot]) e⟩
    · split at h <;> cases h

/-- **Laying a document over settings** changes each setting that its section mentions to what it is there, and no
other setting. -/
theorem value_of_merge {s s' : Settings} {text : String} (h : s.merge text = .ok s') :
    ∃ d, document? text = some d ∧ ∀ k : SettingKey,
      (∀ e, d.Mentions e → e.1.IsName k.key → k.ofValue? e.2 = some (s'.value k)) ∧
      ((∀ e, d.Mentions e → ¬ e.1.IsName k.key) → s'.value k = s.value k) := by
  rw [Settings.merge] at h
  split at h
  · cases h
  · rename_i d hdocument
    refine ⟨d, hdocument, fun k => ?_⟩
    split at h
    · cases h
    · rename_i hsettings
      cases h
      obtain ⟨-, hmem⟩ := settings_spec hsettings
      exact ⟨fun e he => absurd ((hmem e).2 he) List.not_mem_nil, fun _ => rfl⟩
    · rename_i above hsettings
      obtain ⟨hdistinct, hmem⟩ := settings_spec hsettings
      rw [Option.getD_some] at hdistinct hmem
      simpa only [← hmem] using value_of_apply (mapError_eq_ok_iff.1 h) hdistinct k

end Switchyard

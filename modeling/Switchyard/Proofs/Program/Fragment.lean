import Switchyard.Proofs.Program.Scope

/-!
# Fragments of generated code

A fragment is words of which everything is told at once: what has to be known before them, what is known after
them, what they bind and which methods they call on variables. Fragments are put together like the words are.

Main results: `Fragment.append` and one lemma for each form of a scope, `Operand.between` for lists, and
`Fragment.steps` for words that are written step by step.
-/

namespace Switchyard

open Code

/-- Words that stand where variables are `known`, with the variables that are known after them, all that they bind
and the methods that they call. -/
structure Fragment (quoted : Pieces → Prop) (known : List Variable) (words : List Word) (known' : List Variable)
    (bound : List Variable) (called : List (Variable × String)) : Prop where
  inScope : Scoped quoted known words known'
  binds : binds words = bound
  calls : Calls words called

/-- Words that bind nothing, and that may end in a variable: the text after them is no call. -/
structure Operand (quoted : Pieces → Prop) (known : List Variable) (words : List Word)
    (called : List (Variable × String)) : Prop where
  inScope : Scoped quoted known words known
  binds : binds words = []
  calls : ∀ ending, ending ≠ "." → Calls (words ++ [.text ending]) called

@[simp] theorem flatMap_nothing {α β : Type} (list : List α) : list.flatMap (fun _ => ([] : List β)) = [] :=
  List.flatMap_eq_nil_iff.2 fun _ _ => rfl

variable {quoted : Pieces → Prop} {known known₁ known₂ vs bound bound' : List Variable} {l r words : List Word}
  {called called' : List (Variable × String)} {v : Variable} {t : String}

namespace Fragment

theorem append (hl : Fragment quoted known l known₁ bound called)
    (hr : Fragment quoted known₁ r known₂ bound' called') :
    Fragment quoted known (l ++ r) known₂ (bound ++ bound') (called ++ called') :=
  ⟨hl.inScope.append hr.inScope, by rw [binds_append, hl.binds, hr.binds], hl.calls.append hr.calls⟩

theorem plain (h : l.all Word.isPlain = true) : Fragment quoted known l known [] [] :=
  ⟨.plain h, binds_of_plain h, .plain h⟩

theorem nil : Fragment quoted known [] known [] [] := .plain rfl

theorem quote {pieces : Pieces} (h : quoted pieces) : Fragment quoted known (quote pieces) known [] [] :=
  ⟨.quoted h, binds_quote _, .quote _⟩

theorem literal (t : String) : Fragment quoted known [.text (literal t)] known [] [] := ⟨.literal, rfl, rfl⟩

theorem path {s : Scope} {phrase : String} (hroot : quoted s.root) (h : (say phrase).all Word.isPlain = true) :
    Fragment quoted known (s.path phrase) known [] [] := (quote hroot).append (plain (plain_colons h))

theorem call {name : String} (hv : v ∈ known) (hname : delimits name = false) :
    Fragment quoted known [.use v, .text ".", .text name] known [] [(v, name)] :=
  ⟨(Scoped.use hv).append (.plain (by simp [Word.isPlain, hname]; rfl)), rfl, rfl⟩

theorem callQuoted {name : String} (hv : v ∈ known) (hname : quoted [name]) :
    Fragment quoted known [.use v, .text ".", .text name] known [] [(v, name)] :=
  ⟨(Scoped.use hv).append (((Scoped.plain rfl : Scoped quoted known [.text "."] known)).append (.quoted hname)), rfl,
    rfl⟩

theorem letIn {pattern value : List Word} (hpattern : Introduces quoted pattern vs)
    (hvalue : Fragment quoted known value known bound called) :
    Fragment quoted known ([.text "let"] ++ pattern ++ [.text "="] ++ value ++ [.text ";"]) (vs ++ known)
      (vs ++ bound) called := by
  refine ⟨.letIn hpattern hvalue.inScope, ?_, ?_⟩
  · simp [hpattern.binds_eq.1, hvalue.binds]
  · have hlet : Calls [.text "let"] [] := rfl
    have heq : Calls [.text "="] [] := rfl
    have hend : Calls [.text ";"] [] := rfl
    simpa using (((hlet.append hpattern.calls).append heq).append hvalue.calls).append hend

theorem block {body : List Word} (hbody : Fragment quoted known body known₁ bound called) :
    Fragment quoted known ([.text "\x7b"] ++ body ++ [.text "\x7d"]) known bound called := by
  refine ⟨.block hbody.inScope, ?_, ?_⟩
  · simp [hbody.binds]
  · have hopen : Calls [.text "\x7b"] [] := rfl
    have hclose : Calls [.text "\x7d"] [] := rfl
    simpa using (hopen.append hbody.calls).append hclose

theorem ifLet {pattern value body : List Word} (hpattern : Introduces quoted pattern vs)
    (hvalue : Operand quoted known value called) (hbody : Fragment quoted (vs ++ known) body known₁ bound called') :
    Fragment quoted known ([.text "if", .text "let"] ++ pattern ++ [.text "="] ++ value ++ [.text "\x7b"] ++ body
      ++ [.text "\x7d"]) known (vs ++ bound) (called ++ called') := by
  refine ⟨.ifLet hpattern hvalue.inScope hbody.inScope, ?_, ?_⟩
  · simp [hpattern.binds_eq.1, hvalue.binds, hbody.binds]
  · have hif : Calls [.text "if", .text "let"] [] := rfl
    have heq : Calls [.text "="] [] := rfl
    have hclose : Calls [.text "\x7d"] [] := rfl
    simpa using ((((hif.append hpattern.calls).append heq).append (hvalue.calls "\x7b" (by decide))).append
      hbody.calls).append hclose

theorem arm {pattern value : List Word} (hpattern : Introduces quoted pattern vs)
    (hvalue : Operand quoted (vs ++ known) value called) :
    Fragment quoted known (pattern ++ [.text "=", .text ">"] ++ value ++ [.text ","]) known vs called := by
  refine ⟨.arm hpattern hvalue.inScope, ?_, ?_⟩
  · simp [hpattern.binds_eq.1, hvalue.binds]
  · have harrow : Calls [.text "=", .text ">"] [] := rfl
    simpa using (hpattern.calls.append harrow).append (hvalue.calls "," (by decide))

theorem closure {body : List Word} (hbody : Fragment quoted (v :: known) body known₁ bound called) :
    Fragment quoted known ([.text "(", .text "|", .bind v, .text "|"] ++ body ++ [.text ")"]) known (v :: bound)
      called := by
  refine ⟨.closure hbody.inScope, ?_, ?_⟩
  · simp [hbody.binds]
  · have hopen : Calls [.text "(", .text "|", .bind v, .text "|"] [] := rfl
    have hclose : Calls [.text ")"] [] := rfl
    simpa using (hopen.append hbody.calls).append hclose

theorem flatMap {α : Type} {f : α → List Word} {b : α → List Variable} {g : α → List (Variable × String)} :
    ∀ (list : List α), (∀ a ∈ list, Fragment quoted known (f a) known (b a) (g a)) →
      Fragment quoted known (list.flatMap f) known (list.flatMap b) (list.flatMap g)
  | [], _ => .nil
  | a :: rest, h => (h a List.mem_cons_self).append (flatMap rest fun a' ha' => h a' (List.mem_cons_of_mem a ha'))

theorem say {phrase : String} {cs : List Char} (hphrase : phrase = .ofList cs)
    (h : ((splitAll (· == ' ') cs).all fun cs => !delimits (.ofList cs)) = true) :
    Fragment quoted known (say phrase) known [] [] := .plain (plain_say hphrase h)

end Fragment

namespace Operand

theorem use (hv : v ∈ known) : Operand quoted known [.use v] [] :=
  ⟨.use hv, rfl, fun ending hending => by simp [Calls, Reading.run, Reading.step, hending]⟩

theorem of (h : Fragment quoted known words known [] called) : Operand quoted known words called := by
  refine ⟨h.inScope, h.binds, fun ending _ => ?_⟩
  have hending : Calls [.text ending] [] := rfl
  simpa using h.calls.append hending

theorem append (hl : Fragment quoted known l known [] called) (hr : Operand quoted known r called') :
    Operand quoted known (l ++ r) (called ++ called') := by
  refine ⟨hl.inScope.append hr.inScope, by rw [binds_append, hl.binds, hr.binds, List.append_nil], ?_⟩
  intro ending hending
  rw [List.append_assoc]
  exact hl.calls.append (hr.calls ending hending)

theorem ended (h : Operand quoted known words called) (hplain : delimits t = false) (hdot : t ≠ ".") :
    Fragment quoted known (words ++ [.text t]) known [] called :=
  ⟨h.inScope.append (.plain (by simp [Word.isPlain, hplain])), by simp [h.binds], h.calls t hdot⟩

theorem between {α : Type} {f : α → List Word} {g : α → List (Variable × String)} : ∀ {list : List α},
    (∀ a ∈ list, Operand quoted known (f a) (g a)) →
      Operand quoted known (between [.text ","] (list.map f)) (list.flatMap g)
  | [], _ => .of .nil
  | [a], h => by simpa [Switchyard.between] using h a List.mem_cons_self
  | a :: b :: rest, h => by
    have hfirst := (h a List.mem_cons_self).ended (t := ",") rfl (by decide)
    exact Operand.append hfirst (between fun a' ha' => h a' (List.mem_cons_of_mem a ha'))

end Operand

/-! ## Step by step -/

/-- Steps that find known what they need, if each leaves known what it says. -/
def Ready {α : Type} (needs leaves : α → List Variable) : (known : List Variable) → List α → Prop
  | _, [] => True
  | known, a :: rest => needs a ⊆ known ∧ Ready needs leaves (leaves a ++ known) rest

section Steps

variable {α : Type} {needs leaves : α → List Variable}

theorem Ready.mono : ∀ {steps : List α} {known known' : List Variable}, known ⊆ known' →
    Ready needs leaves known steps → Ready needs leaves known' steps
  | [], _, _, _, _ => trivial
  | a :: _, _, _, hsub, h => ⟨fun _ hv => hsub (h.1 hv), h.2.mono fun v hv => by
    simpa using (List.mem_append.1 hv).imp_right (@hsub v)⟩

theorem Ready.append : ∀ {l r : List α} {known : List Variable}, Ready needs leaves known l →
    Ready needs leaves (l.flatMap leaves ++ known) r → Ready needs leaves known (l ++ r)
  | [], _, _, _, hr => hr
  | a :: l, r, known, hl, hr => by
    refine ⟨hl.1, hl.2.append (hr.mono fun v hv => ?_)⟩
    simpa [or_left_comm, or_assoc] using hv

theorem Ready.map {β : Type} {f : β → α} : ∀ {steps : List β} {known : List Variable},
    Ready (fun b => needs (f b)) (fun b => leaves (f b)) known steps → Ready needs leaves known (steps.map f)
  | [], _, _ => trivial
  | _ :: _, _, h => ⟨h.1, h.2.map⟩

/-- **Steps that find known what they need are a fragment**, with what each of them binds and calls. -/
theorem Fragment.steps {f : α → List Word} {binds : α → List Variable} {calls : α → List (Variable × String)} :
    ∀ {steps : List α} {known : List Variable},
      (∀ a ∈ steps, ∀ known, needs a ⊆ known →
        Fragment quoted known (f a) (leaves a ++ known) (binds a) (calls a)) →
      Ready needs leaves known steps →
      ∃ known', Fragment quoted known (steps.flatMap f) known' (steps.flatMap binds) (steps.flatMap calls)
  | [], known, _, _ => ⟨known, .nil⟩
  | a :: rest, known, hstep, h => by
    have hfirst := hstep a List.mem_cons_self known h.1
    obtain ⟨known', hrest⟩ := Fragment.steps (fun b hb => hstep b (List.mem_cons_of_mem a hb)) h.2
    exact ⟨known', hfirst.append hrest⟩

end Steps

end Switchyard

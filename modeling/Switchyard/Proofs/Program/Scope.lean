import Mathlib.Data.List.Basic
import Switchyard.Program.Words

/-!
# Scopes of generated code

What is known where: a variable is known from the statement that binds it to the end of the block, and in the arm,
the closure or the branch whose pattern binds it. Code of the user is quoted as a whole, and no scope of ours starts
or ends in it.

Main results: `Scoped.bound`, that whatever is used was bound before, and the lists of all that words bind and call.
-/

namespace Switchyard

open Code

/-! ## The judgement -/

/-- Whether a text has a part in scopes: it opens or closes a block, or starts a pattern. -/
def delimits (t : String) : Bool := ["\x7b", "\x7d", "let", "if", "|"].contains t

/-- Whether a word is a text that has no part in scopes. -/
def Word.isPlain : Word → Bool
  | .text t => !delimits t
  | _ => false

theorem say_literal (cs : List Char) :
    say (no_index (.ofList cs)) = (splitAll (· == ' ') cs).map fun cs => .text (.ofList cs) := by
  rw [say, String.toList_ofList]

theorem append_ofList {t u : String} {cs ds : List Char} (ht : t = .ofList cs) (hu : u = .ofList ds) :
    t ++ u = .ofList (cs ++ ds) := by rw [ht, hu, String.ofList_append]

/-- No word of a phrase has a part in scopes, if none delimits. -/
theorem plain_say {phrase : String} {cs : List Char} (hphrase : phrase = .ofList cs)
    (h : ((splitAll (· == ' ') cs).all fun cs => !delimits (.ofList cs)) = true) :
    (say phrase).all Word.isPlain = true := by
  rw [hphrase, say_literal, List.all_map]
  exact h

/-- A path begins with two words that have no part in scopes. -/
theorem plain_colons {phrase : String} (h : (say phrase).all Word.isPlain = true) :
    (say (": : " ++ phrase)).all Word.isPlain = true := by
  have hcut : ∀ cs : List Char, splitAll (· == ' ') (':' :: ' ' :: ':' :: ' ' :: cs) =
      [':'] :: [':'] :: splitAll (· == ' ') cs := fun cs => rfl
  have hcolons : (": : " ++ phrase).toList = ':' :: ' ' :: ':' :: ' ' :: phrase.toList := by
    rw [String.toList_append]
    rfl
  rw [say, hcolons, hcut]
  exact h

section Judgement

variable (quoted : Pieces → Prop)

/-- A pattern, with the variables that it binds; a type may be quoted in it. -/
inductive Introduces : List Word → List Variable → Prop
  | append {l r : List Word} {vs ws : List Variable} : Introduces l vs → Introduces r ws →
      Introduces (l ++ r) (vs ++ ws)
  | plain {words : List Word} : words.all Word.isPlain = true → Introduces words []
  | quoted {pieces : Pieces} : quoted pieces → Introduces (quote pieces) []
  | bind {v : Variable} : Introduces [.bind v] [v]

/-- Words that use no variable but those that are `known`, or that they bind themselves; the variables that are
known after them follow. -/
inductive Scoped : (known : List Variable) → List Word → List Variable → Prop
  | append {known known₁ known₂ : List Variable} {l r : List Word} :
      Scoped known l known₁ → Scoped known₁ r known₂ → Scoped known (l ++ r) known₂
  | plain {known : List Variable} {words : List Word} : words.all Word.isPlain = true → Scoped known words known
  | literal {known : List Variable} {t : String} : Scoped known [.text (literal t)] known
  | quoted {known : List Variable} {pieces : Pieces} : quoted pieces → Scoped known (quote pieces) known
  | use {known : List Variable} {v : Variable} : v ∈ known → Scoped known [.use v] known
  /-- A statement binds the variables of its pattern for what follows in the block. -/
  | letIn {known vs : List Variable} {pattern value : List Word} : Introduces quoted pattern vs →
      Scoped known value known →
      Scoped known ([.text "let"] ++ pattern ++ [.text "="] ++ value ++ [.text ";"]) (vs ++ known)
  /-- What a block binds is not known after it. -/
  | block {known known₁ : List Variable} {body : List Word} : Scoped known body known₁ →
      Scoped known ([.text "\x7b"] ++ body ++ [.text "\x7d"]) known
  | ifLet {known known₁ vs : List Variable} {pattern value body : List Word} : Introduces quoted pattern vs →
      Scoped known value known → Scoped (vs ++ known) body known₁ →
      Scoped known ([.text "if", .text "let"] ++ pattern ++ [.text "="] ++ value ++ [.text "\x7b"] ++ body
        ++ [.text "\x7d"]) known
  | arm {known known₁ vs : List Variable} {pattern value : List Word} : Introduces quoted pattern vs →
      Scoped (vs ++ known) value known₁ →
      Scoped known (pattern ++ [.text "=", .text ">"] ++ value ++ [.text ","]) known
  | closure {known known₁ : List Variable} {v : Variable} {body : List Word} : Scoped (v :: known) body known₁ →
      Scoped known ([.text "(", .text "|", .bind v, .text "|"] ++ body ++ [.text ")"]) known

end Judgement

theorem Introduces.say {quoted : Pieces → Prop} {phrase : String} {cs : List Char} (hphrase : phrase = .ofList cs)
    (h : ((splitAll (· == ' ') cs).all fun cs => !delimits (.ofList cs)) = true) :
    Introduces quoted (say phrase) [] := .plain (plain_say hphrase h)

/-! ## What words bind -/

/-- The variable that a word binds. -/
def Word.bound? : Word → Option Variable
  | .bind v => some v
  | _ => none

/-- All that words bind, in order. -/
def binds (words : List Word) : List Variable := words.filterMap Word.bound?

@[simp] theorem binds_nil : binds [] = [] := rfl

@[simp] theorem binds_text (t : String) (words : List Word) : binds (.text t :: words) = binds words := rfl

@[simp] theorem binds_use (v : Variable) (words : List Word) : binds (.use v :: words) = binds words := rfl

@[simp] theorem binds_bind (v : Variable) (words : List Word) : binds (.bind v :: words) = v :: binds words := rfl

@[simp] theorem binds_append (l r : List Word) : binds (l ++ r) = binds l ++ binds r := List.filterMap_append

@[simp] theorem binds_quote (pieces : Pieces) : binds (quote pieces) = [] := by
  induction pieces with
  | nil => rfl
  | cons t pieces ih => exact ih

theorem count_binds (v : Variable) (words : List Word) : words.count (.bind v) = (binds words).count v := by
  induction words with
  | nil => rfl
  | cons w words ih =>
    cases w with
    | text t => rw [List.count_cons_of_ne (by simp), ih, binds_text]
    | use u => rw [List.count_cons_of_ne (by simp), ih, binds_use]
    | bind u =>
      rw [binds_bind, List.count_cons, List.count_cons, ih]
      simp

/-! ## Whatever is used is bound -/

/-- Every variable that words use was seen or is bound before. -/
def Bound : (seen : List Variable) → List Word → Prop
  | _, [] => True
  | seen, .text _ :: rest => Bound seen rest
  | seen, .bind v :: rest => Bound (v :: seen) rest
  | seen, .use v :: rest => v ∈ seen ∧ Bound seen rest

theorem Bound.mono : ∀ {l : List Word} {seen seen' : List Variable}, seen ⊆ seen' → Bound seen l → Bound seen' l
  | [], _, _, _, _ => trivial
  | .text _ :: l, _, _, hsub, h => Bound.mono (l := l) hsub h
  | .bind v :: l, _, _, hsub, h => Bound.mono (l := l) (List.cons_subset_cons v hsub) h
  | .use _ :: _, _, _, hsub, h => ⟨hsub h.1, Bound.mono hsub h.2⟩

theorem Bound.append : ∀ {l r : List Word} {seen : List Variable}, Bound seen l → Bound (binds l ++ seen) r →
    Bound seen (l ++ r)
  | [], _, _, _, hr => hr
  | .text _ :: l, _, _, hl, hr => Bound.append (l := l) hl hr
  | .bind v :: l, r, seen, hl, hr =>
    Bound.append (l := l) hl (Bound.mono (fun _ hu => by simpa [or_left_comm] using hu) hr)
  | .use _ :: _, _, _, hl, hr => ⟨hl.1, Bound.append hl.2 hr⟩

/-- A use stands after a binding, or its variable was seen. -/
theorem Bound.mem : ∀ {l r : List Word} {v : Variable} {seen : List Variable},
    Bound seen (l ++ .use v :: r) → v ∈ seen ∨ .bind v ∈ l
  | [], _, _, _, h => .inl h.1
  | .text _ :: l, _, _, _, h => (Bound.mem (l := l) h).imp_right (List.mem_cons_of_mem _)
  | .use _ :: _, _, _, _, h => (Bound.mem h.2).imp_right (List.mem_cons_of_mem _)
  | .bind u :: l, _, v, seen, h => by
    obtain hseen | hbefore := Bound.mem (l := l) h
    · cases hseen with
      | head => exact .inr List.mem_cons_self
      | tail _ hseen => exact .inl hseen
    · exact .inr (List.mem_cons_of_mem _ hbefore)

theorem bound_of_plain {words : List Word} (h : words.all Word.isPlain = true) (seen : List Variable) :
    Bound seen words := by
  induction words with
  | nil => trivial
  | cons w words ih =>
    obtain ⟨hw, hwords⟩ := List.all_eq_true.1 h |> List.forall_mem_cons.1
    cases w with
    | text t => exact ih (List.all_eq_true.2 hwords)
    | bind v => cases hw
    | use v => cases hw

theorem binds_of_plain {words : List Word} (h : words.all Word.isPlain = true) : binds words = [] := by
  rw [binds, List.filterMap_eq_nil_iff]
  intro w hw
  have hplain := List.all_eq_true.1 h w hw
  cases w with
  | text t => rfl
  | bind v => cases hplain
  | use v => cases hplain

theorem bound_quote (pieces : Pieces) (seen : List Variable) : Bound seen (quote pieces) := by
  induction pieces with
  | nil => trivial
  | cons t pieces ih => exact ih

section Soundness

variable {quoted : Pieces → Prop}

/-- A pattern binds its variables and uses none. -/
theorem Introduces.binds_eq {pattern : List Word} {vs : List Variable} (h : Introduces quoted pattern vs) :
    binds pattern = vs ∧ ∀ seen, Bound seen pattern := by
  induction h with
  | append _ _ ihl ihr => exact ⟨by rw [binds_append, ihl.1, ihr.1], fun seen => (ihl.2 seen).append (ihr.2 _)⟩
  | plain hplain => exact ⟨binds_of_plain hplain, bound_of_plain hplain⟩
  | quoted => exact ⟨binds_quote _, bound_quote _⟩
  | bind => exact ⟨rfl, fun _ => trivial⟩

/-- **Whatever words use is known or bound before**, and what is known after them was known or is bound by them. -/
theorem Scoped.bound {known known' : List Variable} {words : List Word} (h : Scoped quoted known words known') :
    Bound known words ∧ known' ⊆ binds words ++ known := by
  induction h with
  | append _ _ ihl ihr =>
    obtain ⟨hl, hsubl⟩ := ihl
    obtain ⟨hr, hsubr⟩ := ihr
    refine ⟨hl.append (hr.mono hsubl), fun v hv => ?_⟩
    rw [binds_append, List.append_assoc, List.mem_append]
    obtain hbound | hknown := List.mem_append.1 (hsubr hv)
    · exact .inr (List.mem_append_left _ hbound)
    · exact (List.mem_append.1 (hsubl hknown)).imp_right (List.mem_append_right _)
  | plain hplain => exact ⟨bound_of_plain hplain _, List.subset_append_right _ _⟩
  | literal => exact ⟨trivial, fun _ hv => hv⟩
  | quoted => exact ⟨bound_quote _ _, List.subset_append_right _ _⟩
  | use hv => exact ⟨⟨hv, trivial⟩, fun _ hv => hv⟩
  | @letIn known vs pattern value hpattern _ ih =>
    obtain ⟨rfl, hfree⟩ := hpattern.binds_eq
    have hvalue : Bound (binds pattern ++ known) value := ih.1.mono (List.subset_append_right _ _)
    simp only [List.append_assoc, List.cons_append, List.nil_append]
    refine ⟨(hfree known).append (hvalue.append trivial), fun v hv => ?_⟩
    rw [binds_text, binds_append, List.append_assoc, List.mem_append]
    exact (List.mem_append.1 hv).imp_right (List.mem_append_right _)
  | block _ ih =>
    simp only [List.cons_append, List.nil_append]
    exact ⟨ih.1.append trivial, List.subset_append_right _ _⟩
  | @ifLet known known₁ vs pattern value body hpattern _ _ ihvalue ihbody =>
    obtain ⟨rfl, hfree⟩ := hpattern.binds_eq
    have hvalue : Bound (binds pattern ++ known) value := ihvalue.1.mono (List.subset_append_right _ _)
    have hbody : Bound (binds value ++ (binds pattern ++ known)) body := ihbody.1.mono (List.subset_append_right _ _)
    simp only [List.append_assoc, List.cons_append, List.nil_append]
    exact ⟨(hfree known).append (hvalue.append (hbody.append trivial)), List.subset_append_right _ _⟩
  | @arm known known₁ vs pattern value hpattern _ ih =>
    obtain ⟨rfl, hfree⟩ := hpattern.binds_eq
    simp only [List.append_assoc, List.cons_append, List.nil_append]
    exact ⟨(hfree known).append (ih.1.append trivial), List.subset_append_right _ _⟩
  | closure _ ih =>
    simp only [List.cons_append, List.nil_append]
    exact ⟨ih.1.append trivial, List.subset_append_right _ _⟩

end Soundness

/-! ## What words call -/

/-- Where words stand between a variable and the name of a method that is called on it. -/
inductive Reading where
  | away
  | object (v : Variable)
  | dot (v : Variable)
  deriving DecidableEq, Repr

/-- Reads a word; a name that follows a variable and a dot is called on it. -/
def Reading.step : Reading → Word → Reading × List (Variable × String)
  | _, .use v => (.object v, [])
  | .object v, .text t => (if t = "." then .dot v else .away, [])
  | .dot v, .text t => (.away, [(v, t)])
  | .away, .text _ => (.away, [])
  | _, .bind _ => (.away, [])

/-- Reads words, with all calls on variables. -/
def Reading.run : Reading → List Word → Reading × List (Variable × String)
  | r, [] => (r, [])
  | r, w :: rest =>
    let (r, called) := r.step w
    let (r, others) := r.run rest
    (r, called ++ others)

/-- The methods that are called on variables, in order. -/
def callsIn (words : List Word) : List (Variable × String) := (Reading.run .away words).2

theorem Reading.run_append : ∀ (l r : List Word) (reading : Reading), reading.run (l ++ r) =
    ((Reading.run (reading.run l).1 r).1, (reading.run l).2 ++ (Reading.run (reading.run l).1 r).2)
  | [], r, reading => by simp [Reading.run]
  | w :: l, r, reading => by
    rw [List.cons_append, Reading.run, Reading.run]
    simp only [Reading.run_append l r, List.append_assoc]

/-- Words that have these calls, and leave no variable pending. -/
def Calls (words : List Word) (called : List (Variable × String)) : Prop := Reading.run .away words = (.away, called)

namespace Calls

variable {l r : List Word} {called called' : List (Variable × String)}

theorem eq (h : Calls l called) : callsIn l = called := by rw [callsIn, h]

theorem append (hl : Calls l called) (hr : Calls r called') : Calls (l ++ r) (called ++ called') := by
  unfold Calls at hl hr ⊢
  rw [Reading.run_append, hl, hr]

theorem quote (pieces : Pieces) : Calls (quote pieces) [] := by
  unfold Calls
  induction pieces with
  | nil => rfl
  | cons t pieces ih =>
    rw [Switchyard.quote, List.map_cons, Reading.run]
    simp only [Reading.step]
    rw [← Switchyard.quote, ih]
    rfl

theorem plain {words : List Word} (h : words.all Word.isPlain = true) : Calls words [] := by
  induction words with
  | nil => rfl
  | cons w words ih =>
    obtain ⟨hw, hwords⟩ := List.forall_mem_cons.1 (List.all_eq_true.1 h)
    cases w with
    | text t => exact Calls.append (l := [.text t]) rfl (ih (List.all_eq_true.2 hwords))
    | bind v => cases hw
    | use v => cases hw

end Calls

theorem Introduces.calls {quoted : Pieces → Prop} {pattern : List Word} {vs : List Variable}
    (h : Introduces quoted pattern vs) : Calls pattern [] := by
  induction h with
  | append _ _ ihl ihr => exact ihl.append ihr
  | plain h => exact .plain h
  | quoted => exact .quote _
  | bind => rfl

end Switchyard

import Switchyard.Proofs.Route.OpenApi
import Switchyard.Proofs.Text.Split

/-!
# Names of operations

The operations of one action are told apart by their numbers, and a number is read off the end of a name. So two
operations share a name only if the names of two actions are alike, or if the plain name of one action reads like a
numbered name of another.

Main result: `nodup_operationIds_iff`.
-/

namespace Switchyard.OpenApi

/-- The names of the operations of a document. -/
def operationIds (document : Json) : List String :=
  (operations document).filterMap fun o => (o.operation.member? "operationId").bind Json.string?

/-- The name of the first operation of a route's action. -/
def actionName (r : RouteInfo) : String := s!"{r.controller}_{r.action}"

/-- The names of two published routes are alike. -/
inductive Confused (a b : Publication) : Prop
  /-- The actions have one name, and the routes the same number. -/
  | alike : actionName a.route = actionName b.route → a.earlier = b.earlier → Confused a b
  /-- The plain name of one action reads like a numbered name of the other. -/
  | numbered : a.earlier = 0 → 0 < b.earlier → actionName a.route = s!"{actionName b.route}_{b.earlier + 1}" →
    Confused a b

/-! ## Numbered names -/

theorem no_underscore {n : Nat} : ∀ c ∈ (toString n).toList.reverse, (c == '_') = false := by
  intro c hc
  rw [List.mem_reverse, Nat.toString_eq_ofList_toDigits, String.toList_ofList] at hc
  have hdigit := Nat.isDigit_of_mem_toDigits (by decide) (by decide) hc
  by_contra hmark
  obtain rfl : c = '_' := by simpa using hmark
  exact absurd hdigit (by decide)

theorem toString_injective {n m : Nat} (h : toString n = toString m) : n = m := by
  rw [Nat.toString_eq_ofList_toDigits, Nat.toString_eq_ofList_toDigits] at h
  have hdigits : Nat.toDigits 10 n = Nat.toDigits 10 m := by simpa using congrArg String.toList h
  have hvalue := congrArg (Nat.ofDigitChars 10 · 0) hdigits
  simpa [Nat.ofDigitChars_toDigits] using hvalue

/-- A name and its number are read off a numbered name. -/
theorem numbered_inj {name other : String} {n m : Nat} (h : s!"{name}_{n}" = s!"{other}_{m}") :
    name = other ∧ n = m := by
  have hchars : ∀ (s : String) (k : Nat),
      s!"{s}_{k}".toList.reverse = (toString k).toList.reverse ++ '_' :: s.toList.reverse := by
    intro s k
    simp [toString]
  -- read backwards, a name is cut at its first underscore
  have hcut := congrArg (fun s : String => splitFirst? (· == '_') s.toList.reverse) h
  simp only [hchars] at hcut
  rw [splitFirst?_append no_underscore rfl, splitFirst?_append no_underscore rfl] at hcut
  simp only [Option.some.injEq, Prod.mk.injEq, List.reverse_inj, String.toList_inj] at hcut
  exact ⟨hcut.2, toString_injective hcut.1⟩

/-- Published routes have one name iff their names are alike. -/
theorem id_eq_iff {a b : Publication} : a.id = b.id ↔ Confused a b ∨ Confused b a := by
  have hid : ∀ e : Publication,
      e.id = if e.earlier = 0 then actionName e.route else s!"{actionName e.route}_{e.earlier + 1}" := fun _ => rfl
  rw [hid, hid]
  constructor
  · intro h
    by_cases ha : a.earlier = 0 <;> by_cases hb : b.earlier = 0
    · rw [if_pos ha, if_pos hb] at h
      exact .inl (.alike h (ha.trans hb.symm))
    · rw [if_pos ha, if_neg hb] at h
      exact .inl (.numbered ha (Nat.pos_of_ne_zero hb) h)
    · rw [if_neg ha, if_pos hb] at h
      exact .inr (.numbered hb (Nat.pos_of_ne_zero ha) h.symm)
    · rw [if_neg ha, if_neg hb] at h
      obtain ⟨hname, hnumber⟩ := numbered_inj h
      exact .inl (.alike hname (by omega))
  · have hsame : ∀ {a b : Publication}, Confused a b →
        (if a.earlier = 0 then actionName a.route else s!"{actionName a.route}_{a.earlier + 1}") =
          if b.earlier = 0 then actionName b.route else s!"{actionName b.route}_{b.earlier + 1}" := by
      rintro a b (⟨hname, hnumber⟩ | ⟨ha, hb, hname⟩)
      · rw [hname, hnumber]
      · rw [if_pos ha, if_neg (by omega), hname]
    rintro (h | h)
    · exact hsame h
    · exact (hsame h).symm

/-! ## Names in a document -/

theorem perm_operationIds (config : Config) (routes : List RouteInfo) :
    (operationIds (document config routes)).Perm ((published routes).map Publication.id) := by
  have hid : ∀ e : Publication, (e.placed.operation.member? "operationId").bind Json.string? = some e.id := by
    intro e
    rw [(describes_placed e).id, ← operationId_eq]
    rfl
  have hids : (fun o : Placed => (o.operation.member? "operationId").bind Json.string?) ∘ Publication.placed =
      some ∘ Publication.id := funext hid
  have hperm := (operations_document config routes).filterMap
    fun o => (o.operation.member? "operationId").bind Json.string?
  rw [List.filterMap_map, hids, List.filterMap_eq_map] at hperm
  exact hperm

/-- A published route comes after as many routes of its action as it counts. -/
theorem le_earlier {e : Publication} {routes earlier : List RouteInfo} (h : e ∈ publishedFrom earlier routes) :
    sameAction earlier e.route ≤ e.earlier := by
  obtain ⟨before, after, -, hcount, -⟩ := mem_publishedFrom.1 h
  omega

theorem sameAction_congr {r s : RouteInfo} {routes : List RouteInfo} (h : r.SameAction s) :
    sameAction routes r = sameAction routes s := by
  unfold sameAction
  rw [h.1, h.2]

theorem sameAction_cons {r s : RouteInfo} {routes : List RouteInfo} (h : r.SameAction s) :
    sameAction (r :: routes) s = sameAction routes s + 1 := by
  simp [sameAction, h.1, h.2]

theorem earlier_ne {r : RouteInfo} {e : Publication} {routes earlier : List RouteInfo}
    (he : e ∈ publishedFrom (r :: earlier) routes) (h : r.SameAction e.route) : sameAction earlier r ≠ e.earlier := by
  have hle := le_earlier he
  rw [sameAction_cons h, ← sameAction_congr h] at hle
  omega

/-- The published routes of one action are told apart by their numbers. -/
theorem eq_of_sameAction {a b : Publication} (hsame : a.route.SameAction b.route) (hnumber : a.earlier = b.earlier) :
    ∀ {routes earlier : List RouteInfo}, a ∈ publishedFrom earlier routes → b ∈ publishedFrom earlier routes → a = b
  | [], _, ha, _ => by cases ha
  | r :: rest, earlier, ha, hb => by
    rw [publishedFrom] at ha hb
    split at ha
    · rename_i hlater
      rw [if_pos hlater] at hb
      exact eq_of_sameAction hsame hnumber ha hb
    · rename_i hlast
      rw [if_neg hlast] at hb
      rcases List.mem_cons.1 ha with rfl | ha <;> rcases List.mem_cons.1 hb with rfl | hb
      · rfl
      · exact absurd hnumber (earlier_ne hb hsame)
      · exact absurd hnumber.symm (earlier_ne ha ⟨hsame.1.symm, hsame.2.symm⟩)
      · exact eq_of_sameAction hsame hnumber ha hb

/-- Names of one action are alike only where the numbers are. -/
theorem Confused.earlier_eq {a b : Publication} (h : Confused a b) (hsame : a.route.SameAction b.route) :
    a.earlier = b.earlier := by
  rcases h with ⟨-, hnumber⟩ | ⟨-, -, hname⟩
  · exact hnumber
  · have hactions : actionName a.route = actionName b.route := by rw [actionName, actionName, hsame.1, hsame.2]
    have hlength := congrArg String.length (hactions.symm.trans hname)
    have hmark : "_".length = 1 := by decide
    simp only [toString, String.length_append, hmark] at hlength
    omega

/-- **The names of the operations are distinct iff no two published routes of different actions have names that are
alike.** -/
theorem nodup_operationIds_iff (config : Config) (routes : List RouteInfo) :
    (operationIds (document config routes)).Nodup ↔
      ∀ a ∈ published routes, ∀ b ∈ published routes, Confused a b → a.route.SameAction b.route := by
  rw [(perm_operationIds config routes).nodup_iff]
  constructor
  · intro h a ha b hb hconfused
    obtain rfl := List.inj_on_of_nodup_map h ha hb (id_eq_iff.2 (.inl hconfused))
    exact ⟨rfl, rfl⟩
  · intro h
    refine List.Nodup.map_on (fun a ha b hb hid => ?_) (.of_map _ nodup_publishedFrom)
    rcases id_eq_iff.1 hid with hconfused | hconfused
    · have hsame := h a ha b hb hconfused
      exact eq_of_sameAction hsame (hconfused.earlier_eq hsame) ha hb
    · have hsame := h b hb a ha hconfused
      exact (eq_of_sameAction hsame (hconfused.earlier_eq hsame) hb ha).symm

/-- A table in which an action has the name that the second route of another action gets. -/
def alikeTable : List RouteInfo :=
  savingTable ++ [⟨"GET", "/users/\x7bid\x7d/copies", "Users", "save_2", none, none, [], false⟩]

/-- Distinct methods and paths do not make the names of operations distinct. -/
theorem operationIds_alike : (alikeTable.map fun r => (r.method, r.path)).Nodup ∧
    ¬ (operationIds (document ⟨"Users", "1.0.0", none⟩ alikeTable)).Nodup := by
  refine ⟨by decide +kernel, fun h => ?_⟩
  rw [(perm_operationIds _ _).nodup_iff] at h
  revert h
  decide +kernel

end Switchyard.OpenApi

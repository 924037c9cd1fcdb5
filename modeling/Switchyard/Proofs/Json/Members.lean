import Switchyard.Json.Basic
import Switchyard.Proofs.Lookup

/-!
# Members of objects

Setting a member leaves the others alone, and sorted members stay sorted. So of the members that an object is
made of the last of each name counts, and what is found in an object is what stands in it.

Main results: `lookup?_insertMember`, `lookup?_eq_some_iff` and `member?_ofMembers`.
-/

namespace Switchyard.Json

variable {name key : String} {value : Json}

/-- The members of an object; any other value has none. -/
def members : Json → List (String × Json)
  | .object ms => ms
  | _ => []

@[simp]
theorem get_object (ms : List (String × Json)) : (object ms).get name = (lookup? name ms).getD .null := rfl

theorem member?_eq_lookup? (v : Json) : v.member? name = lookup? name v.members := by
  cases v <;> rfl

/-! ## Setting one member -/

theorem lookup?_insertMember : ∀ members : List (String × Json),
    lookup? key (insertMember name value members) = if name = key then some value else lookup? key members
  | [] => by simp [insertMember, lookup?]
  | (n, v) :: rest => by
    unfold insertMember
    split
    · simp [lookup?]
    · split
      · rename_i hname
        subst hname
        by_cases hkey : name = key <;> simp [lookup?, hkey]
      · rename_i hne
        simp only [lookup?, lookup?_insertMember rest]
        by_cases hkey : n = key
        · simp [hkey, show name ≠ key from fun h => hne (h.trans hkey.symm)]
        · simp [hkey]

/-- Members in ascending order of their names, each name once. -/
def Sorted (members : List (String × Json)) : Prop := members.Pairwise fun a b => a.1 < b.1

theorem sorted_iff {members : List (String × Json)} : Sorted members ↔ (members.map Prod.fst).Pairwise (· < ·) :=
  List.pairwise_map.symm

theorem mem_insertMember {m : String × Json} : ∀ {members : List (String × Json)},
    m ∈ insertMember name value members → m = (name, value) ∨ m ∈ members
  | [], h => by simpa [insertMember] using h
  | first :: rest, h => by
    unfold insertMember at h
    split at h
    · simpa using h
    · split at h
      · rcases List.mem_cons.1 h with h | h
        · exact .inl h
        · exact .inr (List.mem_cons_of_mem _ h)
      · rcases List.mem_cons.1 h with rfl | h
        · exact .inr List.mem_cons_self
        · rcases mem_insertMember h with h | h
          · exact .inl h
          · exact .inr (List.mem_cons_of_mem _ h)

/-- A member is set in its place. -/
theorem sorted_insertMember : ∀ {members : List (String × Json)}, Sorted members →
    Sorted (insertMember name value members)
  | [], _ => List.pairwise_singleton _ _
  | (n, v) :: rest, h => by
    obtain ⟨hfirst, hrest⟩ := List.pairwise_cons.1 h
    unfold insertMember
    split
    · rename_i hlt
      refine List.pairwise_cons.2 ⟨fun m hm => ?_, h⟩
      rcases List.mem_cons.1 hm with rfl | hm
      · exact hlt
      · exact String.lt_trans hlt (hfirst m hm)
    · split
      · rename_i hname
        subst hname
        exact List.pairwise_cons.2 ⟨hfirst, hrest⟩
      · rename_i hnot hne
        refine List.pairwise_cons.2 ⟨fun m hm => ?_, sorted_insertMember hrest⟩
        rcases mem_insertMember hm with rfl | hm
        · have hgt : n < name := by grind
          exact hgt
        · exact hfirst m hm

theorem Sorted.nodup {members : List (String × Json)} (h : Sorted members) : (members.map Prod.fst).Nodup := by
  refine List.pairwise_map.2 (h.imp fun hlt heq => ?_)
  rw [heq] at hlt
  exact String.lt_irrefl _ hlt

theorem lookup?_eq_some_iff : ∀ {members : List (String × Json)}, Sorted members →
    (lookup? name members = some value ↔ (name, value) ∈ members)
  | [], _ => by simp [lookup?]
  | (n, v) :: rest, h => by
    obtain ⟨hfirst, hrest⟩ := List.pairwise_cons.1 h
    by_cases hname : n = name
    · subst hname
      have hnot : (n, value) ∉ rest := fun hm => String.lt_irrefl n (hfirst (n, value) hm)
      simp [lookup?, hnot, eq_comm]
    · simp [lookup?, hname, Ne.symm hname, lookup?_eq_some_iff hrest]

/-! ## Objects made of members -/

theorem lookup?_foldl : ∀ (members set : List (String × Json)),
    lookup? key (members.foldl (fun ms m => insertMember m.1 m.2 ms) set) =
      (members.reverse.lookup key).or (lookup? key set)
  | [], _ => rfl
  | (name, value) :: rest, set => by
    rw [List.foldl_cons, lookup?_foldl, lookup?_insertMember, List.reverse_cons, List.lookup_append, Option.or_assoc]
    by_cases hkey : name = key
    · simp [hkey]
    · simp [hkey, lookup_cons, Ne.symm hkey]

/-- A member is set behind members whose names come before its own. -/
theorem insertMember_of_lt : ∀ {members : List (String × Json)}, (∀ m ∈ members, m.1 < name) →
    insertMember name value members = members ++ [(name, value)]
  | [], _ => rfl
  | (n, v) :: rest, h => by
    have hlt : n < name := h (n, v) List.mem_cons_self
    have hnot : ¬ name < n := fun hgt => String.lt_irrefl _ (String.lt_trans hlt hgt)
    have hne : name ≠ n := fun heq => String.lt_irrefl _ (heq ▸ hlt)
    rw [insertMember, if_neg hnot, if_neg hne, insertMember_of_lt fun m hm => h m (List.mem_cons_of_mem _ hm),
      List.cons_append]

theorem foldl_insertMember : ∀ {members set : List (String × Json)}, Sorted (set ++ members) →
    members.foldl (fun ms m => insertMember m.1 m.2 ms) set = set ++ members
  | [], set, _ => (List.append_nil set).symm
  | (name, value) :: rest, set, h => by
    have hlt : ∀ m ∈ set, m.1 < name := fun m hm =>
      (List.pairwise_append.1 h).2.2 m hm (name, value) List.mem_cons_self
    rw [List.append_cons] at h ⊢
    rw [List.foldl_cons, insertMember_of_lt hlt, foldl_insertMember h]

theorem ofMembers_of_sorted {members : List (String × Json)} (h : Sorted members) : ofMembers members = .object members :=
  congrArg Json.object (foldl_insertMember h)

theorem perm_insertMember : ∀ {members : List (String × Json)}, name ∉ members.map Prod.fst →
    (insertMember name value members).Perm ((name, value) :: members)
  | [], _ => .refl _
  | (n, v) :: rest, h => by
    rw [List.map_cons, List.mem_cons, not_or] at h
    rw [insertMember, if_neg h.1]
    split
    · exact .refl _
    · exact ((perm_insertMember h.2).cons (n, v)).trans (.swap (name, value) (n, v) rest)

theorem perm_foldl_insertMember : ∀ {members set : List (String × Json)}, ((set ++ members).map Prod.fst).Nodup →
    (members.foldl (fun ms m => insertMember m.1 m.2 ms) set).Perm (set ++ members)
  | [], set, _ => by rw [List.append_nil, List.foldl_nil]
  | (name, value) :: rest, set, h => by
    have hmoved : (set ++ (name, value) :: rest).Perm ((name, value) :: set ++ rest) := List.perm_middle
    have hfresh : name ∉ set.map Prod.fst := by
      have hnodup := (hmoved.map Prod.fst).nodup h
      rw [List.cons_append, List.map_cons, List.nodup_cons, List.map_append, List.mem_append, not_or] at hnodup
      exact hnodup.1.1
    have hset : (insertMember name value set ++ rest).Perm ((name, value) :: set ++ rest) :=
      (perm_insertMember hfresh).append_right rest
    have hnodup := ((hmoved.trans hset.symm).map Prod.fst).nodup h
    exact (perm_foldl_insertMember hnodup).trans (hset.trans hmoved.symm)

theorem sorted_foldl_insertMember : ∀ {members set : List (String × Json)}, Sorted set →
    Sorted (members.foldl (fun ms m => insertMember m.1 m.2 ms) set)
  | [], _, h => h
  | _ :: rest, _, h => by
    rw [List.foldl_cons]
    exact sorted_foldl_insertMember (sorted_insertMember h)

/-- An object is made of members with distinct names by sorting them. -/
theorem exists_ofMembers {members : List (String × Json)} (h : (members.map Prod.fst).Nodup) :
    ∃ all, ofMembers members = .object all ∧ Sorted all ∧ all.Perm members :=
  ⟨_, rfl, sorted_foldl_insertMember .nil, perm_foldl_insertMember h⟩

/-- Of the members that an object is made of, the last of a name counts. -/
theorem member?_ofMembers (members : List (String × Json)) :
    (ofMembers members).member? key = members.reverse.lookup key := by
  simp [ofMembers, member?, lookup?_foldl, lookup?]

end Switchyard.Json

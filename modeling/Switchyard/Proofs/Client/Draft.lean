import Switchyard.Client.Draft
import Switchyard.Proofs.Http.Form
import Switchyard.Proofs.Http.Uri

/-!
# Queries of drafts

The pairs that a client offers to the query are appended to its path as a form. Whether the path has a query of its
own or not, whatever it ends with and whatever the pairs are made of, the request that is decoded from the target
has the pairs of the path's own query and then those that were offered.

Main result: `queries_delivered`.
-/

namespace Switchyard

/-- The pairs of a query. -/
def queryPairs (query : Option (List Char)) : List (String × String) :=
  (query.map fun cs => Form.decode (Utf8.encodeChars cs)).getD []

theorem decode_query {head : RequestHead} {query : Option (List Char)} (h : head.uri.query = query.map .ofList)
    (body : Bytes) : (Request.decode head body).query = queryPairs query := by
  rw [Request.decode, h, queryPairs]
  cases query with
  | none => rfl
  | some cs => simp [Utf8.encode]

theorem Request.valuesOf_append (left right : List (String × String)) (name : String) :
    Request.valuesOf (left ++ right) name = Request.valuesOf left name ++ Request.valuesOf right name := by
  simp [Request.valuesOf]

namespace Draft

/-- A draft with more pairs offered to its query. -/
def queries (d : Draft) (pairs : List (String × String)) : Draft :=
  { d with values := d.values ++ pairs.map fun p => (.query, p.1, p.2) }

/-- The pairs of the query that stands in the path of a draft. -/
def ownPairs (d : Draft) : List (String × String) := queryPairs (Uri.queryOf? d.path.toList)

theorem foldlM_offers : ∀ {calls : List (Source × String × String)}, (∀ call ∈ calls, accepts call.1) →
    ∀ d : Draft, calls.foldlM (fun d call => d.offer? call.1 call.2.1 call.2.2) d =
      some { d with values := d.values ++ calls }
  | [], _, d => by simp
  | call :: calls, h, d => by
    have hoffer : d.offer? call.1 call.2.1 call.2.2 = some { d with values := d.values ++ [call] } :=
      if_pos (h call List.mem_cons_self)
    have hrest := foldlM_offers (fun c hc => h c (List.mem_cons_of_mem call hc))
      { d with values := d.values ++ [call] }
    rw [List.foldlM_cons, hoffer, Option.bind_eq_bind, Option.bind_some, hrest, List.append_assoc,
      List.singleton_append]

theorem foldlM_offer? (pairs : List (String × String)) (d : Draft) :
    pairs.foldlM (fun d p => d.offer? .query p.1 p.2) d = some (d.queries pairs) := by
  have haccepted : ∀ call ∈ pairs.map fun p => (Source.query, p.1, p.2), accepts call.1 :=
    List.forall_mem_map.2 fun _ _ => rfl
  have hoffers := foldlM_offers haccepted d
  rwa [List.foldlM_map] at hoffers

theorem valuesOf_queries (d : Draft) (pairs : List (String × String)) :
    (d.queries pairs).valuesOf .query = d.valuesOf .query ++ pairs := by
  have hoffered : (fun v : Source × String × String => if v.1 = .query then some v.2 else none) ∘
      (fun p => (.query, p.1, p.2)) = some := rfl
  rw [valuesOf, valuesOf, queries, List.filterMap_append, List.filterMap_map, hoffered, List.filterMap_some]

/-- The target of a draft has the query of its path and then what was offered. -/
theorem queryPairs_target (d : Draft) :
    queryPairs (Uri.queryOf? d.target.toList) = d.ownPairs ++ d.valuesOf .query := by
  have hread : Form.decode (Utf8.encode (Form.encode (d.valuesOf .query))) = d.valuesOf .query := Form.decode_encode _
  rw [target]
  generalize Form.encode (d.valuesOf .query) = form at hread
  simp only [ownPairs]
  split
  · -- only the empty list of pairs has an empty form
    rename_i hempty
    rw [String.isEmpty_iff] at hempty
    rw [← hread, hempty]
    simp [Utf8.encode, Utf8.encodeChars, Form.decode, splitAll]
  · obtain hnone | ⟨before, after, hbefore, hpath⟩ := Uri.exists_mark d.path.toList
    · have hunasked : d.path.toList.contains '?' = false := by
        rw [List.contains_eq_any_beq, List.any_eq_false]
        intro c hc heq
        obtain rfl := beq_iff_eq.1 heq
        exact absurd (hnone _ hc) (by decide)
      rw [hunasked, if_neg (by simp)]
      have htarget : s!"{d.path}?{form}".toList = d.path.toList ++ '?' :: form.toList := by simp [toString]
      rw [htarget, Uri.queryOf?_mark hnone, Uri.queryOf?_of_unasked hnone]
      exact hread
    · have hasked : d.path.toList.contains '?' = true := by simp [hpath]
      rw [hasked, if_pos rfl]
      have htarget : s!"{d.path}&{form}".toList = before ++ '?' :: (after ++ '&' :: form.toList) := by
        simp [toString, hpath]
      have hbytes : Utf8.encodeChars (after ++ '&' :: form.toList) =
          Utf8.encodeChars after ++ 0x26 :: Utf8.encode form := by
        rw [Utf8.encodeChars_append]
        rfl
      rw [htarget, hpath, Uri.queryOf?_mark hbefore, Uri.queryOf?_mark hbefore]
      simp only [queryPairs, Option.map_some, Option.getD_some]
      rw [hbytes, Form.decode_append, hread]

/-- A target has a fragment only if the path has one. -/
theorem no_hash_target {d : Draft} (h : '#' ∉ d.path.toList) : '#' ∉ d.target.toList := by
  have hform := Form.no_hash (d.valuesOf .query)
  rw [target]
  split
  · exact h
  · split <;> simp [toString, h, hform]

/-- **The pairs that are offered to the query are delivered.** They can always be offered, and a request that is
decoded from the target has the pairs of the path's own query, those that were offered before, and then these. -/
theorem queries_delivered (d : Draft) (pairs : List (String × String)) (hhash : '#' ∉ d.path.toList) :
    pairs.foldlM (fun d p => d.offer? .query p.1 p.2) d = some (d.queries pairs) ∧
    ∀ head body, Uri.parse? (d.queries pairs).target = some head.uri →
      (Request.decode head body).query = d.ownPairs ++ d.valuesOf .query ++ pairs ∧
      ∀ key, (Request.decode head body).queryValues key =
        Request.valuesOf (d.ownPairs ++ d.valuesOf .query) key ++ Request.valuesOf pairs key := by
  refine ⟨foldlM_offer? pairs d, fun head body huri => ?_⟩
  have hhash' : '#' ∉ (d.queries pairs).path.toList := hhash
  have hown : (d.queries pairs).ownPairs = d.ownPairs := rfl
  have hquery : (Request.decode head body).query = d.ownPairs ++ d.valuesOf .query ++ pairs := by
    rw [decode_query (Uri.query_of_parse? (no_hash_target hhash') huri), queryPairs_target, valuesOf_queries, hown,
      List.append_assoc]
  refine ⟨hquery, fun key => ?_⟩
  rw [Request.queryValues, hquery, Request.valuesOf_append]

/-- A draft whose path ends inside its query. -/
def openEnded : Draft := ⟨"GET", "/find?q=1&", [], .none⟩

/-- An empty pair, and texts made of what separates pairs. -/
def reservedPairs : List (String × String) := [("", ""), ("a&b", "=+% é")]

/-- The target of the draft is "/find?q=1&&=&a%26b=%3D%2B%25+%C3%A9". -/
theorem queries_delivered_reserved : '#' ∉ openEnded.path.toList ∧
    ∃ uri, Uri.parse? (openEnded.queries reservedPairs).target = some uri ∧
      (Request.decode ⟨"GET", uri, Headers.empty, []⟩ []).query = [("q", "1"), ("", ""), ("a&b", "=+% é")] := by
  have hhash : '#' ∉ openEnded.path.toList := by decide +kernel
  have huri : Uri.parse? (openEnded.queries reservedPairs).target =
      some ⟨none, none, "/find", some "q=1&&=&a%26b=%3D%2B%25+%C3%A9"⟩ := by decide +kernel
  have hown : openEnded.ownPairs ++ openEnded.valuesOf .query = [("q", "1")] := by decide +kernel
  obtain ⟨-, hdelivered⟩ := queries_delivered openEnded reservedPairs hhash
  obtain ⟨hquery, -⟩ := hdelivered ⟨"GET", _, Headers.empty, []⟩ [] huri
  rw [hown] at hquery
  exact ⟨hhash, _, huri, hquery⟩

end Draft

end Switchyard

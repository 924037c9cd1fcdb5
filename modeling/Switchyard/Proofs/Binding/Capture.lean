import Switchyard.Proofs.Binding.Precedence
import Switchyard.Proofs.Http.Form
import Switchyard.Proofs.Route.Matching

/-!
# Captures of the path against the rest of a request

Where a template captures a key, the path is asked before the query, the headers and the cookies. It answers
only if all captures of the request are texts: one capture that is none takes the others with it, and then the
rest of the request is asked as if the path had captured nothing.

Main result: `capture_decides_iff`.
-/

namespace Switchyard

/-! ## Decoding captures -/

/-- All captures of a path are texts. -/
def AllDecode (captures : List (String × List Char)) : Prop := ∀ c ∈ captures, (decodeCapture? c.2).isSome

theorem decodeCaptures_cons {c : String × List Char} {rest : List (String × List Char)} {text : String}
    (hc : decodeCapture? c.2 = some text) (hrest : AllDecode rest) :
    decodeCaptures (c :: rest) = (c.1, text) :: decodeCaptures rest := by
  have hsome : ∀ {list : List (String × List Char)}, AllDecode list →
      ∃ texts, list.mapM (fun c => (decodeCapture? c.2).map fun text => (c.1, text)) = some texts := by
    intro list hlist
    induction list with
    | nil => exact ⟨[], rfl⟩
    | cons d list ih =>
      obtain ⟨text, hd⟩ := Option.isSome_iff_exists.1 (hlist d List.mem_cons_self)
      obtain ⟨texts, htexts⟩ := ih fun e he => hlist e (List.mem_cons_of_mem _ he)
      exact ⟨(d.1, text) :: texts, by rw [List.mapM_cons, hd, htexts]; rfl⟩
  obtain ⟨texts, htexts⟩ := hsome hrest
  rw [decodeCaptures, decodeCaptures, List.mapM_cons, hc, htexts]
  rfl

/-- A capture that is no text takes all others with it. -/
theorem decodeCaptures_of_not {captures : List (String × List Char)} (h : ¬ AllDecode captures) :
    decodeCaptures captures = [] := by
  have hnone : captures.mapM (fun c => (decodeCapture? c.2).map fun text => (c.1, text)) = none := by
    induction captures with
    | nil => exact absurd (fun _ hc => nomatch hc) h
    | cons c rest ih =>
      rw [List.mapM_cons]
      cases hc : decodeCapture? c.2 with
      | none => rfl
      | some text =>
        have hrest : ¬ AllDecode rest := by
          intro hrest
          apply h
          intro d hd
          rcases List.mem_cons.1 hd with rfl | hd
          · rw [hc]; rfl
          · exact hrest d hd
        rw [ih hrest]
        rfl
  rw [decodeCaptures, hnone]
  rfl

theorem lookup_decodeCaptures {key : String} : ∀ {captures : List (String × List Char)}, AllDecode captures →
    key ∈ captures.map Prod.fst →
    ∃ value text, captures.lookup key = some value ∧ decodeCapture? value = some text ∧
      (decodeCaptures captures).lookup key = some text
  | [], _, hkey => by cases hkey
  | c :: rest, h, hkey => by
    obtain ⟨text, hc⟩ := Option.isSome_iff_exists.1 (h c List.mem_cons_self)
    have hrest : AllDecode rest := fun d hd => h d (List.mem_cons_of_mem _ hd)
    rw [decodeCaptures_cons hc hrest, List.lookup_cons, List.lookup_cons]
    by_cases hname : key = c.1
    · exact ⟨c.2, text, by simp [hname], hc, by simp [hname]⟩
    · have hbeq : (key == c.1) = false := beq_eq_false_iff_ne.2 hname
      rw [hbeq]
      rcases List.mem_cons.1 hkey with hkey | hkey
      · exact absurd hkey hname
      · exact lookup_decodeCaptures hrest hkey

/-! ## Binding a captured key -/

/-- The binder of a request. -/
def requestBinder (head : RequestHead) (body : Bytes) : Binder := (Request.decode head body).binder none

/-- The sources of a key that the path captures, in the order in which they are asked. -/
def capturedPlan : List Source := [.path, .query, .header, .cookie]

/-- A request has a path, and a router captured something of it. -/
structure Arrives (head : RequestHead) (path : List Char) (captures : List (String × List Char)) : Prop where
  path : head.uri.path.toList = path
  captures : head.captures = captures

section Captured

variable {head : RequestHead} {body : Bytes} {captures : List (String × List Char)} {key : String}

theorem binder_path (body : Bytes) {text : String} (hlookup : (decodeCaptures captures).lookup key = some text)
    (hhead : head.captures = captures) : requestBinder head body .path key = some [some text] := by
  simp only [requestBinder, Request.binder, Request.pathParam?, Request.decode, hhead, hlookup, Option.map_some]

/-- If some capture is no text, the path carries nothing. -/
theorem binder_path_of_not (h : ¬ AllDecode captures) (hhead : head.captures = captures) :
    requestBinder head body .path key = none := by
  simp only [requestBinder, Request.binder, Request.pathParam?, Request.decode, hhead, decodeCaptures_of_not h,
    List.lookup_nil, Option.map_none]

/-- A source that carries nothing may as well not be asked. -/
theorem Binder.bindsAlike_skip {b : Binder} {s : Source} {rest : List Source} (h : b s key = none) :
    BindsAlike b b (s :: rest) rest key := by
  apply BindsAlike.of_winner?
  simp [winner?, h]

/-- A path with a query that carries the key. -/
def withQuery (path : List Char) (captures : List (String × List Char)) (query : Option String) : RequestHead :=
  ⟨"GET", ⟨none, none, .ofList path, query⟩, ⟨[]⟩, captures⟩

/-- If some capture is no text, the query is believed. -/
theorem required_withQuery (key value : String) (h : ¬ AllDecode captures) (path : List Char) :
    (requestBinder (withQuery path captures (some (Form.encode [(key, value)]))) []).required
        (fun s => .ok s) capturedPlan key = .ok value ∧
      (requestBinder (withQuery path captures none) []).required (fun s => .ok s) capturedPlan key =
        .error (.missing key) := by
  have hpath : ∀ query, requestBinder (withQuery path captures query) [] .path key = none := fun _ =>
    binder_path_of_not h rfl
  have hquery : requestBinder (withQuery path captures (some (Form.encode [(key, value)]))) [] .query key =
      some [some value] := by
    simp [requestBinder, Request.binder, Request.queryValues, Request.valuesOf, Request.decode, withQuery,
      Form.decode_encode, Request.occurrences]
  have hnone : ∀ s ∈ capturedPlan, requestBinder (withQuery path captures none) [] s key = none := by
    have hheader : requestBinder (withQuery path captures none) [] .header key = none := by
      simp only [requestBinder, Request.binder, Request.headerValues, Request.decode, withQuery]
      cases headerName? key <;> rfl
    intro s hs
    simp only [capturedPlan, List.mem_cons, List.not_mem_nil, or_false] at hs
    rcases hs with rfl | rfl | rfl | rfl
    · exact hpath none
    · rfl
    · exact hheader
    · rfl
  constructor
  · have hwinner : (requestBinder (withQuery path captures (some (Form.encode [(key, value)]))) []).winner?
        capturedPlan key = some (.query, [some value]) :=
      Binder.winner?_eq_some_iff.2 ⟨[.path], [.header, .cookie], rfl, hquery, by simpa using hpath _⟩
    rw [Binder.required, hwinner]
    rfl
  · rw [Binder.required, Binder.winner?_eq_none_iff.2 hnone]

end Captured

/-- **A captured value decides iff all captures of the request are texts.** Then the path carries the text of
the capture and is all that counts; otherwise the query, the headers and the cookies are asked as if the path
had captured nothing. -/
theorem capture_decides_iff {r : Router} {found : RoutedPath} {path : List Char}
    {captures : List (String × List Char)} {key : String} (hfound : r.find? path = some (found, captures))
    (hkey : key ∈ found.template.names) :
    ((∀ head head' body body', Arrives head path captures → Arrives head' path captures →
        Binder.BindsAlike (requestBinder head body) (requestBinder head' body') capturedPlan capturedPlan key) ↔
      AllDecode captures) ∧
    (AllDecode captures → ∃ value text, captures.lookup key = some value ∧ decodeCapture? value = some text ∧
      ∀ head body, Arrives head path captures → requestBinder head body .path key = some [some text] ∧
        Binder.BindsAlike (requestBinder head body) (requestBinder head body) capturedPlan [.path] key) ∧
    (¬ AllDecode captures → ∀ head body, Arrives head path captures →
      Binder.BindsAlike (requestBinder head body) (requestBinder head body) capturedPlan
        [.query, .header, .cookie] key) := by
  obtain ⟨-, hmatch⟩ := match?_of_find? hfound
  rw [← Template.names_of_match? hmatch] at hkey
  refine ⟨⟨?only, ?alike⟩, ?texts, ?none⟩
  case only =>
    intro halike
    rcases Classical.em (AllDecode captures) with h | h
    · exact h
    · obtain ⟨hwith, hwithout⟩ := required_withQuery key "" h path
      have harrives : ∀ query, Arrives (withQuery path captures query) path captures := fun _ =>
        ⟨String.toList_ofList, rfl⟩
      have hsame := (halike _ _ [] [] (harrives (some (Form.encode [(key, "")]))) (harrives none)).required
        (fun s => Except.ok s)
      rw [hwith, hwithout] at hsame
      cases hsame
  case alike =>
    intro h head head' body body' harrives harrives'
    obtain ⟨-, text, -, -, hlookup⟩ := lookup_decodeCaptures h hkey
    have hpath := binder_path body hlookup harrives.captures
    have hpath' := binder_path body' hlookup harrives'.captures
    apply Binder.bindsAlike_of_agreeOn
    intro s hs
    -- the path carries the key, so that no other source is asked
    rw [capturedPlan, Binder.consulted, if_pos (by rw [hpath]; rfl)] at hs
    rw [List.mem_singleton.1 hs, hpath, hpath']
  case texts =>
    intro h
    obtain ⟨value, text, hvalue, htext, hlookup⟩ := lookup_decodeCaptures h hkey
    refine ⟨value, text, hvalue, htext, fun head body harrives => ?_⟩
    have hpath := binder_path body hlookup harrives.captures
    have hfirst : ∀ s ∈ ([] : List Source), requestBinder head body s key = none := by simp
    exact ⟨hpath, Binder.bindsAlike_first hfirst (by rw [hpath]; rfl)⟩
  case none =>
    intro h head body harrives
    exact Binder.bindsAlike_skip (binder_path_of_not h harrives.captures)

/-- A router with one path, which captures an id. -/
def itemsRouter : Router := [⟨"/items/\x7bid\x7d", (Template.parse? "/items/\x7bid\x7d").getD [], [], []⟩]

/-- An id that is a text decides. -/
theorem capture_decides_items : ∃ found,
    itemsRouter.find? "/items/42".toList = some (found, [("id", "42".toList)]) ∧
    ∀ head head' body body', Arrives head "/items/42".toList [("id", "42".toList)] →
      Arrives head' "/items/42".toList [("id", "42".toList)] →
      Binder.BindsAlike (requestBinder head body) (requestBinder head' body') capturedPlan capturedPlan "id" := by
  obtain ⟨found, hfound, hkey⟩ : ∃ found,
      itemsRouter.find? "/items/42".toList = some (found, [("id", "42".toList)]) ∧
      "id" ∈ found.template.names := ⟨_, rfl, by decide⟩
  have hall : AllDecode [("id", "42".toList)] := by
    intro c hc
    rw [List.mem_singleton.1 hc]
    decide +kernel
  exact ⟨found, hfound, (capture_decides_iff hfound hkey).1.2 hall⟩

/-- An id that is no text is outvoted by the query. -/
theorem capture_outvoted : ∃ found, itemsRouter.find? "/items/%FF".toList = some (found, [("id", "%FF".toList)]) ∧
    "id" ∈ found.template.names ∧
    ∃ head head', Arrives head "/items/%FF".toList [("id", "%FF".toList)] ∧
      Arrives head' "/items/%FF".toList [("id", "%FF".toList)] ∧ head.uri.query = some "id=7" ∧
      (requestBinder head []).required (fun s => .ok s) capturedPlan "id" = .ok "7" ∧
      (requestBinder head' []).required (fun s => .ok s) capturedPlan "id" = .error (.missing "id") ∧
      ¬ Binder.BindsAlike (requestBinder head []) (requestBinder head' []) capturedPlan capturedPlan "id" := by
  obtain ⟨found, hfound, hkey⟩ : ∃ found, itemsRouter.find? "/items/%FF".toList =
      some (found, [("id", "%FF".toList)]) ∧ "id" ∈ found.template.names := ⟨_, rfl, by decide⟩
  have hnot : ¬ AllDecode [("id", "%FF".toList)] := by
    intro h
    have hsome := h _ List.mem_cons_self
    revert hsome
    decide +kernel
  have hform : Form.encode [("id", "7")] = "id=7" := by decide +kernel
  obtain ⟨hwith, hwithout⟩ := required_withQuery "id" "7" hnot "/items/%FF".toList
  rw [hform] at hwith
  have harrives : ∀ query, Arrives (withQuery "/items/%FF".toList [("id", "%FF".toList)] query) "/items/%FF".toList
      [("id", "%FF".toList)] := fun _ => ⟨String.toList_ofList, rfl⟩
  refine ⟨found, hfound, hkey, _, _, harrives (some "id=7"), harrives none, rfl, hwith, hwithout, ?_⟩
  intro halike
  have hsame := halike.required (fun s => Except.ok s)
  rw [hwith, hwithout] at hsame
  cases hsame

end Switchyard

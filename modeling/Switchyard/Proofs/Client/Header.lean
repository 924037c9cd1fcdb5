import Switchyard.Proofs.Client.Draft
import Switchyard.Proofs.Http.Header

/-!
# Headers of drafts

Headers are offered one by one, and the line of the cookies and the type of a document are written after them. A
request that is decoded has the values that were offered under a name, in their order, unless the name is that of the
cookies: the line of the cookies takes the place of what was offered under it.

Main result: `headers_delivered`.
-/

namespace Switchyard

namespace Draft

/-- The values that are offered under the name of a header, in whatever letter case. -/
def offeredUnder (d : Draft) (name : String) : List String :=
  (d.valuesOf .header).filterMap fun offer => if headerName? offer.1 = headerName? name then some offer.2 else none

/-- The values that a request has under a name that was offered: the line of the cookies under their name, if there are
any, and else what was offered. -/
def delivered (d : Draft) (name : String) : List String :=
  if headerName? name = some "cookie" ∧ d.valuesOf .cookie ≠ [] then [d.cookieLine] else d.offeredUnder name

/-- What is offered can be written as headers: names are names, and texts are visible. -/
structure Writable (d : Draft) : Prop where
  headers : ∀ offer ∈ d.valuesOf .header, (headerName? offer.1).isSome ∧ VisibleText offer.2
  cookies : ∀ offer ∈ d.valuesOf .cookie, VisibleText offer.1 ∧ VisibleText offer.2

theorem headerValue?_of_visible {s : String} (h : VisibleText s) : headerValue? s = some (Utf8.encode s) :=
  if_pos (isHeaderValue_encode h)

theorem exists_headerName? {d : Draft} (hd : d.Writable) {name : String} (hused : d.offeredUnder name ≠ []) :
    ∃ key, headerName? name = some key := by
  obtain ⟨value, hvalue⟩ := List.exists_mem_of_ne_nil _ hused
  obtain ⟨offer, hoffer, hsame⟩ := List.mem_filterMap.1 hvalue
  split at hsame
  · rename_i hname
    rw [← hname]
    exact Option.isSome_iff_exists.1 (hd.headers offer hoffer).1
  · cases hsame

theorem delivered_ne_nil {d : Draft} {name : String} (hused : d.offeredUnder name ≠ []) : d.delivered name ≠ [] := by
  rw [delivered]
  split
  · exact List.cons_ne_nil _ _
  · exact hused

/-- What was offered is delivered unless the cookies take its place. -/
theorem sublist_delivered_iff {d : Draft} {name : String} (hused : d.offeredUnder name ≠ []) :
    (d.offeredUnder name).Sublist (d.delivered name) ↔
      (headerName? name = some "cookie" → d.valuesOf .cookie = [] ∨ d.offeredUnder name = [d.cookieLine]) := by
  rw [delivered]
  split
  · rename_i hlost
    simp [List.sublist_cons_iff, hlost, hused]
  · rename_i hkept
    exact iff_of_true (List.Sublist.refl _) fun hcookie => .inl (not_not.1 (not_and.1 hkept hcookie))

/-! ## Offered headers -/

theorem exists_foldlM_append : ∀ {offers : List (String × String)},
    (∀ offer ∈ offers, (headerName? offer.1).isSome ∧ VisibleText offer.2) → ∀ h : Headers,
      ∃ h', offers.foldlM (fun h (name, value) => do
          let name ← headerName? name
          let value ← headerValue? value
          return h.append name value) h = some h' ∧
        ∀ {name key : String}, headerName? name = some key →
          h'.values key = h.values key ++ (offers.filterMap fun offer =>
            if headerName? offer.1 = headerName? name then some offer.2 else none).map Utf8.encode
  | [], _, h => ⟨h, rfl, fun _ => by simp⟩
  | (offered, value) :: offers, hoffers, h => by
    obtain ⟨hname, hvalue⟩ := hoffers _ List.mem_cons_self
    obtain ⟨key', hkey'⟩ := Option.isSome_iff_exists.1 hname
    obtain ⟨h', hfold, hvalues⟩ := exists_foldlM_append (fun offer ho => hoffers offer (List.mem_cons_of_mem _ ho))
      (h.append key' (Utf8.encode value))
    refine ⟨h', ?_, fun {name key} hkey => ?_⟩
    · rw [List.foldlM_cons, ← hfold]
      simp only [hkey', headerValue?_of_visible hvalue]
      rfl
    · rw [hvalues hkey, Headers.values_append, List.append_assoc]
      simp only [hkey', hkey, List.filterMap_cons, Option.some.injEq]
      split <;> rfl

theorem exists_offeredHeaders? {d : Draft} (hd : d.Writable) :
    ∃ h, d.offeredHeaders? = some h ∧ ∀ {name key : String}, headerName? name = some key →
      h.values key = (d.offeredUnder name).map Utf8.encode := by
  obtain ⟨h, hfold, hvalues⟩ := exists_foldlM_append hd.headers Headers.empty
  exact ⟨h, hfold, fun hkey => (hvalues hkey).trans (by simp [Headers.values, Headers.empty, offeredUnder])⟩

/-! ## Cookies and the type of a document -/

/-- The line of visible cookies is visible. -/
theorem visibleText_cookieLine {d : Draft} (hd : d.Writable) : VisibleText d.cookieLine := by
  have hbetween : VisibleText "; " := by decide
  have hequals : VisibleText "=" := by decide
  refine hbetween.intercalate (List.forall_mem_map.2 fun offer hoffer => ?_)
  obtain ⟨hname, hvalue⟩ := hd.cookies offer hoffer
  have htext : s!"{offer.1}={offer.2}" = offer.1 ++ "=" ++ offer.2 := by simp [toString]
  rw [htext]
  exact (hname.append hequals).append hvalue

/-- The cookies make up a header of their own, whatever was offered under its name. -/
def withCookies (d : Draft) (h : Headers) : Headers :=
  if (d.valuesOf .cookie).isEmpty then h else h.insert "cookie" (Utf8.encode d.cookieLine)

/-- A document has a type, unless one was offered. -/
def withType (d : Draft) (h : Headers) : Headers :=
  match d.body with
  | .document _ => if h.contains contentType then h else h.insert contentType (Utf8.encode "application/json")
  | _ => h

theorem headers?_eq {d : Draft} (hd : d.Writable) :
    d.headers? = d.offeredHeaders?.map fun h => d.withType (d.withCookies h) := by
  have hline := headerValue?_of_visible (visibleText_cookieLine hd)
  rw [headers?]
  cases d.offeredHeaders? with
  | none => rfl
  | some h =>
    simp only [Option.bind_eq_bind, Option.bind_some, Option.map_some, hline, withCookies, withType]
    cases d.body <;> split <;> rfl

/-- A value that is there keeps the type of a document away. -/
theorem values_withType {d : Draft} {h : Headers} {key : String} (hkey : h.values key ≠ []) :
    (d.withType h).values key = h.values key := by
  rw [withType]
  split
  · split
    · rfl
    · rename_i hcontains
      rw [Headers.values_insert, if_neg]
      rintro rfl
      exact hcontains (h.contains_iff _ |>.2 hkey)
  · rfl

/-- What is written under a name that was offered is what is delivered. -/
theorem exists_headers? {d : Draft} (hd : d.Writable) :
    ∃ h, d.headers? = some h ∧ ∀ {name key : String}, headerName? name = some key → d.offeredUnder name ≠ [] →
      h.values key = (d.delivered name).map Utf8.encode := by
  obtain ⟨h, hoffered, hvalues⟩ := exists_offeredHeaders? hd
  refine ⟨_, by rw [headers?_eq hd, hoffered, Option.map_some], fun {name key} hkey hused => ?_⟩
  have hcookies : (d.withCookies h).values key = (d.delivered name).map Utf8.encode := by
    simp only [withCookies, delivered, hkey, Option.some.injEq]
    by_cases hnone : d.valuesOf .cookie = []
    · simp [hnone, hvalues hkey]
    · rw [if_neg (by simpa using hnone), Headers.values_insert, hvalues hkey]
      by_cases hcookie : "cookie" = key
      · rw [if_pos hcookie, if_pos ⟨hcookie.symm, hnone⟩]
        rfl
      · rw [if_neg hcookie, if_neg fun h => hcookie h.1.symm]
  rw [values_withType, hcookies]
  rw [hcookies]
  exact mt List.map_eq_nil_iff.1 (delivered_ne_nil hused)

/-! ## Reading what was written -/

theorem visibleText_of_mem_delivered {d : Draft} (hd : d.Writable) {name value : String}
    (h : value ∈ d.delivered name) : VisibleText value := by
  rw [delivered] at h
  split at h
  · obtain rfl := List.mem_singleton.1 h
    exact visibleText_cookieLine hd
  · obtain ⟨offer, hoffer, hvalue⟩ := List.mem_filterMap.1 h
    split at hvalue
    · cases hvalue
      exact (hd.headers offer hoffer).2
    · cases hvalue

/-- **The headers that are offered are delivered, but under the name of the cookies.** Visible values can always be
offered and written. A request that is decoded has, under every name that was offered in whatever letter case, the
values that were offered, in their order; but if there are cookies, it has their line alone under their name, and so
what was offered there is lost unless it is just that line. -/
theorem headers_delivered (d : Draft) (haccepted : ∀ v ∈ d.values, accepts v.1) (hd : d.Writable) :
    d.values.foldlM (fun d v => d.offer? v.1 v.2.1 v.2.2) { d with values := [] } = some d ∧
    ∃ headers, d.headers? = some headers ∧
      (∀ uri, Uri.parse? d.target = some uri →
        d.incoming? = some ⟨⟨d.method, uri, headers, []⟩, [d.content], false⟩) ∧
      ∀ head body name, head.headers = headers → d.offeredUnder name ≠ [] →
        (Request.decode head body).headerValues name = d.delivered name ∧
        ((d.offeredUnder name).Sublist ((Request.decode head body).headerValues name) ↔
          (headerName? name = some "cookie" → d.valuesOf .cookie = [] ∨ d.offeredUnder name = [d.cookieLine])) := by
  obtain ⟨headers, hheaders, hvalues⟩ := exists_headers? hd
  refine ⟨foldlM_offers haccepted { d with values := [] }, headers, hheaders, fun uri huri => ?_, ?_⟩
  · simp [incoming?, huri, hheaders]
  · rintro head body name rfl hused
    obtain ⟨key, hkey⟩ := exists_headerName? hd hused
    have hread : (Request.decode head body).headerValues name = d.delivered name := by
      have hdecode : (Request.decode head body).headers = head.headers := rfl
      simp only [Request.headerValues, hkey, hdecode, hvalues hkey hused]
      exact filterMap_headerText?_encode fun t ht => visibleText_of_mem_delivered hd ht
    exact ⟨hread, hread ▸ sublist_delivered_iff hused⟩

/-- A draft of a document that has tags in two letter cases, a type of its own, a query and a cookie. -/
def taggedDraft : Draft where
  method := "POST"
  path := "/notes"
  values := [(.header, "X-Tag", "b a"), (.cookie, "k", "v"), (.query, "q", "é"), (.header, "Content-Type", "text/plain"),
    (.header, "x-tag", "a")]
  body := .document .null

theorem headers_delivered_tagged : (∀ v ∈ taggedDraft.values, accepts v.1) ∧ taggedDraft.Writable ∧
    ∃ incoming, taggedDraft.incoming? = some incoming ∧
      (Request.decode incoming.head []).headerValues "X-TAG" = ["b a", "a"] ∧
      (Request.decode incoming.head []).headerValues "content-type" = ["text/plain"] := by
  have haccepted : ∀ v ∈ taggedDraft.values, accepts v.1 := by decide
  have hwritable : taggedDraft.Writable := ⟨by decide +kernel, by decide +kernel⟩
  obtain ⟨-, headers, -, hincoming, hread⟩ := headers_delivered taggedDraft haccepted hwritable
  have huri : Uri.parse? taggedDraft.target = some ⟨none, none, "/notes", some "q=%C3%A9"⟩ := by decide +kernel
  have htags : taggedDraft.offeredUnder "X-TAG" = ["b a", "a"] ∧ taggedDraft.delivered "X-TAG" = ["b a", "a"] := by
    decide +kernel
  have htype : taggedDraft.offeredUnder "content-type" = ["text/plain"] ∧
      taggedDraft.delivered "content-type" = ["text/plain"] := by
    decide +kernel
  refine ⟨haccepted, hwritable, _, hincoming _ huri, ?_, ?_⟩
  · rw [(hread _ [] "X-TAG" rfl (by simp [htags.1])).1, htags.2]
  · rw [(hread _ [] "content-type" rfl (by simp [htype.1])).1, htype.2]

/-- A draft that offers one cookie in a header and one as a cookie. -/
def twoCookies : Draft where
  method := "POST"
  path := "/greet/shout"
  values := [(.header, "cookie", "text=h"), (.cookie, "other", "c")]

/-- The cookie in the header is lost. -/
theorem cookie_header_lost : (∀ v ∈ twoCookies.values, accepts v.1) ∧ twoCookies.Writable ∧
    twoCookies.offeredUnder "cookie" = ["text=h"] ∧
    ∃ incoming, twoCookies.incoming? = some incoming ∧
      (Request.decode incoming.head []).headerValues "cookie" = ["other=c"] ∧
      ¬ (twoCookies.offeredUnder "cookie").Sublist ((Request.decode incoming.head []).headerValues "cookie") := by
  have huri : Uri.parse? twoCookies.target = some ⟨none, none, "/greet/shout", none⟩ := by decide +kernel
  have hheaders : twoCookies.headers? = some ⟨[("cookie", Utf8.encode "other=c")]⟩ := by decide +kernel
  have hincoming : twoCookies.incoming? = some ⟨⟨"POST", ⟨none, none, "/greet/shout", none⟩,
      ⟨[("cookie", Utf8.encode "other=c")]⟩, []⟩, [[]], false⟩ := by
    simp only [incoming?, huri, hheaders]
    rfl
  have hoffered : twoCookies.offeredUnder "cookie" = ["text=h"] := by decide +kernel
  have hread : (Request.decode ⟨"POST", ⟨none, none, "/greet/shout", none⟩,
      ⟨[("cookie", Utf8.encode "other=c")]⟩, []⟩ []).headerValues "cookie" = ["other=c"] := by
    decide +kernel
  refine ⟨by decide, ⟨by decide +kernel, by decide +kernel⟩, hoffered, _, hincoming, hread, ?_⟩
  rw [hoffered, hread]
  decide

end Draft

end Switchyard

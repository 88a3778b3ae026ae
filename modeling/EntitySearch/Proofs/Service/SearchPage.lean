import EntitySearch.Proofs.Service.Presentation
/-!
# Searching with the semantic service

Whatever the semantic service answers, its client returns results. Values of an answer that have the
wrong form are taken over, though, and a request that is searched with the service is answered
exactly if each of the shown results can be presented (`App.beside_service_iff`).
-/

namespace EntitySearch

/-- The body of a request is read as a search request. -/
def Request.Asks (request : Request) (r : SearchRequest) : Prop :=
  SearchRequest.ofBody (RequestBody.read request.contentType request.body) = .ok r

namespace App

open Semantic (Client Lists SoundItem matchFields part readItem)

/-- A request that is read as a search request is searched. -/
theorem searchPage_eq {app : App} {x : Searcher AnySource Float} (hx : app.searcher = some x)
    {request : Request} {r : SearchRequest} (h : request.Asks r) :
    app.searchPage request = app.search x r := by
  unfold Request.Asks at h
  unfold searchPage
  cases hbody : RequestBody.read request.contentType request.body with
  | json value =>
    rw [hbody] at h
    simp only [hx, h]
  | _ =>
    rw [hbody] at h
    cases h

/-- At every stage of a search of the service, what is found has been sent by it. -/
theorem through_service (c : Client) (q : Query) (limit : Int) (t : Option EntityType)
    (now : Float) :
    (SemanticSource.search (AnySource.service c) q limit t now).Through
      (fun run => ∀ r ∈ Searcher.found run, c.Sent r)
      (fun run => ∀ r ∈ Searcher.found run, c.Sent r) := by
  refine (c.through_search q limit t now).map (fun run hwaits => ?_) (fun run hanswered => ?_)
  · unfold Searcher.found AnySource.lift
    rw [show run.outcome = .pending from hwaits]
    simp
  · obtain ⟨results, houtcome, _, hsent⟩ := Semantic.mem_results hanswered
    unfold Searcher.found AnySource.lift
    rw [houtcome]
    exact hsent

/-- Whatever the service answers, a search of its client ends with results, at most as many as were
asked for; each is read off an item of an answer of status 200 and is sound exactly if the item is.
If a request is answered that is searched in the index alone, the same request with the service is
answered exactly if the search comes to results that can all be presented; a shown result without
the form of results shows an unsound item of an answer of status 200. -/
theorem beside_service_iff (c : Client) :
    (∀ q limit t now, ∃ results, ((c.search q limit t now).alone now).1.outcome = .returned results ∧
      (results.length : Int) ≤ max limit 0 ∧
      ∀ r ∈ results, ∃ a ∈ c.answers, a.status = 200 ∧ ∃ item, Lists a.body item ∧
        readItem item = .ok (some r) ∧ (r.Sound ↔ SoundItem item)) ∧
    ∀ (app : App) (x : Searcher AnySource Float) (r : SearchRequest) (alone beside : Request),
      app.searcher = some x → x.source = some (.service c) →
      alone.Asks { r with semantic := false } → beside.Asks { r with semantic := true } →
      (app.searchPage alone).2.status = 200 →
      ((app.searchPage beside).2.status = 200 ↔
        ∃ results, app.ComesTo x { r with semantic := true } results ∧
          ∀ p ∈ results.zip (records x r results), p.1.Presentable p.2) ∧
      ∀ results, app.ComesTo x { r with semantic := true } results → ∀ shown ∈ results,
        shown.Shaped ∨ ∃ a ∈ c.answers, a.status = 200 ∧ ∃ item, Lists a.body item ∧
          ¬ SoundItem item ∧ part item "snippet" = shown.snippet ∧
          matchFields (part item "match_fields") = .ok shown.matchFields := by
  constructor
  · intro q limit t now
    obtain ⟨results, houtcome, hlength, hsent⟩ :=
      Semantic.mem_results ((c.through_search q limit t now).alone now)
    refine ⟨results, houtcome, hlength, fun r hr => ?_⟩
    obtain ⟨a, ha, hstatus, item, hitem, hread⟩ := hsent r hr
    exact ⟨a, ha, hstatus, item, hitem, hread, Semantic.sound_iff hread⟩
  · intro app x r alone beside hx hsource halone hbeside hanswered
    rw [searchPage_eq hx halone, status_search_iff] at hanswered
    rw [searchPage_eq hx hbeside, status_search_iff]
    refine ⟨⟨fun h => h.2, fun h => ⟨hanswered.1, h⟩⟩, ?_⟩
    rintro results ⟨timeout, _, houtcome⟩ shown hshown
    have hsent : ∀ source ∈ x.source, ∀ limit t now,
        (SemanticSource.search source (Query.parse r.query) limit t now).Through
          (fun run => ∀ r ∈ Searcher.found run, c.Sent r)
          (fun run => ∀ r ∈ Searcher.found run, c.Sent r) := by
      intro source hin limit t now
      rw [hsource] at hin
      cases hin
      exact through_service c _ limit t now
    rcases x.shaped_or_found hsent houtcome shown hshown with
      hshaped | ⟨origin, ⟨a, ha, hstatus, item, hitem, hread⟩, hshows⟩
    · exact Or.inl hshaped
    · by_cases hsound : SoundItem item
      · exact Or.inl (hshows.shaped ((Semantic.sound_iff hread).mpr hsound).toShaped)
      · obtain ⟨_, hsnippet, hfields⟩ := Semantic.readItem_eq_some hread
        refine Or.inr ⟨a, ha, hstatus, item, hitem, hsound, ?_, ?_⟩
        · rw [hshows.snippet, hsnippet]
        · rw [hshows.matchFields, hfields]

/-! An answer with a number for a snippet. -/

/-- A client whose service answers with such an item. -/
def wrongSnippet : Client where
  baseUrl := "http://s"
  answers := [{ body :=
    "\x7b\"results\": [\x7b\"entity_type\": \"video\", \"entity_id\": \"v\", \"snippet\": 5\x7d]\x7d" }]

/-- A searcher with this client and an empty index. -/
def besideWrongSnippet : Searcher AnySource Float where
  store := ({} : MemoryIndex).toStore
  source := some (.service wrongSnippet)
  limits := {}
  fusion := .usual
  adjuster := ⟨.usual, .ok 0⟩

/-- A search request with a body. -/
def posted (body : String) : Request where
  method := "POST"
  address := { scheme := "http".toList, host := "s", path := "/api/v1/search".toList }
  hostName := "s"
  contentType := "application/json"
  body := body.toList

/-- A request that is searched in the index alone. -/
def plainly : Request := posted "\x7b\"query\": \"bit\"\x7d"

/-- The same request with the service. -/
def semantically : Request := posted "\x7b\"query\": \"bit\", \"semantic\": true\x7d"

theorem asks_of_toOption {request : Request} {r : SearchRequest}
    (h : (SearchRequest.ofBody (RequestBody.read request.contentType request.body)).toOption =
      some r) : request.Asks r := by
  unfold Request.Asks
  cases hread : SearchRequest.ofBody (RequestBody.read request.contentType request.body) with
  | error refusals =>
    rw [hread] at h
    cases h
  | ok asked =>
    rw [hread] at h
    cases h
    rfl

/-- Without the service the request is answered, with it it is not. -/
theorem beside_wrongSnippet :
    let app : App := { searcher := some besideWrongSnippet }
    (app.searchPage plainly).2.status = 200 ∧ (app.searchPage semantically).2.status = 500 ∧
    ¬ ∃ results, app.ComesTo besideWrongSnippet { query := "bit", semantic := true } results ∧
      ∀ p ∈ results.zip (records besideWrongSnippet { query := "bit" } results),
        p.1.Presentable p.2 := by
  intro app
  have halone : (app.searchPage plainly).2.status = 200 := by decide +kernel
  have hbeside : (app.searchPage semantically).2.status = 500 := by decide +kernel
  have hplainly : plainly.Asks { query := "bit", semantic := false } :=
    asks_of_toOption (by decide +kernel)
  have hsemantically : semantically.Asks { query := "bit", semantic := true } :=
    asks_of_toOption (by decide +kernel)
  have hiff := ((beside_service_iff wrongSnippet).2 app besideWrongSnippet { query := "bit" }
    plainly semantically rfl rfl hplainly hsemantically halone).1
  refine ⟨halone, hbeside, fun hresults => ?_⟩
  rw [hiff.mpr hresults] at hbeside
  exact absurd hbeside (by decide)

end App

end EntitySearch

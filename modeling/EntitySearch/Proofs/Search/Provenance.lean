import EntitySearch.Proofs.Search.RaceStages
import EntitySearch.Proofs.Search.Soundness
/-!
# Where shown results come from

What the index finds has a text or nothing for a snippet, and texts for fields
(`IndexPlan.Planned.shaped_outcome`). Fusion takes snippets and fields over as they are, so a shown
result has this form unless it shows what the source has found (`Searcher.shaped_or_found`).
-/

namespace EntitySearch

variable {σ α : Type}

namespace SearchResult

/-- A result has no snippet or a text, and fields that are texts. -/
structure Shaped (r : SearchResult α) : Prop where
  snippet : r.snippet = .null ∨ ∃ s, r.snippet = .text s
  fields : ∀ a ∈ r.matchFields, ∃ s, a = .text s

/-- A result shows what another does: its id, its snippet and its fields. -/
structure Shows (r origin : SearchResult α) : Prop where
  entityId : r.entityId = origin.entityId
  snippet : r.snippet = origin.snippet
  matchFields : r.matchFields = origin.matchFields

theorem Shows.refl (r : SearchResult α) : r.Shows r := ⟨rfl, rfl, rfl⟩

theorem Shows.shaped {r origin : SearchResult α} (h : r.Shows origin) (ho : origin.Shaped) :
    r.Shaped := ⟨h.snippet ▸ ho.snippet, h.matchFields ▸ ho.fields⟩

end SearchResult

/-! ## The index -/

theorem Descriptor.shaped_shape (d : Descriptor) (hit : Hit α) (score : α) :
    (d.shape hit score).Shaped := by
  unfold shape
  split
  · refine ⟨?_, ?_⟩
    · cases hit.snippet with
      | none => exact Or.inl rfl
      | some s => exact Or.inr ⟨s, rfl⟩
    · intro a ha
      obtain ⟨s, _, rfl⟩ := List.mem_map.mp ha
      exact ⟨s, rfl⟩
  · refine ⟨Or.inr ⟨_, rfl⟩, ?_⟩
    intro a ha
    exact ⟨"hashtag", List.mem_singleton.mp ha⟩

section Index

variable [LogScalar α]

theorem Adjuster.shaped_adjustFrom (a : Adjuster α) (store : IndexStore α) (d : Descriptor)
    (now : Int) {position : Nat} {hits : List (Hit α)} {results : List (SearchResult α)}
    (h : a.adjustFrom store d now position hits = .ok results) : ∀ r ∈ results, r.Shaped := by
  induction hits generalizing position results with
  | nil =>
    cases h
    simp
  | cons hit rest ih =>
    unfold adjustFrom at h
    obtain ⟨score, _, h⟩ := bind_eq_ok.mp h
    obtain ⟨later, hlater, h⟩ := bind_eq_ok.mp h
    cases h
    intro r hr
    rcases List.mem_cons.mp hr with rfl | hin
    · exact d.shaped_shape hit score
    · exact ih hlater r hin

theorem TypeSearch.shaped_results (adjuster : Adjuster α) (store : IndexStore α) (t : EntityType)
    (q : Query) (limit : Int) : ∀ r ∈ (plan adjuster store t q limit).results, r.Shaped := by
  intro r hr
  rcases results_eq_nil_or adjuster store t q limit with
    hnil | ⟨d, hits, adjusted, _, _, _, hadjust, h⟩
  · rw [hnil] at hr
    simp at hr
  · obtain ⟨now, _, hadjust⟩ := bind_eq_ok.mp hadjust
    rw [h] at hr
    exact adjuster.shaped_adjustFrom store d now hadjust r
      ((order_perm d q adjusted).mem_iff.mp ((cut_sublist limit _).subset hr))

theorem IndexPlan.Planned.shaped_outcome {adjuster : Adjuster α} {store : IndexStore α} {q : Query}
    {p : IndexPlan α} (hp : Planned adjuster store q p) {fanout : Fanout EntityType}
    {results : List (SearchResult α)} (h : p.outcome fanout = .ok results) :
    ∀ r ∈ results, r.Shaped := by
  intro r hr
  obtain ⟨ranked, hperm, hsub⟩ := outcome_eq_ok h
  obtain ⟨s, hs, hfound⟩ := List.mem_flatMap.mp (hperm.mem_iff.mp (hsub.subset hr))
  rw [hp.ofType s (List.mem_of_mem_filter hs)] at hfound
  exact TypeSearch.shaped_results adjuster store _ q _ r hfound

end Index

/-! ## Fusion -/

theorem RankFusion.shows_join [Scalar α] (p : Ranked α) (s : Option (Ranked α)) :
    (join p s).2.Shows p.result := by
  cases s <;> exact ⟨rfl, rfl, rfl⟩

/-- A fused result shows what a result of one of the two lists does. -/
theorem RankFusion.exists_shows [Scalar α] {f : RankFusion α}
    {primary secondary fused : List (SearchResult α)} {limit : Int}
    (h : f.fuse primary secondary limit = .ok fused) {r : SearchResult α} (hr : r ∈ fused) :
    ∃ origin, (origin ∈ primary ∨ origin ∈ secondary) ∧ r.Shows origin := by
  obtain ⟨first, second, sorted, hfirst, hsecond, hperm, rfl⟩ := fuse_eq_ok h
  obtain ⟨c, hc, rfl⟩ := List.mem_map.mp ((cut_sublist limit _).subset hr)
  rcases List.mem_append.mp (hperm.mem_iff.mp hc) with hin | hin
  · obtain ⟨⟨id, entry⟩, hentry, rfl⟩ := List.mem_map.mp hin
    exact ⟨entry.result, Or.inl (mem_rankedFrom hfirst hentry).1, shows_join _ _⟩
  · obtain ⟨⟨id, entry⟩, hentry, rfl⟩ := List.mem_map.mp hin
    exact ⟨entry.result, Or.inr (mem_rankedFrom hsecond (List.mem_of_mem_filter hentry)).1,
      shows_join _ _⟩

/-- Holding secondary results to a query only leaves some of them out. -/
theorem Secondary.filter_subset (store : IndexStore α) (q : Query) (s : Strategy)
    (results lexical : List (SearchResult α)) :
    (filter store q s results lexical).1 ⊆ results := by
  have hofType : ofType s results ⊆ results := by
    unfold ofType
    split
    · exact List.Subset.refl _
    · exact fun r hr => List.mem_of_mem_filter hr
  unfold filter
  simp only
  split
  · exact hofType
  · exact fun r hr => hofType (List.mem_of_mem_filter hr)

/-! ## Searches -/

namespace Searcher

variable [LogScalar α] (x : Searcher σ α) {q : Query}

theorem shaped_searchIndex {s : Strategy} {limit : Int} {timeout : Option Float} {now : Float}
    {results : List (SearchResult α)}
    (h : (x.searchIndex s q limit timeout now).outcome = .ok results) :
    ∀ r ∈ results, r.Shaped := by
  unfold searchIndex at h
  split at h
  · cases h
  · rename_i p hp
    exact (IndexPlan.planned_ofStrategy hp).shaped_outcome h

variable [SemanticSource σ α]

theorem shaped_searchBoth {source : σ} {s : Strategy} {limit : Int} {timeout : Option Float}
    {now : Float} {results : List (SearchResult α)}
    (h : (x.searchBoth source s q limit timeout now).1.outcome = .ok results) :
    ∀ r ∈ results, r.Shaped := by
  unfold searchBoth at h
  simp only at h
  split at h
  · cases h
  · rename_i p hp
    exact (IndexPlan.planned_ofStrategy hp).shaped_outcome h

/-- What the source has found beside a search of the index has whatever property all that its
searches find has. -/
theorem found_searchBoth {P : SearchResult α → Prop} {source : σ} {s : Strategy} {limit : Int}
    (hsearch : ∀ now, (SemanticSource.search source q limit s.type? now).Through
      (fun run => ∀ r ∈ found run, P r) (fun run => ∀ r ∈ found run, P r))
    (timeout : Option Float) (now : Float) :
    ∀ r ∈ found (x.searchBoth source s q limit timeout now).2.stage, P r := by
  have hpending : ∀ r ∈ found (⟨source, .pending, []⟩ : SourceRun σ α), P r := by simp [found]
  have hrun := fun p waits => stage_run (P := fun run => ∀ r ∈ found run, P r) hpending hsearch p
    timeout waits now
  unfold searchBoth
  simp only
  split
  · exact hrun _ _
  · exact hrun _ _

/-- A shown result has a text or nothing for a snippet and texts for fields, unless it shows what
the source has found. -/
theorem shaped_or_found {P : SearchResult α → Prop}
    (hsearch : ∀ source ∈ x.source, ∀ limit t now,
      (SemanticSource.search source q limit t now).Through
        (fun run => ∀ r ∈ found run, P r) (fun run => ∀ r ∈ found run, P r))
    {options : SearchOptions} {now : Float} {results : List (SearchResult α)}
    (h : (x.search q options now).outcome = .ok results) :
    ∀ r ∈ results, r.Shaped ∨ ∃ origin, P origin ∧ r.Shows origin := by
  unfold search at h
  simp only at h
  split at h
  · cases h
    simp
  · split at h
    · -- the index alone
      unfold lexicalOnly at h
      split at h
      · cases h
      · rename_i lexical hlexical
        cases h
        exact fun r hr => Or.inl (x.shaped_searchIndex hlexical r ((cut_sublist _ _).subset hr))
    · rename_i source hsource
      have hasked : source ∈ x.source := by
        split at hsource
        · exact hsource
        · cases hsource
      unfold join at h
      split at h
      · cases h
      · rename_i lexical hlexical
        simp only at h
        split at h
        · cases h
        · rename_i fused hfused
          cases h
          intro r hr
          obtain ⟨origin, hin | hin, hshows⟩ := RankFusion.exists_shows hfused hr
          · exact Or.inl (hshows.shaped (x.shaped_searchBoth hlexical origin hin))
          · have hfound := x.found_searchBoth (fun now => hsearch source hasked _ _ now) _ now
              origin (Secondary.filter_subset _ _ _ _ _ hin)
            exact Or.inr ⟨origin, hfound, hshows⟩

end Searcher

end EntitySearch

import EntitySearch.Proofs.Ranking.FusedAlone
import EntitySearch.Proofs.Search.Failures
import EntitySearch.Proofs.Search.RaceStages
import EntitySearch.Proofs.Search.Rankings
import EntitySearch.Search.ScriptedSource
/-!
# Searching beside a source that finds nothing

A hybrid search asks the index for twice the limit. Beside a source that fails or finds nothing it
shows the first results of that longer list, without later ones of the same id. Where the types show
their best results, this list and what the search without the source shows are parts of one ranking:
the one within the shares of twice the limit, the other within those of the limit. They are the same
exactly if nothing shows that is in only one of these parts, which in a single type is always so
(`Searcher.degraded_parts`). With room for two, a second video shows beside the source only
(`Searcher.degraded_fills_share`).
-/

namespace EntitySearch

variable {σ α : Type}

/-! ## Sources that find nothing -/

/-- Searching a source, from whatever moment on, waits no more often than the source says and finds
nothing at any stage: it fails, returns nothing or has not ended. -/
structure SemanticSource.Barren [SemanticSource σ α] (source : σ) (q : Query) (limit : Int)
    (t : Option EntityType) : Prop where
  within : ∀ now, (SemanticSource.search source q limit t now).Within (SemanticSource.waits source)
  nothing : ∀ now, (SemanticSource.search source q limit t now).Through
    (fun run => Searcher.found run = []) (fun run => Searcher.found run = [])

/-- A script that fails or has no results finds nothing. -/
theorem ScriptedSource.barren {s : ScriptedSource α} (h : s.fails = true ∨ s.results = [])
    (q : Query) (limit : Int) (t : Option EntityType) : SemanticSource.Barren s q limit t := by
  have hfound : ∀ requests, Searcher.found ⟨s, s.outcome limit, requests⟩ = [] := by
    intro requests
    unfold Searcher.found outcome
    rcases h with hfails | hempty
    · simp [hfails]
    · cases s.fails <;> simp [hempty, cut]
  constructor
  · intro now
    show (s.search q limit t now).Within 1
    unfold search
    simp only
    split
    · trivial
    · exact fun _ => trivial
  · intro now
    show (s.search q limit t now).Through _ _
    unfold search
    simp only
    split
    · exact hfound _
    · exact ⟨rfl, fun _ => hfound _⟩

/-- Of no results none is checked and none is kept. -/
theorem Secondary.filter_nil (store : IndexStore α) (q : Query) (s : Strategy)
    (lexical : List (SearchResult α)) : filter store q s [] lexical = ([], []) := by
  have hnone : ofType s ([] : List (SearchResult α)) = [] := by
    unfold ofType
    split <;> rfl
  unfold filter
  rw [hnone]
  simp

namespace Searcher

/-! ## Both sides -/

section Sides

variable [LogScalar α] [SemanticSource σ α] (x : Searcher σ α) {source : σ} {s : Strategy}
  {q : Query} {limit : Int} (hsource : SemanticSource.Barren source q limit s.type?)

include hsource

omit [LogScalar α] in
/-- A source that finds nothing has found nothing when a search is over. -/
theorem found_run (p : RacePlan EntityType) (timeout : Option Float) (waits : Nat) (now : Float) :
    found ((Race.run p (some (sourceSide source s q limit timeout)) waits now).1.source.getD
      (sourceSide source s q limit timeout)).stage = [] :=
  stage_run (P := fun run => found run = []) rfl hsource.nothing p timeout waits now

/-- Without a time limit, searching beside such a source comes to what searching the index alone
comes to. -/
theorem searchBoth_untimed (hstore : x.store.NeverCancels) (now : Float) :
    (x.searchBoth source s q limit none now).1.outcome =
        (x.searchIndex s q limit none now).outcome ∧
      found (x.searchBoth source s q limit none now).2.stage = [] := by
  unfold searchBoth
  cases hplan : IndexPlan.ofStrategy x.adjuster x.store s q limit with
  | error e =>
    refine ⟨?_, found_run hsource _ none _ now⟩
    unfold searchIndex
    rw [hplan]
  | ok p =>
    refine ⟨?_, found_run hsource _ none _ now⟩
    have hp := IndexPlan.planned_ofStrategy hplan
    have hwithin : Race.SourceWithin (SemanticSource.waits source)
        (some (sourceSide source s q limit none)) := by
      rintro side ⟨rfl⟩ next ⟨rfl⟩
      exact hsource.within
    rw [x.outcome_untimed hstore hplan now]
    exact hp.outcome_eq_whole hstore fun sub hsub =>
      hp.hasEnded_untimed hstore x.limits.bound_ne_zero hwithin now hsub

omit hsource [SemanticSource σ α] in
/-- With nothing from the source, the index side is fused with nothing. -/
theorem join_alone {n : Int} {index : IndexRun α} {side : SourceSide (SourceRun σ α)}
    (hside : found side.stage = []) :
    (x.join s q n index side).outcome = index.outcome.bind fun lexical =>
      (x.fusion.fuse lexical [] n).mapError SearchError.arithmetic := by
  unfold join
  cases index.outcome with
  | error cause => rfl
  | ok lexical =>
    simp only [hside, Secondary.filter_nil]
    show _ = (x.fusion.fuse lexical [] n).mapError SearchError.arithmetic
    cases x.fusion.fuse lexical [] n <;> rfl

omit hsource [SemanticSource σ α] [LogScalar α] in
theorem outcome_lexicalOnly (index : IndexRun α) :
    (x.lexicalOnly s limit index).outcome = index.outcome.map (cut limit) := by
  unfold lexicalOnly
  cases index.outcome <;> rfl

end Sides

/-! ## Searches -/

section Searches

variable [LogScalar α] [SemanticSource σ α] (x : Searcher σ α) {source : σ} (q : Query)
  (options : SearchOptions) {limit : Int}
  (hlimit : x.limits.resolve options.limit = limit) (hpos : limit ≠ 0)
  (htimeout : options.timeout.or x.limits.timeout = none)

include hlimit hpos htimeout

/-- The search without the source asks the index for the limit. -/
theorem search_lexical (now : Float) :
    (x.search q { options with semantic := false } now).outcome =
      (x.searchIndex (Strategy.choose q) q limit none now).outcome.map (cut limit) := by
  unfold search
  simp only [hlimit, htimeout, if_neg hpos, Bool.false_eq_true, if_false]
  exact x.outcome_lexicalOnly _

/-- The search beside a source that finds nothing asks the index for twice the limit. -/
theorem search_beside (hstore : x.store.NeverCancels) (hsource : x.source = some source)
    (hbarren : SemanticSource.Barren source q (limit * 2) (Strategy.choose q).type?)
    (now : Float) :
    (x.search q { options with semantic := true } now).outcome =
      (x.searchIndex (Strategy.choose q) q (limit * 2) none now).outcome.bind fun lexical =>
        (x.fusion.fuse lexical [] limit).mapError SearchError.arithmetic := by
  obtain ⟨hindex, hside⟩ := searchBoth_untimed x hbarren hstore now
  unfold search
  simp only [hlimit, htimeout, if_neg hpos, if_true, hsource]
  rw [← hindex]
  exact join_alone x hside

end Searches

/-! ## Parts of one ranking -/

section Plans

variable {adjuster : Adjuster Float} {m : MemoryIndex} {q : Query} {s : Strategy} {limit : Int}
  {p : IndexPlan Float}

/-- What a plan comes to has no combined scores. -/
theorem unfused_of_mem_whole (hp : IndexPlan.Planned adjuster m.toStore q p)
    {r : SearchResult Float} (hr : r ∈ p.whole) : r.unfused = r := by
  have hall : r ∈ p.searches.flatMap fun s => s.search.results := by
    unfold IndexPlan.whole at hr
    simp only at hr
    split at hr
    · exact hr
    · exact (sortDescending_perm _ _ _ _).mem_iff.mp ((cut_sublist _ _).subset hr)
  obtain ⟨sub, hsub, hr⟩ := List.mem_flatMap.mp hall
  rw [hp.ofType sub hsub] at hr
  exact TypeSearch.unfused_of_mem_results hr

/-- Nothing is ranked twice. -/
theorem ranking_nodup (hm : m.Keyed) (s : Strategy) : (s.ranking (m.ranking adjuster q)).Nodup := by
  have htype : ∀ t, (m.ranking adjuster q t).Nodup := fun t =>
    List.Nodup.of_map _ (MemoryIndex.keys_ranking_nodup hm)
  cases s with
  | single t => exact htype t
  | unified =>
    have htypes : IndexPlan.unifiedTypes.Nodup := by decide
    refine (sortDescending_perm _ _ _ _).nodup_iff.mpr ?_
    refine List.nodup_flatMap.mpr ⟨fun t _ => htype t, ?_⟩
    -- types have nothing in common
    refine htypes.imp ?_
    intro t t' hne r hr hr'
    exact hne ((MemoryIndex.entityType_of_mem_ranking hr).symm.trans
      (MemoryIndex.entityType_of_mem_ranking hr'))

/-- What a plan for a single type comes to are the first results of the type. -/
theorem whole_single {t : EntityType}
    (hplan : IndexPlan.ofStrategy adjuster m.toStore (.single t) q limit = .ok p)
    (horderly : ∀ t, ∀ r ∈ m.ranking adjuster q t, Scalar.isOrderly r.score = true)
    (hbest : p.ShowsBest m adjuster q) : p.whole = cut limit (m.ranking adjuster q t) := by
  have hp := IndexPlan.planned_ofStrategy hplan
  cases hplan
  have honly := hbest.results_eq_cut hp horderly (List.mem_singleton_self _)
  simp only [IndexPlan.whole, IndexPlan.single, IndexPlan.isSingle, Strategy.type?, Option.isSome,
    if_true, List.flatMap_cons, List.flatMap_nil, List.append_nil] at honly ⊢
  exact honly

/-- Where the limit can be doubled, there is a plan for the limit itself. -/
theorem exists_plain (hpos : 1 ≤ limit)
    (hdoubled : IndexPlan.ofStrategy adjuster m.toStore s q (limit * 2) = .ok p) :
    ∃ plain, IndexPlan.ofStrategy adjuster m.toStore s q limit = .ok plain := by
  cases s with
  | single t => exact ⟨_, rfl⟩
  | unified =>
    refine IndexPlan.exists_unified adjuster m.toStore q ?_
    by_contra hover
    have herror := IndexPlan.unified_eq_error adjuster m.toStore q
      (show 1 ≤ limit * 2 by omega) (by omega)
    exact absurd (herror.symm.trans hdoubled) (by simp)

end Plans

/-- What a search shows beside a source that finds nothing, and what it shows without the source, if
the ranking of all that there is to show is `whole`: both are parts of it. -/
structure Degrades (whole : List (SearchResult Float))
    (ofType : EntityType → List (SearchResult Float)) (limit : Int)
    (plain doubled : IndexPlan Float) (shown alone : List (SearchResult Float)) : Prop where
  /-- Beside the source the first of each id show that are within the shares of twice the limit. -/
  beside : shown = cut limit (SearchResult.firsts
    (cut (limit * 2) (whole.filter (doubled.withinShares ofType))))
  /-- Without the source those show that are within the shares of the limit. -/
  without : alone = cut limit (whole.filter (plain.withinShares ofType))
  /-- Both show the same exactly if nothing is shown that is only in one of the parts. -/
  same_iff : shown = alone ↔
    (∀ r ∈ shown, plain.withinShares ofType r = true) ∧
      ∀ r ∈ alone, r ∈ SearchResult.firsts
        (cut (limit * 2) (whole.filter (doubled.withinShares ofType)))

section Parts

variable {adjuster : Adjuster Float} {m : MemoryIndex} (hm : m.Keyed) {q : Query} {s : Strategy}
  {limit : Int} {plain doubled : IndexPlan Float}
  (hplain : IndexPlan.ofStrategy adjuster m.toStore s q limit = .ok plain)
  (hdoubled : IndexPlan.ofStrategy adjuster m.toStore s q (limit * 2) = .ok doubled)
  (horderly : ∀ t, ∀ r ∈ m.ranking adjuster q t, Scalar.isOrderly r.score = true)
  (hbest : plain.ShowsBest m adjuster q) (hbest' : doubled.ShowsBest m adjuster q)

include hm hplain hdoubled horderly hbest hbest'

/-- What both plans come to are parts of one ranking. -/
theorem degrades :
    Degrades (s.ranking (m.ranking adjuster q)) (m.ranking adjuster q) limit plain doubled
      (cut limit (SearchResult.firsts doubled.whole)) (cut limit plain.whole) := by
  have hshort := IndexPlan.whole_eq_cut hm hplain horderly hbest
  have hlong := IndexPlan.whole_eq_cut hm hdoubled horderly hbest'
  have halone : cut limit plain.whole = cut limit ((s.ranking (m.ranking adjuster q)).filter
      (plain.withinShares (m.ranking adjuster q))) := by
    rw [hshort]
    unfold cut
    rw [List.take_take, Nat.min_self]
  refine ⟨by rw [hlong], halone, ?_⟩
  rw [← hlong, halone]
  have hfirsts : (SearchResult.firsts doubled.whole).Sublist
      (s.ranking (m.ranking adjuster q)) := by
    refine (RankFusion.firsts_sublist doubled.whole).trans ?_
    rw [hlong]
    exact (cut_sublist _ _).trans List.filter_sublist
  refine (take_eq_take_iff (ranking_nodup hm s) hfirsts List.filter_sublist limit.toNat).trans ?_
  refine and_congr_left fun _ => forall₂_congr fun r hr => ?_
  rw [List.mem_filter]
  exact and_iff_right (hfirsts.subset (List.mem_of_mem_take hr))

/-- In a single type nothing is shown that is only in one of the parts. -/
theorem degrades_single (htype : s.type?.isSome = true) (hpos : 1 ≤ limit) :
    cut limit (SearchResult.firsts doubled.whole) = cut limit plain.whole := by
  cases s with
  | unified => cases htype
  | single t =>
    have hlong := whole_single hdoubled horderly hbest'
    have hids : (doubled.whole.map SearchResult.entityId).Nodup := by
      rw [hlong]
      exact (MemoryIndex.ids_ranking_nodup hm).sublist ((cut_sublist _ _).map _)
    rw [RankFusion.firsts_eq_self hids, hlong, whole_single hplain horderly hbest]
    unfold cut
    rw [List.take_take, List.take_take]
    congr 1
    omega

end Parts

/-! ## Without help from the source -/

section Outcomes

variable [SemanticSource σ Float] (x : Searcher σ Float) (m : MemoryIndex) {source : σ}
  (hsource : x.source = some source) (q : Query) (options : SearchOptions)
  (htimeout : options.timeout.or x.limits.timeout = none) {limit : Int}
  (hlimit : x.limits.resolve options.limit = limit) (hpos : limit ≠ 0)

include htimeout hlimit hpos

/-- Without the source the first results of the plan for the limit show. -/
theorem outcome_alone {plain : IndexPlan Float}
    (hplain : IndexPlan.ofStrategy x.adjuster m.toStore (Strategy.choose q) q limit = .ok plain)
    (now : Float) :
    ((x.onIndex m).search q { options with semantic := false } now).outcome =
      .ok (cut limit plain.whole) := by
  rw [search_lexical (x.onIndex m) q options hlimit hpos htimeout now,
    (x.onIndex m).outcome_untimed m.toStore_neverCancels hplain now]
  rfl

include hsource

/-- Beside a source that finds nothing an error of the plan for twice the limit is passed on, and
what this plan comes to is fused with nothing. -/
theorem outcome_beside
    (hbarren : SemanticSource.Barren source q (limit * 2) (Strategy.choose q).type?) (now : Float) :
    let outcome := ((x.onIndex m).search q { options with semantic := true } now).outcome
    (∀ cause, IndexPlan.ofStrategy x.adjuster m.toStore (Strategy.choose q) q (limit * 2) =
      .error cause → outcome = .error (.arithmetic cause)) ∧
    ∀ doubled, IndexPlan.ofStrategy x.adjuster m.toStore (Strategy.choose q) q (limit * 2) =
      .ok doubled → outcome = (x.fusion.fuse doubled.whole [] limit).mapError
        SearchError.arithmetic := by
  intro outcome
  have hhybrid : outcome = ((x.onIndex m).searchIndex (Strategy.choose q) q (limit * 2) none
      now).outcome.bind fun longer =>
        (x.fusion.fuse longer [] limit).mapError SearchError.arithmetic :=
    search_beside (x.onIndex m) q options hlimit hpos htimeout m.toStore_neverCancels hsource
      hbarren now
  rw [hhybrid]
  refine ⟨fun cause hcause => ?_, fun doubled hdoubled => ?_⟩
  · have hplan : IndexPlan.ofStrategy (x.onIndex m).adjuster (x.onIndex m).store
        (Strategy.choose q) q (limit * 2) = .error cause := hcause
    unfold searchIndex
    rw [hplan]
    rfl
  · rw [(x.onIndex m).outcome_untimed m.toStore_neverCancels hdoubled now]
    rfl

/-- What shows beside such a source, if no rank is out of the range of doubles. -/
theorem exists_shown (hk : 0 ≤ x.fusion.k)
    (hbarren : SemanticSource.Barren source q (limit * 2) (Strategy.choose q).type?)
    {doubled : IndexPlan Float}
    (hdoubled : IndexPlan.ofStrategy x.adjuster m.toStore (Strategy.choose q) q (limit * 2) =
      .ok doubled) (now : Float) (hover : ¬ RankFusion.Overflows x.fusion.k doubled.whole) :
    ∃ results, ((x.onIndex m).search q { options with semantic := true } now).outcome =
        .ok results ∧
      results.map SearchResult.unfused = cut limit (SearchResult.firsts doubled.whole) := by
  obtain ⟨fused, hfused⟩ := RankFusion.exists_fuse hk doubled.whole [] limit hover
    RankFusion.not_overflows_nil
  refine ⟨fused, ?_, ?_⟩
  · rw [(outcome_beside x m hsource q options htimeout hlimit hpos hbarren now).2 doubled hdoubled,
      hfused]
    rfl
  · have hplanned := IndexPlan.planned_ofStrategy hdoubled
    rw [RankFusion.unfused_fuse_nil hk hfused]
    unfold cut
    rw [← List.map_take]
    refine (List.map_congr_left fun r hr => ?_).trans (List.map_id _)
    exact unfused_of_mem_whole hplanned
      ((RankFusion.firsts_sublist _).subset (List.mem_of_mem_take hr))

end Outcomes

/-- Over an index in memory, after any history, and without a time limit, a hybrid search beside a
source that fails or finds nothing shows, up to the combined scores, the first results of the
lexical search for twice the limit, without those whose ids occur before; an error of that search is
passed on, and a rank that is out of the range of doubles is an error as well. Where scores can be
compared and the types show their best results for both limits, what it shows and what the search
without the source shows are parts of one ranking, and for a query in a single type they are the
same. -/
theorem degraded_parts [SemanticSource σ Float] (x : Searcher σ Float)
    (changes : List MemoryIndex.Change) {source : σ} (hsource : x.source = some source)
    (hk : 0 ≤ x.fusion.k) (q : Query) (options : SearchOptions)
    (htimeout : options.timeout.or x.limits.timeout = none) {limit : Int}
    (hlimit : x.limits.resolve options.limit = limit)
    (hbarren : SemanticSource.Barren source q (limit * 2) (Strategy.choose q).type?)
    (now : Float) :
    let m := MemoryIndex.after changes
    let ofType := m.ranking x.adjuster q
    let plan := IndexPlan.ofStrategy x.adjuster m.toStore (Strategy.choose q) q
    let hybrid := ((x.onIndex m).search q { options with semantic := true } now).outcome
    let alone := ((x.onIndex m).search q { options with semantic := false } now).outcome
    (limit = 0 → hybrid = .ok [] ∧ alone = .ok []) ∧
    (limit ≠ 0 →
      (∀ cause, plan (limit * 2) = .error cause → hybrid = .error (.arithmetic cause)) ∧
      ∀ doubled, plan (limit * 2) = .ok doubled →
        (RankFusion.Overflows x.fusion.k doubled.whole →
          hybrid = .error (.arithmetic .outOfRange)) ∧
        (¬ RankFusion.Overflows x.fusion.k doubled.whole → ∃ results plain,
          hybrid = .ok results ∧ plan limit = .ok plain ∧ alone = .ok (cut limit plain.whole) ∧
          results.map SearchResult.unfused = cut limit (SearchResult.firsts doubled.whole) ∧
          ((∀ t, ∀ r ∈ ofType t, Scalar.isOrderly r.score = true) →
            plain.ShowsBest m x.adjuster q → doubled.ShowsBest m x.adjuster q →
            Degrades ((Strategy.choose q).ranking ofType) ofType limit plain doubled
              (results.map SearchResult.unfused) (cut limit plain.whole) ∧
            ((Strategy.choose q).type?.isSome = true →
              results.map SearchResult.unfused = cut limit plain.whole)))) := by
  intro m ofType plan hybrid alone
  have hm : m.Keyed := MemoryIndex.after_keyed changes
  constructor
  · rintro rfl
    have hnothing : ∀ semantic,
        ((x.onIndex m).search q { options with semantic := semantic } now).outcome = .ok [] := by
      intro semantic
      unfold search
      exact if_pos hlimit ▸ rfl
    exact ⟨hnothing true, hnothing false⟩
  · intro hpos
    have hone : 1 ≤ limit := by
      have hnonneg : 0 ≤ limit := hlimit ▸ le_max_right _ _
      omega
    obtain ⟨herror, hfuse⟩ := outcome_beside x m hsource q options htimeout hlimit hpos hbarren now
    refine ⟨herror, fun doubled hdoubled => ⟨fun hover => ?_, fun hover => ?_⟩⟩
    · have hfused := hfuse doubled hdoubled
      rw [RankFusion.fuse_eq_error hk doubled.whole [] limit (Or.inl hover)] at hfused
      exact hfused
    · obtain ⟨plain, hplain⟩ := exists_plain hone hdoubled
      obtain ⟨results, hresults, hshown⟩ := exists_shown x m hsource q options htimeout hlimit hpos
        hk hbarren hdoubled now hover
      refine ⟨results, plain, hresults, hplain,
        outcome_alone x m q options htimeout hlimit hpos hplain now, hshown, ?_⟩
      intro horderly hbest hbest'
      rw [hshown]
      exact ⟨degrades hm hplain hdoubled horderly hbest hbest',
        fun htype => degrades_single hm hplain hdoubled horderly hbest hbest' htype hone⟩

/-! Two videos with the same title, beside a source that fails. -/

/-- A searcher beside a source that fails. -/
def besideFailure : Searcher (ScriptedSource Float) Float where
  store := .down
  source := some { fails := true }
  limits := {}
  fusion := .usual
  adjuster := ⟨.usual, .ok 0⟩

/-- The videos are added. -/
def twoVideos : List MemoryIndex.Change :=
  [.add .video { entityId := "v", fields := [("title", "bit")] } {},
    .add .video { entityId := "w", fields := [("title", "bit")] } {}]

/-- A query for the title among all types. -/
def titleOnly : Query := { terms := ["bit"] }

/-- How videos are described. -/
def ofVideos : Descriptor := (Descriptor.of? .video).getD default

/-- What the query hits, in the order of the documents. -/
def hitsForTitle : List (Hit Float) :=
  ((MemoryIndex.after twoVideos).matchingHits ofVideos
    (Lexical.build (ofVideos.queryTerms titleOnly)) titleOnly.filters).toOption.getD []

/-- All that a type has to show for the query. -/
abbrev ofTitle : EntityType → List (SearchResult Float) :=
  (MemoryIndex.after twoVideos).ranking besideFailure.adjuster titleOnly

set_option maxRecDepth 100000 in
theorem matchingHits_twoVideos : (MemoryIndex.after twoVideos).matchingHits ofVideos
    (Lexical.build (ofVideos.queryTerms titleOnly)) titleOnly.filters = .ok hitsForTitle := by
  have hsome : ((MemoryIndex.after twoVideos).matchingHits (α := Float) ofVideos
      (Lexical.build (ofVideos.queryTerms titleOnly)) titleOnly.filters).toOption.isSome =
        true := by
    decide +kernel
  unfold hitsForTitle
  revert hsome
  cases (MemoryIndex.after twoVideos).matchingHits (α := Float) ofVideos
    (Lexical.build (ofVideos.queryTerms titleOnly)) titleOnly.filters with
  | error cause => exact nofun
  | ok hits => exact fun _ => rfl

set_option maxRecDepth 100000 in
/-- Neither video comes before the other. -/
theorem candidates_twoVideos : ∃ first second,
    (MemoryIndex.after twoVideos).candidates? besideFailure.adjuster ofVideos titleOnly =
      some [first, second] ∧
    (∀ r ∈ [first, second], Scalar.isOrderly r.score = true) ∧
    first.entityId = "v" ∧ second.entityId = "w" ∧
    ofVideos.outranks titleOnly second first = false := by
  have hranked : MemoryIndex.rankHits hitsForTitle =
      hitsForTitle.insertionSort (NotBelow fun h => Scalar.pairPlace (h.score, h.createdAt)) :=
    sortDescending_eq Scalar.pairLess_goesBy _ (List.all_eq_true.mp (by decide +kernel))
  have hfound : ((MemoryIndex.after twoVideos).candidates? besideFailure.adjuster ofVideos
      titleOnly).map (fun candidates => (candidates.all fun r => Scalar.isOrderly r.score,
        candidates.map SearchResult.entityId,
        decide (candidates.Pairwise fun kept left =>
          ofVideos.outranks titleOnly left kept = false))) =
      some (true, (["v", "w"] : List Text), true) := by
    unfold MemoryIndex.candidates?
    rw [matchingHits_twoVideos]
    show ((besideFailure.adjuster.adjust _ ofVideos
      (MemoryIndex.rankHits hitsForTitle)).toOption).map _ = _
    rw [hranked]
    decide +kernel
  obtain ⟨candidates, hcandidates, heq⟩ := Option.map_eq_some_iff.mp hfound
  obtain ⟨hall, hrest⟩ := Prod.mk.inj heq
  obtain ⟨hids, hpairs⟩ := Prod.mk.inj hrest
  obtain ⟨first, others, rfl, hfirst, hids⟩ := List.map_eq_cons_iff.mp hids
  obtain ⟨second, others, rfl, hsecond, hids⟩ := List.map_eq_cons_iff.mp hids
  cases List.map_eq_nil_iff.mp hids
  refine ⟨first, second, hcandidates, List.all_eq_true.mp hall, hfirst, hsecond, ?_⟩
  exact (List.pairwise_cons.mp (of_decide_eq_true hpairs)).1 second (List.mem_singleton_self _)

set_option maxRecDepth 100000 in
/-- Nothing but videos is found. -/
theorem ofTitle_eq_nil {t : EntityType} (ht : t ≠ .video) : ofTitle t = [] := by
  rw [← List.isEmpty_iff]
  cases t with
  | video => exact absurd rfl ht
  | all => rfl
  | user => decide +kernel
  | list => decide +kernel
  | hashtag => decide +kernel
  | note => decide +kernel
  | article => decide +kernel
  | community => decide +kernel

/-- Both videos are ranked. -/
theorem ofTitle_video : (ofTitle .video).length = 2 ∧
    ((ofTitle .video).map SearchResult.entityId).Nodup ∧
    ∀ r ∈ ofTitle .video, Scalar.isOrderly r.score = true := by
  obtain ⟨first, second, hcandidates, horderly, hfirst, hsecond, -⟩ := candidates_twoVideos
  have hranked : ofTitle .video = ofVideos.order titleOnly [first, second] :=
    TypeSearch.ranking_eq_order rfl rfl hcandidates
  have hperm := TypeSearch.order_perm ofVideos titleOnly [first, second]
  rw [hranked]
  refine ⟨hperm.length_eq, (hperm.map SearchResult.entityId).nodup_iff.mpr ?_, ?_⟩
  · rw [List.map_cons, List.map_singleton, hfirst, hsecond]
    decide
  · exact fun r hr => horderly r (hperm.mem_iff.mp hr)

theorem isOrderly_ofTitle (t : EntityType) : ∀ r ∈ ofTitle t, Scalar.isOrderly r.score = true := by
  by_cases ht : t = .video
  · rw [ht]
    exact ofTitle_video.2.2
  · rw [ofTitle_eq_nil ht]
    simp

/-- Of the types with a share, three have adjusted scores. -/
theorem adjusted_types {t : EntityType} {d : Descriptor} (hd : Descriptor.of? t = some d)
    (hadjusted : d.adjustment ≠ .none) (ht : t ∈ IndexPlan.unifiedTypes) :
    t = .video ∨ t = .note ∨ t = .article := by
  cases t with
  | video => exact Or.inl rfl
  | note => exact Or.inr (Or.inl rfl)
  | article => exact Or.inr (Or.inr rfl)
  | hashtag => exact absurd ht (by decide)
  | user => cases hd; exact absurd rfl hadjusted
  | list => cases hd; exact absurd rfl hadjusted
  | community => cases hd; exact absurd rfl hadjusted
  | all => cases hd

section Limits

variable {limit : Int} (hpos : 1 ≤ limit)

include hpos

set_option maxRecDepth 100000 in
/-- Where scores are adjusted, the types show their best results. -/
theorem results_ofTitle {t : EntityType} (ht : t = .video ∨ t = .note ∨ t = .article) :
    (TypeSearch.plan besideFailure.adjuster (MemoryIndex.after twoVideos).toStore t titleOnly
      limit).results = cut limit (ofTitle t) := by
  have hnone : ∀ {d : Descriptor}, Descriptor.of? t = some d → d.acceptsGiven .absent = true →
      ((MemoryIndex.after twoVideos).candidates? besideFailure.adjuster d titleOnly).map
        List.isEmpty = some true →
      (TypeSearch.plan besideFailure.adjuster (MemoryIndex.after twoVideos).toStore t titleOnly
        limit).results = cut limit (ofTitle t) := by
    intro d hd hkind hempty
    obtain ⟨candidates, hcandidates, hnil⟩ := Option.map_eq_some_iff.mp hempty
    rw [List.isEmpty_iff] at hnil
    refine (TypeSearch.results_eq_cut_iff hd hkind hcandidates (isOrderly_ofTitle t) hpos).mpr ?_
    rw [hnil]
    simp [cut]
  rcases ht with rfl | rfl | rfl
  · obtain ⟨first, second, hcandidates, -, -, -, hbest⟩ := candidates_twoVideos
    refine (TypeSearch.results_eq_cut_iff (d := ofVideos) rfl rfl hcandidates
      (isOrderly_ofTitle .video) hpos).mpr ?_
    intro kept hkept left hleft
    obtain ⟨n, hn⟩ : ∃ n : ℕ, limit.toNat = n + 1 := ⟨limit.toNat - 1, by omega⟩
    unfold cut at hkept
    rw [hn] at hkept hleft
    cases n with
    | zero =>
      rw [List.mem_singleton.mp hkept, List.mem_singleton.mp hleft]
      exact hbest
    | succ n => simp at hleft
  · exact hnone rfl rfl (by decide +kernel)
  · exact hnone rfl rfl (by decide +kernel)

variable (hshort : limit < firstShort) {p : IndexPlan Float}
  (hp : IndexPlan.unified besideFailure.adjuster (MemoryIndex.after twoVideos).toStore titleOnly
    limit = .ok p)

include hshort hp

theorem showsBest_twoVideos :
    p.ShowsBest (MemoryIndex.after twoVideos) besideFailure.adjuster titleOnly := by
  intro s hs d hd hadjusted
  rw [IndexPlan.searches_unified hpos hshort hp] at hs
  obtain ⟨share, hshare, rfl⟩ := List.mem_map.mp hs
  refine results_ofTitle (one_le_due hpos (percent_bounds share hshare).1) ?_
  exact adjusted_types hd hadjusted (List.mem_map_of_mem hshare)

/-- A plan comes to the first videos. -/
theorem whole_twoVideos : p.whole.Perm (cut (due limit 35) (ofTitle .video)) := by
  have hbest := showsBest_twoVideos hpos hshort hp
  have hplanned := IndexPlan.planned_unified hp
  have hall : p.searches.flatMap (fun s => s.search.results) =
      cut (due limit 35) (ofTitle .video) := by
    have hparts : ∀ s ∈ p.searches, s.search.results = cut s.limit (ofTitle s.entityType) :=
      fun s hs => hbest.results_eq_cut hplanned isOrderly_ofTitle hs
    rw [List.flatMap_congr hparts, IndexPlan.searches_unified hpos hshort hp]
    simp [quotaPercents, ofTitle_eq_nil, cut]
  have hlength : (cut (due limit 35) (ofTitle .video)).length ≤ limit.toNat := by
    have hcut := length_cut_le (due limit 35) (ofTitle .video)
    have hdue := due_eq limit 35
    omega
  unfold IndexPlan.whole
  rw [hall, (IndexPlan.unified_shape hp).2, if_neg (by simp [IndexPlan.isSingle,
    (IndexPlan.unified_shape hp).1, Strategy.type?])]
  have hperm := sortDescending_perm Scalar.pairLess Scalar.isPairOrderly SearchResult.rankKey
    (cut (due limit 35) (ofTitle .video))
  unfold SearchResult.rank cut at *
  rw [List.take_of_length_le (by rw [hperm.length_eq]; exact hlength)]
  exact hperm

end Limits

/-- Twice the limit has room for both videos, the limit for one of them. -/
theorem plans_twoVideos : ∃ plain doubled,
    IndexPlan.unified besideFailure.adjuster (MemoryIndex.after twoVideos).toStore titleOnly 2 =
      .ok plain ∧
    IndexPlan.unified besideFailure.adjuster (MemoryIndex.after twoVideos).toStore titleOnly 4 =
      .ok doubled ∧
    plain.whole.length = 1 ∧ doubled.whole.length = 2 ∧
    (doubled.whole.map SearchResult.entityId).Nodup := by
  have hsmall : (2 : ℤ) < Number.overflow ∧ (4 : ℤ) < Number.overflow := by decide +kernel
  obtain ⟨plain, hplain⟩ := IndexPlan.exists_unified besideFailure.adjuster
    (MemoryIndex.after twoVideos).toStore titleOnly hsmall.1
  obtain ⟨doubled, hdoubled⟩ := IndexPlan.exists_unified besideFailure.adjuster
    (MemoryIndex.after twoVideos).toStore titleOnly hsmall.2
  have hone := whole_twoVideos (by decide) (by decide) hplain
  have htwo := whole_twoVideos (by decide) (by decide) hdoubled
  obtain ⟨hlength, hids, -⟩ := ofTitle_video
  have hshort : (due 2 35).toNat = 1 := by
    rw [due_eq]
    decide
  have hlong : (due 4 35).toNat = 2 := by
    rw [due_eq]
    decide
  refine ⟨plain, doubled, hplain, hdoubled, ?_, ?_, ?_⟩
  · rw [hone.length_eq]
    simp [cut, hshort, hlength]
  · rw [htwo.length_eq]
    simp [cut, hlong, hlength]
  · rw [(htwo.map _).nodup_iff]
    exact hids.sublist ((cut_sublist _ _).map _)

theorem barren_besideFailure (limit : Int) :
    SemanticSource.Barren ({ fails := true } : ScriptedSource Float) titleOnly limit
      (Strategy.choose titleOnly).type? :=
  ScriptedSource.barren (Or.inl rfl) _ _ _

/-- The one ranking of both videos is shown in different parts, though the types show their best
results for both limits. -/
theorem degraded_twoVideos : ∃ (results : List (SearchResult Float))
    (plain doubled : IndexPlan Float),
    ((besideFailure.onIndex (MemoryIndex.after twoVideos)).search titleOnly
      { limit := some 2, semantic := true } 0).outcome = .ok results ∧
    ((besideFailure.onIndex (MemoryIndex.after twoVideos)).search titleOnly
      { limit := some 2, semantic := false } 0).outcome = .ok (cut 2 plain.whole) ∧
    plain.ShowsBest (MemoryIndex.after twoVideos) besideFailure.adjuster titleOnly ∧
    doubled.ShowsBest (MemoryIndex.after twoVideos) besideFailure.adjuster titleOnly ∧
    Degrades ((Strategy.choose titleOnly).ranking ofTitle) ofTitle 2 plain doubled
      (results.map SearchResult.unfused) (cut 2 plain.whole) := by
  obtain ⟨plain, doubled, hplain, hdoubled, -, hlength, -⟩ := plans_twoVideos
  obtain ⟨-, hparts⟩ := degraded_parts besideFailure twoVideos rfl (by decide) titleOnly
    { limit := some 2 } rfl (show _ = (2 : Int) from rfl) (barren_besideFailure 4) 0
  obtain ⟨results, plain', hresults, hplain', halone, -, hrelated⟩ :=
    ((hparts (by decide)).2 doubled hdoubled).2 <| RankFusion.not_overflows <| by
      rw [hlength]
      decide +kernel
  obtain rfl : plain' = plain := Except.ok.inj (hplain'.symm.trans hplain)
  have hbest := showsBest_twoVideos (by decide) (by decide) hplain
  have hbest' := showsBest_twoVideos (by decide) (by decide) hdoubled
  exact ⟨results, plain', doubled, hresults, halone, hbest, hbest',
    (hrelated isOrderly_ofTitle hbest hbest').1⟩

/-- Beside the source both videos show, without it one of them. -/
theorem degraded_fills_share : ∃ hybrid alone : List (SearchResult Float),
    ((besideFailure.onIndex (MemoryIndex.after twoVideos)).search titleOnly
      { limit := some 2, semantic := true } 0).outcome = .ok hybrid ∧
    ((besideFailure.onIndex (MemoryIndex.after twoVideos)).search titleOnly
      { limit := some 2, semantic := false } 0).outcome = .ok alone ∧
    hybrid.length = 2 ∧ alone.length = 1 ∧
    hybrid.map SearchResult.key ≠ alone.map SearchResult.key := by
  obtain ⟨plain, doubled, hplain, hdoubled, hone, htwo, hids⟩ := plans_twoVideos
  obtain ⟨hybrid, hhybrid, hshown⟩ := exists_shown besideFailure (MemoryIndex.after twoVideos) rfl
    titleOnly { limit := some 2 } rfl (show _ = (2 : Int) from rfl) (by decide) (by decide)
    (barren_besideFailure 4) hdoubled 0 (RankFusion.not_overflows (by rw [htwo]; decide +kernel))
  have halone := outcome_alone besideFailure (MemoryIndex.after twoVideos) titleOnly
    { limit := some 2 } rfl (show _ = (2 : Int) from rfl) (by decide) hplain 0
  have hboth : hybrid.length = 2 := by
    have hlength := congrArg List.length hshown
    rw [List.length_map, RankFusion.firsts_eq_self hids] at hlength
    simpa [cut, htwo] using hlength
  have hfirst : (cut 2 plain.whole).length = 1 := by simp [cut, hone]
  refine ⟨hybrid, _, hhybrid, halone, hboth, hfirst, fun hsame => ?_⟩
  have hlengths := congrArg List.length hsame
  rw [List.length_map, List.length_map, hboth, hfirst] at hlengths
  cases hlengths

end Searcher

end EntitySearch

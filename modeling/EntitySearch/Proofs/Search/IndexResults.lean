import EntitySearch.Proofs.Search.Shares
import EntitySearch.Proofs.Search.TypeResults
/-!
# Results of searching the index

A plan holds one search for each type that is searched, no type twice (`IndexPlan.Planned`). What it
comes to, whichever of its searches have ended, are results of these searches
(`IndexPlan.Planned.confirms_of_mem_outcome`), none of them twice
(`IndexPlan.Planned.keys_outcome_nodup`).
-/

namespace EntitySearch

open Number (ArithmeticError)

variable {α : Type} [LogScalar α]

namespace IndexPlan

/-- The searches of a plan are those of its types with their parts of the limit, and no type is
searched twice. -/
structure Planned (adjuster : Adjuster α) (store : IndexStore α) (q : Query) (p : IndexPlan α) :
    Prop where
  ofType : ∀ s ∈ p.searches, s.search = TypeSearch.plan adjuster store s.entityType q s.limit
  nodup : (p.searches.map SubSearch.entityType).Nodup

/-! ## Planning -/

section Plans

variable {adjuster : Adjuster α} {store : IndexStore α} {q : Query} {limit : Int}
  {p : IndexPlan α}

/-- The types of a unified search come in the order of the shares. -/
theorem types_unified (h : unified adjuster store q limit = .ok p) :
    (p.searches.map SubSearch.entityType).Sublist (quotaPercents.map Prod.fst) := by
  unfold unified at h
  split at h
  · cases h
    exact List.nil_sublist _
  · cases hparts : subLimits α limit with
    | error e =>
      rw [hparts] at h
      cases h
    | ok parts =>
      rw [hparts] at h
      cases h
      rw [List.map_map]
      exact types_subLimits hparts

theorem planned_unified (h : unified adjuster store q limit = .ok p) :
    Planned adjuster store q p := by
  refine ⟨?_, (by decide : (quotaPercents.map Prod.fst).Nodup).sublist (types_unified h)⟩
  unfold unified at h
  split at h
  · cases h
    simp
  · cases hparts : subLimits α limit with
    | error e =>
      rw [hparts] at h
      cases h
    | ok parts =>
      rw [hparts] at h
      cases h
      intro s hs
      obtain ⟨part, _, rfl⟩ := List.mem_map.mp hs
      rfl

theorem planned_single (adjuster : Adjuster α) (store : IndexStore α) (t : EntityType) (q : Query)
    (limit : Int) : Planned adjuster store q (single adjuster store t q limit) := by
  refine ⟨?_, List.nodup_singleton t⟩
  intro s hs
  rw [List.mem_singleton.mp hs]

theorem planned_ofStrategy {s : Strategy} (h : ofStrategy adjuster store s q limit = .ok p) :
    Planned adjuster store q p := by
  cases s with
  | unified => exact planned_unified h
  | single t =>
    cases h
    exact planned_single adjuster store t q limit

/-- The plan for a single type has a search in this type and no other. -/
theorem entityType_of_ofStrategy {s : Strategy} (h : ofStrategy adjuster store s q limit = .ok p)
    {t : EntityType} (ht : s.type? = some t) {part : SubSearch α} (hpart : part ∈ p.searches) :
    part.entityType = t := by
  cases s with
  | unified => cases ht
  | single t' =>
    cases h
    cases ht
    rw [List.mem_singleton.mp hpart]

end Plans

/-! ## Outcomes -/

/-- A search of the index that comes to results shows those of the searches that have ended,
rearranged and perhaps cut. -/
theorem outcome_eq_ok {p : IndexPlan α} {fanout : Fanout EntityType}
    {results : List (SearchResult α)} (h : p.outcome fanout = .ok results) :
    ∃ ranked, ranked.Perm (p.collect fanout) ∧ results.Sublist ranked := by
  unfold outcome at h
  split at h
  · cases h
  · split at h
    · cases h
      exact ⟨_, List.Perm.refl _, List.Sublist.refl _⟩
    · cases h
      exact ⟨_, sortDescending_perm _ _ _ _, cut_sublist _ _⟩

namespace Planned

/-- With a store that never cancels, no search breaks off. -/
theorem breaksOff_eq_false {adjuster : Adjuster α} {store : IndexStore α} {q : Query}
    {p : IndexPlan α} (hp : Planned adjuster store q p) (hstore : store.NeverCancels)
    (t : EntityType) : p.breaksOff t = false := by
  unfold breaksOff
  split
  · rename_i type limit compiled duration hsearch
    exfalso
    have hmem : SubSearch.mk type limit ⟨compiled, duration, .cancelled⟩ ∈ p.searches :=
      List.mem_of_find?_eq_some hsearch
    have hending := TypeSearch.ending_ne_cancelled adjuster hstore type q limit
    rw [← hp.ofType _ hmem] at hending
    exact hending rfl
  · rfl

/-- With a store that never cancels, searching the index comes to results. -/
theorem exists_outcome {adjuster : Adjuster α} {store : IndexStore α} {q : Query}
    {p : IndexPlan α} (hp : Planned adjuster store q p) (hstore : store.NeverCancels)
    (fanout : Fanout EntityType) : ∃ results, p.outcome fanout = .ok results := by
  unfold outcome
  rw [if_neg (by simp [hp.breaksOff_eq_false hstore])]
  split
  · exact ⟨_, rfl⟩
  · exact ⟨_, rfl⟩

variable {m : MemoryIndex} {adjuster : Adjuster α} {q : Query} {p : IndexPlan α}
  {fanout : Fanout EntityType}

/-- What searching the index finds has been found by the search in a type. -/
theorem exists_of_mem_outcome {store : IndexStore α} (hp : Planned adjuster store q p)
    {results : List (SearchResult α)} (h : p.outcome fanout = .ok results) {r : SearchResult α}
    (hr : r ∈ results) :
    ∃ s ∈ p.searches, r ∈ (TypeSearch.plan adjuster store s.entityType q s.limit).results := by
  obtain ⟨ranked, hperm, hsub⟩ := outcome_eq_ok h
  obtain ⟨s, hs, hfound⟩ := List.mem_flatMap.mp (hperm.mem_iff.mp (hsub.subset hr))
  have hmem : s ∈ p.searches := List.mem_of_mem_filter hs
  rw [hp.ofType s hmem] at hfound
  exact ⟨s, hmem, hfound⟩

/-- What searching the index in memory finds is confirmed by the index and of a type that the plan
searches. -/
theorem confirms_of_mem_outcome (hp : Planned adjuster m.toStore q p) (hm : m.Keyed)
    {results : List (SearchResult α)} (h : p.outcome fanout = .ok results) {r : SearchResult α}
    (hr : r ∈ results) :
    m.Confirms q r.key ∧ ∃ s ∈ p.searches, s.entityType = r.entityType := by
  obtain ⟨s, hmem, hfound⟩ := hp.exists_of_mem_outcome h hr
  obtain ⟨htype, hconfirms⟩ := TypeSearch.confirms_of_mem_results hm _ _ _ _ hfound
  exact ⟨hconfirms, s, hmem, htype.symm⟩

/-- Searching the index in memory finds no entity twice. -/
theorem keys_outcome_nodup (hp : Planned adjuster m.toStore q p) (hm : m.Keyed)
    {results : List (SearchResult α)} (h : p.outcome fanout = .ok results) :
    (results.map SearchResult.key).Nodup := by
  obtain ⟨ranked, hperm, hsub⟩ := outcome_eq_ok h
  refine List.Nodup.sublist (hsub.map _) ((hperm.map _).nodup_iff.mpr ?_)
  unfold collect ended
  rw [List.map_flatMap, List.nodup_flatMap]
  constructor
  · intro s hs
    rw [hp.ofType s (List.mem_of_mem_filter hs)]
    exact TypeSearch.keys_results_nodup hm _ _ _ _
  · -- results of different searches differ in their type
    refine (List.pairwise_map.mp hp.nodup).filter _ |>.imp_of_mem ?_
    intro a b ha hb hne key hka hkb
    obtain ⟨r, hr, rfl⟩ := List.mem_map.mp hka
    obtain ⟨r', hr', heq⟩ := List.mem_map.mp hkb
    rw [hp.ofType a (List.mem_of_mem_filter ha)] at hr
    rw [hp.ofType b (List.mem_of_mem_filter hb)] at hr'
    have hta := (TypeSearch.confirms_of_mem_results hm _ _ _ _ hr).1
    have htb := (TypeSearch.confirms_of_mem_results hm _ _ _ _ hr').1
    exact hne (hta.symm.trans ((congrArg Prod.fst heq).symm.trans htb))

end Planned

end IndexPlan

end EntitySearch

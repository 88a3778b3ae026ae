import EntitySearch.Proofs.Ranking.FusedAlone
import EntitySearch.Proofs.Ranking.Stability
import EntitySearch.Proofs.Search.TopResults
import EntitySearch.Proofs.Search.UnifiedShares
/-!
# One ranking for all limits

A type ranks what it has to show for a query in one way, whatever the limit
(`MemoryIndex.ranking`). Where its search shows the first of this ranking, which is always so unless
scores are adjusted (`TypeSearch.results_eq_cut_of_raw`), what a plan comes to is a part of one
ranking of all types: that of the results within the shares of the plan, cut to the limit
(`IndexPlan.whole_eq_cut`). Two parts of one ranking begin alike exactly if each holds what the
other begins with (`take_eq_take_iff`).
-/

namespace EntitySearch

/-! ## Parts that begin alike -/

/-- The first items are those whose keys are among those of the first. -/
theorem filter_contains_take {β κ : Type} [BEq κ] [LawfulBEq κ] {key : β → κ} {items : List β}
    (hnodup : (items.map key).Nodup) (n : ℕ) :
    (items.filter fun x => ((items.take n).map key).contains (key x)) = items.take n := by
  induction items generalizing n with
  | nil => rw [List.take_nil]; rfl
  | cons x items ih =>
    obtain ⟨hnew, hrest⟩ := List.nodup_cons.mp hnodup
    cases n with
    | zero => simp
    | succ n =>
      rw [List.take_succ_cons, List.filter_cons, if_pos (by simp), ← ih hrest n, ih hrest n]
      congr 1
      refine Eq.trans (List.filter_congr fun y hy => ?_) (ih hrest n)
      -- the key of the first item is not among those of the others
      have hother : key y ≠ key x := fun heq => hnew (heq ▸ List.mem_map_of_mem hy)
      simp [hother]

/-- Two parts of a list without repetitions begin alike exactly if each holds what the other begins
with. -/
theorem take_eq_take_iff {β : Type} {whole some others : List β} (hnodup : whole.Nodup)
    (hsome : some.Sublist whole) (hothers : others.Sublist whole) (n : ℕ) :
    some.take n = others.take n ↔
      (∀ x ∈ some.take n, x ∈ others) ∧ ∀ x ∈ others.take n, x ∈ some := by
  constructor
  · intro heq
    refine ⟨fun x hx => ?_, fun x hx => ?_⟩
    · exact List.mem_of_mem_take (heq ▸ hx)
    · exact List.mem_of_mem_take (heq ▸ hx)
  · rintro ⟨hfirst, hsecond⟩
    induction whole generalizing some others n with
    | nil =>
      rw [List.sublist_nil.mp hsome, List.sublist_nil.mp hothers]
    | cons x whole ih =>
      obtain ⟨hnew, hrest⟩ := List.nodup_cons.mp hnodup
      cases n with
      | zero => rfl
      | succ n =>
        rcases List.sublist_cons_iff.mp hsome with hskip | ⟨rest, rfl, hpart⟩ <;>
          rcases List.sublist_cons_iff.mp hothers with hskip' | ⟨rest', rfl, hpart'⟩
        · exact ih hrest hskip hskip' (n + 1) hfirst hsecond
        · exact absurd (hskip.subset (hsecond x (by simp))) hnew
        · exact absurd (hskip'.subset (hfirst x (by simp))) hnew
        · -- both begin with the first item
          rw [List.take_succ_cons, List.take_succ_cons]
          have hmem : ∀ {front back : List β}, front.Sublist whole → ∀ y ∈ front.take n,
              y ∈ x :: back → y ∈ back := by
            intro front back hfront y hy hin
            rcases List.mem_cons.mp hin with rfl | hback
            · exact absurd (hfront.subset (List.mem_of_mem_take hy)) hnew
            · exact hback
          refine congrArg _ (ih hrest hpart hpart' n ?_ ?_)
          · intro y hy
            exact hmem hpart y hy (hfirst y (List.mem_cons_of_mem x hy))
          · intro y hy
            exact hmem hpart' y hy (hsecond y (List.mem_cons_of_mem x hy))

/-! ## The ranking of a type -/

namespace MemoryIndex

variable {α : Type} [LogScalar α]

/-- All that a type has to show for a query, as it is ranked: what its search shows with room for
every document. -/
def ranking (m : MemoryIndex) (adjuster : Adjuster α) (q : Query) (t : EntityType) :
    List (SearchResult α) :=
  (TypeSearch.plan adjuster m.toStore t q (m.size + 1)).results

omit [LogScalar α] in
theorem length_matchingHits_le [Scalar α] {m : MemoryIndex} {d : Descriptor} {compiled : Text}
    {f : Filters} {hits : List (Hit α)} (h : m.matchingHits d compiled f = .ok hits) :
    hits.length ≤ m.size := by
  unfold matchingHits at h
  split at h
  · cases h
  · simp only at h
    split at h
    · cases h
      exact Nat.zero_le _
    · obtain ⟨passing, hpassing, h⟩ := bind_eq_ok.mp h
      cases h
      rw [filterM_eq_ok hpassing]
      exact (List.length_filterMap_le _ _).trans
        ((List.length_filter_le _ _).trans (List.length_filterMap_le _ _))

section Members

variable {m : MemoryIndex} {adjuster : Adjuster α} {q : Query} {t : EntityType}

theorem entityType_of_mem_ranking {r : SearchResult α} (hr : r ∈ m.ranking adjuster q t) :
    r.entityType = t :=
  TypeSearch.entityType_of_mem_results adjuster m.toStore t q _ hr

theorem keys_ranking_nodup (hm : m.Keyed) :
    ((m.ranking adjuster q t).map SearchResult.key).Nodup :=
  TypeSearch.keys_results_nodup hm adjuster t q _

/-- Within a type, ids are as distinct as keys. -/
theorem ids_ranking_nodup (hm : m.Keyed) :
    ((m.ranking adjuster q t).map SearchResult.entityId).Nodup := by
  have hnodup : ((m.ranking adjuster q t).map SearchResult.key).Nodup := keys_ranking_nodup hm
  have hkeys := List.pairwise_map.mp hnodup
  refine List.pairwise_map.mpr (hkeys.imp_of_mem fun {a b} ha hb hne heq => hne ?_)
  exact Prod.ext ((entityType_of_mem_ranking ha).trans (entityType_of_mem_ranking hb).symm) heq

end Members

end MemoryIndex

namespace TypeSearch

variable {α : Type} [LogScalar α]

theorem fusionScore_of_mem_adjustFrom {a : Adjuster α} {store : IndexStore α} {d : Descriptor}
    {now : Int} {position : ℕ} {hits : List (Hit α)} {results : List (SearchResult α)}
    (h : a.adjustFrom store d now position hits = .ok results) :
    ∀ r ∈ results, r.fusionScore = none := by
  induction hits generalizing position results with
  | nil =>
    cases h
    simp
  | cons hit rest ih =>
    obtain ⟨score, -, h⟩ := bind_eq_ok.mp h
    obtain ⟨later, hlater, h⟩ := bind_eq_ok.mp h
    cases h
    intro r hr
    rcases List.mem_cons.mp hr with rfl | hr
    · unfold Descriptor.shape
      split <;> rfl
    · exact ih hlater r hr

/-- The results of a type have no combined scores. -/
theorem unfused_of_mem_results {adjuster : Adjuster α} {store : IndexStore α} {t : EntityType}
    {q : Query} {limit : Int} {r : SearchResult α}
    (hr : r ∈ (plan adjuster store t q limit).results) : r.unfused = r := by
  have hnone : r.fusionScore = none := by
    rcases results_eq_nil_or adjuster store t q limit with
      hnil | ⟨d, hits, adjusted, -, -, -, hadjust, h⟩
    · rw [hnil] at hr
      cases hr
    · rw [h] at hr
      obtain ⟨now, -, hadjust⟩ := bind_eq_ok.mp hadjust
      exact fusionScore_of_mem_adjustFrom hadjust r
        ((order_perm d q adjusted).mem_iff.mp ((cut_sublist limit _).subset hr))
  unfold SearchResult.unfused
  rw [← hnone]

section Candidates

variable {m : MemoryIndex} {adjuster : Adjuster α} {t : EntityType} {d : Descriptor} {q : Query}
  {candidates : List (SearchResult α)}

/-- A type ranks its candidates in its order. -/
theorem ranking_eq_order (hd : Descriptor.of? t = some d)
    (hkind : d.acceptsGiven q.filters.kind = true)
    (hcandidates : m.candidates? adjuster d q = some candidates) :
    m.ranking adjuster q t = d.order q candidates := by
  obtain ⟨hits, hhits, hadjust⟩ := MemoryIndex.candidates?_eq_some.mp hcandidates
  have hlength : candidates.length ≤ m.size := by
    have hkeys := congrArg List.length (Adjuster.keys_adjust adjuster m.toStore d hadjust)
    rw [List.length_map, List.length_map, (MemoryIndex.rankHits_perm hits).length_eq] at hkeys
    exact hkeys ▸ MemoryIndex.length_matchingHits_le hhits
  have hall : cut (m.size + 1 : Int) candidates = candidates := List.take_of_length_le (by omega)
  unfold MemoryIndex.ranking
  rw [results_eq_order_cut hd hkind hcandidates (by omega), hall]

/-- A search that shows anything has candidates to choose from, unless they cannot all be
adjusted. -/
theorem results_eq_nil_of_candidates (hraw : d.adjustment = .none) (hd : Descriptor.of? t = some d)
    (hnone : m.candidates? adjuster d q = none) (limit : Int) :
    (plan adjuster m.toStore t q limit).results = [] := by
  rcases results_eq_nil_or adjuster m.toStore t q limit with
    hnil | ⟨d', hits, adjusted, hd', -, hsearch, hadjust, -⟩
  · exact hnil
  · cases hd.symm.trans hd'
    by_cases hlimit : limit ≤ 0
    · unfold plan
      simp only [hd, if_pos hlimit]
      rfl
    · -- the filters can be applied and the clock can be read, so there are candidates
      have hfound := search_toStore hsearch
      rw [MemoryIndex.search_eq_cut m d _ _ (by omega)] at hfound
      cases hmatching : m.matchingHits (α := α) d (Lexical.build (d.queryTerms q)) q.filters with
      | error cause =>
        rw [hmatching] at hfound
        cases hfound
      | ok matching =>
        obtain ⟨now, hnow, -⟩ := bind_eq_ok.mp hadjust
        have hall : adjuster.adjust m.toStore d (MemoryIndex.rankHits matching) =
            .ok ((MemoryIndex.rankHits matching).map fun hit => d.shape hit hit.score) := by
          unfold Adjuster.adjust
          rw [hnow]
          exact Adjuster.adjustFrom_none adjuster m.toStore hraw now 0 _
        have hsome := MemoryIndex.candidates?_eq_some.mpr ⟨matching, hmatching, hall⟩
        rw [hnone] at hsome
        cases hsome

end Candidates

/-! ## The first of the ranking -/

section Best

variable {m : MemoryIndex} {adjuster : Adjuster Float} {t : EntityType} {d : Descriptor} {q : Query}
  (hd : Descriptor.of? t = some d)

include hd

/-- A search shows the first of its type's ranking exactly if no candidate that is left out comes
before one that is kept. -/
theorem results_eq_cut_iff (hkind : d.acceptsGiven q.filters.kind = true)
    {candidates : List (SearchResult Float)}
    (hcandidates : m.candidates? adjuster d q = some candidates)
    (horderly : ∀ r ∈ m.ranking adjuster q t, Scalar.isOrderly r.score = true) {limit : Int}
    (hlimit : 1 ≤ limit) :
    (plan adjuster m.toStore t q limit).results = cut limit (m.ranking adjuster q t) ↔
      ∀ kept ∈ cut limit candidates, ∀ left ∈ candidates.drop limit.toNat,
        d.outranks q left kept = false := by
  have hall := ranking_eq_order hd hkind hcandidates
  rw [hall] at horderly ⊢
  rw [results_eq_order_cut hd hkind hcandidates hlimit]
  refine (sortDescending_cut_eq_iff _ _ _ limit candidates).trans
    (Descriptor.order_cut_prefix_iff ?_ limit)
  exact fun r hr => horderly r ((order_perm d q candidates).mem_iff.mpr hr)

/-- Where scores are not adjusted, a search shows the first of its type's ranking. -/
theorem results_eq_cut_of_raw (hraw : d.adjustment = .none)
    (horderly : ∀ r ∈ m.ranking adjuster q t, Scalar.isOrderly r.score = true) (limit : Int) :
    (plan adjuster m.toStore t q limit).results = cut limit (m.ranking adjuster q t) := by
  by_cases hlimit : limit ≤ 0
  · have hnone : cut limit (m.ranking adjuster q t) = [] := by
      unfold cut
      rw [Int.toNat_of_nonpos hlimit, List.take_zero]
    unfold plan
    simp only [hd, if_pos hlimit, hnone]
    rfl
  · cases hkind : d.acceptsGiven q.filters.kind with
    | false =>
      have hidle : ∀ limit, (plan adjuster m.toStore t q limit).results = [] := by
        intro limit
        unfold plan inDescriptor
        simp only [hd, hkind]
        split <;> rfl
      have hempty : m.ranking adjuster q t = [] := hidle _
      rw [hidle, hempty]
      exact List.take_nil.symm
    | true =>
      cases hcandidates : m.candidates? adjuster d q with
      | none =>
        have hempty : m.ranking adjuster q t = [] :=
          results_eq_nil_of_candidates hraw hd hcandidates _
        rw [results_eq_nil_of_candidates hraw hd hcandidates, hempty]
        exact List.take_nil.symm
      | some candidates =>
        refine (results_eq_cut_iff hd hkind hcandidates horderly (by omega)).mpr ?_
        have hranked := ranking_eq_order hd hkind hcandidates
        have hsorted := MemoryIndex.pairwise_candidates hd hraw hcandidates fun r hr =>
          horderly r (hranked ▸ (order_perm d q candidates).mem_iff.mpr hr)
        rw [← List.take_append_drop limit.toNat candidates] at hsorted
        exact (List.pairwise_append.mp hsorted).2.2

end Best

end TypeSearch

/-! ## The ranking of all types -/

/-- What the types of a strategy have to show, as one ranking. A single type keeps its own order. -/
def Strategy.ranking {α : Type} [Scalar α] (s : Strategy)
    (ofType : EntityType → List (SearchResult α)) : List (SearchResult α) :=
  match s with
  | .single t => ofType t
  | .unified => sortDescending Scalar.pairLess Scalar.isPairOrderly SearchResult.rankKey
      (IndexPlan.unifiedTypes.flatMap ofType)

namespace IndexPlan

/-- Whether a result is within the share that its type has in a plan, which is to say among so many
first ones of its type. -/
def withinShares {α : Type} (p : IndexPlan α) (ofType : EntityType → List (SearchResult α))
    (r : SearchResult α) : Bool :=
  p.searches.any fun s => decide (s.entityType = r.entityType) &&
    ((cut s.limit (ofType s.entityType)).map SearchResult.key).contains r.key

/-- Where scores are adjusted, the searches of a plan show the first of the rankings of their
types. -/
def ShowsBest {α : Type} [LogScalar α] (p : IndexPlan α) (m : MemoryIndex) (adjuster : Adjuster α)
    (q : Query) : Prop :=
  ∀ s ∈ p.searches, ∀ d, Descriptor.of? s.entityType = some d → d.adjustment ≠ .none →
    s.search.results = cut s.limit (m.ranking adjuster q s.entityType)

section Shares

variable {α : Type} {p : IndexPlan α} {ofType : EntityType → List (SearchResult α)} {t : EntityType}
  (hnodup : (p.searches.map SubSearch.entityType).Nodup)
  (hkeys : ((ofType t).map SearchResult.key).Nodup)
  (htype : ∀ r ∈ ofType t, r.entityType = t)

include hnodup hkeys htype

/-- What is within the share of a type are the first of its ranking. -/
theorem filter_withinShares_of_mem {s : SubSearch α} (hs : s ∈ p.searches)
    (hsame : s.entityType = t) :
    (ofType t).filter (p.withinShares ofType) = cut s.limit (ofType t) := by
  refine Eq.trans (List.filter_congr fun r hr => ?_) (filter_contains_take hkeys s.limit.toNat)
  -- the type is searched once
  have hunique : ∀ other ∈ p.searches, other.entityType = r.entityType → other = s := fun other hin
    heq => List.inj_on_of_nodup_map hnodup hin hs (heq.trans ((htype r hr).trans hsame.symm))
  rw [Bool.eq_iff_iff, withinShares, List.any_eq_true]
  constructor
  · rintro ⟨other, hin, hboth⟩
    rw [Bool.and_eq_true, decide_eq_true_eq] at hboth
    obtain rfl := hunique other hin hboth.1
    rw [hsame] at hboth
    exact hboth.2
  · intro hfirst
    refine ⟨s, hs, ?_⟩
    rw [Bool.and_eq_true, decide_eq_true_eq, hsame]
    exact ⟨(htype r hr).symm, hfirst⟩

omit hnodup hkeys in
/-- Of a type that is not searched nothing is within its share. -/
theorem filter_withinShares_of_notMem (hnone : ∀ s ∈ p.searches, s.entityType ≠ t) :
    (ofType t).filter (p.withinShares ofType) = [] := by
  refine List.filter_eq_nil_iff.mpr ?_
  intro r hr hin
  obtain ⟨s, hs, hboth⟩ := List.any_eq_true.mp hin
  rw [Bool.and_eq_true, decide_eq_true_eq] at hboth
  exact hnone s hs (hboth.1.trans (htype r hr))

end Shares

section Plans

variable {m : MemoryIndex} {adjuster : Adjuster Float} {q : Query} {strategy : Strategy}
  {limit : Int} {p : IndexPlan Float}

/-- The searches of a plan show the first of the rankings of all their types. -/
theorem ShowsBest.results_eq_cut (h : p.ShowsBest m adjuster q)
    (hp : Planned adjuster m.toStore q p)
    (horderly : ∀ t, ∀ r ∈ m.ranking adjuster q t, Scalar.isOrderly r.score = true)
    {s : SubSearch Float} (hs : s ∈ p.searches) :
    s.search.results = cut s.limit (m.ranking adjuster q s.entityType) := by
  cases hd : Descriptor.of? s.entityType with
  | none =>
    -- without a descriptor nothing is searched
    have hidle : ∀ limit, (TypeSearch.plan adjuster m.toStore s.entityType q limit).results =
        [] := by
      intro limit
      unfold TypeSearch.plan
      rw [hd]
      rfl
    have hempty : m.ranking adjuster q s.entityType = [] := hidle _
    rw [hp.ofType s hs, hidle, hempty]
    exact List.take_nil.symm
  | some d =>
    by_cases hraw : d.adjustment = .none
    · rw [hp.ofType s hs]
      exact TypeSearch.results_eq_cut_of_raw hd hraw (horderly _) s.limit
    · exact h s hs d hd hraw

/-- What a plan comes to is the part of the one ranking that is within its shares, cut to its
limit. -/
theorem whole_eq_cut (hm : m.Keyed) (hplan : ofStrategy adjuster m.toStore strategy q limit = .ok p)
    (horderly : ∀ t, ∀ r ∈ m.ranking adjuster q t, Scalar.isOrderly r.score = true)
    (hbest : p.ShowsBest m adjuster q) :
    p.whole = cut limit ((strategy.ranking (m.ranking adjuster q)).filter
      (p.withinShares (m.ranking adjuster q))) := by
  have hp := planned_ofStrategy hplan
  have hshows := fun s hs => hbest.results_eq_cut hp horderly (s := s) hs
  have htype : ∀ t, ∀ r ∈ m.ranking adjuster q t, r.entityType = t := fun t r hr =>
    MemoryIndex.entityType_of_mem_ranking hr
  cases strategy with
  | single t =>
    cases hplan
    have hkeys : ((m.ranking adjuster q t).map SearchResult.key).Nodup :=
      MemoryIndex.keys_ranking_nodup hm
    have hpart := filter_withinShares_of_mem hp.nodup hkeys (htype t) (List.mem_singleton_self _)
      rfl
    have honly := hshows _ (List.mem_singleton_self _)
    simp only [whole, single, isSingle, Strategy.type?, Option.isSome, if_true, List.flatMap_cons,
      List.flatMap_nil, List.append_nil] at honly hpart ⊢
    rw [honly]
    show _ = cut limit ((m.ranking adjuster q t).filter _)
    rw [hpart]
    unfold cut
    rw [List.take_take, Nat.min_self]
  | unified =>
    have hparts : ∀ t ∈ unifiedTypes,
        ((p.searches.find? fun s => s.entityType = t).map fun s => s.search.results).getD [] =
          (m.ranking adjuster q t).filter (p.withinShares (m.ranking adjuster q)) := by
      intro t _
      cases hfound : p.searches.find? fun s => s.entityType = t with
      | none =>
        refine (filter_withinShares_of_notMem (htype t) ?_).symm
        intro s hs hsame
        exact List.find?_eq_none.mp hfound s hs (decide_eq_true hsame)
      | some s =>
        have hsame : s.entityType = t := by simpa using List.find?_some hfound
        have hs := List.mem_of_find?_eq_some hfound
        rw [filter_withinShares_of_mem hp.nodup (MemoryIndex.keys_ranking_nodup hm) (htype t) hs
          hsame, ← hsame]
        exact hshows s hs
    have hall : p.searches.flatMap (fun s => s.search.results) =
        (unifiedTypes.flatMap (m.ranking adjuster q)).filter
          (p.withinShares (m.ranking adjuster q)) := by
      have hfound := flatMap_find (by decide) (types_unified hplan) fun _ => true
      simp only [List.filter_true, if_true] at hfound
      rw [hfound, List.filter_flatMap]
      exact List.flatMap_congr hparts
    have hscores : ∀ r ∈ unifiedTypes.flatMap (m.ranking adjuster q),
        Scalar.isPairOrderly r.rankKey = true := by
      intro r hr
      obtain ⟨t, _, hr⟩ := List.mem_flatMap.mp hr
      exact horderly t r hr
    unfold whole
    rw [hall, (unified_shape hplan).2, if_neg (by simp [isSingle, (unified_shape hplan).1,
      Strategy.type?])]
    exact congrArg (cut limit)
      (sortDescending_filter Scalar.pairLess_goesBy hscores _).symm

end Plans

end IndexPlan

end EntitySearch

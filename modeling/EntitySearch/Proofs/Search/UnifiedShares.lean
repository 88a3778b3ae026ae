import EntitySearch.Proofs.Search.Quotas
import EntitySearch.Proofs.Search.UnifiedSearch
/-!
# Shares of the results of a unified search

Every type of a unified search is searched with its part of the limit (`IndexPlan.search?_unified`),
and its search keeps to that part even if the store does not (`TypeSearch.length_results_le`). The
results therefore hold no more of a type than its part and no more than the limit in all, and the
whole limit when every search fills its part (`Searcher.unified_shares`).
-/

namespace EntitySearch

open Number (ArithmeticError overflow)

variable {σ α : Type} [LogScalar α]

/-! ## The search in one type -/

namespace TypeSearch

variable (adjuster : Adjuster α) (store : IndexStore α) (t : EntityType) (q : Query) (limit : Int)

/-- A search keeps to its limit, whatever the store finds. -/
theorem length_results_le (hlimit : 0 ≤ limit) :
    ((plan adjuster store t q limit).results.length : Int) ≤ limit := by
  rcases results_eq_nil_or adjuster store t q limit with
    hnil | ⟨d, hits, adjusted, -, -, -, -, h⟩
  · rw [hnil]
    exact hlimit
  · have hcut := length_cut_le limit (d.order q adjusted)
    rw [h]
    omega

/-- A search finds entities of its type, whatever the store finds. -/
theorem entityType_of_mem_results {r : SearchResult α}
    (hr : r ∈ (plan adjuster store t q limit).results) : r.entityType = t := by
  rcases results_eq_nil_or adjuster store t q limit with
    hnil | ⟨d, hits, adjusted, hd, -, -, hadjust, h⟩
  · rw [hnil] at hr
    simp at hr
  · rw [h] at hr
    have hadjusted : r ∈ adjusted :=
      (order_perm d q adjusted).mem_iff.mp ((cut_sublist limit _).subset hr)
    have hkey := List.mem_map_of_mem (f := SearchResult.key) hadjusted
    rw [Adjuster.keys_adjust adjuster store d hadjust, Descriptor.entityType_of? hd] at hkey
    obtain ⟨hit, -, heq⟩ := List.mem_map.mp hkey
    exact (congrArg Prod.fst heq).symm

end TypeSearch

/-! ## The searches of a unified search -/

namespace IndexPlan

/-- Each type that has a share gets its part, if that is more than nothing. -/
theorem find?_subLimits {limit : Int} {parts : List (EntityType × Int)}
    (h : subLimits α limit = .ok parts) {share : EntityType × Nat}
    (hshare : share ∈ quotaPercents) :
    ∃ part, quotaLimit limit (Scalar.decimal share.2 2 : α) = .ok part ∧
      parts.find? (fun e => e.1 = share.1) = if 0 < part then some (share.1, part) else none := by
  unfold subLimits at h
  obtain ⟨all, hall, h⟩ := bind_eq_ok.mp h
  cases h
  obtain ⟨entry, hentry, hstep⟩ := exists_mem_mapM hall hshare
  obtain ⟨part, hpart, hstep⟩ := bind_eq_ok.mp hstep
  cases hstep
  refine ⟨part, hpart, ?_⟩
  -- no other entry has its type
  have hunique : ∀ e ∈ all, e.1 = share.1 → e = (share.1, part) := by
    intro e he htype
    obtain ⟨other, hother, hstep⟩ := exists_of_mem_mapM hall he
    obtain ⟨part', hpart', hstep⟩ := bind_eq_ok.mp hstep
    cases hstep
    obtain rfl : other = share :=
      List.inj_on_of_nodup_map (by decide : (quotaPercents.map Prod.fst).Nodup) hother hshare htype
    rw [hpart] at hpart'
    cases hpart'
    rfl
  cases hfind : (all.filter fun e => decide (0 < e.2)).find? fun e => decide (e.1 = share.1) with
  | none =>
    rw [List.find?_eq_none] at hfind
    rw [if_neg]
    intro hpos
    exact hfind (share.1, part) (List.mem_filter.mpr ⟨hentry, decide_eq_true hpos⟩) (by simp)
  | some e =>
    obtain ⟨hmem, hpos⟩ := List.mem_filter.mp (List.mem_of_find?_eq_some hfind)
    have heq := hunique e hmem (by simpa using List.find?_some hfind)
    subst heq
    rw [if_pos (of_decide_eq_true hpos)]

section Unified

variable {adjuster : Adjuster α} {store : IndexStore α} {q : Query} {limit : Int}
  {p : IndexPlan α}

/-- The type of a share is searched with its part of the limit, if it gets any. -/
theorem search?_unified (hlimit : 1 ≤ limit) (h : unified adjuster store q limit = .ok p)
    {share : EntityType × Nat} (hshare : share ∈ quotaPercents) :
    ∃ part, quotaLimit limit (Scalar.decimal share.2 2 : α) = .ok part ∧
      p.search? share.1 =
        if 0 < part then some ⟨share.1, part, TypeSearch.plan adjuster store share.1 q part⟩
        else none := by
  unfold unified at h
  rw [if_neg (by omega)] at h
  cases hparts : subLimits α limit with
  | error e =>
    rw [hparts] at h
    cases h
  | ok parts =>
    rw [hparts] at h
    cases h
    obtain ⟨part, hpart, hfind⟩ := find?_subLimits hparts hshare
    refine ⟨part, hpart, ?_⟩
    unfold search?
    rw [List.find?_map]
    simp only [Function.comp_def]
    rw [hfind]
    split <;> rfl

omit [LogScalar α] in
/-- Among what the types contribute, what is of a type is what this type contributes. -/
theorem filter_flatMap_type {types : List EntityType} (hnodup : types.Nodup)
    {found : EntityType → List (SearchResult α)}
    (htype : ∀ t ∈ types, ∀ r ∈ found t, r.entityType = t) {t : EntityType} (ht : t ∈ types) :
    (types.flatMap found).filter (fun r => r.entityType = t) = found t := by
  have hother : ∀ t' ∈ types, t' ≠ t → (found t').filter (fun r => r.entityType = t) = [] := by
    intro t' ht' hne
    rw [List.filter_eq_nil_iff]
    intro r hr heq
    rw [htype t' ht' r hr] at heq
    exact hne (of_decide_eq_true heq)
  have hnone : ∀ others : List EntityType, (∀ t' ∈ others, t' ∈ types ∧ t' ≠ t) →
      (others.flatMap found).filter (fun r => r.entityType = t) = [] := by
    intro others h
    rw [List.filter_flatMap, List.flatMap_eq_nil_iff]
    exact fun t' ht' => hother t' (h t' ht').1 (h t' ht').2
  obtain ⟨before, after, rfl⟩ := List.append_of_mem ht
  have hdistinct := List.nodup_middle.mp hnodup
  have hnew := (List.nodup_cons.mp hdistinct).1
  rw [List.mem_append, not_or] at hnew
  have hself : (found t).filter (fun r => r.entityType = t) = found t := by
    rw [List.filter_eq_self]
    exact fun r hr => decide_eq_true (htype t ht r hr)
  rw [List.flatMap_append, List.flatMap_cons, List.filter_append, List.filter_append, hself,
    hnone before, hnone after, List.nil_append, List.append_nil]
  · exact fun t' ht' => ⟨by simp [ht'], fun heq => hnew.2 (heq ▸ ht')⟩
  · exact fun t' ht' => ⟨by simp [ht'], fun heq => hnew.1 (heq ▸ ht')⟩

/-- What the search in a type contributes is of that type and no more than its part. -/
theorem contribution_share (hlimit : 1 ≤ limit) (h : unified adjuster store q limit = .ok p)
    (fanout : Fanout EntityType) {share : EntityType × Nat} (hshare : share ∈ quotaPercents) :
    (∀ r ∈ p.contribution fanout share.1, r.entityType = share.1) ∧
      ∃ part, quotaLimit limit (Scalar.decimal share.2 2 : α) = .ok part ∧
        (0 ≤ part → ((p.contribution fanout share.1).length : Int) ≤ part) := by
  obtain ⟨part, hpart, hsearch⟩ := search?_unified hlimit h hshare
  unfold contribution
  rw [hsearch]
  split
  · split
    · rename_i hpos
      refine ⟨?_, part, hpart, ?_⟩
      · intro r hr
        exact TypeSearch.entityType_of_mem_results adjuster store share.1 q part hr
      · intro hnonneg
        exact TypeSearch.length_results_le adjuster store share.1 q part hnonneg
    · exact ⟨by simp, part, hpart, by simp⟩
  · exact ⟨by simp, part, hpart, by simp⟩

/-- A unified search comes to results of the types that have a share: of each no more than its part,
and no more than the limit in all. -/
theorem outcome_shares (hlimit : 1 ≤ limit) (h : unified adjuster store q limit = .ok p)
    (fanout : Fanout EntityType) :
    ∃ results, p.outcome fanout = .ok results ∧ (∀ r ∈ results, r.entityType ∈ unifiedTypes) ∧
      (∀ share ∈ quotaPercents, ∃ part, quotaLimit limit (Scalar.decimal share.2 2 : α) = .ok part ∧
        (0 ≤ part → ((results.filter fun r => r.entityType = share.1).length : Int) ≤ part)) ∧
      (results.length : Int) = min limit (p.collect fanout).length := by
  have hcollect : p.collect fanout = unifiedTypes.flatMap (p.contribution fanout) :=
    flatMap_find (by decide) (types_unified h) fanout.hasEnded
  have htype : ∀ t ∈ unifiedTypes, ∀ r ∈ p.contribution fanout t, r.entityType = t := by
    intro t ht
    obtain ⟨share, hshare, rfl⟩ := List.mem_map.mp ht
    exact (contribution_share hlimit h fanout hshare).1
  refine ⟨_, outcome_unified h fanout, ?_, ?_, ?_⟩
  · intro r hr
    have hin := (sortDescending_perm _ _ _ _).mem_iff.mp ((cut_sublist limit _).subset hr)
    obtain ⟨t, ht, hfound⟩ := List.mem_flatMap.mp hin
    rw [htype t ht r hfound]
    exact ht
  · intro share hshare
    obtain ⟨-, part, hpart, hlength⟩ := contribution_share hlimit h fanout hshare
    refine ⟨part, hpart, fun hnonneg => le_trans ?_ (hlength hnonneg)⟩
    -- ranking and cutting add nothing
    have hsub := ((cut_sublist limit (sortDescending Scalar.pairLess Scalar.isPairOrderly
      SearchResult.rankKey (unifiedTypes.flatMap (p.contribution fanout)))).filter
        fun r => r.entityType = share.1).length_le
    rw [((sortDescending_perm _ _ _ _).filter _).length_eq,
      filter_flatMap_type (by decide) htype (List.mem_map_of_mem hshare)] at hsub
    exact_mod_cast hsub
  · have hperm := (sortDescending_perm Scalar.pairLess Scalar.isPairOrderly
      SearchResult.rankKey (unifiedTypes.flatMap (p.contribution fanout))).length_eq
    unfold SearchResult.rank cut
    rw [List.length_take, hperm, hcollect]
    omega

omit [LogScalar α] in
/-- Searches that have all ended and fill their parts find these parts. -/
theorem length_collect_filled {p : IndexPlan α} {fanout : Fanout EntityType}
    (hended : ∀ s ∈ p.searches, fanout.hasEnded s.entityType = true)
    (hfilled : ∀ s ∈ p.searches, (s.search.results.length : Int) = s.limit) :
    ((p.collect fanout).length : Int) = (p.searches.map SubSearch.limit).sum := by
  have hall : p.ended fanout = p.searches := List.filter_eq_self.mpr hended
  unfold collect
  rw [hall, List.length_flatMap, Nat.cast_list_sum, List.map_map]
  exact congrArg List.sum (List.map_congr_left hfilled)

end Unified

/-- As far as no type gets less than it is due, each is searched with what it is due. -/
theorem searches_unified {adjuster : Adjuster Float} {store : IndexStore Float} {q : Query}
    {limit : Int} {p : IndexPlan Float} (hlimit : 1 ≤ limit) (hshort : limit < firstShort)
    (h : unified adjuster store q limit = .ok p) :
    p.searches = quotaPercents.map fun share =>
      ⟨share.1, due limit share.2,
        TypeSearch.plan adjuster store share.1 q (due limit share.2)⟩ := by
  have hparts : subLimits Float limit =
      .ok (quotaPercents.map fun share => (share.1, due limit share.2)) := by
    have hall : (quotaPercents.mapM fun share => do
        let part ← quotaLimit limit (Scalar.decimal share.2 2 : Float)
        pure (share.1, part) : Except ArithmeticError (List (EntityType × Int))) =
        .ok (quotaPercents.map fun share => (share.1, due limit share.2)) :=
      mapM_eq_map fun share hshare => bind_eq_ok.mpr
        ⟨due limit share.2, quotaLimit_eq_due hlimit hshort hshare, rfl⟩
    refine bind_eq_ok.mpr ⟨_, hall, ?_⟩
    show Except.ok _ = _
    congr 1
    rw [List.filter_eq_self]
    intro e he
    obtain ⟨share, hshare, rfl⟩ := List.mem_map.mp he
    have hone := one_le_due hlimit (percent_bounds share hshare).1
    exact decide_eq_true (by omega)
  unfold unified at h
  rw [if_neg (by omega), hparts] at h
  cases h
  rfl

end IndexPlan

/-! ## Unified search -/

namespace Searcher

open IndexPlan

/-- A unified search with a limit below `firstShort` has a share for each type, which is the share
in percent of the limit rounded up, one result at least; these shares make up the limit and five
results more at most. From this limit on rounding in doubles may leave a type a result less; without
rounding the shares are the same for every limit. Whatever the limit, the store and the schedule,
there are no results of a type beyond its share, none of a type without a share, such as hashtags,
and no more results than the limit; when all searches have ended and filled their shares, the
results are as many as these allow, which up to `firstShort` is the limit. A limit that is too large
for a double raises an error. -/
theorem unified_shares (x : Searcher σ Float) (q : Query) (limit : Int) (hlimit : 1 ≤ limit) :
    (∀ share ∈ quotaPercents, 1 ≤ due limit share.2 ∧
      quotaLimit limit (Scalar.decimal share.2 2 : ℚ) = .ok (due limit share.2) ∧
      (limit < firstShort →
        quotaLimit limit (Scalar.decimal share.2 2 : Float) = .ok (due limit share.2))) ∧
    (limit ≤ (quotaPercents.map fun share => due limit share.2).sum ∧
      (quotaPercents.map fun share => due limit share.2).sum ≤ limit + 5) ∧
    quotaLimit firstShort (Scalar.decimal 35 2 : Float) = .ok (due firstShort 35 - 1) ∧
    ((overflow : Int) ≤ limit → ∀ timeout now,
      (x.searchIndex .unified q limit timeout now).outcome = .error (.arithmetic .outOfRange)) ∧
    (limit < overflow → ∃ p, unified x.adjuster x.store q limit = .ok p ∧
      (∀ timeout now, ∃ fanout,
        (x.searchIndex .unified q limit timeout now).outcome = p.outcome fanout ∧
        (timeout = none → ∀ s ∈ p.searches, fanout.hasEnded s.entityType = true)) ∧
      ∀ fanout, ∃ results, p.outcome fanout = .ok results ∧
        (∀ share ∈ quotaPercents, ∃ part,
          quotaLimit limit (Scalar.decimal share.2 2 : Float) = .ok part ∧
          ((results.filter fun r => r.entityType = share.1).length : Int) ≤ part) ∧
        (∀ r ∈ results, r.entityType ∈ unifiedTypes ∧ r.entityType ≠ .hashtag) ∧
        (results.length : Int) ≤ limit ∧
        ((∀ s ∈ p.searches, fanout.hasEnded s.entityType = true ∧
            (s.search.results.length : Int) = s.limit) →
          (results.length : Int) = min limit (p.searches.map SubSearch.limit).sum ∧
          (limit < firstShort → (results.length : Int) = limit))) := by
  refine ⟨?_, sum_due limit, quotaLimit_firstShort, ?_, ?_⟩
  · intro share hshare
    have hfive := (percent_bounds share hshare).1
    exact ⟨one_le_due hlimit hfive, quotaLimit_exact hlimit hfive,
      fun hshort => quotaLimit_eq_due hlimit hshort hshare⟩
  · intro hover timeout now
    have hplan := unified_eq_error x.adjuster x.store q (by omega) hover
    simp [searchIndex, ofStrategy, hplan]
  intro hsmall
  obtain ⟨p, hp⟩ := exists_unified x.adjuster x.store q hsmall
  refine ⟨p, hp, ?_, ?_⟩
  · intro timeout now
    obtain ⟨turns, race, pending, -, houtcome, -, hend⟩ := searchIndex_unified x hp timeout now
    refine ⟨race.fanout, houtcome, ?_⟩
    rintro rfl
    rcases hend with hended | ⟨htimeout, -⟩
    · exact hended
    · cases htimeout
  intro fanout
  obtain ⟨results, houtcome, htypes, hshares, hlength⟩ := outcome_shares hlimit hp fanout
  refine ⟨results, houtcome, ?_, ?_, by omega, ?_⟩
  · intro share hshare
    obtain ⟨part, hpart, hfew⟩ := hshares share hshare
    exact ⟨part, hpart, hfew (quotaLimit_nonneg hlimit hshare hpart)⟩
  · intro r hr
    refine ⟨htypes r hr, ?_⟩
    intro htag
    have hin := htypes r hr
    rw [htag] at hin
    revert hin
    decide
  · intro hfilled
    have hcollect := length_collect_filled (fun s hs => (hfilled s hs).1)
      fun s hs => (hfilled s hs).2
    rw [hcollect] at hlength
    refine ⟨hlength, fun hshort => ?_⟩
    have hsum : (p.searches.map SubSearch.limit).sum =
        (quotaPercents.map fun share => due limit share.2).sum := by
      rw [searches_unified hlimit hshort hp, List.map_map]
      rfl
    have hdue := (sum_due limit).1
    omega

/-! A store that finds an entity of every type, whatever it is asked for. -/

/-- A searcher with this store. -/
def generous : Searcher Unit Float where
  store :=
    { (IndexStore.down : IndexStore Float) with
      search := fun _ _ _ _ => .hits [⟨"a", 1, none, [], 0⟩] }
  source := none
  limits := {}
  fusion := .usual
  adjuster := ⟨.usual, .ok 0⟩

set_option maxRecDepth 100000 in
theorem unified_generous :
    (1 : Int) ≤ 2 ∧ ∃ results,
      (generous.searchIndex .unified anyBit 2 none 0).outcome = .ok results ∧
      ((results.filter fun r => r.entityType = .video).length : Int) ≤ 1 ∧ results.length = 2 := by
  refine ⟨by decide, ?_⟩
  obtain ⟨hquotas, -, -, -, hruns⟩ := unified_shares generous anyBit 2 (by decide)
  obtain ⟨p, hp, hrun, hresults⟩ := hruns (by decide +kernel)
  obtain ⟨fanout, houtcome, hended⟩ := hrun none 0
  obtain ⟨results, hok, hshares, -, -, hfilled⟩ := hresults fanout
  have hfull : ((unified generous.adjuster generous.store anyBit 2).toOption.map fun p =>
      p.searches.all fun s => decide ((s.search.results.length : Int) = s.limit)) = some true := by
    decide +kernel
  rw [hp] at hfull
  have hall := List.all_eq_true.mp (Option.some.inj hfull)
  have hlength :=
    (hfilled fun s hs => ⟨hended rfl s hs, of_decide_eq_true (hall s hs)⟩).2 (by decide)
  refine ⟨results, houtcome.trans hok, ?_, by exact_mod_cast hlength⟩
  obtain ⟨part, hpart, hfew⟩ := hshares (.video, 35) (by decide)
  have hvideo := (hquotas (.video, 35) (by decide)).2.2 (by decide)
  rw [hvideo, due_eq] at hpart
  cases hpart
  exact hfew

end Searcher

end EntitySearch

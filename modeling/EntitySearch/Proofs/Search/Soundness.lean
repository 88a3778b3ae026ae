import EntitySearch.Proofs.Ranking.FusedEntities
import EntitySearch.Proofs.Search.IndexResults
import EntitySearch.Search.Hybrid
import EntitySearch.Search.ScriptedSource
/-!
# Results hold to the query

Over an index in memory, what a hybrid search shows holds to the query, whatever the secondary
source returns (`Searcher.search_holdsTo`). Results of the index have been checked by the index,
those of the source by `Secondary.filter`; fusion shows entities of the two lists only, type and
all.
-/

namespace EntitySearch

variable {σ α : Type} [LogScalar α]

/-! ## Secondary results -/

namespace Secondary

omit [LogScalar α] in
theorem entityType_of_mem_ofType {s : Strategy} {results : List (SearchResult α)}
    {r : SearchResult α} (hr : r ∈ ofType s results) {t : EntityType} (ht : s.type? = some t) :
    r.entityType = t := by
  unfold ofType at hr
  rw [ht] at hr
  simpa using (List.mem_filter.mp hr).2

theorem confirms_of_mem_confirm {m : MemoryIndex} {q : Query} {group : EntityType × List Text}
    {key : EntityType × Text} (hkey : key ∈ confirm (m.toStore : IndexStore α) q group) :
    m.Confirms q key := by
  unfold confirm at hkey
  split at hkey
  · simp at hkey
  · rename_i d hd
    obtain ⟨hof, hkind⟩ := Option.filter_eq_some_iff.mp hd
    split at hkey
    · simp at hkey
    · rename_i ids hids
      obtain ⟨id, hid, rfl⟩ := List.mem_map.mp hkey
      exact ⟨d, hof, hkind, ((MemoryIndex.mem_filterMatching hof hids).mp hid).2⟩

/-- What is kept of secondary results is of the type that is searched and, if there are filters,
returned or confirmed by the index. -/
theorem mem_filter {m : MemoryIndex} {q : Query} {s : Strategy}
    {results lexical : List (SearchResult α)} {r : SearchResult α}
    (hr : r ∈ (filter m.toStore q s results lexical).1) :
    (∀ t, s.type? = some t → r.entityType = t) ∧
      (q.filters.isEmpty = false → r.key ∈ lexical.map SearchResult.key ∨ m.Confirms q r.key) := by
  unfold filter at hr
  simp only at hr
  split at hr
  · rename_i hskip
    refine ⟨fun t ht => entityType_of_mem_ofType hr ht, ?_⟩
    intro hfilters
    rw [hfilters, Bool.false_or, List.isEmpty_iff] at hskip
    rw [hskip] at hr
    simp at hr
  · obtain ⟨hcandidate, hconfirmed⟩ := List.mem_filter.mp hr
    refine ⟨fun t ht => entityType_of_mem_ofType hcandidate ht, fun _ => ?_⟩
    rcases List.mem_append.mp (List.contains_iff_mem.mp hconfirmed) with hreturned | hchecked
    · exact Or.inl hreturned
    · obtain ⟨group, _, hgroup⟩ := List.mem_flatMap.mp hchecked
      exact Or.inr (confirms_of_mem_confirm hgroup)

end Secondary

/-! ## Holding to a query -/

/-- Results hold to a query over an index: they are of the type that is searched, the index confirms
them if there are filters, and none stands for the same entity as another. -/
structure HoldsTo (m : MemoryIndex) (q : Query) (results : List (SearchResult α)) : Prop where
  ofType : ∀ t, Strategy.choose q = .single t → ∀ r ∈ results, r.entityType = t
  confirmed : q.filters.isEmpty = false → ∀ r ∈ results, m.Confirms q r.key
  nodup : (results.map SearchResult.key).Nodup

namespace HoldsTo

variable {m : MemoryIndex} {q : Query}

omit [LogScalar α] in
theorem nil : HoldsTo m q ([] : List (SearchResult α)) :=
  ⟨by simp, by simp, List.nodup_nil⟩

omit [LogScalar α] in
theorem sublist {results shown : List (SearchResult α)} (h : HoldsTo m q results)
    (hsub : shown.Sublist results) : HoldsTo m q shown :=
  ⟨fun t ht r hr => h.ofType t ht r (hsub.subset hr),
    fun hf r hr => h.confirmed hf r (hsub.subset hr), h.nodup.sublist (hsub.map _)⟩

/-- What a plan for the strategy of the query comes to holds to the query. -/
theorem of_outcome (hm : m.Keyed) {adjuster : Adjuster α} {limit : Int} {p : IndexPlan α}
    (hp : IndexPlan.ofStrategy adjuster m.toStore (Strategy.choose q) q limit = .ok p)
    {fanout : Fanout EntityType} {results : List (SearchResult α)}
    (h : p.outcome fanout = .ok results) : HoldsTo m q results := by
  have hplanned := IndexPlan.planned_ofStrategy hp
  refine ⟨?_, ?_, hplanned.keys_outcome_nodup hm h⟩
  · intro t ht r hr
    obtain ⟨_, part, hpart, htype⟩ := hplanned.confirms_of_mem_outcome hm h hr
    have hsingle : (Strategy.choose q).type? = some t := by rw [ht]; rfl
    rw [← htype]
    exact IndexPlan.entityType_of_ofStrategy hp hsingle hpart
  · intro _ r hr
    exact (hplanned.confirms_of_mem_outcome hm h hr).1

/-- Fusing results of the index that hold to the query with what is kept of secondary ones gives
results that hold to it. -/
theorem fuse {lexical results fused : List (SearchResult α)} (hlexical : HoldsTo m q lexical)
    {f : RankFusion α} {limit : Int}
    (h : f.fuse lexical (Secondary.filter m.toStore q (Strategy.choose q) results lexical).1 limit =
      .ok fused) : HoldsTo m q fused := by
  refine ⟨?_, ?_, ?_⟩
  · intro t ht r hr
    -- a fused result has the key, and so the type, of one of the two lists
    rcases RankFusion.key_mem_of_mem_fuse h hr with hin | hin
    · obtain ⟨r', hr', heq⟩ := List.mem_map.mp hin
      exact (congrArg Prod.fst heq).symm.trans (hlexical.ofType t ht r' hr')
    · obtain ⟨r', hr', heq⟩ := List.mem_map.mp hin
      exact (congrArg Prod.fst heq).symm.trans ((Secondary.mem_filter hr').1 t (by rw [ht]; rfl))
  · intro hf r hr
    have hreturned : ∀ key ∈ lexical.map SearchResult.key, m.Confirms q key := by
      intro key hkey
      obtain ⟨r', hr', rfl⟩ := List.mem_map.mp hkey
      exact hlexical.confirmed hf r' hr'
    rcases RankFusion.key_mem_of_mem_fuse h hr with hin | hin
    · exact hreturned _ hin
    · obtain ⟨r', hr', heq⟩ := List.mem_map.mp hin
      rw [← heq]
      rcases (Secondary.mem_filter hr').2 hf with hkey | hchecked
      · exact hreturned _ hkey
      · exact hchecked
  · refine List.pairwise_map.mpr ((List.pairwise_map.mp (RankFusion.ids_fuse_nodup h)).imp ?_)
    intro a b hne heq
    exact hne (congrArg Prod.snd heq)

end HoldsTo

/-! ## Hybrid search -/

namespace Searcher

/-- The searcher with an index in memory as its store. -/
def onIndex (x : Searcher σ α) (m : MemoryIndex) : Searcher σ α := { x with store := m.toStore }

/-- A plan over the index in memory comes to results that hold to the query. -/
theorem holdsTo_conclude {m : MemoryIndex} (hm : m.Keyed) {adjuster : Adjuster α} {q : Query}
    {limit : Int} {p : IndexPlan α}
    (hp : IndexPlan.ofStrategy adjuster m.toStore (Strategy.choose q) q limit = .ok p)
    (fanout : Fanout EntityType) (time : Float) :
    ∃ results, (p.conclude fanout time).outcome = .ok results ∧ HoldsTo m q results := by
  obtain ⟨results, h⟩ :=
    (IndexPlan.planned_ofStrategy hp).exists_outcome m.toStore_neverCancels fanout
  exact ⟨results, h, HoldsTo.of_outcome hm hp h⟩

/-- The index side comes to results that hold to the query, or the limit cannot be divided. -/
def IndexHolds (m : MemoryIndex) (q : Query) (run : IndexRun α) : Prop :=
  (∃ results, run.outcome = .ok results ∧ HoldsTo m q results) ∨
    ∃ cause, run.outcome = .error (.arithmetic cause)

section Sides

variable (x : Searcher σ α) {m : MemoryIndex} (hm : m.Keyed) (q : Query) (limit : Int)
  (timeout : Option Float) (now : Float)

include hm

theorem indexHolds_searchIndex :
    IndexHolds m q ((x.onIndex m).searchIndex (Strategy.choose q) q limit timeout now) := by
  unfold searchIndex
  split
  · rename_i cause _
    exact Or.inr ⟨cause, rfl⟩
  · rename_i p hp
    exact Or.inl (holdsTo_conclude hm hp _ _)

theorem indexHolds_searchBoth [SemanticSource σ α] (source : σ) :
    IndexHolds m q
      ((x.onIndex m).searchBoth source (Strategy.choose q) q limit timeout now).1 := by
  unfold searchBoth
  simp only
  split
  · rename_i cause _
    exact Or.inr ⟨cause, rfl⟩
  · rename_i p hp
    exact Or.inl (holdsTo_conclude hm hp _ _)

end Sides

/-- What is shown holds to the query and keeps within a limit, unless a number is out of range. -/
def Shows (m : MemoryIndex) (q : Query) (limit : Int)
    (outcome : Except SearchError (List (SearchResult α))) : Prop :=
  (∃ results, outcome = .ok results ∧ HoldsTo m q results ∧ (results.length : Int) ≤ limit) ∨
    ∃ cause, outcome = .error (.arithmetic cause)

section Outcomes

variable {m : MemoryIndex} {q : Query} {limit : Int} (hlimit : 0 ≤ limit) (s : Strategy)
  {index : IndexRun α} (hindex : IndexHolds m q index)

include hlimit hindex

omit [LogScalar α] in
theorem shows_lexicalOnly (x : Searcher σ α) :
    Shows m q limit (x.lexicalOnly s limit index).outcome := by
  unfold lexicalOnly
  rcases hindex with ⟨lexical, houtcome, hlexical⟩ | ⟨cause, houtcome⟩
  · rw [houtcome]
    refine Or.inl ⟨cut limit lexical, rfl, hlexical.sublist (cut_sublist limit lexical), ?_⟩
    have hlength := length_cut_le limit lexical
    rwa [Int.max_eq_left hlimit] at hlength
  · rw [houtcome]
    exact Or.inr ⟨cause, rfl⟩

theorem shows_join (x : Searcher σ α) (side : SourceSide (SourceRun σ α)) :
    Shows m q limit ((x.onIndex m).join (Strategy.choose q) q limit index side).outcome := by
  unfold join
  rcases hindex with ⟨lexical, houtcome, hlexical⟩ | ⟨cause, houtcome⟩
  · simp only [houtcome]
    split
    · rename_i cause _
      exact Or.inr ⟨cause, rfl⟩
    · rename_i fused hfuse
      refine Or.inl ⟨fused, rfl, hlexical.fuse hfuse, ?_⟩
      have hlength := RankFusion.length_fuse_le hfuse
      rwa [Int.max_eq_left hlimit] at hlength
  · simp only [houtcome]
    exact Or.inr ⟨cause, rfl⟩

end Outcomes

/-- Over any index in memory and with any secondary source, a search shows results that hold to the
query, at most as many as the limit allows; nothing but arithmetic keeps it from doing so. -/
theorem search_holdsTo [SemanticSource σ α] (x : Searcher σ α)
    (changes : List MemoryIndex.Change) (q : Query) (options : SearchOptions) (now : Float) :
    (∃ results,
      ((x.onIndex (.after changes)).search q options now).outcome = .ok results ∧
      HoldsTo (.after changes) q results ∧
      (results.length : Int) ≤
        max (min (options.limit.getD x.limits.defaultLimit) x.limits.maxLimit) 0) ∨
    ∃ cause, ((x.onIndex (.after changes)).search q options now).outcome =
      .error (.arithmetic cause) := by
  have hm := MemoryIndex.after_keyed changes
  generalize MemoryIndex.after changes = m at hm
  have hresolve : (x.onIndex m).limits.resolve options.limit =
      max (min (options.limit.getD x.limits.defaultLimit) x.limits.maxLimit) 0 := rfl
  have hlimit : 0 ≤ (x.onIndex m).limits.resolve options.limit := Int.le_max_right _ _
  show Shows m q _ _
  rw [← hresolve]
  unfold search
  simp only
  -- nothing is asked for, the index is asked alone, or a source with it
  split
  · exact Or.inl ⟨[], rfl, HoldsTo.nil, hlimit⟩
  · split
    · exact shows_lexicalOnly hlimit _ (indexHolds_searchIndex x hm q _ _ now) _
    · rename_i source _
      exact shows_join hlimit (indexHolds_searchBoth x hm q _ _ now source) x _

/-! A video and a note that share an id, only the video by the author who is asked for, and a source
that returns both besides a video that does not exist. -/

/-- The changes that enter the video and the note. -/
def sharedId : List MemoryIndex.Change :=
  [.add .video { entityId := "a", fields := [("title", "bit one")], author := some "p" } {},
   .add .note { entityId := "a", fields := [("content", "bit two")], author := some "q" } {}]

/-- A searcher with a source that takes no account of the query. -/
def careless : Searcher (ScriptedSource Float) Float where
  store := .down
  source := some
    { results :=
        [⟨.note, "a", 1, .null, [], 0, none⟩, ⟨.video, "b", 1, .null, [], 0, none⟩,
         ⟨.video, "a", 1, .null, [], 0, none⟩] }
  limits := {}
  fusion := .usual
  adjuster := ⟨.usual, .ok 0⟩

/-- A query for what an author has written. -/
def byAuthor : Query := { terms := ["bit"], filters := { author := .value "p" } }

set_option maxRecDepth 100000 in
theorem search_sharedId : ∃ results : List (SearchResult Float),
    ((careless.onIndex (.after sharedId)).search byAuthor { semantic := true } 0).outcome =
      .ok results ∧
    HoldsTo (.after sharedId) byAuthor results ∧
    results.map SearchResult.key = [(EntityType.video, ("a" : Text))] := by
  have hkeys :
      (((careless.onIndex (.after sharedId)).search byAuthor { semantic := true } 0).outcome.map
        (List.map SearchResult.key)).toOption = some [(EntityType.video, ("a" : Text))] := by
    decide +kernel
  rcases search_holdsTo careless sharedId byAuthor { semantic := true } 0 with
    ⟨results, houtcome, hholds, _⟩ | ⟨cause, houtcome⟩
  · rw [houtcome] at hkeys
    exact ⟨results, houtcome, hholds, Option.some.inj hkeys⟩
  · rw [houtcome] at hkeys
    cases hkeys

end Searcher

end EntitySearch

import EntitySearch.Proofs.Ranking.Selection
import EntitySearch.Proofs.Search.Soundness
import EntitySearch.Proofs.Search.Untimed
/-!
# The best results of a type

The index cuts the hits of a type before their scores are adjusted and before the type's own order
is applied. The search in one type therefore shows the candidates with the best raw scores in the
order of the type, and these are the best results exactly if no candidate that was left out comes
before one of them (`Searcher.single_best_iff`). Where scores are not adjusted that is always so.
-/

namespace EntitySearch

/-! ## Hits before cutting -/

namespace MemoryIndex

variable {α : Type} [Scalar α]

/-- The hits of all documents of a type that match a lexical query and pass the filters, in the
order of the documents. A query without prefixes matches nothing. -/
def matchingHits (m : MemoryIndex) (d : Descriptor) (compiled : Text) (f : Filters) :
    Except StoreError (List (Hit α)) :=
  match typeOfIndex? d.index with
  | none => throw (.unknownIndex d.index)
  | some t =>
    let prefixes := searchPrefixes compiled
    if prefixes.isEmpty then pure []
    else do
      let passing ← (m.documentsOf t).filterM (m.passesIn d f)
      pure (passing.filterMap (hit? d prefixes))

/-- Hits by raw score and then by time of creation, both descending. -/
def rankHits (hits : List (Hit α)) : List (Hit α) :=
  sortDescending Scalar.pairLess Scalar.isPairOrderly (fun h => (h.score, h.createdAt)) hits

theorem rankHits_perm (hits : List (Hit α)) : (rankHits hits).Perm hits :=
  sortDescending_perm _ _ _ _

theorem rankHits_nil : rankHits ([] : List (Hit α)) = [] := (rankHits_perm []).eq_nil

/-- A search shows the first of all matching hits, ranked. -/
theorem search_eq_cut (m : MemoryIndex) (d : Descriptor) (compiled : Text) (f : Filters)
    {limit : Int} (hlimit : 1 ≤ limit) :
    m.search (α := α) d compiled f limit =
      (m.matchingHits d compiled f).map fun hits => cut limit (rankHits hits) := by
  unfold search matchingHits
  have hpositive : decide (limit ≤ 0) = false := by simp; omega
  cases typeOfIndex? d.index with
  | none => rfl
  | some t =>
    simp only [hpositive, Bool.or_false]
    split
    · simp only [pure, Except.pure, Except.map, rankHits_nil, cut, List.take_nil]
    · cases (m.documentsOf t).filterM (m.passesIn d f) <;> rfl

theorem matchingHits_nil {t : EntityType} {d : Descriptor} (hd : Descriptor.of? t = some d)
    (m : MemoryIndex) (f : Filters) : m.matchingHits (α := α) d [] f = .ok [] := by
  unfold matchingHits
  rw [Descriptor.typeOfIndex?_of? hd]
  rfl

end MemoryIndex

/-! ## Adjusting -/

namespace Adjuster

variable {α : Type} [LogScalar α]

/-- Adjusting the first hits gives the first of the adjusted ones. -/
theorem adjustFrom_take (a : Adjuster α) (store : IndexStore α) (d : Descriptor) (now : Int)
    {position : Nat} {hits : List (Hit α)} {results : List (SearchResult α)}
    (h : a.adjustFrom store d now position hits = .ok results) (n : Nat) :
    a.adjustFrom store d now position (hits.take n) = .ok (results.take n) := by
  induction hits generalizing position results n with
  | nil =>
    cases h
    rw [List.take_nil, List.take_nil]
    rfl
  | cons hit rest ih =>
    unfold adjustFrom at h
    obtain ⟨score, hscore, h⟩ := bind_eq_ok.mp h
    obtain ⟨later, hlater, h⟩ := bind_eq_ok.mp h
    cases h
    cases n with
    | zero => rfl
    | succ n =>
      exact bind_eq_ok.mpr ⟨score, hscore, bind_eq_ok.mpr ⟨later.take n, ih hlater n, rfl⟩⟩

theorem adjust_cut (a : Adjuster α) (store : IndexStore α) (d : Descriptor)
    {hits : List (Hit α)} {results : List (SearchResult α)}
    (h : a.adjust store d hits = .ok results) (limit : Int) :
    a.adjust store d (cut limit hits) = .ok (cut limit results) := by
  obtain ⟨now, hnow, h⟩ := bind_eq_ok.mp h
  unfold adjust
  rw [hnow]
  exact adjustFrom_take a store d now h limit.toNat

/-- Without an adjustment hits keep their scores. -/
theorem adjustFrom_none (a : Adjuster α) (store : IndexStore α) {d : Descriptor}
    (hd : d.adjustment = .none) (now : Int) (position : Nat) (hits : List (Hit α)) :
    a.adjustFrom store d now position hits = .ok (hits.map fun hit => d.shape hit hit.score) := by
  induction hits generalizing position with
  | nil => rfl
  | cons hit rest ih =>
    unfold adjustFrom score
    rw [hd, ih]
    rfl

end Adjuster

/-! ## Candidates -/

namespace MemoryIndex

variable {α : Type} [LogScalar α]

/-- What the search in a type chooses from: all documents that match the query and pass its filters,
with adjusted scores but in the order of the raw ones; nothing if a filter cannot be applied or a
score is out of range. -/
def candidates? (m : MemoryIndex) (adjuster : Adjuster α) (d : Descriptor) (q : Query) :
    Option (List (SearchResult α)) := do
  let hits ← (m.matchingHits d (Lexical.build (d.queryTerms q)) q.filters).toOption
  (adjuster.adjust m.toStore d (rankHits hits)).toOption

variable {m : MemoryIndex} {adjuster : Adjuster α} {d : Descriptor} {q : Query}
  {candidates : List (SearchResult α)}

theorem candidates?_eq_some :
    m.candidates? adjuster d q = some candidates ↔
      ∃ hits, m.matchingHits d (Lexical.build (d.queryTerms q)) q.filters = .ok hits ∧
        adjuster.adjust m.toStore d (rankHits hits) = .ok candidates := by
  unfold candidates?
  cases m.matchingHits (α := α) d (Lexical.build (d.queryTerms q)) q.filters with
  | error e => simp [Except.toOption]
  | ok hits =>
    cases hadjust : adjuster.adjust m.toStore d (rankHits hits) with
    | error e => simp [Except.toOption, hadjust]
    | ok results => simp [Except.toOption, hadjust]

end MemoryIndex

namespace TypeSearch

variable {α : Type} [LogScalar α] {m : MemoryIndex} {adjuster : Adjuster α} {t : EntityType}
  {d : Descriptor} {q : Query} {candidates : List (SearchResult α)}

/-- The search in a type shows the first candidates in the order of the type. -/
theorem results_eq_order_cut (hd : Descriptor.of? t = some d)
    (hkind : d.acceptsGiven q.filters.kind = true)
    (hcandidates : m.candidates? adjuster d q = some candidates) {limit : Int}
    (hlimit : 1 ≤ limit) :
    (plan adjuster m.toStore t q limit).results = d.order q (cut limit candidates) := by
  obtain ⟨hits, hhits, hadjust⟩ := MemoryIndex.candidates?_eq_some.mp hcandidates
  unfold plan
  simp only [hd]
  rw [if_neg (by omega)]
  unfold inDescriptor
  rw [hkind]
  simp only [Bool.not_true, Bool.false_eq_true, if_false]
  split
  · rename_i hnone
    -- without terms there are no candidates
    rw [List.isEmpty_iff.mp hnone, MemoryIndex.matchingHits_nil hd] at hhits
    cases hhits
    rw [MemoryIndex.rankHits_nil] at hadjust
    obtain ⟨now, hnow, hadjust⟩ := bind_eq_ok.mp hadjust
    cases hadjust
    unfold cut
    rw [List.take_nil, (order_perm d q []).eq_nil]
    rfl
  · have hsearch : (m.toStore : IndexStore α).search d (Lexical.build (d.queryTerms q)) q.filters
        limit = .hits (cut limit (MemoryIndex.rankHits hits)) := by
      simp only [MemoryIndex.toStore, MemoryIndex.search_eq_cut m d _ _ hlimit, hhits, Except.map]
    have hshort : (d.order q (cut limit candidates)).length ≤ limit.toNat := by
      rw [(order_perm d q _).length_eq]
      exact List.length_take_le _ _
    rw [hsearch]
    unfold conclude results
    simp only [Adjuster.adjust_cut adjuster m.toStore d hadjust limit]
    exact List.take_of_length_le hshort

end TypeSearch

/-! ## Best results -/

namespace Descriptor

/-- Whether a result comes before another in the order of a type. -/
def outranks {α : Type} [Scalar α] (d : Descriptor) (q : Query) (a b : SearchResult α) : Bool :=
  TypeKey.less (d.sortKey q b) (d.sortKey q a)

variable {d : Descriptor} {q : Query}

theorem isPairOrderly_sortKey {α : Type} [Scalar α] (d : Descriptor) (q : Query)
    (r : SearchResult α) :
    Scalar.isPairOrderly (d.sortKey q r).pair = Scalar.isOrderly r.score := by
  unfold sortKey
  split <;> rfl

variable {candidates : List (SearchResult Float)}
  (horderly : ∀ r ∈ candidates, Scalar.isOrderly r.score = true)

include horderly

/-- The first candidates, ordered, are the first of the ordered candidates exactly if no other comes
before one of them. -/
theorem order_cut_prefix_iff (limit : Int) :
    d.order q (cut limit candidates) <+: d.order q candidates ↔
      ∀ kept ∈ cut limit candidates, ∀ left ∈ candidates.drop limit.toNat,
        d.outranks q left kept = false := by
  refine sortDescending_cut_prefix_iff TypeKey.less_goesBy (d.sortKey q) limit fun r hr => ?_
  rw [isPairOrderly_sortKey]
  exact horderly r hr

/-- In the order of tags one that is asked for comes first if there is any. -/
theorem head_order_asked (hd : d.presentation = .tag) :
    (∃ first, (d.order q candidates).head? = some first ∧ first.entityId ∈ d.queryTerms q) ↔
      ∃ r ∈ candidates, r.entityId ∈ d.queryTerms q := by
  have hmem : ∀ {r : SearchResult Float}, r ∈ d.order q candidates ↔ r ∈ candidates :=
    (TypeSearch.order_perm d q candidates).mem_iff
  constructor
  · rintro ⟨first, hfirst, hasked⟩
    exact ⟨first, hmem.mp (List.mem_of_head? hfirst), hasked⟩
  · rintro ⟨r, hr, hasked⟩
    obtain ⟨first, hfirst⟩ : ∃ first, (d.order q candidates).head? = some first := by
      cases hcase : d.order q candidates with
      | nil =>
        have hin := hmem.mpr hr
        rw [hcase] at hin
        simp at hin
      | cons first rest => exact ⟨first, rfl⟩
    refine ⟨first, hfirst, ?_⟩
    -- being asked for decides before anything else does
    have htop := less_head_sortDescending TypeKey.less_goesBy (d.sortKey q)
      (fun r hr => by rw [isPairOrderly_sortKey]; exact horderly r hr) hfirst r hr
    by_contra hother
    unfold sortKey TypeKey.less at htop
    simp [hd, hasked, hother] at htop

end Descriptor

namespace MemoryIndex

variable {m : MemoryIndex} {adjuster : Adjuster Float} {t : EntityType} {d : Descriptor}
  {q : Query} {candidates : List (SearchResult Float)}

/-- Where scores are not adjusted, no candidate comes before one that stands in front of it. -/
theorem pairwise_candidates (hd : Descriptor.of? t = some d) (hraw : d.adjustment = .none)
    (hcandidates : m.candidates? adjuster d q = some candidates)
    (horderly : ∀ r ∈ candidates, Scalar.isOrderly r.score = true) :
    candidates.Pairwise fun kept left => d.outranks q left kept = false := by
  obtain ⟨hits, hhits, hadjust⟩ := candidates?_eq_some.mp hcandidates
  obtain ⟨now, _, hadjust⟩ := bind_eq_ok.mp hadjust
  rw [Adjuster.adjustFrom_none _ _ hraw] at hadjust
  cases hadjust
  -- only documents are ranked by nothing but their raw score
  have hdocument : d.presentation = .document := by
    cases t <;> cases hd <;> first | rfl | cases hraw
  have hkey : ∀ hit : Hit Float, d.sortKey q (d.shape hit hit.score) =
      ⟨false, false, (hit.score, hit.createdAt)⟩ := by
    intro hit
    simp [Descriptor.sortKey, Descriptor.shape, hdocument, SearchResult.rankKey]
  have hscores : ∀ hit ∈ hits, Scalar.isOrderly hit.score = true := by
    intro hit hhit
    have hranked := (rankHits_perm hits).mem_iff.mpr hhit
    have hshown := horderly _ (List.mem_map_of_mem (f := fun hit => d.shape hit hit.score) hranked)
    simpa [Descriptor.shape, hdocument] using hshown
  have hsorted := pairwise_sortDescending Scalar.pairLess_goesBy
    (fun hit : Hit Float => (hit.score, hit.createdAt)) hscores
  refine List.pairwise_map.mpr (hsorted.imp fun hless => ?_)
  unfold Descriptor.outranks TypeKey.less
  rw [hkey, hkey]
  exact hless

end MemoryIndex

/-! ## The search in one type -/

namespace Searcher

/-- Over an index in memory the search in a type comes to the results of that type. -/
theorem single_outcome {σ α : Type} [LogScalar α] (x : Searcher σ α) (m : MemoryIndex)
    (t : EntityType) (q : Query) (limit : Int) (now : Float) :
    ((x.onIndex m).searchIndex (.single t) q limit none now).outcome =
      .ok (TypeSearch.plan x.adjuster m.toStore t q limit).results := by
  have hplan : IndexPlan.ofStrategy x.adjuster m.toStore (.single t) q limit =
      .ok (IndexPlan.single x.adjuster m.toStore t q limit) := rfl
  rw [(x.onIndex m).outcome_untimed m.toStore_neverCancels hplan now]
  simp only [IndexPlan.whole, IndexPlan.single, IndexPlan.isSingle, Strategy.type?, Option.isSome,
    if_true, List.flatMap_cons, List.flatMap_nil, List.append_nil]

variable {σ : Type} (x : Searcher σ Float) (m : MemoryIndex) {t : EntityType} {d : Descriptor}
  (hd : Descriptor.of? t = some d) {q : Query} (hkind : d.acceptsGiven q.filters.kind = true)
  {candidates : List (SearchResult Float)}
  (hcandidates : m.candidates? x.adjuster d q = some candidates)

include hd hkind hcandidates

/-- Over an index in memory the search in a type shows the first candidates in the order of the
type. -/
theorem single_eq_order_cut {limit : Int} (hlimit : 1 ≤ limit) (now : Float) :
    ((x.onIndex m).searchIndex (.single t) q limit none now).outcome =
      .ok (d.order q (cut limit candidates)) := by
  rw [single_outcome, TypeSearch.results_eq_order_cut hd hkind hcandidates hlimit]

/-- Over an index in memory, and where scores can be compared, the search in a type shows the
candidates with the best raw scores, as many as the limit allows, in the order of the type. They are
the best of all candidates exactly if none that was left out comes before one of them, which is
always so where scores are not adjusted; they are what a larger limit shows first exactly if none
that it adds comes before one of them; and a tag that is asked for comes first exactly if one has
been kept. -/
theorem single_best_iff (horderly : ∀ r ∈ candidates, Scalar.isOrderly r.score = true)
    {limit : Int} (hlimit : 1 ≤ limit) (now : Float) :
    ∃ results,
      ((x.onIndex m).searchIndex (.single t) q limit none now).outcome = .ok results ∧
      results = d.order q (cut limit candidates) ∧
      (results = cut limit (d.order q candidates) ↔
        ∀ kept ∈ cut limit candidates, ∀ left ∈ candidates.drop limit.toNat,
          d.outranks q left kept = false) ∧
      (d.adjustment = .none → results = cut limit (d.order q candidates)) ∧
      (∀ larger, limit ≤ larger → ∃ more,
        ((x.onIndex m).searchIndex (.single t) q larger none now).outcome = .ok more ∧
        (results <+: more ↔
          ∀ kept ∈ cut limit candidates, ∀ left ∈ (cut larger candidates).drop limit.toNat,
            d.outranks q left kept = false)) ∧
      (d.presentation = .tag →
        ((∃ first, results.head? = some first ∧ first.entityId ∈ d.queryTerms q) ↔
          ∃ r ∈ cut limit candidates, r.entityId ∈ d.queryTerms q)) := by
  have hcut : ∀ limit, ∀ r ∈ cut limit candidates, Scalar.isOrderly r.score = true :=
    fun limit r hr => horderly r ((cut_sublist limit candidates).subset hr)
  have hbest : d.order q (cut limit candidates) = cut limit (d.order q candidates) ↔
      ∀ kept ∈ cut limit candidates, ∀ left ∈ candidates.drop limit.toNat,
        d.outranks q left kept = false :=
    (sortDescending_cut_eq_iff _ _ _ limit candidates).trans
      (Descriptor.order_cut_prefix_iff horderly limit)
  refine ⟨_, single_eq_order_cut x m hd hkind hcandidates hlimit now, rfl, hbest, ?_, ?_, ?_⟩
  · intro hraw
    have hsorted := MemoryIndex.pairwise_candidates hd hraw hcandidates horderly
    rw [← List.take_append_drop limit.toNat candidates] at hsorted
    exact hbest.mpr (List.pairwise_append.mp hsorted).2.2
  · intro larger hlarger
    refine ⟨_, single_eq_order_cut x m hd hkind hcandidates (by omega) now, ?_⟩
    -- the smaller limit cuts what the larger one has kept
    have htwice : cut limit (cut larger candidates) = cut limit candidates := by
      unfold cut
      rw [List.take_take, Nat.min_eq_left (by omega)]
    have hprefix := Descriptor.order_cut_prefix_iff (d := d) (q := q) (hcut larger) limit
    rwa [htwice] at hprefix
  · exact fun htag => Descriptor.head_order_asked (hcut limit) htag

end Searcher

namespace Searcher

/-! The tag that is asked for, and a longer tag that was first used later. -/

/-- The index after one use of each tag. -/
def twoTags : MemoryIndex := (((({} : MemoryIndex).recordTag "bit" 0).1).recordTag "bitcoin" 100).1

/-- A searcher at the time at which the first tag was used. -/
def atZero : Searcher Unit Float where
  store := .down
  source := none
  limits := {}
  fusion := .usual
  adjuster := ⟨.usual, .ok 0⟩

/-- A query for the shorter tag. -/
def forBit : Query :=
  { raw := "type:hashtag #bit", entityType := some "hashtag"
    filters := { hashtags := some ["bit"] } }

/-- How tags are described. -/
def ofTags : Descriptor := (Descriptor.of? .hashtag).getD default

/-- What it hits, in the order of the documents. -/
def hitsForBit : List (Hit Float) :=
  ((twoTags.matchingHits ofTags (Lexical.build (ofTags.queryTerms forBit))
    forBit.filters).toOption).getD []

set_option maxRecDepth 100000 in
/-- The longer tag has the better raw score: both match once, and it is the younger one. -/
theorem candidates_twoTags :
    ∃ long short, twoTags.candidates? atZero.adjuster ofTags forBit = some [long, short] ∧
      (∀ r ∈ [long, short], Scalar.isOrderly r.score = true) ∧
      long.entityId = "bitcoin" ∧ short.entityId = "bit" := by
  have hmatching : twoTags.matchingHits ofTags (Lexical.build (ofTags.queryTerms forBit))
      forBit.filters = .ok hitsForBit := rfl
  have hranked : MemoryIndex.rankHits hitsForBit =
      hitsForBit.insertionSort (NotBelow fun h => Scalar.pairPlace (h.score, h.createdAt)) :=
    sortDescending_eq Scalar.pairLess_goesBy _ (List.all_eq_true.mp (by decide +kernel))
  have hfound : (twoTags.candidates? atZero.adjuster ofTags forBit).map (fun candidates =>
      (candidates.all fun r => Scalar.isOrderly r.score, candidates.map SearchResult.entityId)) =
        some (true, (["bitcoin", "bit"] : List Text)) := by
    unfold MemoryIndex.candidates?
    rw [hmatching]
    show ((atZero.adjuster.adjust _ ofTags (MemoryIndex.rankHits hitsForBit)).toOption).map _ = _
    rw [hranked]
    decide +kernel
  obtain ⟨candidates, hcandidates, heq⟩ := Option.map_eq_some_iff.mp hfound
  obtain ⟨hall, hids⟩ := Prod.mk.inj heq
  obtain ⟨long, others, rfl, hlong, hids⟩ := List.map_eq_cons_iff.mp hids
  obtain ⟨short, others, rfl, hshort, hids⟩ := List.map_eq_cons_iff.mp hids
  cases List.map_eq_nil_iff.mp hids
  exact ⟨long, short, hcandidates, List.all_eq_true.mp hall, hlong, hshort⟩

/-- With room for one tag only, the one that is asked for is left out. -/
theorem single_twoTags : ∃ one two : List (SearchResult Float),
    ((atZero.onIndex twoTags).searchIndex (.single .hashtag) forBit 1 none 0).outcome = .ok one ∧
    ((atZero.onIndex twoTags).searchIndex (.single .hashtag) forBit 2 none 0).outcome = .ok two ∧
    one.map SearchResult.entityId = (["bitcoin"] : List Text) ∧
    two.head?.map SearchResult.entityId = some ("bit" : Text) ∧ ¬ one <+: two := by
  obtain ⟨long, short, hcandidates, horderly, hlong, hshort⟩ := candidates_twoTags
  have hterms : ofTags.queryTerms forBit = ["bit"] := by decide
  have hbest := fun (limit : Int) (hlimit : 1 ≤ limit) =>
    single_best_iff atZero twoTags (t := .hashtag) (d := ofTags) rfl (q := forBit) rfl
      hcandidates horderly hlimit 0
  rw [hterms] at hbest
  obtain ⟨one, hone, hcut, _⟩ := hbest 1 (by decide)
  obtain ⟨two, htwo, _, _, _, _, hasked⟩ := hbest 2 (by decide)
  have hones : one = [long] := by
    rw [hcut]
    exact (TypeSearch.order_perm ofTags forBit [long]).eq_singleton
  obtain ⟨first, hfirst, hbit⟩ := (hasked rfl).mpr ⟨short, by simp [cut], by simp [hshort]⟩
  have hid : first.entityId = "bit" := List.mem_singleton.mp hbit
  refine ⟨one, two, hone, htwo, ?_, ?_, ?_⟩
  · rw [hones, List.map_singleton, hlong]
  · rw [hfirst, Option.map_some, hid]
  · rintro ⟨others, heq⟩
    rw [← heq, hones] at hfirst
    cases hfirst
    rw [hlong] at hid
    exact absurd hid (by decide)

end Searcher

end EntitySearch

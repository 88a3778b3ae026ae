import EntitySearch.Proofs.Index.PrefixMatching
import EntitySearch.Proofs.Search.Degradation
import EntitySearch.Semantic.Client
/-!
# Searches without terms

A query without terms constrains no text, and it is never taken to match every document: neither the
index nor the semantic service is asked, and nothing is found (`Searcher.search_termless`). Tags that
a search for tags names take the place of terms, and then the index of tags alone is asked. No
lexical query has an empty prefix, which every word would begin with.
-/

namespace EntitySearch

open Number (ArithmeticError overflow)

variable {σ α : Type}

/-! ## The index side -/

section Index

variable [LogScalar α] {adjuster : Adjuster α} {store : IndexStore α} {q : Query} {limit : Int}

/-- Without terms a search in a type does not reach the store, unless it is for tags and the query
names some. -/
theorem TypeSearch.plan_termless (hterms : q.terms = []) {t : EntityType}
    (ht : t = .hashtag → q.hashtags = []) : plan adjuster store t q limit = idle := by
  have hnone : ∀ d, Descriptor.of? t = some d → d.queryTerms q = [] := by
    intro d hd
    unfold Descriptor.queryTerms
    split
    · exact hterms
    · rename_i hpresentation
      have htag : t = .hashtag := by cases t <;> cases hd <;> first | rfl | cases hpresentation
      rw [hterms, ht htag]
      rfl
  unfold plan
  split
  · rfl
  · rename_i d hd
    have hempty : (Lexical.build (d.queryTerms q)).isEmpty = true := by
      rw [hnone d hd]
      rfl
    unfold inDescriptor
    simp only [hempty, if_true, ite_self]

namespace IndexPlan

/-- No search of a plan reaches the store. -/
def Silent (p : IndexPlan α) : Prop := ∀ s ∈ p.searches, s.search = TypeSearch.idle

variable {p : IndexPlan α} {fanout : Fanout EntityType}

theorem silent_ofStrategy {s : Strategy} (h : ofStrategy adjuster store s q limit = .ok p)
    (hterms : q.terms = []) (hs : s = .single .hashtag → q.hashtags = []) : p.Silent := by
  intro sub hsub
  rw [(planned_ofStrategy h).ofType sub hsub]
  refine TypeSearch.plan_termless hterms fun htag => ?_
  cases s with
  | single t =>
    cases h
    rw [List.mem_singleton.mp hsub] at htag
    exact hs (congrArg Strategy.single htag)
  | unified =>
    -- tags have no share of a unified search
    have hin := (types_unified h).subset (List.mem_map_of_mem hsub)
    rw [htag] at hin
    exact absurd hin (by decide)

omit [LogScalar α] in
theorem Silent.calls (h : p.Silent) : p.calls fanout = [] := by
  unfold IndexPlan.calls
  rw [List.filterMap_eq_nil_iff]
  intro start _
  rw [Option.bind_eq_none_iff]
  intro s hs
  rw [h s (List.mem_of_find?_eq_some hs)]
  rfl

theorem Silent.outcome (h : p.Silent) : p.outcome fanout = .ok [] := by
  have hbreaks : ∀ t, p.breaksOff t = false := by
    intro t
    unfold breaksOff
    split
    · rename_i hsearch
      have hidle := congrArg TypeSearch.ending (h _ (List.mem_of_find?_eq_some hsearch))
      cases hidle
    · rfl
  have hnothing : p.collect fanout = [] := by
    unfold collect
    rw [List.flatMap_eq_nil_iff]
    intro s hs
    rw [h s (List.mem_of_mem_filter hs)]
    rfl
  have hrank : SearchResult.rank p.limit ([] : List (SearchResult α)) = [] := by
    unfold SearchResult.rank
    rw [(sortDescending_perm _ _ _ _).eq_nil]
    exact List.take_nil
  unfold IndexPlan.outcome
  rw [if_neg (by simp [hbreaks]), hnothing, hrank, ite_self]

/-- A search for tags alone asks for tags alone. -/
theorem calls_tags {call : StoreCall}
    (hcall : call ∈ (single adjuster store .hashtag q limit).calls fanout) :
    ∃ compiled f n time, call = .search .hashtag compiled f n time := by
  unfold IndexPlan.calls at hcall
  obtain ⟨⟨time, t⟩, -, hstart⟩ := List.mem_filterMap.mp hcall
  obtain ⟨s, hs, hmade⟩ := Option.bind_eq_some_iff.mp hstart
  obtain ⟨compiled, -, rfl⟩ := Option.map_eq_some_iff.mp hmade
  unfold search? at hs
  have htype := List.find?_some hs
  rw [decide_eq_true_iff, List.mem_singleton.mp (List.mem_of_find?_eq_some hs)] at htype
  subst htype
  exact ⟨_, _, _, _, rfl⟩

end IndexPlan

end Index

/-! ## The secondary side -/

/-- A search in a source that has sent nothing and found nothing so far. -/
def SourceRun.Silent (run : SourceRun σ α) : Prop := run.requests = [] ∧ Searcher.found run = []

/-- Without terms the semantic service is not asked. -/
theorem Semantic.Client.search_unasked (c : Semantic.Client) {q : Query} (hterms : q.terms = [])
    (limit : Int) (t : Option EntityType) (now : Float) :
    SemanticSource.search c q limit t now = .ended ⟨c, .returned [], []⟩ := by
  have hempty : (Text.join " " q.terms).isEmpty = true := by
    rw [hterms]
    rfl
  show c.search q limit t now = _
  unfold Semantic.Client.search
  rw [hempty, Bool.true_or, if_pos rfl]

theorem RankFusion.fuse_nil [Scalar α] (f : RankFusion α) (limit : Int) :
    f.fuse [] [] limit = .ok [] := by
  show Except.ok (cut limit ((sortDescending _ _ _ []).map Prod.snd)) = _
  rw [(sortDescending_perm _ _ _ _).eq_nil]
  exact congrArg _ List.take_nil

/-! ## Both sides -/

namespace Searcher

section Searches

variable (x : Searcher Semantic.Client Float) (source : Semantic.Client) {q : Query}
  (hterms : q.terms = []) (s : Strategy) (limit : Int) (timeout : Option Float) (now : Float)

include hterms

/-- The service has not been asked when a search is over. -/
theorem silent_run (p : RacePlan EntityType) (waits : Nat) :
    ((Race.run p (some (sourceSide source s q limit timeout)) waits now).1.source.getD
      (sourceSide source s q limit timeout)).stage.Silent := by
  refine stage_run (P := SourceRun.Silent) ⟨rfl, rfl⟩ ?_ p timeout waits now
  intro now
  rw [source.search_unasked hterms]
  exact ⟨rfl, rfl⟩

theorem silent_searchBoth : (x.searchBoth source s q limit timeout now).2.stage.Silent := by
  unfold searchBoth
  cases IndexPlan.ofStrategy x.adjuster x.store s q limit with
  | error cause => exact silent_run source hterms s limit timeout now _ _
  | ok p => exact silent_run source hterms s limit timeout now _ _

omit hterms in
/-- Joined with nothing, the index side has made all the calls. -/
theorem join_silent {n : Int} {index : IndexRun Float}
    {side : SourceSide (SourceRun Semantic.Client Float)} (hside : side.stage.Silent) :
    (x.join s q n index side).requests = [] ∧ (x.join s q n index side).calls = index.calls := by
  unfold join
  simp only [hside.1, hside.2]
  split
  · exact ⟨rfl, rfl⟩
  · simp only [Secondary.filter_nil, List.append_nil]
    split <;> exact ⟨rfl, rfl⟩

/-- A search without terms does not ask the service, and what holds of no calls and of the calls of
the index side holds of all its calls. -/
theorem search_requests_calls (options : SearchOptions) {P : List StoreCall → Prop}
    (hnone : P []) (hindex : ∀ limit timeout,
      P (x.searchIndex (Strategy.choose q) q limit timeout now).calls)
    (hboth : ∀ source limit timeout,
      P (x.searchBoth source (Strategy.choose q) q limit timeout now).1.calls) :
    (x.search q options now).requests = [] ∧ P (x.search q options now).calls := by
  unfold search
  simp only
  split
  · exact ⟨rfl, hnone⟩
  · split
    · unfold lexicalOnly
      split
      · exact ⟨rfl, hindex _ _⟩
      · exact ⟨rfl, hindex _ _⟩
    · have hside := fun source limit timeout => x.silent_searchBoth source hterms
        (Strategy.choose q) limit timeout now
      refine ⟨(x.join_silent _ (hside _ _ _)).1, ?_⟩
      rw [(x.join_silent _ (hside _ _ _)).2]
      exact hboth _ _ _

end Searches

/-! ## Searches that ask nothing -/

/-- How many results a search asks of the index: twice the limit if a source is asked, too. -/
def asked (x : Searcher σ α) (options : SearchOptions) : Int :=
  match (if options.semantic then x.source else none) with
  | none => x.limits.resolve options.limit
  | some _ => x.limits.resolve options.limit * 2

/-- What a search comes to that finds nothing: a limit that cannot be divided is an error. -/
def nothing (s : Strategy) (limit : Int) : Except SearchError (List (SearchResult Float)) :=
  if s = .unified ∧ (overflow : Int) ≤ limit then .error (.arithmetic .outOfRange) else .ok []

theorem nothing_zero (s : Strategy) : nothing s 0 = .ok [] :=
  if_neg fun h => absurd h.2 (not_le.mpr (Int.natCast_pos.mpr Number.overflow_pos))

/-- What is made of nothing found comes to nothing as well. -/
theorem nothing_bind (s : Strategy) (limit : Int)
    {f : List (SearchResult Float) → Except SearchError (List (SearchResult Float))}
    (hf : f [] = .ok []) : (nothing s limit).bind f = nothing s limit := by
  unfold nothing
  split
  · rfl
  · exact hf

/-- The index side has made no calls and found nothing. -/
def SilentIndex (s : Strategy) (limit : Int) (index : IndexRun Float) : Prop :=
  index.calls = [] ∧ index.outcome = nothing s limit

section Silence

variable (x : Searcher Semantic.Client Float) {q : Query} (hterms : q.terms = []) {s : Strategy}
  (hs : s = .single .hashtag → q.hashtags = []) (limit : Int)

include hterms hs

/-- Either the limit cannot be divided, or no planned search reaches the store. -/
theorem ofStrategy_silent :
    (IndexPlan.ofStrategy x.adjuster x.store s q limit = .error .outOfRange ∧
      nothing s limit = .error (.arithmetic .outOfRange)) ∨
    ∃ p, IndexPlan.ofStrategy x.adjuster x.store s q limit = .ok p ∧ p.Silent ∧
      nothing s limit = .ok [] := by
  unfold nothing
  by_cases hover : s = .unified ∧ (overflow : Int) ≤ limit
  · have hpos : (0 : Int) < overflow := Int.natCast_pos.mpr Number.overflow_pos
    rw [if_pos hover, hover.1]
    exact Or.inl ⟨IndexPlan.unified_eq_error _ _ _ (hpos.trans_le hover.2) hover.2, rfl⟩
  · obtain ⟨p, hp⟩ := IndexPlan.exists_ofStrategy x.adjuster x.store q hover
    rw [if_neg hover]
    exact Or.inr ⟨p, hp, IndexPlan.silent_ofStrategy hp hterms hs, rfl⟩

variable (timeout : Option Float) (now : Float)

theorem searchIndex_silent : SilentIndex s limit (x.searchIndex s q limit timeout now) := by
  unfold searchIndex
  rcases x.ofStrategy_silent hterms hs limit with ⟨hplan, hnothing⟩ | ⟨p, hplan, hp, hnothing⟩
  · rw [hplan]
    exact ⟨rfl, hnothing.symm⟩
  · rw [hplan]
    exact ⟨hp.calls, hp.outcome.trans hnothing.symm⟩

theorem searchBoth_silent (source : Semantic.Client) :
    SilentIndex s limit (x.searchBoth source s q limit timeout now).1 := by
  unfold searchBoth
  rcases x.ofStrategy_silent hterms hs limit with ⟨hplan, hnothing⟩ | ⟨p, hplan, hp, hnothing⟩
  · rw [hplan]
    exact ⟨rfl, hnothing.symm⟩
  · rw [hplan]
    exact ⟨hp.calls, hp.outcome.trans hnothing.symm⟩

end Silence

section Outcomes

variable (x : Searcher Semantic.Client Float) {q : Query} (hterms : q.terms = [])
  (htags : Strategy.choose q = .single .hashtag → q.hashtags = []) (options : SearchOptions)
  (now : Float)

include hterms htags

theorem search_calls_silent : (x.search q options now).calls = [] :=
  (x.search_requests_calls hterms now options (P := fun calls => calls = []) rfl
    (fun limit timeout => (x.searchIndex_silent hterms htags limit timeout now).1)
    (fun source limit timeout => (x.searchBoth_silent hterms htags limit timeout now source).1)).2

theorem search_outcome_silent :
    (x.search q options now).outcome = nothing (Strategy.choose q) (x.asked options) := by
  unfold search asked
  simp only
  generalize x.limits.resolve options.limit = limit
  split
  · rename_i hlimit
    rw [hlimit, zero_mul]
    split <;> exact (nothing_zero _).symm
  · cases (if options.semantic then x.source else none) with
    | none =>
      obtain ⟨-, hindex⟩ := x.searchIndex_silent hterms htags limit
        (options.timeout.or x.limits.timeout) now
      simp only [x.outcome_lexicalOnly, hindex]
      exact nothing_bind _ _ (f := fun found => .ok (cut limit found)) (congrArg _ List.take_nil)
    | some source =>
      obtain ⟨-, hindex⟩ := x.searchBoth_silent hterms htags (limit * 2)
        (options.timeout.or x.limits.timeout) now source
      have hside := x.silent_searchBoth source hterms (Strategy.choose q) (limit * 2)
        (options.timeout.or x.limits.timeout) now
      simp only [x.join_alone hside.2, hindex]
      refine nothing_bind _ _ ?_
      rw [x.fusion.fuse_nil]
      rfl

end Outcomes

/-- A search for tags alone asks the index for nothing else. -/
theorem search_calls_tags (x : Searcher Semantic.Client Float) {q : Query} (hterms : q.terms = [])
    (htags : Strategy.choose q = .single .hashtag) (options : SearchOptions) (now : Float) :
    ∀ call ∈ (x.search q options now).calls,
      ∃ compiled f n time, call = .search .hashtag compiled f n time := by
  refine (x.search_requests_calls hterms now options (P := fun calls => ∀ call ∈ calls,
    ∃ compiled f n time, call = .search .hashtag compiled f n time) (by simp) ?_ ?_).2
  · intro limit timeout call hcall
    rw [htags] at hcall
    exact IndexPlan.calls_tags hcall
  · intro source limit timeout call hcall
    rw [htags] at hcall
    exact IndexPlan.calls_tags hcall

end Searcher

/-! ## Prefixes -/

/-- A document has a word that, in lower case, begins with a prefix of a lexical query, and this
prefix is not empty. -/
def Document.Matches (doc : Document) (d : Descriptor) (compiled : Text) : Prop :=
  ∃ name ∈ d.fields, ∃ value, doc.fields.get? name = some value ∧
    ∃ word, Text.HasWord value word ∧
      ∃ p ∈ Lexical.split compiled, p ≠ [] ∧ Text.lower p <+: Text.lower word

theorem Document.BeginsWith.matches {doc : Document} {d : Descriptor} {compiled : Text}
    (h : doc.BeginsWith d (MemoryIndex.searchPrefixes compiled)) : doc.Matches d compiled := by
  obtain ⟨name, hname, value, hvalue, word, hword, lowered, hlowered, hbegins⟩ := h
  obtain ⟨p, hp, rfl⟩ := List.mem_map.mp hlowered
  exact ⟨name, hname, value, hvalue, word, hword, p, hp, Lexical.ne_nil_of_mem_split hp, hbegins⟩

/-- What a search in memory finds matches the lexical query. -/
theorem MemoryIndex.matches_of_mem_search [Scalar α] {m : MemoryIndex} {d : Descriptor}
    {compiled : Text} {f : Filters} {limit : Int} {hits : List (Hit α)}
    (h : m.search d compiled f limit = .ok hits) {hit : Hit α} (hhit : hit ∈ hits) :
    ∃ t, typeOfIndex? d.index = some t ∧
      ∃ doc ∈ m.documentsOf t, doc.entityId = hit.entityId ∧ doc.Matches d compiled := by
  cases htype : typeOfIndex? d.index with
  | none =>
    unfold search at h
    rw [htype] at h
    cases h
  | some t =>
    rcases search_index_eq_ok htype h with rfl | ⟨ranked, rfl, hperm⟩
    · cases hhit
    · have hranked := hperm.mem_iff.mp ((cut_sublist limit ranked).subset hhit)
      obtain ⟨doc, hdoc, hfound⟩ := List.mem_filterMap.mp hranked
      have hbegins : doc.BeginsWith d (searchPrefixes compiled) := by
        rw [← isSome_hit?_iff (α := α), hfound]
        rfl
      exact ⟨t, rfl, doc, List.mem_of_mem_filter hdoc, (entityId_hit? hfound).symm,
        hbegins.matches⟩

/-! ## Search strings -/

theorem Strategy.choose_eq_single_iff {q : Query} :
    Strategy.choose q = .single .hashtag ↔ q.resolvedType = some .hashtag := by
  unfold choose
  split
  · rename_i h
    simp [h]
  · rename_i h
    simp [h]
  · rename_i h
    simp [h]

namespace Searcher

/-- A search string without terms finds nothing, and neither the index nor the semantic service is
asked, unless the search is for tags and the string names some; then the service is not asked, and
of the index nothing but tags. The one such search that comes to no result is one in all types whose
limit cannot be divided. No lexical query has an empty prefix, and every document that is found has
a word that begins with a prefix which is not empty. -/
theorem search_termless (x : Searcher Semantic.Client Float) (raw : Text)
    (hterms : (Query.parse raw).terms = []) (options : SearchOptions) (now : Float) :
    let q := Query.parse raw
    let run := x.search q options now
    let indivisible := Strategy.choose q = .unified ∧ (overflow : Int) ≤ x.asked options
    run.requests = [] ∧
    (¬ (q.resolvedType = some .hashtag ∧ q.hashtags ≠ []) → run.calls = [] ∧
      (¬ indivisible → run.outcome = .ok []) ∧
      (indivisible → run.outcome = .error (.arithmetic .outOfRange))) ∧
    (q.resolvedType = some .hashtag → ∀ call ∈ run.calls,
      ∃ compiled f n time, call = .search .hashtag compiled f n time) ∧
    (∀ compiled, [] ∉ Lexical.split compiled) ∧
    ∀ (m : MemoryIndex) d compiled f limit (hits : List (Hit Float)),
      m.search d compiled f limit = .ok hits → ∀ hit ∈ hits,
        ∃ t, MemoryIndex.typeOfIndex? d.index = some t ∧
          ∃ doc ∈ m.documentsOf t, doc.entityId = hit.entityId ∧ doc.Matches d compiled := by
  intro q run indivisible
  refine ⟨?requests, ?silent, ?tags, fun _ hnil => Lexical.ne_nil_of_mem_split hnil rfl, ?found⟩
  case requests =>
    exact (x.search_requests_calls hterms now options (P := fun _ => True) trivial
      (fun _ _ => trivial) (fun _ _ _ => trivial)).1
  case silent =>
    intro hnot
    have htags : Strategy.choose q = .single .hashtag → q.hashtags = [] := by
      intro hchosen
      by_contra hsome
      exact hnot ⟨Strategy.choose_eq_single_iff.mp hchosen, hsome⟩
    have houtcome := x.search_outcome_silent hterms htags options now
    unfold nothing at houtcome
    refine ⟨x.search_calls_silent hterms htags options now, fun hsmall => ?_, fun hover => ?_⟩
    · rwa [if_neg hsmall] at houtcome
    · rwa [if_pos hover] at houtcome
  case tags =>
    intro htype
    exact x.search_calls_tags hterms (Strategy.choose_eq_single_iff.mpr htype) options now
  case found =>
    intro m d compiled f limit hits h hit hhit
    exact MemoryIndex.matches_of_mem_search h hhit

/-- A searcher beside the semantic service whose limits go up to a greatest one. -/
def besideService (maxLimit : Int) : Searcher Semantic.Client Float where
  store := .down
  source := some { baseUrl := "http://semantic" }
  limits := { maxLimit := maxLimit }
  fusion := .usual
  adjuster := ⟨.usual, .ok 0⟩

/-- A search string of filters alone finds nothing in a store that does not answer, and fails if
more results than a double can count are allowed and asked for. -/
theorem search_termless_filters :
    (Query.parse "author:p min_likes:3").terms = [] ∧
    ((besideService 500).search (Query.parse "author:p min_likes:3")
      { semantic := true } 0).outcome = .ok [] ∧
    ((besideService 500).search (Query.parse "author:p min_likes:3")
      { semantic := true } 0).calls = [] ∧
    ((besideService (10 ^ 400 : ℕ)).search (Query.parse "author:p min_likes:3")
      { limit := some (10 ^ 400 : ℕ) } 0).outcome = .error (.arithmetic .outOfRange) := by
  have hterms : (Query.parse "author:p min_likes:3").terms = [] := by decide +kernel
  have hfilters : ¬ ((Query.parse "author:p min_likes:3").resolvedType = some .hashtag ∧
      (Query.parse "author:p min_likes:3").hashtags ≠ []) := by decide +kernel
  obtain ⟨-, hfew, -⟩ := search_termless (besideService 500) _ hterms { semantic := true } 0
  obtain ⟨-, hmany, -⟩ := search_termless (besideService (10 ^ 400 : ℕ)) _ hterms
    { limit := some (10 ^ 400 : ℕ) } 0
  obtain ⟨hcalls, hnothing, -⟩ := hfew hfilters
  obtain ⟨-, -, hfails⟩ := hmany hfilters
  exact ⟨hterms, hnothing (by decide +kernel), hcalls, hfails (by decide +kernel)⟩

end Searcher

end EntitySearch

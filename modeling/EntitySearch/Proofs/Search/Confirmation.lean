import EntitySearch.Proofs.Index.Checks
import EntitySearch.Proofs.Search.Soundness
/-!
# Confirming secondary results

Secondary results that the index has returned are not checked again; the others are checked type by
type. This keeps the same results as checking all of them (`Secondary.filter_lexical`): what the
index returns it confirms, and where it returns something of a type it could check every document of
that type. If some result of a type cannot be checked, all results of the type are dropped.
-/

namespace EntitySearch

variable {α : Type}

/-! ## What a search has checked -/

namespace MemoryIndex

variable {m : MemoryIndex} {t : EntityType} {d : Descriptor} {f : Filters} {compiled : Text}
  {limit : Int}

/-- A search that hits anything could check its filters on every document of the type. -/
theorem checked_of_mem_search [Scalar α] (hd : Descriptor.of? t = some d) {hits : List (Hit α)}
    (h : m.search d compiled f limit = .ok hits) {hit : Hit α} (hhit : hit ∈ hits) :
    ∀ doc ∈ m.documentsOf t, m.Checked d f doc := by
  intro doc hdoc
  by_contra hfails
  by_cases hnothing : searchPrefixes compiled = [] ∨ limit ≤ 0
  · rw [search_nothing hd hnothing] at h
    cases h
    cases hhit
  · rw [not_or] at hnothing
    rw [search_unchecked hd (by omega) hnothing.1 hdoc hfails] at h
    cases h

end MemoryIndex

/-! ## Checks of single entities -/

namespace MemoryIndex

variable {m : MemoryIndex} {q : Query} {key : EntityType × Text}

/-- The check of an entity for a query. What cannot pass by its type or kind fails without a look
into the index. -/
def check (m : MemoryIndex) (q : Query) (key : EntityType × Text) : Except StoreError Bool :=
  match Secondary.checkable? q key.1 with
  | none => .ok false
  | some d => m.checkOf key.1 d q.filters key.2

theorem confirms_iff :
    m.Confirms q key ↔
      ∃ d, Secondary.checkable? q key.1 = some d ∧ m.Holds d q.filters key := by
  unfold Confirms Secondary.checkable?
  simp only [Option.filter_eq_some_iff, and_assoc]

theorem check_eq_ok_true_iff : m.check q key = .ok true ↔ m.Confirms q key := by
  unfold check
  rw [confirms_iff]
  cases Secondary.checkable? q key.1 with
  | none => simp
  | some d => simp [checkOf_eq_ok_true_iff]

/-- The index can check all results of a type. -/
def CanCheck (m : MemoryIndex) (q : Query) (results : List (SearchResult α)) (t : EntityType) :
    Prop :=
  ∀ r ∈ results, r.entityType = t → ∃ answer, m.check q r.key = .ok answer

/-- If the filters can be checked on every document of a type, all results of the type can be
checked. -/
theorem canCheck_of_checked {t : EntityType} {d : Descriptor} (hd : Descriptor.of? t = some d)
    (h : ∀ doc ∈ m.documentsOf t, m.Checked d q.filters doc) (results : List (SearchResult α)) :
    m.CanCheck q results t := by
  rintro r - rfl
  unfold check
  cases hcheckable : Secondary.checkable? q r.key.1 with
  | none => exact ⟨false, rfl⟩
  | some d' =>
    have hsame : some d' = some d := by
      rw [← (Option.filter_eq_some_iff.mp hcheckable).1, ← hd]
      rfl
    cases hsame
    show ∃ answer, m.checkOf r.entityType d q.filters r.entityId = .ok answer
    unfold checkOf
    cases hdoc : m.documents.get? (r.entityType, r.entityId) with
    | none => exact ⟨false, rfl⟩
    | some doc => exact h doc (mem_documentsOf.mpr ⟨_, Ledger.mem_of_get? hdoc⟩)

/-- As long as all counters are known, all results of a type of which anything is confirmed can be
checked. -/
theorem canCheck_of_counted (hcounted : m.Counted) (h : m.Confirms q key)
    (results : List (SearchResult α)) : m.CanCheck q results key.1 := by
  obtain ⟨d, hd, doc, -, hpassed⟩ := confirms_iff.mp h
  exact canCheck_of_checked (Option.filter_eq_some_iff.mp hd).1
    (fun other _ => checked_of_passed hcounted hpassed other) results

end MemoryIndex

/-! ## Groups of results -/

namespace Secondary

open MemoryIndex (CanCheck)

variable {m : MemoryIndex} {q : Query}

/-- What the index confirms of a group: the entities that it confirms one by one, if it can check
all of them. -/
theorem mem_confirm_iff [Scalar α] {t : EntityType} {ids : List Text} {key : EntityType × Text} :
    key ∈ confirm (m.toStore : IndexStore α) q (t, ids) ↔
      (key.1 = t ∧ key.2 ∈ ids ∧ m.Confirms q key) ∧
        ∀ id ∈ ids, ∃ answer, m.check q (t, id) = .ok answer := by
  unfold confirm
  cases hcheckable : checkable? q t with
  | none =>
    simp only [List.not_mem_nil, false_iff, not_and]
    rintro ⟨rfl, -, hconfirms⟩
    obtain ⟨d, hd, -⟩ := MemoryIndex.confirms_iff.mp hconfirms
    rw [hcheckable] at hd
    cases hd
  | some d =>
    have hcheck : ∀ id, m.check q (t, id) = m.checkOf t d q.filters id := by
      intro id
      simp only [MemoryIndex.check, hcheckable]
    have hmatching : (m.toStore : IndexStore α).filterMatching d ids q.filters =
        ids.filterM (m.checkOf t d q.filters) :=
      MemoryIndex.filterMatching_eq (Option.filter_eq_some_iff.mp hcheckable).1 ids
    simp only [hmatching, hcheck]
    by_cases hall : ∀ id ∈ ids, ∃ answer, m.checkOf t d q.filters id = .ok answer
    · rw [filterM_answered hall, and_iff_left hall]
      simp only [List.mem_map, List.mem_filter, isPassed_iff]
      constructor
      · rintro ⟨id, ⟨hid, hpassed⟩, rfl⟩
        refine ⟨rfl, hid, MemoryIndex.check_eq_ok_true_iff.mp ?_⟩
        rw [hcheck, hpassed]
      · rintro ⟨rfl, hid, hconfirms⟩
        refine ⟨key.2, ⟨hid, ?_⟩, rfl⟩
        rw [← hcheck]
        exact MemoryIndex.check_eq_ok_true_iff.mpr hconfirms
    · -- a check that fails is the end of the whole group
      cases hids : ids.filterM (m.checkOf t d q.filters) with
      | ok kept => exact absurd (answered_of_filterM hids) hall
      | error e => exact iff_of_false List.not_mem_nil fun h => hall h.2

/-- The groups are the types of results with the ids of each. -/
theorem mem_grouped_iff {results : List (SearchResult α)} {t : EntityType} {ids : List Text} :
    (t, ids) ∈ grouped results ↔ (∃ r ∈ results, r.entityType = t) ∧
      ids = (results.filter fun r => r.entityType = t).map SearchResult.entityId := by
  unfold grouped
  simp only [List.mem_map, List.mem_eraseDups, Prod.mk.injEq]
  constructor
  · rintro ⟨_, ht, rfl, rfl⟩
    exact ⟨ht, rfl⟩
  · rintro ⟨ht, rfl⟩
    exact ⟨t, ht, rfl, rfl⟩

/-- What the index confirms of results: those that it confirms one by one, of types of which it can
check all results. -/
theorem mem_flatMap_confirm_iff [Scalar α] {results : List (SearchResult α)} {r : SearchResult α}
    (hr : r ∈ results) :
    r.key ∈ (grouped results).flatMap (confirm (m.toStore : IndexStore α) q) ↔
      m.Confirms q r.key ∧ m.CanCheck q results r.entityType := by
  have hids : ∀ t id, id ∈ (results.filter fun r => r.entityType = t).map SearchResult.entityId ↔
      ∃ r ∈ results, r.entityType = t ∧ r.entityId = id := by
    intro t id
    simp [and_assoc]
  have hcheck : ∀ t, (∀ id ∈ (results.filter fun r => r.entityType = t).map SearchResult.entityId,
      ∃ answer, m.check q (t, id) = .ok answer) ↔ m.CanCheck q results t := by
    intro t
    simp only [hids]
    constructor
    · rintro h r hr rfl
      exact h _ ⟨r, hr, rfl, rfl⟩
    · rintro h _ ⟨r, hr, rfl, rfl⟩
      exact h r hr rfl
  rw [List.mem_flatMap]
  constructor
  · rintro ⟨⟨t, ids⟩, hgroup, hkey⟩
    obtain ⟨⟨htype, -, hconfirms⟩, hanswered⟩ := mem_confirm_iff.mp hkey
    rw [(mem_grouped_iff.mp hgroup).2, hcheck] at hanswered
    refine ⟨hconfirms, ?_⟩
    rw [← htype] at hanswered
    exact hanswered
  · rintro ⟨hconfirms, hall⟩
    refine ⟨(r.entityType, _), mem_grouped_iff.mpr ⟨⟨r, hr, rfl⟩, rfl⟩, mem_confirm_iff.mpr ?_⟩
    exact ⟨⟨rfl, (hids _ _).mpr ⟨r, hr, rfl, rfl⟩, hconfirms⟩, (hcheck _).mpr hall⟩

/-! ## Results that are trusted -/

/-- Entities can be trusted without a check: the index confirms them, and it can check everything of
their types. -/
structure Trusted (m : MemoryIndex) (q : Query) (keys : List (EntityType × Text)) : Prop where
  confirms : ∀ key ∈ keys, m.Confirms q key
  canCheck : ∀ key ∈ keys, ∀ results : List (SearchResult α), m.CanCheck q results key.1

/-- Checking what is not trusted confirms the same results as checking all of them. -/
theorem mem_confirmed_iff [Scalar α] {returned : List (EntityType × Text)}
    (htrusted : Trusted (α := α) m q returned) {results : List (SearchResult α)}
    {r : SearchResult α} (hr : r ∈ results) :
    r.key ∈ returned ++ (grouped (unconfirmed returned results)).flatMap
        (confirm (m.toStore : IndexStore α) q) ↔
      m.Confirms q r.key ∧ m.CanCheck q results r.entityType := by
  have hmem : ∀ r', r' ∈ unconfirmed returned results ↔ r' ∈ results ∧ r'.key ∉ returned := by
    intro r'
    simp [unconfirmed]
  rw [List.mem_append]
  by_cases hreturned : r.key ∈ returned
  · exact iff_of_true (Or.inl hreturned)
      ⟨htrusted.confirms _ hreturned, htrusted.canCheck _ hreturned results⟩
  · -- what is trusted of the same type could be checked as well
    rw [or_iff_right hreturned, mem_flatMap_confirm_iff ((hmem r).mpr ⟨hr, hreturned⟩)]
    refine and_congr_right fun _ => ⟨?_, ?_⟩
    · intro hcheck r' hr' htype
      by_cases hother : r'.key ∈ returned
      · exact ⟨true, MemoryIndex.check_eq_ok_true_iff.mpr (htrusted.confirms _ hother)⟩
      · exact hcheck r' ((hmem r').mpr ⟨hr', hother⟩) htype
    · intro hcheck r' hr' htype
      exact hcheck r' ((hmem r').mp hr').1 htype

end Secondary

/-- What the search in a type returns can be trusted. -/
theorem TypeSearch.canCheck_of_mem_results [LogScalar α] {m : MemoryIndex} {adjuster : Adjuster α}
    {t : EntityType} {q : Query} {limit : Int} {r : SearchResult α}
    (hr : r ∈ (plan adjuster m.toStore t q limit).results) (results : List (SearchResult α)) :
    m.CanCheck q results t := by
  rcases results_eq_nil_or adjuster m.toStore t q limit with
    hnil | ⟨d, hits, adjusted, hd, -, hsearch, hadjust, h⟩
  · rw [hnil] at hr
    cases hr
  · rw [h] at hr
    have hadjusted := (order_perm d q adjusted).mem_iff.mp ((cut_sublist limit _).subset hr)
    have hkey := List.mem_map_of_mem (f := SearchResult.key) hadjusted
    rw [Adjuster.keys_adjust adjuster m.toStore d hadjust] at hkey
    obtain ⟨hit, hhit, -⟩ := List.mem_map.mp hkey
    exact MemoryIndex.canCheck_of_checked hd
      (MemoryIndex.checked_of_mem_search hd (search_toStore hsearch) hhit) results

namespace Secondary

variable [LogScalar α] {m : MemoryIndex} {q : Query}

/-- What searching the index returns can be trusted. -/
theorem trusted_of_outcome (hm : m.Keyed) {adjuster : Adjuster α} {p : IndexPlan α}
    (hp : IndexPlan.Planned adjuster m.toStore q p) {fanout : Fanout EntityType}
    {lexical : List (SearchResult α)} (h : p.outcome fanout = .ok lexical) :
    Trusted (α := α) m q (lexical.map SearchResult.key) := by
  constructor
  · intro key hkey
    obtain ⟨r, hr, rfl⟩ := List.mem_map.mp hkey
    exact (hp.confirms_of_mem_outcome hm h hr).1
  · intro key hkey results
    obtain ⟨r, hr, rfl⟩ := List.mem_map.mp hkey
    obtain ⟨s, -, hfound⟩ := hp.exists_of_mem_outcome h hr
    have htype := (TypeSearch.confirms_of_mem_results hm _ _ _ _ hfound).1
    have hcheck := TypeSearch.canCheck_of_mem_results hfound results
    rw [← htype] at hcheck
    exact hcheck

/-! ## What is kept -/

omit [LogScalar α] in
open Classical in
theorem ofType_eq (s : Strategy) (results : List (SearchResult α)) :
    ofType s results =
      results.filter fun r => decide (∀ t, s.type? = some t → r.entityType = t) := by
  unfold ofType
  cases s.type? with
  | none => simp
  | some t => simp

omit [LogScalar α] in
theorem mem_ofType_iff {s : Strategy} {results : List (SearchResult α)} {r : SearchResult α} :
    r ∈ ofType s results ↔ r ∈ results ∧ ∀ t, s.type? = some t → r.entityType = t := by
  rw [ofType_eq, List.mem_filter, decide_eq_true_eq]

omit [LogScalar α] in
/-- Whether a result can be checked with those of its type is the same for all results and for those
of the type that is searched. -/
theorem canCheck_ofType_iff {s : Strategy} {results : List (SearchResult α)} {r : SearchResult α}
    (hr : r ∈ ofType s results) :
    m.CanCheck q (ofType s results) r.entityType ↔ m.CanCheck q results r.entityType := by
  constructor
  · intro h r' hr' htype
    refine h r' (mem_ofType_iff.mpr ⟨hr', fun t ht => ?_⟩) htype
    rw [htype]
    exact (mem_ofType_iff.mp hr).2 t ht
  · intro h r' hr' htype
    exact h r' (mem_ofType_iff.mp hr').1 htype

open Classical in
/-- What is kept, whatever is trusted: the results of the type that is searched which the index
confirms, if there are filters, and of types of which it can check all results. -/
theorem filter_eq {returned : List (SearchResult α)}
    (htrusted : Trusted (α := α) m q (returned.map SearchResult.key)) (s : Strategy)
    (results : List (SearchResult α)) :
    (filter m.toStore q s results returned).1 = (ofType s results).filter fun r =>
      decide (q.filters.isEmpty = true ∨
        (m.Confirms q r.key ∧ m.CanCheck q results r.entityType)) := by
  unfold filter
  simp only
  split
  · rename_i hskip
    rw [Bool.or_eq_true, List.isEmpty_iff] at hskip
    rcases hskip with hempty | hnone
    · simp [hempty]
    · simp [hnone]
  · rename_i hcheck
    rw [Bool.or_eq_true, not_or] at hcheck
    refine List.filter_congr fun r hr => ?_
    rw [Bool.eq_iff_iff, List.contains_iff_mem, mem_confirmed_iff htrusted hr, decide_eq_true_eq,
      or_iff_right hcheck.1, canCheck_ofType_iff hr]

open Classical in
/-- After any history, and whatever a search of the index for a query has returned, what is kept of
secondary results is what would be kept if none of them were trusted: in their order and with
repeats the results of the type that is searched that, if there are filters, the index confirms, and
of types of which it can check all results. So if all can be checked, or no counter is unknown, all
that the index confirms are kept. -/
theorem filter_lexical (changes : List MemoryIndex.Change) (q : Query) {adjuster : Adjuster α}
    {searched : Strategy} {limit : Int} {p : IndexPlan α}
    (hp : IndexPlan.ofStrategy adjuster (MemoryIndex.after changes).toStore searched q limit =
      .ok p)
    {fanout : Fanout EntityType} {lexical : List (SearchResult α)}
    (h : p.outcome fanout = .ok lexical) (s : Strategy) (results : List (SearchResult α)) :
    (filter (MemoryIndex.after changes).toStore q s results lexical).1 =
      (filter (MemoryIndex.after changes).toStore q s results []).1 ∧
    (filter (MemoryIndex.after changes).toStore q s results lexical).1 = results.filter (fun r =>
      decide ((∀ t, s.type? = some t → r.entityType = t) ∧ (q.filters.isEmpty = true ∨
        ((MemoryIndex.after changes).Confirms q r.key ∧
          (MemoryIndex.after changes).CanCheck q results r.entityType)))) ∧
    ((∀ t, (MemoryIndex.after changes).CanCheck q results t) ∨
        (MemoryIndex.after changes).Counted →
      (filter (MemoryIndex.after changes).toStore q s results lexical).1 = results.filter (fun r =>
        decide ((∀ t, s.type? = some t → r.entityType = t) ∧ (q.filters.isEmpty = true ∨
          (MemoryIndex.after changes).Confirms q r.key)))) := by
  have htrusted := trusted_of_outcome (MemoryIndex.after_keyed changes)
    (IndexPlan.planned_ofStrategy hp) h
  have hnone : Trusted (α := α) (MemoryIndex.after changes) q
      (([] : List (SearchResult α)).map SearchResult.key) := ⟨by simp, by simp⟩
  have hkept := filter_eq htrusted s results
  rw [ofType_eq, List.filter_filter] at hkept
  refine ⟨(filter_eq htrusted s results).trans (filter_eq hnone s results).symm, ?_, ?_⟩
  · rw [hkept]
    refine List.filter_congr fun r _ => ?_
    rw [Bool.decide_and, Bool.and_comm]
  · intro hall
    have hcan : ∀ r : SearchResult α, (MemoryIndex.after changes).Confirms q r.key →
        (MemoryIndex.after changes).CanCheck q results r.entityType := by
      intro r hconfirms
      rcases hall with hall | hcounted
      · exact hall r.entityType
      · exact MemoryIndex.canCheck_of_counted hcounted hconfirms results
    rw [hkept]
    refine List.filter_congr fun r _ => ?_
    rw [Bool.decide_and, Bool.and_comm]
    simp only [and_iff_left_of_imp (hcan r)]

/-! A video and a note that share an id, of which only the video is by the author who is asked for,
and a source that returns the video twice. -/

open Searcher (sharedId byAuthor careless)

/-- What the source returns: the note, the video, a video that does not exist, and the video. -/
def fourResults : List (SearchResult Float) :=
  [⟨.note, "a", 1, .null, [], 0, none⟩, ⟨.video, "a", 1, .null, [], 0, none⟩,
    ⟨.video, "b", 1, .null, [], 0, none⟩, ⟨.video, "a", 2, .null, [], 0, none⟩]

set_option maxRecDepth 100000 in
theorem filter_lexical_shared : ∃ (p : IndexPlan Float) (fanout : Fanout EntityType)
    (lexical : List (SearchResult Float)),
    IndexPlan.ofStrategy careless.adjuster (MemoryIndex.after sharedId).toStore .unified byAuthor
      2 = .ok p ∧
    p.outcome fanout = .ok lexical ∧
    lexical.map SearchResult.key = [(EntityType.video, ("a" : Text))] ∧
    (filter (MemoryIndex.after sharedId).toStore byAuthor .unified fourResults lexical).1.map
      SearchResult.key = [(EntityType.video, ("a" : Text)), (EntityType.video, ("a" : Text))] := by
  have hplan : ∃ p : IndexPlan Float, IndexPlan.unified careless.adjuster
      (MemoryIndex.after sharedId).toStore byAuthor 2 = .ok p :=
    IndexPlan.exists_unified _ _ _ (by decide +kernel)
  obtain ⟨p, hp⟩ := hplan
  have hstrategy : IndexPlan.ofStrategy careless.adjuster (MemoryIndex.after sharedId).toStore
      .unified byAuthor 2 = .ok p := hp
  obtain ⟨-, race, -, -, hrun, -, -⟩ :=
    (careless.onIndex (MemoryIndex.after sharedId)).searchIndex_unified hp none 0
  have hkeys : (((careless.onIndex (.after sharedId)).searchIndex .unified byAuthor 2 none
      0).outcome.map (List.map SearchResult.key)).toOption =
        some [(EntityType.video, ("a" : Text))] := by
    decide +kernel
  rw [hrun] at hkeys
  cases hlexical : p.outcome race.fanout with
  | error e =>
    rw [hlexical] at hkeys
    cases hkeys
  | ok lexical =>
    rw [hlexical] at hkeys
    refine ⟨p, race.fanout, lexical, hstrategy, hlexical, Option.some.inj hkeys, ?_⟩
    rw [(filter_lexical sharedId byAuthor hstrategy hlexical .unified fourResults).1]
    decide +kernel

/-! Two videos of which one has an unknown number of likes. -/

/-- The changes that enter the videos. -/
def halfKnown : List MemoryIndex.Change :=
  [.add .video { entityId := "a", fields := [("title", "bit one")] }
      { likes := none, loops := some 1 },
   .add .video { entityId := "b", fields := [("title", "bit two")] } { likes := some 5 }]

/-- A query for what is liked. -/
def wellLiked : Query := { terms := ["bit"], filters := { minLikes := .value 3 } }

/-- Both videos, as a source returns them. -/
def bothVideos : List (SearchResult Float) :=
  [⟨.video, "a", 1, .null, [], 0, none⟩, ⟨.video, "b", 1, .null, [], 0, none⟩]

set_option maxRecDepth 100000 in
/-- The video with the known number of likes passes, but it is dropped with the other one. -/
theorem filter_halfKnown : ∃ lexical : List (SearchResult Float),
    Strategy.choose wellLiked = .unified ∧
    ((careless.onIndex (.after halfKnown)).searchIndex .unified wellLiked 2 none 0).outcome =
      .ok lexical ∧
    (MemoryIndex.after halfKnown).Confirms wellLiked (.video, "b") ∧
    (filter (MemoryIndex.after halfKnown).toStore wellLiked .unified bothVideos lexical).1 =
      [] := by
  have hkeys : (((careless.onIndex (.after halfKnown)).searchIndex .unified wellLiked 2 none
      0).outcome.map (List.map SearchResult.key)).toOption = some [] := by
    decide +kernel
  cases hlexical : ((careless.onIndex (.after halfKnown)).searchIndex .unified wellLiked 2 none
      0).outcome with
  | error e =>
    rw [hlexical] at hkeys
    cases hkeys
  | ok lexical =>
    rw [hlexical] at hkeys
    cases List.map_eq_nil_iff.mp (Option.some.inj hkeys)
    refine ⟨[], rfl, rfl, ?_, ?_⟩
    · exact MemoryIndex.check_eq_ok_true_iff.mp (by decide +kernel)
    · exact List.isEmpty_iff.mp (by decide +kernel)

end Secondary

end EntitySearch

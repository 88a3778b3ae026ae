import EntitySearch.Proofs.Index.Evidence
import EntitySearch.Proofs.Index.MergedFilters
import EntitySearch.Proofs.Ranking.Stability
/-!
# Filtering before and after searching

Hits can be restricted to what passes the filters after searching as well as before, as far as the
filters can be checked (`MemoryIndex.filters_commute`): a search checks them on all documents
of the type, the restriction of a search without filters only on those that match.
-/

namespace EntitySearch

namespace MemoryIndex

variable {m : MemoryIndex} {t : EntityType} {d : Descriptor} {f : Filters} {compiled : Text}
  {limit : Int}

/-- A search without filters, restricted to the entities that pass filters. -/
def restricted {α : Type} [Scalar α] (m : MemoryIndex) (d : Descriptor) (compiled : Text)
    (f : Filters) (limit : Int) : Except StoreError (List (Hit α)) := do
  let hits ← m.search d compiled {} limit
  let matching ← m.filterMatching d (hits.map Hit.entityId) f
  pure (hits.filter fun hit => matching.contains hit.entityId)

/-! ## Hits -/

/-- The hits of documents that pass are those hits whose documents pass. -/
theorem filter_matchingPassed {α : Type} [Scalar α] (hm : m.Keyed) (d : Descriptor)
    (compiled : Text) (f : Filters) :
    (m.matchingPassed α t d compiled {}).filter
        (fun hit => isPassed (m.checkOf t d f hit.entityId)) =
      m.matchingPassed α t d compiled f := by
  unfold matchingPassed
  have hall : (m.documentsOf t).filter (fun doc => isPassed (m.passesIn d {} doc)) =
      m.documentsOf t :=
    List.filter_eq_self.mpr fun doc _ => isPassed_iff.mpr (passesIn_noFilters m d doc)
  rw [hall, List.filter_filterMap, List.filterMap_filter]
  refine List.filterMap_congr fun doc hdoc => ?_
  cases hhit : hit? (α := α) d (searchPrefixes compiled) doc with
  | none => simp
  | some hit => simp [Option.filter, entityId_hit? hhit, checkOf_entityId hm hdoc]

theorem isOrderly_of_mem_matchingPassed (hd : Descriptor.of? t = some d) {hit : Hit Float}
    (h : hit ∈ m.matchingPassed Float t d compiled f) : Scalar.isOrderly hit.score = true := by
  obtain ⟨doc, -, hhit⟩ := List.mem_filterMap.mp h
  rw [(shows_hit? (Descriptor.fields_of? hd).1 hhit).score]
  exact isOrderly_rawScore _ _

/-- Hits of documents may be left out before or after ranking. -/
theorem filter_rankHits (hm : m.Keyed) (hd : Descriptor.of? t = some d) (compiled : Text)
    (f : Filters) :
    (rankHits (m.matchingPassed Float t d compiled {})).filter
        (fun hit => isPassed (m.checkOf t d f hit.entityId)) =
      rankHits (m.matchingPassed Float t d compiled f) := by
  have horderly : ∀ hit ∈ m.matchingPassed Float t d compiled {},
      Scalar.isPairOrderly (hit.score, hit.createdAt) = true :=
    fun hit hhit => isOrderly_of_mem_matchingPassed hd hhit
  rw [← filter_matchingPassed hm d compiled f, rankHits, rankHits]
  exact sortDescending_filter Scalar.pairLess_goesBy horderly _

theorem length_matchingPassed_le (m : MemoryIndex) (α : Type) [Scalar α] (t : EntityType)
    (d : Descriptor) (compiled : Text) (f : Filters) :
    (m.matchingPassed α t d compiled f).length ≤ (m.documentsOf t).length :=
  (List.length_filterMap_le _ _).trans (List.length_filter_le _ _)

/-- Nothing is cut off if the limit leaves room for every document. -/
theorem cut_rankHits {α : Type} [Scalar α] (hlimit : ((m.documentsOf t).length : Int) ≤ limit) :
    cut limit (rankHits (m.matchingPassed α t d compiled f)) =
      rankHits (m.matchingPassed α t d compiled f) := by
  have hroom := length_matchingPassed_le m α t d compiled f
  unfold cut
  rw [List.take_of_length_le]
  rw [(rankHits_perm _).length_eq]
  omega

/-- Without filters all hits are shown. -/
theorem search_unfiltered {α : Type} [Scalar α] (hd : Descriptor.of? t = some d)
    (hlimit : ((m.documentsOf t).length : Int) ≤ limit) :
    m.search d compiled {} limit = .ok (rankHits (m.matchingPassed α t d compiled {})) := by
  rw [search_checked hd limit (Or.inr fun doc _ => ⟨true, passesIn_noFilters m d doc⟩),
    cut_rankHits hlimit]

/-! ## Restricting -/

/-- All hits are those of the documents of the type. -/
theorem mem_rankHits_iff {α : Type} [Scalar α] {hit : Hit α} :
    hit ∈ rankHits (m.matchingPassed α t d compiled {}) ↔
      ∃ doc ∈ m.documentsOf t, hit? d (searchPrefixes compiled) doc = some hit := by
  rw [(rankHits_perm _).mem_iff, matchingPassed, List.mem_filterMap]
  refine exists_congr fun doc => and_congr_left fun _ => ?_
  rw [List.mem_filter, isPassed_iff]
  exact and_iff_left (passesIn_noFilters m d doc)

theorem restricted_eq {α : Type} [Scalar α] (hd : Descriptor.of? t = some d)
    (hlimit : ((m.documentsOf t).length : Int) ≤ limit) :
    m.restricted (α := α) d compiled f limit = (do
      let matching ← ((rankHits (m.matchingPassed α t d compiled {})).map
        Hit.entityId).filterM (m.checkOf t d f)
      pure ((rankHits (m.matchingPassed α t d compiled {})).filter fun hit =>
        matching.contains hit.entityId)) := by
  unfold restricted
  rw [search_unfiltered hd hlimit]
  simp only [filterMatching_eq hd]
  rfl

/-- If the filters can be checked on every document that matches, the restriction has what passes
and matches. -/
theorem restricted_checked (hm : m.Keyed) (hd : Descriptor.of? t = some d)
    (hlimit : ((m.documentsOf t).length : Int) ≤ limit)
    (hchecked : ∀ doc ∈ m.documentsOf t, doc.BeginsWith d (searchPrefixes compiled) →
      m.Checked d f doc) :
    m.restricted d compiled f limit = .ok (rankHits (m.matchingPassed Float t d compiled f)) := by
  have hanswered : ∀ id ∈ (rankHits (m.matchingPassed Float t d compiled {})).map Hit.entityId,
      ∃ answer, m.checkOf t d f id = .ok answer := by
    intro id hid
    obtain ⟨hit, hhit, rfl⟩ := List.mem_map.mp hid
    obtain ⟨doc, hdoc, hfound⟩ := mem_rankHits_iff.mp hhit
    rw [entityId_hit? hfound, checkOf_entityId hm hdoc]
    refine hchecked doc hdoc ((isSome_hit?_iff (α := Float)).mp ?_)
    rw [hfound, Option.isSome_some]
  rw [restricted_eq hd hlimit, filterM_answered hanswered, ← filter_rankHits hm hd compiled f]
  refine congrArg Except.ok (List.filter_congr fun hit hhit => ?_)
  have hid := List.mem_map_of_mem (f := Hit.entityId) hhit
  rw [Bool.eq_iff_iff, List.contains_iff_mem, List.mem_filter]
  exact and_iff_right hid

/-- If the filters cannot be checked on a document that matches, they cannot be checked on the
hits. -/
theorem restricted_unchecked (hm : m.Keyed) (hd : Descriptor.of? t = some d)
    (hlimit : ((m.documentsOf t).length : Int) ≤ limit) {doc : Document}
    (hdoc : doc ∈ m.documentsOf t) (hbegins : doc.BeginsWith d (searchPrefixes compiled))
    (hfails : ¬ m.Checked d f doc) :
    m.restricted (α := Float) d compiled f limit = .error .incomparable := by
  obtain ⟨hit, hfound⟩ := Option.isSome_iff_exists.mp ((isSome_hit?_iff (α := Float)).mpr hbegins)
  have hid : doc.entityId ∈
      (rankHits (m.matchingPassed Float t d compiled {})).map Hit.entityId := by
    rw [← entityId_hit? hfound]
    exact List.mem_map_of_mem (mem_rankHits_iff.mpr ⟨doc, hdoc, hfound⟩)
  have herror : m.checkOf t d f doc.entityId = .error .incomparable := by
    rw [checkOf_entityId hm hdoc]
    exact not_checked_iff.mp hfails
  have hmatching : ((rankHits (m.matchingPassed Float t d compiled {})).map
      Hit.entityId).filterM (m.checkOf t d f) = .error .incomparable :=
    filterM_eq_error (fun _ _ _ h => checkOf_eq_error h) hid herror
  rw [restricted_eq hd hlimit, hmatching]
  rfl

/-- After any history, and with a limit that leaves room for every document, a search with filters
and the restriction of a search without them agree if the filters can be checked on all documents of
the type, and then both are answered. Otherwise they agree only if the query has no prefixes or the
filters cannot be checked on a document that matches either: the search fails. Merged filters of
different names have the entries of both, and what passes them is what passes both. -/
theorem filters_commute (changes : List Change) (hd : Descriptor.of? t = some d) (compiled : Text)
    (f : Filters) (hlimit : (((after changes).documentsOf t).length : Int) ≤ limit) :
    ((after changes).search (α := Float) d compiled f limit =
        (after changes).restricted d compiled f limit ↔
      ((∃ doc ∈ (after changes).documentsOf t, ¬ (after changes).Checked d f doc) →
        searchPrefixes compiled = [] ∨ ∃ doc ∈ (after changes).documentsOf t,
          doc.BeginsWith d (searchPrefixes compiled) ∧ ¬ (after changes).Checked d f doc)) ∧
    ((∀ doc ∈ (after changes).documentsOf t, (after changes).Checked d f doc) →
      ∃ hits : List (Hit Float), (after changes).search d compiled f limit = .ok hits ∧
        (after changes).restricted d compiled f limit = .ok hits) ∧
    ∀ g, f.Apart g → (f.merge g).members.Perm (f.members ++ g.members) ∧ ∀ ids,
      (∀ first second, (after changes).filterMatching d ids f = .ok first →
        (after changes).filterMatching d ids g = .ok second →
        (after changes).filterMatching d ids (f.merge g) =
          .ok (first.filter fun id => second.contains id)) ∧
      ∀ e, (after changes).filterMatching d ids (f.merge g) = .error e →
        (after changes).filterMatching d ids f = .error e ∨
          (after changes).filterMatching d ids g = .error e := by
  have hm := after_keyed changes
  have hsearch : (searchPrefixes compiled = [] ∨
      ∀ doc ∈ (after changes).documentsOf t, (after changes).Checked d f doc) →
      (after changes).search (α := Float) d compiled f limit =
        .ok (rankHits ((after changes).matchingPassed Float t d compiled f)) := by
    intro hchecked
    rw [search_checked hd limit hchecked, cut_rankHits hlimit]
  refine ⟨⟨?_, ?_⟩, ?_, ?_⟩
  · -- where a document cannot be checked, the search fails
    rintro hsame ⟨doc, hdoc, hfails⟩
    by_contra hother
    rw [not_or] at hother
    have hroom := List.length_pos_of_mem hdoc
    have hmatching : ∀ doc ∈ (after changes).documentsOf t,
        doc.BeginsWith d (searchPrefixes compiled) → (after changes).Checked d f doc :=
      fun doc hdoc hbegins => by_contra fun hfails => hother.2 ⟨doc, hdoc, hbegins, hfails⟩
    rw [search_unchecked hd (by omega) hother.1 hdoc hfails,
      restricted_checked hm hd hlimit hmatching] at hsame
    cases hsame
  · intro hfails
    by_cases hall : ∀ doc ∈ (after changes).documentsOf t, (after changes).Checked d f doc
    · rw [hsearch (Or.inr hall), restricted_checked hm hd hlimit fun doc hdoc _ => hall doc hdoc]
    · push Not at hall
      rcases hfails hall with hempty | ⟨doc, hdoc, hbegins, hunchecked⟩
      · rw [hsearch (Or.inl hempty), restricted_checked hm hd hlimit fun doc _ hbegins =>
          absurd hempty (prefixes_ne_nil_of_beginsWith hbegins)]
      · have hroom := List.length_pos_of_mem hdoc
        rw [search_unchecked hd (by omega) (prefixes_ne_nil_of_beginsWith hbegins) hdoc hunchecked,
          restricted_unchecked hm hd hlimit hdoc hbegins hunchecked]
  · intro hall
    exact ⟨_, hsearch (Or.inr hall),
      restricted_checked hm hd hlimit fun doc hdoc _ => hall doc hdoc⟩
  · intro g hapart
    refine ⟨Filters.members_merge hapart, fun ids => ⟨fun _ _ => ?_, fun _ => ?_⟩⟩
    · exact filterMatching_merge hd hapart.exclusive
    · exact filterMatching_merge_error hd hapart.exclusive

/-- Two films, the second of which is liked less. -/
def twoFilms : List Change :=
  [.add .video film { likes := some 3 },
    .add .video { film with entityId := "b" } { likes := some 1 }]

theorem filters_commute_films :
    ∃ d, Descriptor.of? .video = some d ∧
      (((after twoFilms).documentsOf .video).length : Int) ≤ 2 ∧
      (∃ hits : List (Hit Float),
        (after twoFilms).search d "bit*" { minLikes := .value 3 } 2 = .ok hits ∧
        (after twoFilms).restricted d "bit*" { minLikes := .value 3 } 2 = .ok hits) ∧
      Filters.Apart { minLikes := .value 3 } { author := .value "ana" } ∧
      (after twoFilms).filterMatching d ["b", "c", "a", "b"]
        (Filters.merge { minLikes := .value 3 } { author := .value "ana" }) = .ok ["a"] := by
  have hroom : (((after twoFilms).documentsOf .video).length : Int) ≤ 2 := by decide +kernel
  have hlikes : ∀ doc ∈ (after twoFilms).documentsOf .video,
      ((after twoFilms).signals doc.entityId).likes ≠ none := by decide +kernel
  have hapart : Filters.Apart { minLikes := .value 3 } { author := .value "ana" } := by decide
  obtain ⟨-, hanswered, hmerged⟩ :=
    filters_commute (t := .video) twoFilms rfl "bit*" { minLikes := .value 3 } hroom
  obtain ⟨-, hboth⟩ := hmerged { author := .value "ana" } hapart
  refine ⟨_, rfl, hroom, hanswered ?_, hapart, ?_⟩
  · intro doc hdoc
    exact checked_of_known (by decide) (fun _ => hlikes doc hdoc) fun hloops => absurd rfl hloops
  · exact (hboth _).1 ["a"] ["b", "a", "b"] (by decide +kernel) (by decide +kernel)

/-- A null bound cannot be checked on a film that does not match, so a search fails, but its
restriction does not. Nor can the bound be checked on films of another author that merged filters
leave out. -/
theorem unsigned_unchecked :
    ∃ d, Descriptor.of? .video = some d ∧
      (((after [.add .video unsigned {}]).documentsOf .video).length : Int) ≤ 1 ∧
      (after [.add .video unsigned {}]).search (α := Float) d "coin*" { minLikes := .null } 1 =
        .error .incomparable ∧
      (after [.add .video unsigned {}]).restricted (α := Float) d "coin*" { minLikes := .null } 1 =
        .ok [] ∧
      Filters.Apart { author := .value "ana" } { minLikes := .null } ∧
      (after [.add .video unsigned {}]).filterMatching d ["a"]
        (Filters.merge { author := .value "ana" } { minLikes := .null }) = .ok [] ∧
      (after [.add .video unsigned {}]).filterMatching d ["a"] { minLikes := .null } =
        .error .incomparable := by
  have hdoc : unsigned.kept ∈ (after [.add .video unsigned {}]).documentsOf .video :=
    kept_mem_documentsOf {} ⟨_, rfl, by decide +kernel⟩
  have hroom : (((after [.add .video unsigned {}]).documentsOf .video).length : Int) ≤ 1 := by
    decide +kernel
  refine ⟨_, rfl, hroom, ?_, ?_, by decide, by decide +kernel, by decide +kernel⟩
  · exact search_unchecked rfl le_rfl (by decide +kernel) hdoc
      (not_checked_iff.mpr (by decide +kernel))
  · rw [restricted_eq rfl hroom, List.isEmpty_iff.mp (by decide +kernel :
      ((after [.add .video unsigned {}]).matchingPassed Float .video _ "coin*" {}).isEmpty = true),
      rankHits_nil]
    rfl

end MemoryIndex

end EntitySearch

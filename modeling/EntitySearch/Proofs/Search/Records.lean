import EntitySearch.Proofs.Search.Degradation
/-!
# Records of results

A result should have the record of its own document. But records are looked up by the id of a result
alone: the types are looked through in a fixed order, and the first document with this id is taken.
A result therefore has its own record if and only if the first document with its id has the same
one, and that is its own document if no type before its own holds the id
(`Searcher.hydrate_lexical`). A user and a tag of the same name show the difference
(`Searcher.hydrate_userAndTag`).
-/

namespace EntitySearch

variable {σ α : Type}

/-! ## Looking through the types -/

/-- The types in the order in which they are looked through for an id. -/
def lookupOrder : List EntityType := [.user, .video, .list, .hashtag, .note, .article, .community]

/-- A type is looked through before another. -/
def EntityType.ComesBefore (t other : EntityType) : Prop :=
  lookupOrder.idxOf t < lookupOrder.idxOf other

theorem mem_lookupOrder {t : EntityType} {d : Descriptor} (hd : Descriptor.of? t = some d) :
    t ∈ lookupOrder := by
  cases t <;> first | decide | cases hd

/-- What is found first in a list is found nowhere before. -/
theorem exists_of_findSome?_eq_some {ι β : Type} [DecidableEq ι] {items : List ι}
    {f : ι → Option β} {b : β} (h : items.findSome? f = some b) :
    ∃ a ∈ items, f a = some b ∧
      ∀ other, items.idxOf other < items.idxOf a → f other = none := by
  obtain ⟨front, a, back, rfl, ha, hfront⟩ := List.findSome?_eq_some_iff.mp h
  refine ⟨a, by simp, ha, fun other hother => hfront other ?_⟩
  have hnot : a ∉ front := by
    intro hin
    rw [hfront a hin] at ha
    cases ha
  by_contra hlater
  rw [List.idxOf_append_of_notMem hnot, List.idxOf_append_of_notMem hlater,
    List.idxOf_cons_self] at hother
  omega

namespace MemoryIndex

variable {m : MemoryIndex} {id : Text}

/-- A document is the first one with an id, the types being looked through in order. -/
structure First (m : MemoryIndex) (id : Text) (t : EntityType) (doc : Document) : Prop where
  known : t ∈ lookupOrder
  holds : m.documents.get? (t, id) = some doc
  before : ∀ other : EntityType, other.ComesBefore t → m.documents.get? (other, id) = none

/-- If there is a document with an id, the record of the first one is found. -/
theorem exists_first {t : EntityType} (ht : t ∈ lookupOrder) {own : Document}
    (hown : m.documents.get? (t, id) = some own) :
    ∃ first doc, m.First id first doc ∧ m.entity? id = some (recordOf doc) := by
  have hsome : (lookupOrder.findSome? fun t => m.documents.get? (t, id)).isSome := by
    rw [List.findSome?_isSome_iff]
    exact ⟨t, ht, Option.isSome_of_eq_some hown⟩
  obtain ⟨doc, hdoc⟩ := Option.isSome_iff_exists.mp hsome
  obtain ⟨first, hknown, hholds, hbefore⟩ := exists_of_findSome?_eq_some hdoc
  refine ⟨first, doc, ⟨hknown, hholds, hbefore⟩, ?_⟩
  have hlookup : (Descriptor.registered.findSome? fun d => m.documents.get? (d.entityType, id)) =
      lookupOrder.findSome? fun t => m.documents.get? (t, id) :=
    (List.findSome?_map (f := Descriptor.entityType) (p := fun t => m.documents.get? (t, id))
      (l := Descriptor.registered)).symm
  unfold entity?
  rw [hlookup, hdoc]
  rfl

/-- The first document with an id is that of a type exactly if no type before it holds the id. -/
theorem First.type_eq_iff {t first : EntityType} (ht : t ∈ lookupOrder) {own doc : Document}
    (hown : m.documents.get? (t, id) = some own) (h : m.First id first doc) :
    first = t ↔
      ∀ other : EntityType, other.ComesBefore t → m.documents.get? (other, id) = none := by
  constructor
  · rintro rfl
    exact h.before
  · intro hbefore
    rcases lt_trichotomy (lookupOrder.idxOf first) (lookupOrder.idxOf t) with hless | heq | hgreater
    · have hnone := hbefore first hless
      rw [h.holds] at hnone
      cases hnone
    · exact (List.idxOf_inj h.known).mp heq
    · have hnone := h.before t hgreater
      rw [hown] at hnone
      cases hnone

end MemoryIndex

/-! ## Results of lexical searches -/

variable [LogScalar α]

/-- Some results are what a query comes to in an index in memory without the secondary source: the
index is searched by a strategy, or the source is left out of a search. -/
inductive Searcher.FindsAlone [SemanticSource σ α] (x : Searcher σ α) (m : MemoryIndex) (q : Query)
    (results : List (SearchResult α)) : Prop where
  | ofIndex (s : Strategy) (limit : Int) (timeout : Option Float) (now : Float)
      (h : ((x.onIndex m).searchIndex s q limit timeout now).outcome = .ok results)
  | ofSearch (options : SearchOptions) (now : Float)
      (alone : options.semantic = false ∨ x.source = none)
      (h : ((x.onIndex m).search q options now).outcome = .ok results)

namespace Searcher

variable {x : Searcher σ α} {m : MemoryIndex} {q : Query} {results : List (SearchResult α)}

theorem confirms_of_mem_searchIndex (hm : m.Keyed) {s : Strategy} {limit : Int}
    {timeout : Option Float} {now : Float}
    (h : ((x.onIndex m).searchIndex s q limit timeout now).outcome = .ok results) :
    ∀ r ∈ results, m.Confirms q r.key := by
  unfold searchIndex at h
  cases hplan : IndexPlan.ofStrategy (x.onIndex m).adjuster (x.onIndex m).store s q limit with
  | error cause =>
    rw [hplan] at h
    cases h
  | ok p =>
    rw [hplan] at h
    intro r hr
    exact ((IndexPlan.planned_ofStrategy hplan).confirms_of_mem_outcome hm h hr).1

theorem FindsAlone.confirms [SemanticSource σ α] (hm : m.Keyed)
    (h : x.FindsAlone m q results) : ∀ r ∈ results, m.Confirms q r.key := by
  cases h with
  | ofIndex s limit timeout now h => exact confirms_of_mem_searchIndex hm h
  | ofSearch options now alone h =>
    have hnone : (if options.semantic then (x.onIndex m).source else none) = none := by
      rcases alone with hsemantic | hsource
      · rw [hsemantic]
        rfl
      · show (if options.semantic then x.source else none) = none
        rw [hsource, ite_self]
    unfold search at h
    simp only [hnone] at h
    split at h
    · cases h
      simp
    · rw [outcome_lexicalOnly] at h
      cases hfound : ((x.onIndex m).searchIndex (Strategy.choose q) q
          ((x.onIndex m).limits.resolve options.limit)
          (options.timeout.or (x.onIndex m).limits.timeout) now).outcome with
      | error cause =>
        rw [hfound] at h
        cases h
      | ok found =>
        rw [hfound] at h
        cases h
        intro r hr
        exact confirms_of_mem_searchIndex hm hfound r ((cut_sublist _ _).subset hr)

end Searcher

/-! ## Records -/

/-- The store in which the look-ups of some records, by their places, fail. -/
def IndexStore.failingRecords (store : IndexStore α) (fails : ℕ → Option StoreError) :
    IndexStore α :=
  { store with
    entity := fun lookup => (fails lookup.position).elim (store.entity lookup) .error }

/-- The searcher over an index in memory in which the look-ups of some records fail. -/
def Searcher.onFailing (x : Searcher σ α) (m : MemoryIndex) (fails : ℕ → Option StoreError) :
    Searcher σ α :=
  { x with store := m.toStore.failingRecords fails }

/-- What is found for a result that has a document of its own, if `doc`, of the type `first`, is the
first document with its id. -/
structure SearchResult.Recorded (r : SearchResult α) (m : MemoryIndex) (own doc : Document)
    (first : EntityType) (failure : Option StoreError) (record : Option Json) : Prop where
  holdsOwn : m.documents.get? r.key = some own
  isFirst : m.First r.entityId first doc
  /-- If the look-up fails, there is no record. -/
  failed : failure.isSome → record = none
  /-- Otherwise it is the result's own record exactly if the first document has the same one. -/
  ownRecord_iff : failure = none →
    (record = some (MemoryIndex.recordOf own) ↔
      MemoryIndex.recordOf doc = MemoryIndex.recordOf own)
  /-- That document is the result's own if no type before its own holds the id, -/
  sameDocument : (∀ other : EntityType, other.ComesBefore r.entityType →
    m.documents.get? (other, r.entityId) = none) → doc = own
  /-- and otherwise a document of another type. -/
  sameType : first = r.entityType ↔ ∀ other : EntityType, other.ComesBefore r.entityType →
    m.documents.get? (other, r.entityId) = none

namespace Searcher

/-- The record of a result is looked up by itself. -/
theorem getElem?_hydrate (x : Searcher σ α) (m : MemoryIndex) (fails : ℕ → Option StoreError)
    {results : List (SearchResult α)} {i : ℕ} {r : SearchResult α} (hr : results[i]? = some r) :
    ((x.onFailing m fails).hydrate results)[i]? =
      some (if (fails i).isSome then none else m.entity? r.entityId) := by
  have hlookup : (x.onFailing m fails).store.entity ⟨r.entityType, i, r.entityId⟩ =
      (fails i).elim (.ok (m.entity? r.entityId)) .error := rfl
  unfold hydrate
  rw [List.getElem?_mapIdx, hr, Option.map_some, hlookup]
  cases fails i <;> rfl

omit [LogScalar α] in
/-- A result whose own document is in the index has the record of the first document with its id. -/
theorem exists_recorded {m : MemoryIndex} {q : Query} {r : SearchResult α}
    (h : m.Confirms q r.key) (failure : Option StoreError) :
    ∃ own doc first, r.Recorded m own doc first failure
      (if failure.isSome then none else m.entity? r.entityId) := by
  obtain ⟨d, hd, -, own, hown, -⟩ := h
  have hknown : r.entityType ∈ lookupOrder := mem_lookupOrder hd
  obtain ⟨first, doc, hfirst, hrecord⟩ := MemoryIndex.exists_first hknown hown
  have htype := hfirst.type_eq_iff hknown hown
  refine ⟨own, doc, first, hown, hfirst, ?_, ?_, ?_, htype⟩
  · intro hfailed
    rw [if_pos hfailed]
  · rintro rfl
    show m.entity? r.entityId = _ ↔ _
    rw [hrecord, Option.some.injEq]
  · intro hbefore
    have hholds := hfirst.holds
    rw [htype.mpr hbefore] at hholds
    exact Option.some.inj (hholds.symm.trans hown)

/-- Hydrating what a lexical search of an index in memory finds, after any history of the index and
with any look-ups failing, gives one record for each result: nothing where its own look-up fails,
and elsewhere its own record exactly if the first document with its id has the same one. -/
theorem hydrate_lexical [SemanticSource σ α] (x : Searcher σ α)
    (changes : List MemoryIndex.Change) (q : Query) {results : List (SearchResult α)}
    (h : x.FindsAlone (MemoryIndex.after changes) q results) (fails : ℕ → Option StoreError) :
    let m := MemoryIndex.after changes
    let records := (x.onFailing m fails).hydrate results
    records.length = results.length ∧
    ∀ (i : ℕ) r, results[i]? = some r →
      ∃ record own doc first, records[i]? = some record ∧
        r.Recorded m own doc first (fails i) record := by
  intro m records
  refine ⟨List.length_mapIdx, ?_⟩
  intro i r hr
  have hconfirms := h.confirms (MemoryIndex.after_keyed changes) r (List.mem_of_getElem? hr)
  obtain ⟨own, doc, first, hrecorded⟩ := exists_recorded hconfirms (fails i)
  exact ⟨_, own, doc, first, x.getElem?_hydrate _ fails hr, hrecorded⟩

/-! A user and a tag with the same id. -/

/-- The user. -/
def userBit : Document := { entityId := "bit", fields := [("name", "somebody")] }

/-- An index to which the user is added and in which the tag is recorded. -/
def userAndTag : List MemoryIndex.Change := [.add .user userBit {}, .recordTag "bit" 0]

set_option maxRecDepth 100000 in
/-- The search for the tag shows it and nothing else. -/
theorem search_userAndTag : ∃ r : SearchResult Float,
    ((besideFailure.onIndex (MemoryIndex.after userAndTag)).search forBit {} 0).outcome = .ok [r] ∧
      r.key = (EntityType.hashtag, ("bit" : Text)) := by
  have hkeys : (((besideFailure.onIndex (MemoryIndex.after userAndTag)).search forBit
      {} 0).outcome.map (List.map SearchResult.key)).toOption =
        some [(EntityType.hashtag, ("bit" : Text))] := by
    decide +kernel
  cases houtcome : ((besideFailure.onIndex (MemoryIndex.after userAndTag)).search forBit
      {} 0).outcome with
  | error cause =>
    rw [houtcome] at hkeys
    cases hkeys
  | ok results =>
    rw [houtcome] at hkeys
    obtain ⟨r, rfl, hr⟩ := List.map_eq_singleton_iff.mp (Option.some.inj hkeys)
    exact ⟨r, rfl, hr⟩

/-- The names of the members of a record. -/
def memberNames : Json → List Text
  | .obj members => members.map Prod.fst
  | _ => []

set_option maxRecDepth 100000 in
/-- The tag has a document of its own, but what is found for it is the record of the user. -/
theorem hydrate_userAndTag : ∃ r : SearchResult Float, ∃ record own doc first,
    besideFailure.FindsAlone (MemoryIndex.after userAndTag) forBit [r] ∧
    ((besideFailure.onFailing (MemoryIndex.after userAndTag) fun _ => none).hydrate [r])[0]? =
      some record ∧
    r.Recorded (MemoryIndex.after userAndTag) own doc first none record ∧
    record.map memberNames = some (["id", "name"] : List Text) ∧
    memberNames (MemoryIndex.recordOf own) = ["id", "hashtag"] ∧
    record ≠ some (MemoryIndex.recordOf own) := by
  obtain ⟨r, hsearch, hkey⟩ := search_userAndTag
  have hfinds : besideFailure.FindsAlone (MemoryIndex.after userAndTag) forBit [r] :=
    .ofSearch {} 0 (Or.inl rfl) hsearch
  obtain ⟨-, hrecords⟩ := hydrate_lexical besideFailure userAndTag forBit hfinds fun _ => none
  obtain ⟨record, own, doc, first, hrecord, hrecorded⟩ := hrecords 0 r rfl
  have hown : memberNames (MemoryIndex.recordOf own) = ["id", "hashtag"] := by
    have hnames : ((MemoryIndex.after userAndTag).documents.get? r.key).map
        (fun doc => memberNames (MemoryIndex.recordOf doc)) =
          some (["id", "hashtag"] : List Text) := by
      rw [hkey]
      decide +kernel
    rw [hrecorded.holdsOwn] at hnames
    exact Option.some.inj hnames
  have hfound : record.map memberNames = some (["id", "name"] : List Text) := by
    have hentity := (besideFailure.getElem?_hydrate (MemoryIndex.after userAndTag) (fun _ => none)
      (show [r][0]? = some r from rfl)).symm.trans hrecord
    rw [← Option.some.inj hentity, show r.entityId = "bit" from congrArg Prod.snd hkey]
    decide +kernel
  refine ⟨r, record, own, doc, first, hfinds, hrecord, hrecorded, hfound, hown, ?_⟩
  rintro rfl
  rw [Option.map_some, hown] at hfound
  exact absurd hfound (by decide)

end Searcher

end EntitySearch

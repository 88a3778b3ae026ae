import EntitySearch.Proofs.Index.FilterConditions
import EntitySearch.Proofs.Index.PrefixMatching
import EntitySearch.Proofs.Search.TopResults
/-!
# Filters that cannot be checked

A filter with a null bound, or on an unknown counter, cannot be checked on a document
(`MemoryIndex.Checked`). A search checks the filters on every document of its type before it looks
for words: if all checks are answered it shows what passes and matches
(`MemoryIndex.search_checked`), and it fails otherwise (`MemoryIndex.search_unchecked`). As long as
all counters are known, filters that some document passes can be checked on every document
(`MemoryIndex.checked_of_passed`).
-/

namespace EntitySearch

namespace MemoryIndex

variable {α : Type} [Scalar α] {m : MemoryIndex} {t : EntityType} {d : Descriptor} {f : Filters}

/-- The filters can be checked on a document. -/
def Checked (m : MemoryIndex) (d : Descriptor) (f : Filters) (doc : Document) : Prop :=
  ∃ answer, m.passesIn d f doc = .ok answer

/-! ## Single documents -/

theorem andThen_eq_error_iff {first second : Except StoreError Bool} {e : StoreError} :
    andThen first second = .error e ↔
      first = .error e ∨ (first = .ok true ∧ second = .error e) := by
  unfold andThen
  cases first with
  | error e' => simp [bind, Except.bind]
  | ok passed => cases passed <;> simp [bind, Except.bind, pure, Except.pure]

/-- A bound that cannot be checked is null, or the number that it is set for is unknown. -/
theorem withinBound_eq_error {bound : Given Int} {x : Option Int} {ok : Int → Int → Bool}
    {e : StoreError} (h : withinBound bound x ok = .error e) :
    e = .incomparable ∧ (bound = .null ∨ (bound ≠ .absent ∧ x = none)) := by
  cases bound <;> cases x <;> cases h <;> simp

/-- If the filters cannot be checked, a bound on a time or a counter cannot. -/
theorem passesIn_eq_error {doc : Document} {e : StoreError} (h : m.passesIn d f doc = .error e) :
    e = .incomparable ∧ (f.since = .null ∨ f.til = .null ∨
      (f.minLikes = .null ∨ (f.minLikes ≠ .absent ∧ (m.signals doc.entityId).likes = none)) ∨
      (f.minLoops = .null ∨ (f.minLoops ≠ .absent ∧ (m.signals doc.entityId).loops = none))) := by
  have hpure : ∀ b, (pure b : Except StoreError Bool) ≠ .error e := fun b h => by cases h
  unfold passesIn passes at h
  split at h
  · cases h
  · obtain ⟨-, h⟩ := (andThen_eq_error_iff.mp h).resolve_left (hpure _)
    obtain ⟨-, h⟩ := (andThen_eq_error_iff.mp h).resolve_left (hpure _)
    obtain ⟨-, h⟩ := (andThen_eq_error_iff.mp h).resolve_left (hpure _)
    rcases andThen_eq_error_iff.mp h with hsince | ⟨-, h⟩
    · have hbound := withinBound_eq_error hsince
      simp only [reduceCtorEq, and_false, or_false] at hbound
      exact ⟨hbound.1, Or.inl hbound.2⟩
    rcases andThen_eq_error_iff.mp h with htil | ⟨-, h⟩
    · have hbound := withinBound_eq_error htil
      simp only [reduceCtorEq, and_false, or_false] at hbound
      exact ⟨hbound.1, Or.inr (Or.inl hbound.2)⟩
    rcases andThen_eq_error_iff.mp h with hlikes | ⟨-, hloops⟩
    · obtain ⟨rfl, hbound⟩ := withinBound_eq_error hlikes
      exact ⟨rfl, Or.inr (Or.inr (Or.inl hbound))⟩
    · obtain ⟨rfl, hbound⟩ := withinBound_eq_error hloops
      exact ⟨rfl, Or.inr (Or.inr (Or.inr hbound))⟩

theorem not_checked_iff {doc : Document} :
    ¬ m.Checked d f doc ↔ m.passesIn d f doc = .error .incomparable := by
  unfold Checked
  cases h : m.passesIn d f doc with
  | ok answer => simp
  | error e => simp [(passesIn_eq_error h).1]

/-- Without null bounds, and with known counters as far as they are asked for, the filters can be
checked. -/
theorem checked_of_known {doc : Document}
    (hbounds : f.since ≠ .null ∧ f.til ≠ .null ∧ f.minLikes ≠ .null ∧ f.minLoops ≠ .null)
    (hlikes : f.minLikes ≠ .absent → (m.signals doc.entityId).likes ≠ none)
    (hloops : f.minLoops ≠ .absent → (m.signals doc.entityId).loops ≠ none) :
    m.Checked d f doc := by
  by_contra hfails
  have herror := (passesIn_eq_error (not_checked_iff.mp hfails)).2
  tauto

/-- All counters are known. -/
def Counted (m : MemoryIndex) : Prop :=
  ∀ id, (m.signals id).likes ≠ none ∧ (m.signals id).loops ≠ none

theorem withinBound_ne_null {bound : Given Int} {x : Option Int} {ok : Int → Int → Bool}
    {answer : Bool} (h : withinBound bound x ok = .ok answer) : bound ≠ .null := by
  rintro rfl
  rw [withinBound_null] at h
  cases h

/-- What passes shows that no bound is null. -/
theorem bounds_of_passed (hd : d.entityType ≠ .hashtag) {doc : Document}
    (h : m.passesIn d f doc = .ok true) :
    f.since ≠ .null ∧ f.til ≠ .null ∧ f.minLikes ≠ .null ∧ f.minLoops ≠ .null := by
  rw [passesIn, passes, if_neg hd] at h
  simp only [andThen_eq_ok_true_iff] at h
  obtain ⟨-, -, -, hsince, htil, hlikes, hloops⟩ := h
  exact ⟨withinBound_ne_null hsince, withinBound_ne_null htil, withinBound_ne_null hlikes,
    withinBound_ne_null hloops⟩

/-- As long as all counters are known, filters that some document passes can be checked on every
document. -/
theorem checked_of_passed (hcounted : m.Counted) {doc : Document}
    (h : m.passesIn d f doc = .ok true) (other : Document) : m.Checked d f other := by
  by_cases hd : d.entityType = .hashtag
  · exact ⟨true, if_pos hd⟩
  · exact checked_of_known (bounds_of_passed hd h) (fun _ => (hcounted _).1)
      fun _ => (hcounted _).2

/-! ## Searches -/

/-- The hits of the documents that pass the filters, in the order of the documents. -/
def matchingPassed (m : MemoryIndex) (α : Type) [Scalar α] (t : EntityType) (d : Descriptor)
    (compiled : Text) (f : Filters) : List (Hit α) :=
  ((m.documentsOf t).filter fun doc => isPassed (m.passesIn d f doc)).filterMap
    (hit? d (searchPrefixes compiled))

/-- Without prefixes nothing matches. -/
theorem prefixes_ne_nil_of_beginsWith {prefixes : List Text} {doc : Document}
    (h : doc.BeginsWith d prefixes) : prefixes ≠ [] := by
  obtain ⟨_, _, _, _, _, _, p, hp, _⟩ := h
  exact List.ne_nil_of_mem hp

theorem hit?_nil (d : Descriptor) (doc : Document) : hit? (α := α) d [] doc = none := by
  rw [← Option.not_isSome_iff_eq_none, isSome_hit?_iff]
  exact fun hbegins => prefixes_ne_nil_of_beginsWith hbegins rfl

/-- Without prefixes, or without room for a hit, nothing is searched. -/
theorem search_nothing (hd : Descriptor.of? t = some d) {compiled : Text} {limit : Int}
    (h : searchPrefixes compiled = [] ∨ limit ≤ 0) :
    m.search (α := α) d compiled f limit = .ok [] := by
  have hnothing : ((searchPrefixes compiled).isEmpty || decide (limit ≤ 0)) = true := by
    simpa using h
  unfold search
  rw [Descriptor.typeOfIndex?_of? hd]
  simp only
  rw [if_pos hnothing]
  rfl

/-- If the filters can be checked on every document of the type, the matching hits are those of the
documents that pass. -/
theorem matchingHits_checked (hd : Descriptor.of? t = some d) {compiled : Text}
    (hchecked : searchPrefixes compiled = [] ∨ ∀ doc ∈ m.documentsOf t, m.Checked d f doc) :
    m.matchingHits d compiled f = .ok (m.matchingPassed α t d compiled f) := by
  unfold matchingHits matchingPassed
  rw [Descriptor.typeOfIndex?_of? hd]
  simp only
  split
  · rename_i hempty
    have hnone : ((m.documentsOf t).filter fun doc => isPassed (m.passesIn d f doc)).filterMap
        (hit? (α := α) d []) = [] := List.filterMap_eq_nil_iff.mpr fun doc _ => hit?_nil d doc
    rw [List.isEmpty_iff.mp hempty, hnone]
    rfl
  · rename_i hsome
    have hall := hchecked.resolve_left fun hempty => hsome (by simp [hempty])
    rw [filterM_answered hall]
    rfl

/-- If the filters can be checked on every document of the type, a search shows what passes and
matches, ranked and cut. -/
theorem search_checked (hd : Descriptor.of? t = some d) {compiled : Text} (limit : Int)
    (hchecked : searchPrefixes compiled = [] ∨ ∀ doc ∈ m.documentsOf t, m.Checked d f doc) :
    m.search d compiled f limit =
      .ok (cut limit (rankHits (m.matchingPassed α t d compiled f))) := by
  by_cases hlow : limit ≤ 0
  · rw [search_nothing hd (.inr hlow), cut, Int.toNat_of_nonpos hlow, List.take_zero]
  · rw [search_eq_cut m d compiled f (by omega), matchingHits_checked hd hchecked]
    rfl

/-- If the filters cannot be checked on a document of the type, a search fails, whether the document
matches or not. -/
theorem search_unchecked (hd : Descriptor.of? t = some d) {compiled : Text} {limit : Int}
    (hlimit : 1 ≤ limit) (hprefixes : searchPrefixes compiled ≠ []) {doc : Document}
    (hdoc : doc ∈ m.documentsOf t) (hfails : ¬ m.Checked d f doc) :
    m.search (α := α) d compiled f limit = .error .incomparable := by
  have hfilter : (m.documentsOf t).filterM (m.passesIn d f) = .error .incomparable :=
    filterM_eq_error (fun _ _ _ h => (passesIn_eq_error h).1) hdoc (not_checked_iff.mp hfails)
  unfold search
  rw [Descriptor.typeOfIndex?_of? hd]
  simp only
  rw [if_neg (by simp [hprefixes]; omega), hfilter]
  rfl

/-! ## Entities that are asked for by their ids -/

/-- Whether the index holds a document under an id that passes the filters. -/
def checkOf (m : MemoryIndex) (t : EntityType) (d : Descriptor) (f : Filters) (id : Text) :
    Except StoreError Bool :=
  match m.documents.get? (t, id) with
  | none => pure false
  | some doc => m.passesIn d f doc

theorem filterMatching_eq (hd : Descriptor.of? t = some d) (ids : List Text) :
    m.filterMatching d ids f = ids.filterM (m.checkOf t d f) := by
  unfold filterMatching
  rw [Descriptor.typeOfIndex?_of? hd]
  rfl

theorem checkOf_entityId (hm : m.Keyed) {doc : Document} (hdoc : doc ∈ m.documentsOf t) :
    m.checkOf t d f doc.entityId = m.passesIn d f doc := by
  unfold checkOf
  rw [hm.get?_of_mem hdoc]

theorem checkOf_eq_error {id : Text} {e : StoreError} (h : m.checkOf t d f id = .error e) :
    e = .incomparable := by
  unfold checkOf at h
  split at h
  · cases h
  · exact (passesIn_eq_error h).1

theorem checkOf_eq_ok_true_iff {id : Text} :
    m.checkOf t d f id = .ok true ↔ m.Holds d f (t, id) := by
  unfold checkOf Holds
  cases m.documents.get? (t, id) with
  | none => simp [pure, Except.pure]
  | some doc => simp

end MemoryIndex

end EntitySearch

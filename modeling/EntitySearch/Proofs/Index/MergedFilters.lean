import EntitySearch.Proofs.Index.Checks
import EntitySearch.Proofs.Index.FilterConditions
/-!
# Merging filters

Filters of different names can be merged into filters that ask for what both ask for
(`Filters.members_merge`). An entity passes merged filters if and only if it passes both, as far as
they can be checked (`MemoryIndex.filterMatching_merge`), and merged filters cannot be checked only
where one of the two cannot (`MemoryIndex.filterMatching_merge_error`).
-/

namespace EntitySearch

/-! ## Merging -/

namespace Given

variable {β : Type}

/-- What is given first or, if nothing is, second. -/
def or : Given β → Given β → Given β
  | absent, second => second
  | first, _ => first

@[simp] theorem absent_or (g : Given β) : or absent g = g := rfl

@[simp] theorem or_absent (g : Given β) : g.or absent = g := by
  cases g <;> rfl

theorem mem_member {name : Text} {encode : β → Json} {g : Given β} (h : g ≠ absent) :
    name ∈ (g.member name encode).map Prod.fst := by
  cases g with
  | absent => exact absurd rfl h
  | null => exact List.mem_singleton_self name
  | value a => exact List.mem_singleton_self name

theorem member_or {name : Text} {encode : β → Json} {first second : Given β}
    (h : first = absent ∨ second = absent) :
    (first.or second).member name encode =
      first.member name encode ++ second.member name encode := by
  rcases h with rfl | rfl <;> simp [member]

end Given

namespace Filters

/-- The filters that are given, under their names. -/
def members (f : Filters) : List (Text × Json) :=
  f.author.member "author" Json.text ++ f.kind.member "kind" Json.int
    ++ (f.hashtags.map fun tags => (("hashtags" : Text), Json.arr (tags.map Json.text))).toList
    ++ f.minLikes.member "min_likes" Json.int ++ f.minLoops.member "min_loops" Json.int
    ++ f.since.member "since" Json.int ++ f.til.member "until" Json.int ++ f.others

theorem toJson_eq (f : Filters) : f.toJson = .obj f.members := rfl

/-- The names of the filters that are given. -/
def names (f : Filters) : List Text := f.members.map Prod.fst

/-- Two sets of filters have no name in common. -/
def Apart (f g : Filters) : Prop := ∀ name ∈ f.names, name ∉ g.names

instance (f g : Filters) : Decidable (f.Apart g) :=
  inferInstanceAs (Decidable (∀ name ∈ f.names, name ∉ g.names))

/-- The filters of both sets; where both have one of a name, that of the first set. -/
def merge (f g : Filters) : Filters where
  author := f.author.or g.author
  kind := f.kind.or g.kind
  hashtags := f.hashtags.or g.hashtags
  minLikes := f.minLikes.or g.minLikes
  minLoops := f.minLoops.or g.minLoops
  since := f.since.or g.since
  til := f.til.or g.til
  others := f.others ++ g.others

/-- No filter is given in both sets. -/
structure Exclusive (f g : Filters) : Prop where
  author : f.author = .absent ∨ g.author = .absent
  kind : f.kind = .absent ∨ g.kind = .absent
  hashtags : f.hashtags = none ∨ g.hashtags = none
  minLikes : f.minLikes = .absent ∨ g.minLikes = .absent
  minLoops : f.minLoops = .absent ∨ g.minLoops = .absent
  since : f.since = .absent ∨ g.since = .absent
  til : f.til = .absent ∨ g.til = .absent

variable {f g : Filters}

theorem Apart.exclusive (h : f.Apart g) : f.Exclusive g := by
  have hone : ∀ {β : Type} {field : Filters → β} {none : β} (name : Text),
      (∀ h : Filters, field h ≠ none → name ∈ h.names) → field f = none ∨ field g = none := by
    intro β field none name hname
    by_contra hboth
    rw [not_or] at hboth
    exact h name (hname f hboth.1) (hname g hboth.2)
  constructor
  · exact hone "author" fun h hgiven => by simp [names, members, Given.mem_member hgiven]
  · exact hone "kind" fun h hgiven => by simp [names, members, Given.mem_member hgiven]
  · refine hone "hashtags" fun h hgiven => ?_
    obtain ⟨tags, htags⟩ := Option.ne_none_iff_exists'.mp hgiven
    simp [names, members, htags]
  · exact hone "min_likes" fun h hgiven => by simp [names, members, Given.mem_member hgiven]
  · exact hone "min_loops" fun h hgiven => by simp [names, members, Given.mem_member hgiven]
  · exact hone "since" fun h hgiven => by simp [names, members, Given.mem_member hgiven]
  · exact hone "until" fun h hgiven => by simp [names, members, Given.mem_member hgiven]

/-- Merged filters are those of both sets. -/
theorem members_merge (h : f.Apart g) : (f.merge g).members.Perm (f.members ++ g.members) := by
  obtain ⟨hauthor, hkind, hhashtags, hlikes, hloops, hsince, htil⟩ := h.exclusive
  have htags : ∀ encode : List Text → Text × Json, ((f.hashtags.or g.hashtags).map encode).toList =
      (f.hashtags.map encode).toList ++ (g.hashtags.map encode).toList := by
    intro encode
    rcases hhashtags with hnone | hnone <;> simp [hnone]
  unfold members merge
  simp only
  rw [Given.member_or hauthor, Given.member_or hkind, htags, Given.member_or hlikes,
    Given.member_or hloops, Given.member_or hsince, Given.member_or htil, ← Multiset.coe_eq_coe]
  simp only [← Multiset.coe_add]
  abel

end Filters

/-! ## Checking -/

namespace MemoryIndex

/-- A test is passed where two tests are, and fails only where one of them does. -/
structure Meets (first second both : Except StoreError Bool) : Prop where
  answered : ∀ {a b}, first = .ok a → second = .ok b → both = .ok (a && b)
  passed : both = .ok true → first = .ok true ∧ second = .ok true
  failed : ∀ {e}, both = .error e → first = .error e ∨ second = .error e

namespace Meets

variable {β : Type} {first second both : Except StoreError Bool}

theorem of_first_passed (test : Except StoreError Bool) : Meets (.ok true) test test := by
  refine ⟨?_, fun h => ⟨rfl, h⟩, Or.inr⟩
  intro a b ha hb
  cases ha
  exact hb

theorem of_second_passed (test : Except StoreError Bool) : Meets test (.ok true) test := by
  refine ⟨?_, fun h => ⟨h, rfl⟩, Or.inl⟩
  intro a b ha hb
  cases hb
  rw [ha, Bool.and_true]

theorem refused : Meets (.ok false) (.ok false) (.ok false) := by
  constructor
  · intro a b ha hb
    cases ha
    cases hb
    rfl
  · intro h
    cases h
  · intro e h
    cases h

/-- A test of what only one of two gives, where what is not given passes. -/
theorem of_exclusive (test : β → Except StoreError Bool) {none x y : β} {or : β → β → β}
    (hnone : test none = .ok true) (hleft : or none y = y) (hright : or x none = x)
    (h : x = none ∨ y = none) : Meets (test x) (test y) (test (or x y)) := by
  rcases h with rfl | rfl
  · rw [hnone, hleft]
    exact of_first_passed _
  · rw [hnone, hright]
    exact of_second_passed _

theorem of_bound {bound bound' : Given Int} (h : bound = .absent ∨ bound' = .absent)
    {x : Option Int} {ok : Int → Int → Bool} :
    Meets (withinBound bound x ok) (withinBound bound' x ok) (withinBound (bound.or bound') x ok) :=
  of_exclusive (fun b => withinBound b x ok) (withinBound_absent x ok) (Given.absent_or _)
    (Given.or_absent _) h

/-- Tests one after the other. -/
theorem andThen {first' second' both' : Except StoreError Bool} (h : Meets first second both)
    (h' : Meets first' second' both') :
    Meets (MemoryIndex.andThen first first') (MemoryIndex.andThen second second')
      (MemoryIndex.andThen both both') := by
  constructor
  · intro a b ha hb
    obtain ⟨p, hp, ha⟩ := bind_eq_ok.mp ha
    obtain ⟨q, hq, hb⟩ := bind_eq_ok.mp hb
    refine bind_eq_ok.mpr ⟨p && q, h.answered hp hq, ?_⟩
    cases p with
    | false =>
      cases ha
      rfl
    | true =>
      cases q with
      | false =>
        cases hb
        simp [pure, Except.pure]
      | true => exact h'.answered ha hb
  · intro hboth
    rw [andThen_eq_ok_true_iff] at hboth ⊢
    rw [andThen_eq_ok_true_iff]
    obtain ⟨hfirst, hsecond⟩ := h.passed hboth.1
    obtain ⟨hfirst', hsecond'⟩ := h'.passed hboth.2
    exact ⟨⟨hfirst, hfirst'⟩, hsecond, hsecond'⟩
  · intro e hboth
    rw [andThen_eq_error_iff] at hboth ⊢
    rw [andThen_eq_error_iff]
    rcases hboth with hfails | ⟨hpassed, hfails⟩
    · exact (h.failed hfails).imp Or.inl Or.inl
    · obtain ⟨hfirst, hsecond⟩ := h.passed hpassed
      exact (h'.failed hfails).imp (fun h => Or.inr ⟨hfirst, h⟩) fun h => Or.inr ⟨hsecond, h⟩

end Meets

variable {m : MemoryIndex} {t : EntityType} {d : Descriptor} {f g : Filters}

/-- A document passes merged filters where it passes both. -/
theorem meets_passesIn (h : f.Exclusive g) (doc : Document) :
    Meets (m.passesIn d f doc) (m.passesIn d g doc) (m.passesIn d (f.merge g) doc) := by
  unfold passesIn passes
  split
  · exact Meets.of_first_passed _
  · -- filter by filter
    refine Meets.andThen ?author <| Meets.andThen ?kind <| Meets.andThen ?hashtags <|
      Meets.andThen ?since <| Meets.andThen ?til <| Meets.andThen ?likes ?loops
    case author =>
      exact Meets.of_exclusive (fun g => pure (!g.isGiven || doc.author == g.value?)) rfl
        (Given.absent_or _) (Given.or_absent _) h.author
    case kind =>
      exact Meets.of_exclusive (fun g => pure (!g.isGiven || doc.kind == g.value?)) rfl
        (Given.absent_or _) (Given.or_absent _) h.kind
    case hashtags =>
      exact Meets.of_exclusive (fun tags => pure ((tags.getD []).all doc.hashtags.contains)) rfl
        (Option.none_or) (Option.or_none) h.hashtags
    case since => exact Meets.of_bound h.since
    case til => exact Meets.of_bound h.til
    case likes => exact Meets.of_bound h.minLikes
    case loops => exact Meets.of_bound h.minLoops

theorem meets_checkOf (h : f.Exclusive g) (id : Text) :
    Meets (m.checkOf t d f id) (m.checkOf t d g id) (m.checkOf t d (f.merge g) id) := by
  unfold checkOf
  cases m.documents.get? (t, id) with
  | none => exact Meets.refused
  | some doc => exact meets_passesIn h doc

/-- The entities that pass merged filters are those that pass both. -/
theorem filterMatching_merge (hd : Descriptor.of? t = some d) (h : f.Exclusive g)
    {ids first second : List Text} (hfirst : m.filterMatching d ids f = .ok first)
    (hsecond : m.filterMatching d ids g = .ok second) :
    m.filterMatching d ids (f.merge g) = .ok (first.filter fun id => second.contains id) := by
  rw [filterMatching_eq hd] at hfirst hsecond ⊢
  have hboth : ∀ id ∈ ids, ∃ a b, m.checkOf t d f id = .ok a ∧ m.checkOf t d g id = .ok b ∧
      m.checkOf t d (f.merge g) id = .ok (a && b) := by
    intro id hid
    obtain ⟨a, ha⟩ := answered_of_filterM hfirst id hid
    obtain ⟨b, hb⟩ := answered_of_filterM hsecond id hid
    exact ⟨a, b, ha, hb, (meets_checkOf h id).answered ha hb⟩
  rw [filterM_answered fun id hid => let ⟨_, _, _, _, hab⟩ := hboth id hid; ⟨_, hab⟩,
    filterM_eq_ok hfirst, filterM_eq_ok hsecond, List.filter_filter]
  refine congrArg Except.ok (List.filter_congr fun id hid => ?_)
  obtain ⟨a, b, ha, hb, hab⟩ := hboth id hid
  have hin : ((ids.filter fun id => isPassed (m.checkOf t d g id)).contains id) = b := by
    rw [Bool.eq_iff_iff, List.contains_iff_mem, List.mem_filter, hb]
    simp [hid, isPassed]
  rw [hab, ha, hin, isPassed, isPassed, Bool.and_comm]

/-- Merged filters cannot be checked on entities only where one of the two cannot. -/
theorem filterMatching_merge_error (hd : Descriptor.of? t = some d) (h : f.Exclusive g)
    {ids : List Text} {e : StoreError} (hboth : m.filterMatching d ids (f.merge g) = .error e) :
    m.filterMatching d ids f = .error e ∨ m.filterMatching d ids g = .error e := by
  rw [filterMatching_eq hd] at hboth
  obtain ⟨id, hid, hfails⟩ := exists_of_filterM_eq_error hboth
  have hfilter : ∀ {f : Filters}, m.checkOf t d f id = .error e →
      m.filterMatching d ids f = .error e := by
    intro f hf
    rw [filterMatching_eq hd]
    refine filterM_eq_error (fun _ _ e' he' => ?_) hid hf
    rw [checkOf_eq_error he', checkOf_eq_error hf]
  exact ((meets_checkOf h id).failed hfails).imp hfilter hfilter

end MemoryIndex

end EntitySearch

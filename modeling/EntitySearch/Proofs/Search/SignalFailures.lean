import EntitySearch.Proofs.Fallible
import EntitySearch.Proofs.Number.Doubling
import EntitySearch.Search.Adjust
/-!
# Look-ups that fail

A hit whose look-up fails keeps its raw score, and no other hit notices (`Adjuster.adjust_failing`).
For types that are boosted the results are those of a store that has counted nothing for the hit,
since a boost by nothing multiplies by one. A trend of nothing is zero, and there the two differ
(`Adjuster.adjust_failing_tag`).
-/

namespace EntitySearch

open Number (ArithmeticError overflow)

/-! ## Stores with failures -/

section Stores

variable {α : Type}

/-- The store in which the look-ups about some entities fail. -/
def IndexStore.failing (store : IndexStore α) (fails : Text → Option StoreError) : IndexStore α :=
  { store with
    signals := fun lookup => (fails lookup.entityId).elim (store.signals lookup) .error
    tagUsage := fun lookup => (fails lookup.entityId).elim (store.tagUsage lookup) .error }

/-- The store in which nothing is counted about these entities. -/
def IndexStore.silent (store : IndexStore α) (fails : Text → Option StoreError) : IndexStore α :=
  { store with
    signals := fun lookup => (fails lookup.entityId).elim (store.signals lookup) fun _ => .ok {}
    tagUsage := fun lookup =>
      (fails lookup.entityId).elim (store.tagUsage lookup) fun _ => .ok none }

/-- At a moment no trend of the tags that a store knows is beyond the range of doubles. -/
def IndexStore.TrendsInRange (store : IndexStore α) (now : Int) : Prop :=
  ∀ lookup usage, store.tagUsage lookup = .ok (some usage) →
    usage.usageCount < overflow * (max (now - usage.firstSeen) 0 + trendSmoothing)

end Stores

/-! ## The score of a hit -/

/-- A boost by nothing leaves a score as it is. -/
theorem boostEngagement_nothing (weights : BoostWeights Float) (score : Float) :
    boostEngagement weights score {} = score := by
  have hfactor : ∀ weight : Float, engagementFactor (some 0) weight = Scalar.ofNat 1 :=
    fun _ => rfl
  unfold boostEngagement
  rw [hfactor, hfactor, Number.mul_one, Number.mul_one]

theorem exists_trendingScore {usageCount firstSeen now : Int}
    (h : usageCount < overflow * (max (now - firstSeen) 0 + trendSmoothing)) :
    ∃ score : Float, trendingScore usageCount firstSeen now = .ok score := by
  have hsmoothing : trendSmoothing = 86400 := rfl
  unfold trendingScore
  split
  · exact ⟨_, rfl⟩
  · rename_i hpositive
    generalize hage : max (now - firstSeen) 0 + trendSmoothing = age at h
    have hnum : usageCount.natAbs < overflow * age.natAbs := by
      zify
      rwa [abs_of_pos (by omega), abs_of_pos (by omega)]
    obtain ⟨score, hscore⟩ := Number.exists_ofQuotient_of_lt
      ((usageCount < 0) != (age < 0) && usageCount != 0) (by omega) hnum
    refine ⟨score, ?_⟩
    show Number.floatOfRatio usageCount age = _
    unfold Number.floatOfRatio
    rw [if_neg (by omega)]
    simp only [hscore]

namespace Adjuster

section Scores

variable {α : Type} [LogScalar α] (a : Adjuster α) (store : IndexStore α) (d : Descriptor)
  (now : Int)

/-- A hit has the score that its own look-up gives it. -/
theorem adjustFrom_eq_ok_iff {position : Nat} {hits : List (Hit α)}
    {results : List (SearchResult α)} :
    a.adjustFrom store d now position hits = .ok results ↔
      results.length = hits.length ∧ ∀ i hit, hits[i]? = some hit →
        ∃ score, a.score store d now (position + i) hit = .ok score ∧
          results[i]? = some (d.shape hit score) := by
  induction hits generalizing position results with
  | nil =>
    unfold adjustFrom
    constructor
    · intro h
      cases h
      simp
    · rintro ⟨hlength, -⟩
      rw [List.length_eq_zero_iff.mp hlength]
      rfl
  | cons hit rest ih =>
    unfold adjustFrom
    constructor
    · intro h
      obtain ⟨score, hscore, h⟩ := bind_eq_ok.mp h
      obtain ⟨later, hlater, h⟩ := bind_eq_ok.mp h
      cases h
      obtain ⟨hlength, hrest⟩ := ih.mp hlater
      refine ⟨by rw [List.length_cons, List.length_cons, hlength], ?_⟩
      rintro (_ | i) other hother
      · cases hother
        exact ⟨score, hscore, rfl⟩
      · rw [Nat.add_left_comm, Nat.add_comm i]
        exact hrest i other hother
    · rintro ⟨hlength, hall⟩
      obtain ⟨first, later, rfl⟩ := List.exists_cons_of_length_eq_add_one hlength
      obtain ⟨score, hscore, hfirst⟩ := hall 0 hit rfl
      cases hfirst
      refine bind_eq_ok.mpr ⟨score, hscore, bind_eq_ok.mpr ⟨later, ih.mpr ⟨?_, ?_⟩, rfl⟩⟩
      · simpa using hlength
      · intro i other hother
        rw [Nat.add_right_comm, Nat.add_assoc]
        exact hall (i + 1) other hother

variable {now} in
theorem adjust_eq_ok_iff (hnow : a.now = .ok now) {hits : List (Hit α)}
    {results : List (SearchResult α)} :
    a.adjust store d hits = .ok results ↔
      results.length = hits.length ∧ ∀ i hit, hits[i]? = some hit →
        ∃ score, a.score store d now i hit = .ok score ∧
          results[i]? = some (d.shape hit score) := by
  have hfrom : a.adjustFrom store d now 0 hits = .ok results ↔ results.length = hits.length ∧
      ∀ i hit, hits[i]? = some hit → ∃ score, a.score store d now (0 + i) hit = .ok score ∧
        results[i]? = some (d.shape hit score) := adjustFrom_eq_ok_iff a store d now
  simp only [Nat.zero_add] at hfrom
  rw [← hfrom]
  unfold adjust
  rw [hnow]
  exact Iff.rfl

variable {now} in
/-- Hits that all have scores can be adjusted. -/
theorem exists_adjust_of_score (hnow : a.now = .ok now)
    (hscores : ∀ position hit, ∃ score, a.score store d now position hit = .ok score)
    (hits : List (Hit α)) : ∃ results, a.adjust store d hits = .ok results := by
  have hfrom : ∀ position, ∃ results, a.adjustFrom store d now position hits = .ok results := by
    induction hits with
    | nil => exact fun _ => ⟨[], rfl⟩
    | cons hit rest ih =>
      intro position
      obtain ⟨score, hscore⟩ := hscores position hit
      obtain ⟨later, hlater⟩ := ih (position + 1)
      exact ⟨_, bind_eq_ok.mpr ⟨score, hscore, bind_eq_ok.mpr ⟨later, hlater, rfl⟩⟩⟩
  obtain ⟨results, hresults⟩ := hfrom 0
  exact ⟨results, bind_eq_ok.mpr ⟨now, hnow, hresults⟩⟩

variable {fails fails' : Text → Option StoreError} {position : Nat} {hit : Hit α}

/-- A look-up that fails leaves the raw score. -/
theorem score_failing {error : StoreError} (h : fails hit.entityId = some error) :
    a.score (store.failing fails) d now position hit = .ok hit.score := by
  unfold score IndexStore.failing
  simp only [h, Option.elim_some]
  cases d.adjustment <;> rfl

/-- A look-up that does not fail is not affected. -/
theorem score_answered (h : fails hit.entityId = none) :
    a.score (store.failing fails) d now position hit = a.score store d now position hit ∧
      a.score (store.silent fails) d now position hit = a.score store d now position hit := by
  unfold score IndexStore.failing IndexStore.silent
  simp only [h, Option.elim_none, and_self]

/-- The score of a hit depends on whether its own look-up fails, not on the others. -/
theorem score_failing_congr (h : (fails hit.entityId).isSome = (fails' hit.entityId).isSome) :
    a.score (store.failing fails) d now position hit =
      a.score (store.failing fails') d now position hit := by
  cases hown : fails hit.entityId with
  | none =>
    rw [hown, Option.isSome_none, eq_comm, Option.isSome_eq_false_iff,
      Option.isNone_iff_eq_none] at h
    rw [(score_answered a store d now hown).1, (score_answered a store d now h).1]
  | some error =>
    rw [hown, Option.isSome_some, eq_comm, Option.isSome_iff_exists] at h
    obtain ⟨error', hown'⟩ := h
    rw [score_failing a store d now hown, score_failing a store d now hown']

theorem score_silent_trend {error : StoreError} (hd : d.adjustment = .trend)
    (h : fails hit.entityId = some error) :
    a.score (store.silent fails) d now position hit = .ok (Scalar.ofNat 0) := by
  unfold score IndexStore.silent
  simp only [hd, h, Option.elim_some]
  rfl

end Scores

section Doubles

variable (a : Adjuster Float) (store : IndexStore Float) (d : Descriptor) {now : Int}

theorem score_silent {fails : Text → Option StoreError} {position : Nat} {hit : Hit Float}
    {error : StoreError} (hd : d.adjustment ≠ .trend) (h : fails hit.entityId = some error) :
    a.score (store.silent fails) d now position hit = .ok hit.score := by
  unfold score IndexStore.silent
  cases hadjustment : d.adjustment with
  | none => rfl
  | engagement =>
    simp only [h, Option.elim_some, BoostWeights.boost, boostEngagement_nothing]
    rfl
  | trend => exact absurd hadjustment hd

theorem exists_score (hrange : store.TrendsInRange now) (position : Nat) (hit : Hit Float) :
    ∃ score, a.score store d now position hit = .ok score := by
  unfold score
  cases d.adjustment with
  | none => exact ⟨_, rfl⟩
  | engagement =>
    simp only
    split <;> exact ⟨_, rfl⟩
  | trend =>
    simp only
    split
    · exact ⟨_, rfl⟩
    · exact ⟨_, rfl⟩
    · rename_i usage husage
      exact exists_trendingScore (hrange _ usage husage)

theorem exists_adjust (hnow : a.now = .ok now) (hrange : store.TrendsInRange now)
    (hits : List (Hit Float)) : ∃ results, a.adjust store d hits = .ok results :=
  exists_adjust_of_score a store d hnow (exists_score a store d hrange) hits

/-! ## The results of hits -/

/-- The results of hits some of whose look-ups fail. -/
structure Spares (hits : List (Hit Float)) (fails : Text → Option StoreError)
    (results : List (SearchResult Float)) : Prop where
  /-- Each hit has its result, in its place. -/
  each : results.length = hits.length ∧ ∀ (i : ℕ) hit, hits[i]? = some hit →
    ∃ score, results[i]? = some (d.shape hit score)
  /-- A hit whose look-up fails keeps its raw score. -/
  raw : ∀ (i : ℕ) hit, hits[i]? = some hit → (fails hit.entityId).isSome →
    results[i]? = some (d.shape hit hit.score)
  /-- A result depends on no look-up but that of its own hit. -/
  own : ∀ fails' results', a.adjust (store.failing fails') d hits = .ok results' →
    ∀ (i : ℕ) hit, hits[i]? = some hit →
      (fails hit.entityId).isSome = (fails' hit.entityId).isSome → results[i]? = results'[i]?
  /-- Without a trend these are the results of a store that has counted nothing. -/
  boosted : d.adjustment ≠ .trend → a.adjust (store.silent fails) d hits = .ok results
  /-- With a trend such a store gives zero to the hits whose look-ups fail. -/
  trend : d.adjustment = .trend → ∃ quiet, a.adjust (store.silent fails) d hits = .ok quiet ∧
    quiet.length = hits.length ∧ ∀ (i : ℕ) hit, hits[i]? = some hit →
      quiet[i]? = if (fails hit.entityId).isSome then some (d.shape hit (Scalar.ofNat 0))
        else results[i]?

/-- Where a hit has the same score in two stores it has the same result. -/
theorem getElem?_adjust_congr {store' : IndexStore Float} (hnow : a.now = .ok now)
    {hits : List (Hit Float)} {results results' : List (SearchResult Float)}
    (h : a.adjust store d hits = .ok results) (h' : a.adjust store' d hits = .ok results') {i : ℕ}
    (hsame : ∀ hit, hits[i]? = some hit →
      a.score store d now i hit = a.score store' d now i hit) :
    results[i]? = results'[i]? := by
  obtain ⟨hlength, hscores⟩ := (adjust_eq_ok_iff a _ d hnow).mp h
  obtain ⟨hlength', hscores'⟩ := (adjust_eq_ok_iff a _ d hnow).mp h'
  cases hhit : hits[i]? with
  | none =>
    rw [List.getElem?_eq_none_iff] at hhit
    rw [List.getElem?_eq_none (by omega), List.getElem?_eq_none (by omega)]
  | some hit =>
    obtain ⟨score, hscore, hresult⟩ := hscores i hit hhit
    obtain ⟨score', hscore', hresult'⟩ := hscores' i hit hhit
    rw [hsame hit hhit, hscore'] at hscore
    cases hscore
    rw [hresult, hresult']

theorem trendsInRange_silent {fails : Text → Option StoreError}
    (h : (store.failing fails).TrendsInRange now) : (store.silent fails).TrendsInRange now := by
  intro lookup usage husage
  refine h lookup usage ?_
  unfold IndexStore.silent at husage
  unfold IndexStore.failing
  cases hown : fails lookup.entityId with
  | none => simpa only [hown, Option.elim_none] using husage
  | some error => simp only [hown, Option.elim_some, Except.ok.injEq, reduceCtorEq] at husage

section Runs

variable {store d} {fails : Text → Option StoreError} (hnow : a.now = .ok now)
  {hits : List (Hit Float)} {results quiet : List (SearchResult Float)}
  (hresults : a.adjust (store.failing fails) d hits = .ok results)
  (hquiet : a.adjust (store.silent fails) d hits = .ok quiet)

include hnow hresults

theorem getElem?_adjust_failing {i : ℕ} {hit : Hit Float} (hhit : hits[i]? = some hit)
    (hown : (fails hit.entityId).isSome) : results[i]? = some (d.shape hit hit.score) := by
  obtain ⟨error, hown⟩ := Option.isSome_iff_exists.mp hown
  obtain ⟨-, hscores⟩ := (adjust_eq_ok_iff a _ d hnow).mp hresults
  obtain ⟨score, hscore, hresult⟩ := hscores i hit hhit
  rw [score_failing a store d now hown] at hscore
  cases hscore
  exact hresult

include hquiet

/-- Without a trend it makes no difference whether a look-up fails or finds nothing. -/
theorem adjust_silent_boosted (hd : d.adjustment ≠ .trend) : quiet = results := by
  refine List.ext_getElem? fun i =>
    getElem?_adjust_congr a _ d hnow hquiet hresults fun hit _ => ?_
  cases hown : fails hit.entityId with
  | none => rw [(score_answered a store d now hown).1, (score_answered a store d now hown).2]
  | some error => rw [score_silent a store d hd hown, score_failing a store d now hown]

theorem getElem?_adjust_silent_trend (hd : d.adjustment = .trend) {i : ℕ} {hit : Hit Float}
    (hhit : hits[i]? = some hit) :
    quiet[i]? = if (fails hit.entityId).isSome then some (d.shape hit (Scalar.ofNat 0))
      else results[i]? := by
  cases hown : fails hit.entityId with
  | none =>
    refine getElem?_adjust_congr a _ d hnow hquiet hresults fun other hother => ?_
    rw [hhit] at hother
    cases hother
    rw [(score_answered a store d now hown).1, (score_answered a store d now hown).2]
  | some error =>
    obtain ⟨-, hscores⟩ := (adjust_eq_ok_iff a _ d hnow).mp hquiet
    obtain ⟨score, hscore, hresult⟩ := hscores i hit hhit
    rw [score_silent_trend a store d now hd hown] at hscore
    cases hscore
    exact hresult

end Runs

/-- Whichever look-ups fail, adjusting hits does not fail. A hit whose look-up fails keeps its raw
score, as if nothing had been counted about a boosted entity, and no other hit is affected. -/
theorem adjust_failing (hnow : a.now = .ok now) (hits : List (Hit Float))
    (fails : Text → Option StoreError) (hrange : (store.failing fails).TrendsInRange now) :
    ∃ results, a.adjust (store.failing fails) d hits = .ok results ∧
      a.Spares store d hits fails results := by
  obtain ⟨results, hresults⟩ := exists_adjust a _ d hnow hrange hits
  obtain ⟨quiet, hquiet⟩ := exists_adjust a _ d hnow (trendsInRange_silent store hrange) hits
  obtain ⟨hlength, hscores⟩ := (adjust_eq_ok_iff a _ d hnow).mp hresults
  refine ⟨results, hresults, ⟨hlength, ?_⟩, ?_, ?_, ?_, ?_⟩
  · intro i hit hhit
    obtain ⟨score, -, hresult⟩ := hscores i hit hhit
    exact ⟨score, hresult⟩
  · intro i hit hhit hown
    exact getElem?_adjust_failing a hnow hresults hhit hown
  · intro fails' results' hresults' i hit hhit hown
    refine getElem?_adjust_congr a _ d hnow hresults hresults' fun other hother => ?_
    rw [hhit] at hother
    cases hother
    exact score_failing_congr a store d now hown
  · intro hd
    rw [hquiet, adjust_silent_boosted a hnow hresults hquiet hd]
  · intro hd
    have hlength' := ((adjust_eq_ok_iff a _ d hnow).mp hquiet).1
    exact ⟨quiet, hquiet, hlength', fun i hit hhit =>
      getElem?_adjust_silent_trend a hnow hresults hquiet hd hhit⟩

end Doubles

/-! Two tags, and a store in which the look-up of one of them fails. -/

/-- A store that counts so many uses of every tag. -/
def counting (uses : Int) : IndexStore Float :=
  { (IndexStore.down : IndexStore Float) with
    tagUsage := fun lookup => .ok (some ⟨lookup.entityId, uses, 0, 0⟩) }

/-- The look-ups about one tag fail. -/
def failsAtBit (id : Text) : Option StoreError := if id = "bit" then some .unavailable else none

/-- Hits of the two tags. -/
def taggedHits : List (Hit Float) :=
  [⟨"bit", Scalar.decimal 101 2, none, ["hashtag"], 0⟩, ⟨"coin", Scalar.ofNat 1, none, [], 0⟩]

/-- The description of tags. -/
def tags : Descriptor := (Descriptor.of? .hashtag).getD default

theorem adjust_failing_tags :
    ((counting 1).failing failsAtBit).TrendsInRange 0 ∧
    ∃ results, (⟨.usual, .ok 0⟩ : Adjuster Float).adjust ((counting 1).failing failsAtBit) tags
        taggedHits = .ok results ∧
      (⟨.usual, .ok 0⟩ : Adjuster Float).Spares (counting 1) tags taggedHits failsAtBit
        results := by
  have hone : (1 : ℤ) < overflow * trendSmoothing := by decide +kernel
  have hrange : ((counting 1).failing failsAtBit).TrendsInRange 0 := by
    intro lookup usage husage
    unfold IndexStore.failing counting at husage
    cases hown : failsAtBit lookup.entityId with
    | some error => simp [hown] at husage
    | none =>
      simp only [hown, Option.elim_none, Except.ok.injEq, Option.some.injEq] at husage
      subst husage
      exact hone
  exact ⟨hrange, adjust_failing _ (counting 1) tags rfl taggedHits failsAtBit hrange⟩

/-- The raw score of a tag is not the trend of nothing. Without a moment, and with a trend beyond
the range of doubles, there are no results at all. -/
theorem adjust_failing_tag :
    (⟨.usual, .ok 0⟩ : Adjuster Float).adjust ((counting 1).failing failsAtBit) tags taggedHits ≠
      (⟨.usual, .ok 0⟩ : Adjuster Float).adjust ((counting 1).silent failsAtBit) tags taggedHits ∧
    (⟨.usual, .error .undefined⟩ : Adjuster Float).adjust ((counting 1).failing failsAtBit) tags
      taggedHits = .error .undefined ∧
    (⟨.usual, .ok 0⟩ : Adjuster Float).adjust ((counting (10 ^ 400 : ℕ)).failing failsAtBit)
      tags taggedHits = .error .outOfRange := by
  refine ⟨?_, rfl, ?_⟩
  · intro h
    -- only one of the two gives the first tag nothing
    have hzero := congrArg (fun run => run.toOption.bind fun results =>
      results.head?.map fun r => Scalar.isAtMostZero r.score) h
    revert hzero
    decide +kernel
  · have hcause : (match (⟨.usual, .ok 0⟩ : Adjuster Float).adjust
        ((counting (10 ^ 400 : ℕ)).failing failsAtBit) tags taggedHits with
        | .error cause => some cause
        | .ok _ => none) = some ArithmeticError.outOfRange := by decide +kernel
    split at hcause
    · rename_i hadjust
      cases hcause
      exact hadjust
    · cases hcause

end Adjuster

end EntitySearch

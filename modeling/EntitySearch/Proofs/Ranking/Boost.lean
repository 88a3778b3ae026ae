import EntitySearch.Proofs.Index.Hits
import EntitySearch.Proofs.Number.Real
import EntitySearch.Proofs.Ranking.Stability
import EntitySearch.Proofs.Search.SignalFailures
/-!
# The law of the boost

In real numbers the factor of a counter is one and its weighted logarithm, where an unknown counter
and one below zero count as zero (`engagementFactor_real`). Factors are never below one and do not
fall with their counters, and so the boost never lowers a score, and of two hits with the same
counters the one with the better raw score stays ahead (`boost_laws`).
-/

namespace EntitySearch

open Number (ArithmeticError)

/-! ## Counters -/

/-- What a counter counts: an unknown one and one that is not positive count nothing. -/
def counted (count : Option Int) : ℕ := (count.getD 0).toNat

/-- Two entities have the same counters, as far as these count something. -/
def Signals.Alike (s s' : Signals) : Prop :=
  counted s.likes = counted s'.likes ∧ counted s.loops = counted s'.loops

theorem Signals.Alike.symm {s s' : Signals} (h : s.Alike s') : s'.Alike s :=
  ⟨Eq.symm h.1, Eq.symm h.2⟩

/-- An entity has no more of either counter than another. -/
def Signals.AtMost (s s' : Signals) : Prop :=
  counted s.likes ≤ counted s'.likes ∧ counted s.loops ≤ counted s'.loops

/-- A counter and its weight are both positive, for one of the two counters. -/
def Signals.Boosts (s : Signals) (weights : BoostWeights ℝ) : Prop :=
  0 < counted s.likes ∧ 0 < weights.likes ∨ 0 < counted s.loops ∧ 0 < weights.loops

/-! ## Factors -/

theorem engagementFactor_real (count : Option Int) (weight : ℝ) :
    engagementFactor count weight = 1 + Real.log (counted count + 1) * weight := by
  have hnothing : counted count = 0 →
      (Scalar.ofNat 1 : ℝ) = 1 + Real.log (counted count + 1) * weight := by
    intro hzero
    rw [hzero, Scalar.ofNat_real]
    norm_num
  unfold engagementFactor
  cases count with
  | none => exact hnothing rfl
  | some n =>
    simp only
    split
    · next hlow => exact hnothing (Int.toNat_eq_zero.mpr hlow)
    · rw [Scalar.ofNat_real, Nat.cast_one]
      rfl

section Factors

variable {weight : ℝ} (hweight : 0 ≤ weight)

include hweight

/-- A factor does not fall with its counter. -/
theorem engagementFactor_mono {count more : Option Int} (h : counted count ≤ counted more) :
    engagementFactor count weight ≤ engagementFactor more weight := by
  have hlog : Real.log (counted count + 1) ≤ Real.log (counted more + 1) :=
    Real.log_le_log (by positivity) (by gcongr)
  rw [engagementFactor_real, engagementFactor_real]
  gcongr

theorem one_le_engagementFactor (count : Option Int) : 1 ≤ engagementFactor count weight := by
  have hnothing : engagementFactor none weight = 1 := by
    rw [engagementFactor_real]
    simp [counted]
  rw [← hnothing]
  exact engagementFactor_mono hweight (Nat.zero_le _)

/-- A factor is one unless counter and weight are positive. -/
theorem engagementFactor_eq_one_iff (count : Option Int) :
    engagementFactor count weight = 1 ↔ ¬ (0 < counted count ∧ 0 < weight) := by
  have hlog : Real.log (counted count + 1) = 0 ↔ counted count = 0 := by
    rw [Real.log_eq_zero]
    constructor
    · rintro (h | h | h)
      · exact absurd h (by positivity)
      · exact_mod_cast add_eq_right.mp h
      · have hleast : (0 : ℝ) ≤ counted count := Nat.cast_nonneg _
        linarith
    · intro hzero
      exact Or.inr (Or.inl (by simp [hzero]))
  rw [engagementFactor_real, add_eq_left, mul_eq_zero, hlog, not_and_or, not_lt, not_lt,
    Nat.le_zero, hweight.ge_iff_eq']

end Factors

/-! ## The boost -/

theorem boostEngagement_eq (weights : BoostWeights ℝ) (score : ℝ) (s : Signals) :
    boostEngagement weights score s =
      score * (engagementFactor s.likes weights.likes * engagementFactor s.loops weights.loops) :=
  mul_assoc _ _ _

/-- Only what is counted matters to a boost. -/
theorem boostEngagement_congr (weights : BoostWeights ℝ) (score : ℝ) {s s' : Signals}
    (h : s.Alike s') : boostEngagement weights score s = boostEngagement weights score s' := by
  simp only [boostEngagement_eq, engagementFactor_real, h.1, h.2]

/-- Nothing that is known boosts like counters that count nothing. -/
theorem boost_none (weights : BoostWeights ℝ) (score : ℝ) :
    weights.boost score none = boostEngagement weights score ⟨none, none⟩ := by
  rw [boostEngagement_eq, engagementFactor_real, engagementFactor_real]
  simp [BoostWeights.boost, counted]

section Boosts

variable {weights : BoostWeights ℝ} (hlikes : 0 ≤ weights.likes) (hloops : 0 ≤ weights.loops)

include hlikes hloops

theorem one_le_factors (s : Signals) :
    1 ≤ engagementFactor s.likes weights.likes * engagementFactor s.loops weights.loops :=
  one_le_mul_of_one_le_of_one_le (one_le_engagementFactor hlikes _)
    (one_le_engagementFactor hloops _)

/-- A better score and more of the counters are no lower boosted score. -/
theorem boostEngagement_mono {score better : ℝ} {s s' : Signals} (hscore : 0 ≤ score)
    (hbetter : score ≤ better) (hmore : s.AtMost s') :
    boostEngagement weights score s ≤ boostEngagement weights better s' := by
  have hfirst := engagementFactor_mono hlikes hmore.1
  have hsecond := engagementFactor_mono hloops hmore.2
  have hfactor : 0 ≤ engagementFactor s'.likes weights.likes :=
    zero_le_one.trans (one_le_engagementFactor hlikes _)
  have hfactor' : 0 ≤ engagementFactor s.loops weights.loops :=
    zero_le_one.trans (one_le_engagementFactor hloops _)
  have hleast : 0 ≤ better := hscore.trans hbetter
  have hfactors := mul_le_mul hfirst hsecond hfactor' hfactor
  rw [boostEngagement_eq, boostEngagement_eq]
  exact mul_le_mul hbetter hfactors (zero_le_one.trans (one_le_factors hlikes hloops s)) hleast

theorem le_boostEngagement {score : ℝ} (hscore : 0 ≤ score) (s : Signals) :
    score ≤ boostEngagement weights score s := by
  rw [boostEngagement_eq]
  exact le_mul_of_one_le_right hscore (one_le_factors hlikes hloops s)

/-- A boost leaves a score as it is exactly if the score is zero or nothing boosts it. -/
theorem boostEngagement_eq_self_iff (score : ℝ) (s : Signals) :
    boostEngagement weights score s = score ↔ score = 0 ∨ ¬ s.Boosts weights := by
  have hfactors : engagementFactor s.likes weights.likes * engagementFactor s.loops weights.loops
      = 1 ↔ ¬ s.Boosts weights := by
    have hleast := one_le_engagementFactor hlikes s.likes
    have hleast' := one_le_engagementFactor hloops s.loops
    unfold Signals.Boosts
    rw [not_or, ← engagementFactor_eq_one_iff hlikes, ← engagementFactor_eq_one_iff hloops]
    constructor
    · intro hone
      constructor <;> nlinarith
    · rintro ⟨hone, hone'⟩
      rw [hone, hone', mul_one]
  rw [boostEngagement_eq, mul_right_eq_self₀, hfactors, or_comm]

/-- Boosts by the same counters keep the order of scores. -/
theorem boostEngagement_lt_iff (score score' : ℝ) {s s' : Signals} (h : s.Alike s') :
    (boostEngagement weights score s < boostEngagement weights score' s' ↔ score < score') ∧
      (boostEngagement weights score s = boostEngagement weights score' s' ↔ score = score') := by
  have hpos : 0 < engagementFactor s.likes weights.likes *
      engagementFactor s.loops weights.loops :=
    zero_lt_one.trans_le (one_le_factors hlikes hloops s)
  rw [← boostEngagement_congr weights score' h, boostEngagement_eq, boostEngagement_eq]
  exact ⟨mul_lt_mul_iff_left₀ hpos, mul_left_inj' hpos.ne'⟩

/-- Boosts by the same counters keep the order of scores with times. -/
theorem pairLess_boostEngagement {score score' : ℝ} {s s' : Signals} (h : s.Alike s')
    (time time' : Int) :
    Scalar.pairLess (boostEngagement weights score s, time)
        (boostEngagement weights score' s', time') =
      Scalar.pairLess (score, time) (score', time') := by
  obtain ⟨hless, hsame⟩ := boostEngagement_lt_iff hlikes hloops score score' h
  unfold Scalar.pairLess
  show (if decide _ then _ else decide _) = if decide _ then _ else decide _
  simp only [hless, hsame]

end Boosts

/-! ## Boosted hits -/

/-- Items at two places of a list stand in it in this order. -/
theorem pair_sublist_of_lt {β : Type} {items : List β} {i j : ℕ} {a b : β} (hij : i < j)
    (ha : items[i]? = some a) (hb : items[j]? = some b) : [a, b].Sublist items := by
  have hfirst : a ∈ items.take j := by
    rw [← List.getElem?_take_of_lt hij] at ha
    exact List.mem_of_getElem? ha
  have hsecond : b ∈ items.drop j := by
    refine List.mem_of_getElem? (i := 0) ?_
    rw [List.getElem?_drop]
    exact hb
  have hboth := (List.singleton_sublist.mpr hfirst).append (List.singleton_sublist.mpr hsecond)
  rwa [List.take_append_drop] at hboth

namespace Descriptor

variable {t : EntityType} {d : Descriptor} {q : Query}

/-- Boosted types are shown as documents, which are ordered by score and time alone. -/
theorem sortKey_boosted (hd : Descriptor.of? t = some d) (hboost : d.adjustment = .engagement)
    (r : SearchResult ℝ) : d.sortKey q r = ⟨false, false, r.rankKey⟩ := by
  cases t <;> cases hd <;> first | rfl | cases hboost

/-- In the order of a boosted type a result that is better than another comes before it, and so
does one that is as good and stood first. -/
theorem pair_sublist_order (hd : Descriptor.of? t = some d) (hboost : d.adjustment = .engagement)
    {results : List (SearchResult ℝ)} {i j : ℕ} {r r' : SearchResult ℝ}
    (hr : results[i]? = some r) (hr' : results[j]? = some r')
    (h : Scalar.pairLess r'.rankKey r.rankKey = true ∨
      i < j ∧ Scalar.pairLess r.rankKey r'.rankKey = false) :
    [r, r'].Sublist (d.order q results) := by
  have hpair : GoesBy (Scalar.pairLess (α := ℝ)) Scalar.isPairOrderly
      fun k => toLex (id k.1, k.2) := Scalar.pairLess_goesBy_of fun _ _ _ _ => ⟨rfl, rfl⟩
  have hless := TypeKey.less_goesBy_of hpair
  have horderly : ∀ x ∈ results, Scalar.isPairOrderly (d.sortKey q x).pair = true :=
    fun x _ => Scalar.isOrderly_real _
  have hcompare : ∀ x y : SearchResult ℝ, TypeKey.less (d.sortKey q x) (d.sortKey q y) =
      Scalar.pairLess x.rankKey y.rankKey := by
    intro x y
    rw [sortKey_boosted hd hboost, sortKey_boosted hd hboost]
    rfl
  rcases h with habove | ⟨hij, hnotBelow⟩
  · exact above_sublist_sortDescending hless horderly (List.mem_of_getElem? hr)
      (List.mem_of_getElem? hr') ((hcompare _ _).trans habove)
  · exact pair_sublist_sortDescending hless horderly ((hcompare _ _).trans hnotBelow)
      (pair_sublist_of_lt hij hr hr')

end Descriptor

/-- The key by which the raw score of a hit ranks it. -/
def Hit.rankKey (hit : Hit ℝ) : ℝ × Int := (hit.score, hit.createdAt)

theorem Descriptor.rankKey_shape (d : Descriptor) (hit : Hit ℝ) (score : ℝ) :
    (d.shape hit score).rankKey = (score, hit.createdAt) := by
  unfold Descriptor.shape
  split <;> rfl

/-- The result of a hit with the score that its signals boost it to. -/
noncomputable def Descriptor.boosted (d : Descriptor) (weights : BoostWeights ℝ) (hit : Hit ℝ)
    (s : Signals) : SearchResult ℝ :=
  d.shape hit (boostEngagement weights hit.score s)

/-- Results of hits with the same counters compare as the hits do. -/
theorem Descriptor.pairLess_boosted {weights : BoostWeights ℝ} (hlikes : 0 ≤ weights.likes)
    (hloops : 0 ≤ weights.loops) (d : Descriptor) (x y : Hit ℝ) {s s' : Signals}
    (h : s.Alike s') :
    Scalar.pairLess (d.boosted weights x s).rankKey (d.boosted weights y s').rankKey =
      Scalar.pairLess x.rankKey y.rankKey := by
  unfold boosted
  rw [rankKey_shape, rankKey_shape]
  exact pairLess_boostEngagement hlikes hloops h _ _

/-- The results of the hits at two places, with their signals, stand to each other as the hits
do. -/
structure KeepOrder (weights : BoostWeights ℝ) (d : Descriptor) (q : Query)
    (results : List (SearchResult ℝ)) (i j : ℕ) (x y : Hit ℝ) (s s' : Signals) : Prop where
  first : results[i]? = some (d.boosted weights x s)
  second : results[j]? = some (d.boosted weights y s')
  /-- The results compare as the hits do. -/
  compared : Scalar.pairLess (d.boosted weights x s).rankKey (d.boosted weights y s').rankKey =
    Scalar.pairLess x.rankKey y.rankKey
  /-- If the first hit is better, or as good and found first, its result comes first. -/
  ahead : Scalar.pairLess y.rankKey x.rankKey = true ∨
      i < j ∧ Scalar.pairLess x.rankKey y.rankKey = false →
    [d.boosted weights x s, d.boosted weights y s'].Sublist (d.order q results)

namespace Adjuster

variable (a : Adjuster ℝ) (store : IndexStore ℝ) {t : EntityType} {d : Descriptor} {now : Int}

theorem exists_adjust_boosted (hnow : a.now = .ok now) (hboost : d.adjustment = .engagement)
    (hits : List (Hit ℝ)) : ∃ results, a.adjust store d hits = .ok results := by
  refine a.exists_adjust_of_score store d hnow (fun position hit => ?_) hits
  unfold Adjuster.score
  simp only [hboost]
  split <;> exact ⟨_, rfl⟩

theorem getElem?_adjust_boosted (hnow : a.now = .ok now) (hboost : d.adjustment = .engagement)
    {hits : List (Hit ℝ)} {results : List (SearchResult ℝ)}
    (h : a.adjust store d hits = .ok results) {i : ℕ} {hit : Hit ℝ} (hhit : hits[i]? = some hit)
    {s : Signals} (hs : store.signals ⟨d.entityType, i, hit.entityId⟩ = .ok s) :
    results[i]? = some (d.boosted a.weights hit s) := by
  obtain ⟨-, hscores⟩ := (adjust_eq_ok_iff a store d hnow).mp h
  obtain ⟨score, hscore, hresult⟩ := hscores i hit hhit
  unfold Adjuster.score at hscore
  simp only [hboost, hs] at hscore
  cases hscore
  exact hresult

/-- Adjusting keeps two hits with the same counters in their order. -/
theorem keepOrder_adjust (hlikes : 0 ≤ a.weights.likes) (hloops : 0 ≤ a.weights.loops)
    (hnow : a.now = .ok now) (hd : Descriptor.of? t = some d)
    (hboost : d.adjustment = .engagement) (q : Query) {hits : List (Hit ℝ)}
    {results : List (SearchResult ℝ)} (h : a.adjust store d hits = .ok results) {i j : ℕ}
    {x y : Hit ℝ} {s s' : Signals} (hx : hits[i]? = some x) (hy : hits[j]? = some y)
    (hs : store.signals ⟨t, i, x.entityId⟩ = .ok s)
    (hs' : store.signals ⟨t, j, y.entityId⟩ = .ok s') (hsame : s.Alike s') :
    KeepOrder a.weights d q results i j x y s s' := by
  rw [← Descriptor.entityType_of? hd] at hs hs'
  have hfirst := a.getElem?_adjust_boosted store hnow hboost h hx hs
  have hsecond := a.getElem?_adjust_boosted store hnow hboost h hy hs'
  have hforth := d.pairLess_boosted hlikes hloops x y hsame
  have hback := d.pairLess_boosted hlikes hloops y x hsame.symm
  refine ⟨hfirst, hsecond, hforth, ?_⟩
  intro hahead
  rw [← hforth, ← hback] at hahead
  exact Descriptor.pair_sublist_order hd hboost hfirst hsecond hahead

end Adjuster

/-! ## The laws -/

/-- With weights that are not negative the boost does not fall with the raw score or with a
counter, never lowers a raw score that is not negative, treats all counters that count nothing
alike, also if nothing is known at all, and changes a score only if the score is not zero and a
counter with a positive weight is positive. Two hits with the same counters therefore keep their
order when they are adjusted. -/
theorem boost_laws {weights : BoostWeights ℝ} (hlikes : 0 ≤ weights.likes)
    (hloops : 0 ≤ weights.loops) :
    (∀ score better s s', 0 ≤ score → score ≤ better → Signals.AtMost s s' →
      boostEngagement weights score s ≤ boostEngagement weights better s') ∧
    (∀ score s, 0 ≤ score → score ≤ boostEngagement weights score s) ∧
    (∀ score s s', Signals.Alike s s' →
      boostEngagement weights score s = boostEngagement weights score s') ∧
    (∀ score, weights.boost score none = boostEngagement weights score ⟨none, none⟩) ∧
    (∀ score s, boostEngagement weights score s = score ↔ score = 0 ∨ ¬ s.Boosts weights) ∧
    ∀ (a : Adjuster ℝ) now store t d q hits, a.weights = weights → a.now = .ok now →
      Descriptor.of? t = some d → d.adjustment = .engagement →
      ∃ results, a.adjust store d hits = .ok results ∧ results.length = hits.length ∧
        ∀ i j x y s s', hits[i]? = some x → hits[j]? = some y →
          store.signals ⟨t, i, x.entityId⟩ = .ok s →
          store.signals ⟨t, j, y.entityId⟩ = .ok s' → s.Alike s' →
          KeepOrder weights d q results i j x y s s' := by
  refine ⟨?monotone, ?above, ?alike, ?unknown, ?unchanged, ?order⟩
  case monotone =>
    intro score better s s' hscore hbetter hmore
    exact boostEngagement_mono hlikes hloops hscore hbetter hmore
  case above =>
    intro score s hscore
    exact le_boostEngagement hlikes hloops hscore s
  case alike =>
    intro score s s' h
    exact boostEngagement_congr weights score h
  case unknown => exact boost_none weights
  case unchanged => exact boostEngagement_eq_self_iff hlikes hloops
  case order =>
    intro a now store t d q hits hweights hnow hd hboost
    subst hweights
    obtain ⟨results, hresults⟩ := a.exists_adjust_boosted store hnow hboost hits
    refine ⟨results, hresults, ((a.adjust_eq_ok_iff store d hnow).mp hresults).1, ?_⟩
    intro i j x y s s' hx hy hs hs' hsame
    exact a.keepOrder_adjust store hlikes hloops hnow hd hboost q hresults hx hy hs hs' hsame

/-- The description of videos. -/
def videos : Descriptor := (Descriptor.of? .video).getD default

/-- Two videos that are found with the scores zero and one. -/
noncomputable def twoVideos : List (Hit ℝ) := [⟨"a", 0, none, [], 0⟩, ⟨"b", 1, none, [], 0⟩]

theorem boost_laws_usual :
    0 ≤ (BoostWeights.usual (α := ℝ)).likes ∧ 0 ≤ (BoostWeights.usual (α := ℝ)).loops ∧
    boostEngagement .usual (2 : ℝ) ⟨some (-5), none⟩ = 2 ∧
    2 < boostEngagement .usual (2 : ℝ) ⟨some 3, none⟩ ∧
    ∃ results, (⟨.usual, .ok 0⟩ : Adjuster ℝ).adjust
        { IndexStore.down with signals := fun _ => .ok ⟨some 3, none⟩ } videos twoVideos =
          .ok results ∧
      [videos.boosted .usual ⟨"b", 1, none, [], 0⟩ ⟨some 3, none⟩,
        videos.boosted .usual ⟨"a", 0, none, [], 0⟩ ⟨some 3, none⟩].Sublist
        (videos.order {} results) := by
  have hlikes : (0 : ℝ) < (BoostWeights.usual (α := ℝ)).likes := by
    show (0 : ℝ) < (1 : ℕ) / 10 ^ 1
    norm_num
  have hloops : (0 : ℝ) ≤ (BoostWeights.usual (α := ℝ)).loops := by
    show (0 : ℝ) ≤ (5 : ℕ) / 10 ^ 2
    norm_num
  obtain ⟨-, habove, -, -, hunchanged, horder⟩ := boost_laws hlikes.le hloops
  have hnothing : ¬ Signals.Boosts ⟨some (-5), none⟩ (BoostWeights.usual (α := ℝ)) := by
    simp [Signals.Boosts, counted]
  have hthree : Signals.Boosts ⟨some 3, none⟩ (BoostWeights.usual (α := ℝ)) :=
    Or.inl ⟨by decide, hlikes⟩
  have hchanged : boostEngagement .usual (2 : ℝ) ⟨some 3, none⟩ ≠ 2 := by
    rw [Ne, hunchanged, not_or, not_not]
    exact ⟨two_ne_zero, hthree⟩
  refine ⟨hlikes.le, hloops, (hunchanged _ _).mpr (Or.inr hnothing),
    lt_of_le_of_ne (habove _ _ zero_le_two) hchanged.symm, ?_⟩
  obtain ⟨results, hresults, -, hkeep⟩ := horder ⟨.usual, .ok 0⟩ 0
    { IndexStore.down with signals := fun _ => .ok ⟨some 3, none⟩ } .video videos {} twoVideos
    rfl rfl rfl rfl
  refine ⟨results, hresults, (hkeep 1 0 _ _ _ _ rfl rfl rfl rfl ⟨rfl, rfl⟩).ahead (Or.inl ?_)⟩
  show (if decide _ then _ else decide ((0 : ℝ) < 1)) = true
  norm_num [Hit.rankKey]

end EntitySearch

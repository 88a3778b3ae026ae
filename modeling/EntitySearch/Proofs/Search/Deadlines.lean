import EntitySearch.Proofs.Search.SourceEndings
/-!
# Ending in time

A source misses its time limit, or it fails or answers in time. Which of these it is, is told by the
turns of the search: the limit passes while the source is at work, or before it has been asked
(`Searcher.MissedDeadline`). A search comes to the ends of its sources by turns that say the same
(`Searcher.Steady.exists_turns`).
-/

namespace EntitySearch

variable {σ α : Type}

/-! ## Types that fail -/

section Types

variable [LogScalar α]

/-- The search in a type fails: the store is asked and fails, or its hits cannot be adjusted. -/
def TypeSearch.Fails (adjuster : Adjuster α) (store : IndexStore α) (t : EntityType) (q : Query)
    (limit : Int) : Prop :=
  ∃ d, Descriptor.of? t = some d ∧ 0 < limit ∧ d.acceptsGiven q.filters.kind = true ∧
    Lexical.build (d.queryTerms q) ≠ [] ∧
    match store.search d (Lexical.build (d.queryTerms q)) q.filters limit with
    | .failed _ => True
    | .hits hits => ∃ cause, adjuster.adjust store d hits = .error cause
    | .cancelled => False

theorem TypeSearch.ending_eq_failed_iff (adjuster : Adjuster α) (store : IndexStore α)
    (t : EntityType) (q : Query) (limit : Int) :
    (plan adjuster store t q limit).ending = .failed ↔ Fails adjuster store t q limit := by
  unfold plan Fails
  cases hd : Descriptor.of? t with
  | none => simp [idle]
  | some d =>
    simp only [Option.some.injEq, exists_eq_left']
    by_cases hlimit : limit ≤ 0
    · simp [if_pos hlimit, idle, Int.not_lt.mpr hlimit]
    · rw [if_neg hlimit]
      unfold inDescriptor
      cases hkind : d.acceptsGiven q.filters.kind with
      | false => simp [idle]
      | true =>
        by_cases hempty : Lexical.build (d.queryTerms q) = []
        · simp [hempty, idle]
        · have hpos : 0 < limit := by omega
          have hsecond : (Lexical.build (d.queryTerms q)).isEmpty = false := by simp [hempty]
          simp only [Bool.not_true, Bool.false_eq_true, if_false, hsecond, hpos, true_and, ne_eq,
            hempty, not_false_eq_true]
          unfold conclude
          cases store.search d (Lexical.build (d.queryTerms q)) q.filters limit with
          | cancelled => simp
          | failed cause => simp
          | hits hits =>
            simp only
            cases adjuster.adjust store d hits with
            | error cause => simp
            | ok results => simp

end Types

/-! ## What becomes of a source -/

namespace Searcher

variable [LogScalar α] [SemanticSource σ α] (x : Searcher σ α) (q : Query)
  (options : SearchOptions)

/-- A source had not ended when its time limit passed, or was not even asked because the time limit
is not positive. Several types that are searched together are asked all the same. -/
def MissedDeadline (turns : List (Float × Turn EntityType)) (source : Text) : Prop :=
  ∃ seconds, x.timeLimit options = some seconds ∧
    ((∃ s ∈ x.searches q options, (s.entityType.name : Text) = source ∧
        (((Strategy.choose q).type?.isSome = true ∧ seconds ≤ 0) ∨
          Race.WhenPassed (x.racePlan q options) (x.side? q options) turns .closeIndex fun race =>
            race.fanout.hasEnded s.entityType = false)) ∨
      (source = ("semantic" : Text) ∧
        (seconds ≤ 0 ∨
          Race.WhenPassed (x.racePlan q options) (x.side? q options) turns .closeSource fun race =>
            race.sourceOpen = true)))

/-- The search in a source fails, whether in time or not. -/
def Failed (now : Float) (source : Text) : Prop :=
  (∃ s ∈ x.searches q options, (s.entityType.name : Text) = source ∧
      TypeSearch.Fails x.adjuster x.store s.entityType q s.limit) ∨
    (source = ("semantic" : Text) ∧
      ∃ side ∈ (x.course q options now).source, side.stage.outcome = .failed)

/-- The search in a source comes to results, whether in time or not. -/
def Answered (now : Float) (source : Text) : Prop :=
  (∃ s ∈ x.searches q options, (s.entityType.name : Text) = source ∧
      ¬ TypeSearch.Fails x.adjuster x.store s.entityType q s.limit) ∨
    (source = ("semantic" : Text) ∧
      ∃ side ∈ (x.course q options now).source, ∃ results, side.stage.outcome = .returned results)

/-! ## Plans -/

section Plans

omit [SemanticSource σ α]

theorem searches_planned {s : SubSearch α} (hs : s ∈ x.searches q options) :
    ∃ p, x.indexPlan q options = .ok p ∧ IndexPlan.Planned x.adjuster x.store q p ∧
      s ∈ p.searches := by
  unfold searches at hs
  cases hplan : x.indexPlan q options with
  | error cause =>
    rw [hplan] at hs
    cases hs
  | ok p =>
    rw [hplan] at hs
    exact ⟨p, rfl, IndexPlan.planned_ofStrategy hplan, hs⟩

theorem bound_racePlan : (x.racePlan q options).bound ≠ some 0 := by
  unfold racePlan IndexPlan.race
  cases x.indexPlan q options with
  | error cause => simp
  | ok p =>
    simp only
    split
    · simp
    · exact x.limits.bound_ne_zero

theorem timeout_racePlan : (x.racePlan q options).timeout = x.timeLimit options := by
  unfold racePlan
  cases x.indexPlan q options <;> rfl

theorem breaksOff_racePlan (hstore : x.store.NeverCancels) (t : EntityType) :
    (x.racePlan q options).breaksOff t = false := by
  unfold racePlan
  cases hplan : x.indexPlan q options with
  | error cause => rfl
  | ok p => exact (IndexPlan.planned_ofStrategy hplan).breaksOff_eq_false hstore t

theorem fails_racePlan {p : IndexPlan α} (hplan : x.indexPlan q options = .ok p) :
    (x.racePlan q options).fails = false := by
  unfold racePlan
  rw [hplan]
  rfl

theorem isSingle_indexPlan {p : IndexPlan α} (hplan : x.indexPlan q options = .ok p) :
    p.isSingle = (Strategy.choose q).type?.isSome := by
  have hstrategy : p.strategy = Strategy.choose q := by
    unfold indexPlan IndexPlan.ofStrategy at hplan
    cases hchosen : Strategy.choose q with
    | single t =>
      rw [hchosen] at hplan
      cases hplan
      rfl
    | unified =>
      rw [hchosen] at hplan
      simp only [IndexPlan.unified] at hplan
      split at hplan
      · cases hplan
        rfl
      · cases hparts : IndexPlan.subLimits α (x.asked options) with
        | error cause =>
          rw [hparts] at hplan
          cases hplan
        | ok parts =>
          rw [hparts] at hplan
          cases hplan
          rfl
  unfold IndexPlan.isSingle
  rw [hstrategy]

end Plans

/-! ## Ends by turns -/

omit [LogScalar α] in
/-- A source sets out having come to nothing, and is not asked if the time limit is not positive. -/
theorem sourceSide_start {source : σ} {q : Query} {limit : Int} {s : Strategy}
    (timeout : Option Float)
    (hsteady : ∀ now, (SemanticSource.search source q limit s.type? now).Through
      SourceRun.IsPending SourceRun.HasEnded) :
    let side : SourceSide (SourceRun σ α) := sourceSide source s q limit timeout
    side.Along SourceRun.IsPending SourceRun.HasEnded ∧ side.stage.IsPending ∧
      (side.next = none ↔ ∃ seconds, timeout = some seconds ∧ seconds ≤ 0) := by
  have hsecond : ∀ next ∈ some (SemanticSource.search source q limit s.type?), ∀ now,
      (next now).Through SourceRun.IsPending SourceRun.HasEnded := by
    rintro next ⟨rfl⟩
    exact hsteady
  unfold sourceSide
  cases timeout with
  | none => exact ⟨⟨fun _ => rfl, hsecond⟩, rfl, by simp⟩
  | some seconds =>
    simp only
    split
    · rename_i hnever
      exact ⟨⟨fun _ => rfl, by simp⟩, rfl, by simpa using hnever⟩
    · rename_i hpositive
      exact ⟨⟨fun _ => rfl, hsecond⟩, rfl, by simpa using hpositive⟩

omit [LogScalar α] in
/-- All that a source can do is to search. -/
theorem eq_search_of_mem {source : σ} {s : Strategy} {q : Query} {limit : Int}
    {timeout : Option Float} {next : Float → Activity (SourceRun σ α)}
    (h : next ∈ (sourceSide source s q limit timeout).next) :
    next = SemanticSource.search source q limit s.type? := by
  unfold sourceSide at h
  cases timeout with
  | none => exact (Option.some.inj h).symm
  | some seconds =>
    simp only at h
    split at h
    · cases h
    · exact (Option.some.inj h).symm

section Turns

variable {x q options} {turns : List (Float × Turn EntityType)}
  {y : Race EntityType (SourceRun σ α)} {pending : Multiset (Turn EntityType)}
  (hpath : Race.Path (x.racePlan q options) (x.side? q options) turns y pending)

include hpath

/-- The search in a type has not ended at last if and only if it had not ended when the time limit
passed, or has not begun. -/
theorem hasEnded_eq_false_iff {p : IndexPlan α} (hplan : x.indexPlan q options = .ok p)
    (hdone : Race.Done (x.racePlan q options) turns y) {s : SubSearch α} (hs : s ∈ p.searches) :
    y.fanout.hasEnded s.entityType = false ↔
      ∃ seconds, x.timeLimit options = some seconds ∧
        (((Strategy.choose q).type?.isSome = true ∧ seconds ≤ 0) ∨
          Race.WhenPassed (x.racePlan q options) (x.side? q options) turns .closeIndex fun race =>
            race.fanout.hasEnded s.entityType = false) := by
  have hrace : x.racePlan q options = p.race x.limits.bound (x.timeLimit options) := by
    unfold racePlan
    rw [hplan]
  have hsingle := x.isSingle_indexPlan q options hplan
  cases hidle : p.isIdle (x.timeLimit options) with
  | true =>
    have hjobs : (x.racePlan q options).jobs = [] := by simp [hrace, IndexPlan.race, hidle]
    refine iff_of_true (by simp [Fanout.hasEnded, Race.ended_of_no_jobs hjobs hpath]) ?_
    unfold IndexPlan.isIdle at hidle
    rw [hsingle] at hidle
    split at hidle
    · rename_i seconds hone hlimit
      exact ⟨seconds, hlimit, Or.inl ⟨hone, of_decide_eq_true hidle⟩⟩
    · cases hidle
  | false =>
    have hentry : (s.entityType, s.search.duration) ∈ (x.racePlan q options).jobs := by
      simp only [hrace, IndexPlan.race, hidle, Bool.false_eq_true, if_false]
      exact List.mem_map_of_mem hs
    rw [Race.hasEnded_eq_false_iff (x.bound_racePlan q options) (x.fails_racePlan q options hplan)
      hpath hdone hentry]
    constructor
    · intro hpassed
      have htimed := hpassed.timed (Or.inl rfl) hpath
      rw [timeout_racePlan] at htimed
      obtain ⟨seconds, hlimit⟩ := Option.isSome_iff_exists.mp htimed
      exact ⟨seconds, hlimit, Or.inr hpassed⟩
    · rintro ⟨seconds, hlimit, ⟨hone, hnever⟩ | hpassed⟩
      · simp [IndexPlan.isIdle, hsingle, hone, hlimit, hnever] at hidle
      · exact hpassed

/-- The secondary source has been given up at last if and only if it was at work when its time limit
passed, or has not been asked. -/
theorem ending_eq_missed_iff {source : σ} (hsecond : x.secondary options = some source)
    (hsteady : ∀ now, (SemanticSource.search source q (x.asked options)
      (Strategy.choose q).type? now).Through SourceRun.IsPending SourceRun.HasEnded)
    {side : SourceSide (SourceRun σ α)} (hside : y.source = some side) :
    side.ending = .missed ↔
      ∃ seconds, x.timeLimit options = some seconds ∧
        (seconds ≤ 0 ∨
          Race.WhenPassed (x.racePlan q options) (x.side? q options) turns .closeSource fun race =>
            race.sourceOpen = true) := by
  obtain ⟨initial, hinitial⟩ : ∃ initial, initial = sourceSide (α := α) source (Strategy.choose q) q
      (x.asked options) (x.timeLimit options) := ⟨_, rfl⟩
  have hside? : x.side? q options = some initial := by simp [side?, hsecond, hinitial]
  have hstart := sourceSide_start (x.timeLimit options) hsteady
  rw [← hinitial] at hstart
  obtain ⟨halong, hpending, hidle⟩ := hstart
  rw [hside?] at hpath ⊢
  have hgiven := Race.given_up_iff (p := x.racePlan q options) halong
    (fun run hwaits hended => hended hwaits) hpending turns
    ((congrArg Race.source hpath.after_eq).trans hside)
  have hmissed : side.ending = .missed ↔ side.next = none ∧ side.stage.IsPending :=
    side.ending_eq_missed_iff
  rw [hmissed, hgiven, hidle]
  constructor
  · rintro (⟨seconds, hlimit, hnever⟩ | hpassed)
    · exact ⟨seconds, hlimit, Or.inl hnever⟩
    · have htimed := hpassed.timed (Or.inr rfl) hpath
      rw [timeout_racePlan] at htimed
      obtain ⟨seconds, hlimit⟩ := Option.isSome_iff_exists.mp htimed
      exact ⟨seconds, hlimit, Or.inr hpassed⟩
  · rintro ⟨seconds, hlimit, hnever | hpassed⟩
    · exact Or.inl ⟨seconds, hlimit, hnever⟩
    · exact Or.inr hpassed

end Turns

/-! ## One source at a time -/

section Names

variable {x q options} {turns : List (Float × Turn EntityType)}

omit [SemanticSource σ α] in
/-- What is said of some search in a type of a name is said of the search. -/
theorem exists_search_iff {s : SubSearch α} (hs : s ∈ x.searches q options)
    (P : SubSearch α → Prop) :
    (∃ s' ∈ x.searches q options, (s'.entityType.name : Text) = s.entityType.name ∧ P s') ↔
      P s := by
  constructor
  · rintro ⟨s', hs', hname, h⟩
    have hsame := List.inj_on_of_nodup_map (x.nodup_searches q options) hs' hs
      (EntityType.name_injective hname)
    exact hsame ▸ h
  · exact fun h => ⟨s, hs, rfl, h⟩

omit [SemanticSource σ α] in
theorem not_exists_search (P : SubSearch α → Prop) :
    ¬ ∃ s ∈ x.searches q options, (s.entityType.name : Text) = ("semantic" : Text) ∧ P s :=
  fun ⟨s, _, hname, _⟩ => s.entityType.name_ne_semantic hname

end Names

/-- What the end of a source says: it has missed its time limit, or has failed or answered in time.
It is withdrawn only when the limit cannot be divided among the types. -/
structure Means (turns : List (Float × Turn EntityType)) (now : Float) (source : Text)
    (ending : SourceEnd) : Prop where
  missed : ending = .missed ↔ x.MissedDeadline q options turns source
  failed : ending = .failed ↔
    ¬ x.MissedDeadline q options turns source ∧ x.Failed q options now source
  answered : ending = .answered ↔
    ¬ x.MissedDeadline q options turns source ∧ x.Answered q options now source
  withdrawn : ending = .withdrawn → ∃ cause, x.indexPlan q options = .error cause

section Meaning

variable {x q options} (hstore : x.store.NeverCancels)
  {turns : List (Float × Turn EntityType)} {now : Float} {pending : Multiset (Turn EntityType)}
  (hpath : Race.Path (x.racePlan q options) (x.side? q options) turns (x.course q options now)
    pending)

include hstore hpath

/-- The end of the search in a type. -/
theorem means_type {p : IndexPlan α} (hplan : x.indexPlan q options = .ok p)
    (hdone : Race.Done (x.racePlan q options) turns (x.course q options now)) {s : SubSearch α}
    (hs : s ∈ p.searches) :
    x.Means q options turns now s.entityType.name (s.endIn (x.course q options now).fanout) := by
  have hmem : s ∈ x.searches q options := by
    unfold searches
    rw [hplan]
    exact hs
  have hplanned := IndexPlan.planned_ofStrategy hplan
  have hname := s.entityType.name_ne_semantic
  have hcalm : s.search.ending ≠ .cancelled := by
    rw [hplanned.ofType s hs]
    exact TypeSearch.ending_ne_cancelled x.adjuster hstore _ _ _
  have hmissed : x.MissedDeadline q options turns s.entityType.name ↔
      (x.course q options now).fanout.hasEnded s.entityType = false := by
    rw [hasEnded_eq_false_iff hpath hplan hdone hs]
    refine exists_congr fun seconds => and_congr_right fun _ => ?_
    rw [exists_search_iff hmem]
    simp [hname]
  have hfails : TypeSearch.Fails x.adjuster x.store s.entityType q s.limit ↔
      s.search.ending = .failed := by
    rw [← TypeSearch.ending_eq_failed_iff, ← hplanned.ofType s hs]
  have hfailed : x.Failed q options now s.entityType.name ↔ s.search.ending = .failed := by
    unfold Failed
    rw [exists_search_iff hmem, hfails]
    simp [hname]
  have hanswered : x.Answered q options now s.entityType.name ↔ s.search.ending ≠ .failed := by
    unfold Answered
    rw [exists_search_iff hmem, hfails]
    simp [hname]
  refine ⟨?_, ?_, ?_, fun h => absurd h (SubSearch.endIn_ne_withdrawn _ hcalm)⟩
  · rw [hmissed, SubSearch.endIn_eq_missed_iff]
  · rw [hmissed, hfailed, SubSearch.endIn_eq_failed_iff, Bool.not_eq_false]
  · rw [hmissed, hanswered, SubSearch.endIn_eq_answered_iff _ hcalm, Bool.not_eq_false]

omit hstore in
/-- The end of the secondary source, which is over when the search is unless the search fails. -/
theorem means_source {source : σ} (hsecond : x.secondary options = some source)
    (hsteady : ∀ now, (SemanticSource.search source q (x.asked options)
      (Strategy.choose q).type? now).Through SourceRun.IsPending SourceRun.HasEnded)
    {side : SourceSide (SourceRun σ α)} (hside : (x.course q options now).source = some side)
    (hover : (x.course q options now).sourceOpen = true →
      ∃ cause, x.indexPlan q options = .error cause) :
    x.Means q options turns now "semantic" side.ending := by
  have hmissed : x.MissedDeadline q options turns "semantic" ↔ side.ending = .missed := by
    rw [ending_eq_missed_iff hpath hsecond hsteady hside]
    refine exists_congr fun seconds => and_congr_right fun _ => ?_
    simp [not_exists_search]
  have hfailed : x.Failed q options now "semantic" ↔ side.stage.outcome = .failed := by
    unfold Failed
    simp [not_exists_search, hside]
  have hanswered : x.Answered q options now "semantic" ↔
      ∃ results, side.stage.outcome = .returned results := by
    unfold Answered
    simp [not_exists_search, hside]
  refine ⟨hmissed.symm, ?_, ?_, fun h => hover ?_⟩
  · rw [hmissed, hfailed, ← side.ending_eq_failed_iff]
    exact ⟨fun h => ⟨by simp [h], h⟩, fun h => h.2⟩
  · rw [hmissed, hanswered, ← side.ending_eq_answered_iff]
    exact ⟨fun h => ⟨by simp [h], h⟩, fun h => h.2⟩
  · simpa [Race.sourceOpen, hside] using side.isSome_next_of_withdrawn h

end Meaning

/-- A store that never cancels, and a source that waits no more often than it says and comes to
nothing before it ends. -/
structure Steady : Prop where
  store : x.store.NeverCancels
  source : ∀ source ∈ x.secondary options, ∀ now,
    (SemanticSource.search source q (x.asked options) (Strategy.choose q).type? now).Within
        (SemanticSource.waits source) ∧
      (SemanticSource.search source q (x.asked options)
        (Strategy.choose q).type? now).Through SourceRun.IsPending SourceRun.HasEnded

variable {x q options} (hsteady : x.Steady q options)

include hsteady

/-- A steady search takes one of its paths. Where there is a plan, it is not broken off, and neither
side is at work at its end. -/
theorem Steady.exists_path (now : Float) :
    ∃ turns pending, Race.Path (x.racePlan q options) (x.side? q options) turns
        (x.course q options now) pending ∧
      ∀ p, x.indexPlan q options = .ok p → (x.course q options now).indexOpen = false ∧
        (x.course q options now).sourceOpen = false ∧
        Race.Done (x.racePlan q options) turns (x.course q options now) := by
  have hwithin : Race.SourceWithin (((x.secondary options).map SemanticSource.waits).getD 0)
      (x.side? q options) := by
    intro side hside next hnext
    obtain ⟨source, hsecond, rfl⟩ := Option.map_eq_some_iff.mp hside
    rw [hsecond, Option.map_some, Option.getD_some, eq_search_of_mem hnext]
    exact fun now => (hsteady.source source hsecond now).1
  have hcalm := x.breaksOff_racePlan q options hsteady.store
  obtain ⟨turns, pending, hpath, hend⟩ := Race.run_settled (x.bound_racePlan q options)
    (x.side? q options) _ now (by simp [Race.breakCost, hcalm]) hwithin
  refine ⟨turns, pending, hpath, ?_⟩
  intro p hplan
  have hunbroken := Race.not_broken (x.fails_racePlan q options hplan) hcalm hpath
  exact hend.resolve_left (by simp [hunbroken])

omit hsteady in
/-- The sources of a search are the types in which it looks and the secondary source. -/
theorem mem_endings {now : Float} {source : Text} {ending : SourceEnd}
    (h : (source, ending) ∈ x.endings q options now) :
    (∃ p, x.indexPlan q options = .ok p ∧ ∃ s ∈ p.searches,
        source = s.entityType.name ∧ ending = s.endIn (x.course q options now).fanout) ∨
      (∃ secondary ∈ x.secondary options, ∃ side ∈ (x.course q options now).source,
        source = ("semantic" : Text) ∧ ending = side.ending) := by
  unfold endings at h
  split at h
  · cases h
  · rcases List.mem_append.mp h with htype | hsource
    · obtain ⟨s, hs, heq⟩ := List.mem_map.mp htype
      cases heq
      obtain ⟨p, hplan, _, hmem⟩ := x.searches_planned q options hs
      exact Or.inl ⟨p, hplan, s, hmem, rfl, rfl⟩
    · obtain ⟨side, hside, heq⟩ := List.mem_map.mp hsource
      cases heq
      rw [Option.mem_toList] at hside
      have hsome := x.isSome_course_source q options now
      rw [hside] at hsome
      obtain ⟨source, hsecond⟩ := Option.isSome_iff_exists.mp hsome.symm
      exact Or.inr ⟨source, hsecond, side, hside, rfl, rfl⟩

/-- A steady search comes to the ends of its sources by turns. -/
theorem Steady.exists_turns (now : Float) :
    ∃ turns pending, Race.Path (x.racePlan q options) (x.side? q options) turns
        (x.course q options now) pending ∧
      ∀ source ending, (source, ending) ∈ x.endings q options now →
        x.Means q options turns now source ending := by
  obtain ⟨turns, pending, hpath, hsettled⟩ := hsteady.exists_path now
  refine ⟨turns, pending, hpath, ?_⟩
  intro source ending hending
  rcases mem_endings hending with
    ⟨p, hplan, s, hs, rfl, rfl⟩ | ⟨secondary, hsecond, side, hside, rfl, rfl⟩
  · exact means_type hsteady.store hpath hplan (hsettled p hplan).2.2 hs
  · refine means_source hpath hsecond (fun now => (hsteady.source secondary hsecond now).2) hside ?_
    intro hopen
    cases hplan : x.indexPlan q options with
    | error cause => exact ⟨cause, rfl⟩
    | ok p => exact absurd (hsettled p hplan).2.1 (by simp [hopen])

end Searcher

end EntitySearch

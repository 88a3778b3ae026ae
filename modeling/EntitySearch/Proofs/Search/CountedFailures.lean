import EntitySearch.Proofs.Search.SourcesOnTime
import EntitySearch.Proofs.Semantic.ClientClock
import EntitySearch.Proofs.Semantic.Reports
/-!
# Failures are counted once

A search beside the client of the semantic service counts each of its sources at most once: once as
a timeout if the source had not ended when its time limit passed, once as an error if a type has
failed by then, and not at all if the source has answered. On the clock a source that misses its
limit is late, and one that does not has ended in time (`Searcher.Keeps`). A failure of the service
is not counted, because the client reports it as no results (`Searcher.failures_counted`).
-/

namespace EntitySearch

variable {σ α : Type}

/-! ## Beside the client -/

/-- An end with a failure counted as an answer. -/
def SourceEnd.forgiven : SourceEnd → SourceEnd
  | failed => answered
  | e => e

/-- Sides that come to the same but for failures end alike but for failures. -/
theorem ending_forgiven {σ' : Type} {side : SourceSide (SourceRun σ α)}
    {side' : SourceSide (SourceRun σ' α)}
    (h : side.map SourceRun.outcome = side'.map fun run => run.outcome.forgiven) :
    side.ending = side'.ending.forgiven := by
  have houtcome : side.stage.outcome = side'.stage.outcome.forgiven :=
    congrArg SourceSide.stage h
  have hnext : side.next.isNone = side'.next.isNone := by
    have hboth := congrArg (fun side => side.next.isNone) h
    simpa [SourceSide.map] using hboth
  unfold SourceSide.ending
  rw [houtcome, hnext]
  cases side'.stage.outcome with
  | returned results => rfl
  | failed => rfl
  | pending => cases side'.next.isNone <;> rfl

namespace Searcher

/-- The searcher with a client that reports its failures. -/
def reporting (x : Searcher Semantic.Client Float) : Searcher Semantic.Reporting Float :=
  { store := x.store, source := x.source.map Semantic.Reporting.mk, limits := x.limits
    fusion := x.fusion, adjuster := x.adjuster }

section Reporting

variable (x : Searcher Semantic.Client Float) (q : Query) (options : SearchOptions) (now : Float)

theorem secondary_reporting :
    x.reporting.secondary options = (x.secondary options).map Semantic.Reporting.mk := by
  unfold secondary reporting
  cases options.semantic <;> rfl

theorem asked_reporting : x.reporting.asked options = x.asked options := by
  rw [asked_eq, asked_eq, secondary_reporting]
  cases x.secondary options <;> rfl

theorem indexPlan_reporting : x.reporting.indexPlan q options = x.indexPlan q options := by
  unfold indexPlan
  rw [asked_reporting]
  rfl

theorem searches_reporting : x.reporting.searches q options = x.searches q options := by
  unfold searches
  rw [indexPlan_reporting]

theorem racePlan_reporting : x.reporting.racePlan q options = x.racePlan q options := by
  unfold racePlan
  rw [indexPlan_reporting]
  rfl

/-- Both searches go the same way, but the failures that the one reports are no results for the
other. -/
theorem course_reporting :
    (x.course q options now).map SourceRun.outcome =
      (x.reporting.course q options now).map fun run => run.outcome.forgiven := by
  unfold course side?
  rw [racePlan_reporting, asked_reporting, secondary_reporting]
  cases x.secondary options with
  | none =>
    -- with no source nothing is said of one
    have hrun := Race.run_map (x.racePlan q options)
      (SourceRun.outcome : SourceRun Semantic.Client Float → _) none 0 now
    have hrun' := Race.run_map (x.racePlan q options)
      (fun run : SourceRun Semantic.Reporting Float => run.outcome.forgiven) none 0 now
    exact (congrArg Prod.fst hrun).symm.trans (congrArg Prod.fst hrun')
  | some c =>
    exact race_forgiven c.forgives_reporting (Strategy.choose q) q (x.asked options)
      (x.timeLimit options) now (x.racePlan q options) (SemanticSource.waits c)

/-- A failure that the client does not report is an answer. -/
theorem endings_reporting :
    x.endings q options now = (x.reporting.endings q options now).map fun e =>
      if e.1 = ("semantic" : Text) then (e.1, e.2.forgiven) else e := by
  have hcourse := x.course_reporting q options now
  have hfanout : (x.course q options now).fanout = (x.reporting.course q options now).fanout :=
    congrArg Race.fanout hcourse
  have hsource : (x.course q options now).source.map (SourceSide.map SourceRun.outcome) =
      (x.reporting.course q options now).source.map
        (SourceSide.map fun run => run.outcome.forgiven) := congrArg Race.source hcourse
  have hlimits : x.reporting.limits = x.limits := rfl
  unfold endings
  rw [hlimits, searches_reporting, hfanout]
  split
  · rfl
  · rw [List.map_append, List.map_map, List.map_map]
    congr 1
    · refine List.map_congr_left fun s _ => ?_
      exact (if_neg s.entityType.name_ne_semantic).symm
    · revert hsource
      cases (x.course q options now).source with
      | none =>
        cases (x.reporting.course q options now).source with
        | none => exact fun _ => rfl
        | some side' => simp
      | some side =>
        cases (x.reporting.course q options now).source with
        | none => simp
        | some side' =>
          intro hsides
          simp [ending_forgiven (Option.some.inj hsides)]

theorem sources_reporting : x.reporting.sources q options = x.sources q options := by
  have hlimits : x.reporting.limits = x.limits := rfl
  unfold sources
  rw [hlimits, searches_reporting, secondary_reporting]
  cases x.secondary options <;> rfl

/-- How often the sources beside the client are counted, by how they end beside the client that
reports its failures. -/
theorem failuresOf_reporting {source : Text} {ending : SourceEnd}
    (h : (source, ending) ∈ x.reporting.endings q options now) (before : Metrics) (reason : Text) :
    (before.recordAll (x.search q options now).measurements).failuresOf source reason =
      before.failuresOf source reason +
        (if source = ("semantic" : Text) then ending.forgiven else ending).countFor reason := by
  refine (x.failuresOf_search q options now before source reason).1 _ ?_
  rw [endings_reporting]
  refine List.mem_map.mpr ⟨(source, ending), h, ?_⟩
  split <;> rfl

end Reporting

/-- Between two readings of the counters a source is counted as it should be: once, as a timeout, if
it has missed its time limit; once, as an error, if it has failed; not at all if it has answered. -/
structure CountedAs (before after : Metrics) (source : Text) (missed failed answered : Prop) :
    Prop where
  missed : missed → ∀ reason : Text, after.failuresOf source reason =
    before.failuresOf source reason + if reason = ("timeout" : Text) then 1 else 0
  failed : failed → ∀ reason : Text, after.failuresOf source reason =
    before.failuresOf source reason + if reason = ("error" : Text) then 1 else 0
  answered : answered → ∀ reason : Text,
    after.failuresOf source reason = before.failuresOf source reason

/-- Beside the client a search is steady, and so it is beside the one that reports. -/
theorem steady_client (x : Searcher Semantic.Client Float) (hstore : x.store.NeverCancels)
    (q : Query) (options : SearchOptions) :
    x.Steady q options ∧ x.reporting.Steady q options :=
  ⟨⟨hstore, fun source _ now => source.steady q _ _ now⟩,
    ⟨hstore, fun source _ now => source.steady q _ _ now⟩⟩

/-- The waits of a client whose delays are numbers are numbers. -/
theorem numbers_side (x : Searcher Semantic.Client Float) (hclient : ∀ c ∈ x.source, c.Delays)
    (q : Query) (options : SearchOptions) : ∀ side ∈ x.side? q options, side.Numbers := by
  rintro side hside next hnext now _
  obtain ⟨c, hsecond, rfl⟩ := Option.map_eq_some_iff.mp hside
  have hsource : x.source = some c := by
    unfold secondary at hsecond
    split at hsecond
    · exact hsecond
    · cases hsecond
  rw [eq_search_of_mem hnext]
  exact (hclient c hsource).search q _ _ now

/-- Beside both clients the same sources miss their time limits. -/
theorem endings_missed_iff (x : Searcher Semantic.Client Float) (q : Query)
    (options : SearchOptions) (now : Float) {source : Text} {ending : SourceEnd}
    (h : (source, ending) ∈ x.reporting.endings q options now) :
    ∃ ending', (source, ending') ∈ x.endings q options now ∧
      (ending' = .missed ↔ ending = .missed) := by
  refine ⟨if source = ("semantic" : Text) then ending.forgiven else ending, ?_, ?_⟩
  · rw [endings_reporting]
    refine List.mem_map.mpr ⟨(source, ending), h, ?_⟩
    split <;> rfl
  · split
    · cases ending <;> simp [SourceEnd.forgiven]
    · rfl

/-- A search beside the client of the semantic service comes, by turns in which each source misses
its time limit or ends in time, to counters in which every source is counted once as it should be,
but for one: a failure of the service in time is not counted. Nothing else is counted as a failure
of a source. On the clock the index side is punctual, a source that misses its time limit would not
have ended before the limit had passed, and one that does not has ended by itself before. -/
theorem failures_counted (x : Searcher Semantic.Client Float) (hstore : x.store.NeverCancels)
    (q : Query) (options : SearchOptions) (now : Float) :
    (x.course q options now).map SourceRun.outcome =
      (x.reporting.course q options now).map (fun run => run.outcome.forgiven) ∧
    ∃ turns pending, Race.Path (x.reporting.racePlan q options) (x.reporting.side? q options) turns
        (x.reporting.course q options now) pending ∧
      (x.OnClock (x.timeLimit options) now → (∀ c ∈ x.source, c.Delays) →
        ∀ p, x.indexPlan q options = .ok p →
          Race.Punctual (x.racePlan q options) now (x.course q options now).fanout ∧
          ∀ source ∈ x.sources q options,
            x.Keeps q options now source (x.reporting.MissedDeadline q options turns source)) ∧
      ∀ before : Metrics,
        let after := before.recordAll (x.search q options now).measurements
        (∀ source ∈ x.sources q options,
          let missed := x.reporting.MissedDeadline q options turns source
          let failed := ¬ missed ∧ x.reporting.Failed q options now source
          let answered := ¬ missed ∧ x.reporting.Answered q options now source
          (missed ∨ failed ∨ answered ∨ ∃ cause, x.indexPlan q options = .error cause) ∧
          (CountedAs before after source missed failed answered ↔
            ¬ (source = ("semantic" : Text) ∧ failed)) ∧
          (source = ("semantic" : Text) → failed → ∀ reason,
            after.failuresOf source reason = before.failuresOf source reason)) ∧
        ∀ source, source ∉ x.sources q options → ∀ reason,
          after.failuresOf source reason = before.failuresOf source reason := by
  obtain ⟨hsteady, hreporting⟩ := x.steady_client hstore q options
  obtain ⟨turns, pending, hpath, hmeans⟩ := hreporting.exists_turns now
  -- the one end of a source
  have hends : ∀ source ∈ x.sources q options, ∃ ending,
      (source, ending) ∈ x.reporting.endings q options now := by
    intro source hsource
    rw [← sources_reporting, ← map_fst_endings _ _ _ now] at hsource
    obtain ⟨⟨source, ending⟩, hending, rfl⟩ := List.mem_map.mp hsource
    exact ⟨ending, hending⟩
  refine ⟨x.course_reporting q options now, turns, pending, hpath, ?_, fun before => ⟨?_, ?_⟩⟩
  · intro hclock hclient p hplan
    obtain ⟨hpunctual, hkeeps⟩ :=
      hsteady.endings_onClock hclock (x.numbers_side hclient q options) hplan
    refine ⟨hpunctual, ?_⟩
    intro source hsource
    obtain ⟨ending, hending⟩ := hends source hsource
    obtain ⟨ending', hending', hsame⟩ := x.endings_missed_iff q options now hending
    rw [← (hmeans source ending hending).missed, ← hsame]
    exact hkeeps source ending' hending'
  · intro source hsource missed failed answered
    obtain ⟨ending, hending⟩ := hends source hsource
    have hcount := x.failuresOf_reporting q options now hending before
    obtain ⟨hmissed, hfailed, hanswered, hwithdrawn⟩ := hmeans source ending hending
    rw [indexPlan_reporting] at hwithdrawn
    have hunreported : source = ("semantic" : Text) → failed → ∀ reason,
        (before.recordAll (x.search q options now).measurements).failuresOf source reason =
          before.failuresOf source reason := by
      intro hname hfails reason
      rw [hcount, if_pos hname, hfailed.mpr hfails]
      exact Nat.add_zero _
    refine ⟨?_, ⟨?_, fun hreported => ⟨?_, ?_, ?_⟩⟩, hunreported⟩
    · cases ending with
      | missed => exact Or.inl (hmissed.mp rfl)
      | failed => exact Or.inr (Or.inl (hfailed.mp rfl))
      | answered => exact Or.inr (Or.inr (Or.inl (hanswered.mp rfl)))
      | withdrawn => exact Or.inr (Or.inr (Or.inr (hwithdrawn rfl)))
    · -- a failure of the service is not counted, though it should be
      rintro hcounted ⟨hname, hfails⟩
      have hshould := hcounted.failed hfails "error"
      rw [if_pos rfl, hunreported hname hfails] at hshould
      exact Nat.succ_ne_self _ hshould.symm
    · intro hmisses reason
      rw [hcount, hmissed.mpr hmisses, ← SourceEnd.countFor_missed]
      split <;> rfl
    · intro hfails reason
      rw [hcount, if_neg fun hname => hreported ⟨hname, hfails⟩, hfailed.mpr hfails,
        SourceEnd.countFor_failed]
    · intro hanswers reason
      rw [hcount, hanswered.mpr hanswers]
      split <;> exact Nat.add_zero _
  · intro source hsource reason
    exact (x.failuresOf_search q options now before source reason).2 hsource

/-! A store that fails to search the articles and takes five seconds for the notes, beside a service
that refuses its one request, searched for two seconds. -/

/-- A searcher with this store and this service. -/
def outage : Searcher Semantic.Client Float where
  store :=
    { (IndexStore.down : IndexStore Float) with
      search := fun d _ _ _ =>
        match d.entityType with
        | .article => .failed .unavailable
        | _ => .hits []
      searchTime := fun d => if d.entityType = .note then 5 else 0 }
  source := some
    { baseUrl := "http://s", policy := { attempts := 1 }, answers := [{ status := 503 }] }
  limits := { timeout := some 2 }
  fusion := .usual
  adjuster := ⟨.usual, .ok 0⟩

theorem outage_neverCancels : outage.store.NeverCancels := by
  intro d compiled f limit h
  change (match d.entityType with
    | .article => SearchReply.failed .unavailable
    | _ => .hits []) = .cancelled at h
  split at h <;> cases h

theorem onClock_outage : outage.OnClock (some 2) 0 := by
  refine ⟨Number.plain_zero, ?_, ?_⟩
  · intro d
    show Scalar.isOrderly (if d.entityType = .note then (5 : Float) else 0) = true
    split
    · decide +kernel
    · decide +kernel
  · rintro seconds ⟨⟩
    decide +kernel

theorem delays_outage : ∀ c ∈ outage.source, c.Delays := by
  rintro c ⟨⟩
  refine ⟨?_, ?_, by decide +kernel⟩
  · intro answer hanswer
    rw [List.mem_singleton.mp hanswer]
    decide +kernel
  · unfold Number.Plain
    rfl

set_option maxRecDepth 100000 in
/-- The service fails. -/
theorem failed_semantic_outage :
    outage.reporting.Failed anyBit { semantic := true } 0 ("semantic" : Text) := by
  have hends : (outage.reporting.course anyBit { semantic := true } 0).source.map
      SourceSide.ending = some .failed := by decide +kernel
  obtain ⟨side, hside, hfailed⟩ := Option.map_eq_some_iff.mp hends
  exact Or.inr ⟨rfl, side, hside, side.ending_eq_failed_iff.mp hfailed⟩

set_option maxRecDepth 100000 in
/-- The counters after the search. -/
theorem counts_outage :
    let after := ({} : Metrics).recordAll
      (outage.search anyBit { semantic := true } 0).measurements
    after.failuresOf "note" "timeout" = 1 ∧ after.failuresOf "note" "error" = 0 ∧
      after.failuresOf "article" "timeout" = 0 ∧ after.failuresOf "article" "error" = 1 ∧
      after.failuresOf "semantic" "timeout" = 0 ∧ after.failuresOf "semantic" "error" = 0 := by
  decide +kernel

set_option maxRecDepth 100000 in
theorem sources_outage : ("note" : Text) ∈ outage.sources anyBit { semantic := true } ∧
    ("article" : Text) ∈ outage.sources anyBit { semantic := true } ∧
    ("semantic" : Text) ∈ outage.sources anyBit { semantic := true } := by
  decide +kernel

theorem exists_plan_outage : ∃ p, outage.indexPlan anyBit { semantic := true } = .ok p := by
  have hchosen : Strategy.choose anyBit = .unified := by decide
  unfold indexPlan
  rw [hchosen]
  exact IndexPlan.exists_unified outage.adjuster outage.store anyBit (by decide +kernel)

/-- The notes are late and the articles have failed in time, and both are counted. The service has
failed in time and is not counted. -/
theorem failures_counted_outage :
    outage.store.NeverCancels ∧ outage.OnClock (some 2) 0 ∧ (∀ c ∈ outage.source, c.Delays) ∧
    let after := ({} : Metrics).recordAll
      (outage.search anyBit { semantic := true } 0).measurements
    after.failuresOf "note" "timeout" = 1 ∧ after.failuresOf "article" "error" = 1 ∧
      after.failuresOf "semantic" "error" = 0 ∧
      outage.EndsLate anyBit { semantic := true } 0 "note" ∧
      outage.EndsInTime anyBit { semantic := true } 0 "article" ∧
      outage.EndsInTime anyBit { semantic := true } 0 "semantic" ∧
      outage.reporting.Failed anyBit { semantic := true } 0 "semantic" := by
  obtain ⟨_, turns, _, _, hclocked, hcounts⟩ :=
    failures_counted outage outage_neverCancels anyBit { semantic := true } 0
  obtain ⟨p, hplan⟩ := exists_plan_outage
  obtain ⟨_, hkeeps⟩ := hclocked onClock_outage delays_outage p hplan
  obtain ⟨hsources, _⟩ := hcounts {}
  obtain ⟨hnote, harticle, hsemantic⟩ := sources_outage
  obtain ⟨hlate, hnoError, hnoTimeout, herror, hquiet, hsilent⟩ := counts_outage
  refine ⟨outage_neverCancels, onClock_outage, delays_outage, hlate, herror, hsilent, ?_, ?_, ?_,
    failed_semantic_outage⟩
  · -- were the notes not late, no timeout would be counted
    refine (hkeeps _ hnote).late ?_
    obtain ⟨hends, hcounted, _⟩ := hsources _ hnote
    have hcount := hcounted.mpr fun h => absurd h.1 (by decide)
    rcases hends with hmissed | hfailed | hanswered | ⟨cause, herror⟩
    · exact hmissed
    · have hzero := hcount.failed hfailed "timeout"
      rw [hlate] at hzero
      exact absurd hzero (by decide)
    · have hzero := hcount.answered hanswered "timeout"
      rw [hlate] at hzero
      exact absurd hzero (by decide)
    · rw [hplan] at herror
      cases herror
  · refine (hkeeps _ harticle).inTime fun hmissed => ?_
    obtain ⟨_, hcounted, _⟩ := hsources _ harticle
    have hone := (hcounted.mpr fun h => absurd h.1 (by decide)).missed hmissed "timeout"
    rw [hnoTimeout] at hone
    exact absurd hone (by decide)
  · -- a service that is late is counted
    refine (hkeeps _ hsemantic).inTime fun hmissed => ?_
    obtain ⟨_, hcounted, _⟩ := hsources _ hsemantic
    have hone := (hcounted.mpr fun h => h.2.1 hmissed).missed hmissed "timeout"
    rw [hquiet] at hone
    exact absurd hone (by decide)

end Searcher

end EntitySearch

import EntitySearch.Proofs.Search.Deadlines
import EntitySearch.Proofs.Search.SourceTimes
import EntitySearch.Proofs.Search.UnifiedSearch
/-!
# Sources on the clock

On the clock it is up to the durations which sources of a search miss its time limit. The search in
a type ends in time if its duration, from the moment at which it has found a place, was over before
the limit had passed, and the secondary source does if its waits were (`Searcher.EndsInTime`). One
that is late had found no place by the moment at which the limit has passed, or would not have ended
before (`Searcher.EndsLate`). By these two the ends of the sources are told
(`Searcher.Steady.endings_onClock`).
-/

namespace EntitySearch

open Activity (resumption)
open Agenda (OnTime)

variable {σ α ρ : Type}

/-- What holds at every stage of an activity holds of those to which it comes on the clock. -/
theorem Activity.Through.comes {waiting last : ρ → Prop} {a b : Activity ρ} {start now : Float}
    (ha : a.Through waiting last) (h : a.Comes start b now) : b.Through waiting last := by
  induction h with
  | here => exact ha
  | later _ _ ih => exact ih.2 _

/-- A job rests for the duration with which it is listed. -/
theorem Race.pauseOf_eq {ι : Type} [DecidableEq ι] {p : RacePlan ι}
    (hnodup : (p.jobs.map Prod.fst).Nodup) {entry : ι × Float} (hentry : entry ∈ p.jobs) :
    pauseOf p entry.1 = entry.2 := by
  unfold pauseOf
  cases hfound : p.jobs.find? fun other => other.1 = entry.1 with
  | none => exact absurd (decide_eq_true rfl) (List.find?_eq_none.mp hfound entry hentry)
  | some other =>
    have hsame : other.1 = entry.1 := by simpa using List.find?_some hfound
    rw [List.inj_on_of_nodup_map hnodup (List.mem_of_find?_eq_some hfound) hentry hsame]
    rfl

namespace Searcher

variable [LogScalar α] [SemanticSource σ α] (x : Searcher σ α) (q : Query)
  (options : SearchOptions) (now : Float)

/-- A source ends by itself before the time limit has passed: the search in a type when its duration
is over, the secondary source when it has come to its end. -/
def EndsInTime (source : Text) : Prop :=
  (∃ s ∈ x.searches q options, (s.entityType.name : Text) = source ∧
    ∃ begun ended, (begun, s.entityType) ∈ (x.course q options now).fanout.started ∧
      OnTime begun (resumption begun s.search.duration) ended ∧
      Race.InTime (x.racePlan q options) now ended) ∨
  (source = ("semantic" : Text) ∧ ∃ side ∈ x.side? q options, ∃ search ∈ side.next,
    ∃ run ended, (Activity.waits side.stage 0 search).Comes now (.ended run) ended ∧
      Race.InTime (x.racePlan q options) now ended)

/-- A source is late: when the time limit has passed, the search in a type has found no place, or
would not have ended before, and the secondary source waits and would not have gone on before. One
that is not asked, because the limit is not positive, is late as well. -/
def EndsLate (source : Text) : Prop :=
  ∃ seconds, x.timeLimit options = some seconds ∧
    ((∃ s ∈ x.searches q options, (s.entityType.name : Text) = source ∧
        (((Strategy.choose q).type?.isSome = true ∧ seconds ≤ 0) ∨
          ∃ passed, OnTime now (now + seconds) passed ∧
            ((∃ begun, (begun, s.entityType) ∈ (x.course q options now).fanout.started ∧
                (passed = begun ∨ ¬ resumption begun s.search.duration < passed)) ∨
              ((∀ begun, (begun, s.entityType) ∉ (x.course q options now).fanout.started) ∧
                (x.course q options now).fanout.Fresh now passed)))) ∨
      (source = ("semantic" : Text) ∧
        (seconds ≤ 0 ∨ ∃ side ∈ x.side? q options, ∃ search ∈ side.next,
          ∃ passed, OnTime now (now + seconds) passed ∧ ∃ run pause later since,
            (Activity.waits side.stage 0 search).Comes now (.waits run pause later) since ∧
              (passed = since ∨ ¬ resumption since pause < passed))))

/-- What the end of a source says on the clock. -/
structure Keeps (source : Text) (missed : Prop) : Prop where
  late : missed → x.EndsLate q options now source
  inTime : ¬ missed → x.EndsInTime q options now source

section Types

variable {x q options now} {p : IndexPlan α} (hplan : x.indexPlan q options = .ok p)

include hplan

omit [SemanticSource σ α] in
/-- The search in a type that is asked is a job with its duration. -/
theorem endOf_racePlan (hasked : p.isIdle (x.timeLimit options) = false) {s : SubSearch α}
    (hs : s ∈ p.searches) :
    (s.entityType, s.search.duration) ∈ (x.racePlan q options).jobs ∧
      ∀ begun, Race.endOf (x.racePlan q options) begun s.entityType =
        resumption begun s.search.duration := by
  have hjobs : (x.racePlan q options).jobs =
      p.searches.map fun s => (s.entityType, s.search.duration) := by
    unfold racePlan
    rw [hplan]
    simp only [IndexPlan.race, hasked, Bool.false_eq_true, if_false]
  have hentry : (s.entityType, s.search.duration) ∈ (x.racePlan q options).jobs := by
    rw [hjobs]
    exact List.mem_map_of_mem hs
  refine ⟨hentry, ?_⟩
  intro begun
  have hnodup : ((x.racePlan q options).jobs.map Prod.fst).Nodup := by
    rw [hjobs, List.map_map]
    exact (IndexPlan.planned_ofStrategy hplan).nodup
  unfold Race.endOf
  rw [Race.pauseOf_eq hnodup hentry]

/-- The search in a type that has ended did so in time; one that has not is late. -/
theorem keeps_type {turns : List (Float × Turn EntityType)} {pending : Multiset (Turn EntityType)}
    (hpath : Race.Path (x.racePlan q options) (x.side? q options) turns (x.course q options now)
      pending)
    (hpunctual : Race.Punctual (x.racePlan q options) now (x.course q options now).fanout)
    {s : SubSearch α} (hs : s ∈ p.searches) :
    x.Keeps q options now s.entityType.name
      ((x.course q options now).fanout.hasEnded s.entityType = false) := by
  have hmem : s ∈ x.searches q options := by
    unfold searches
    rw [hplan]
    exact hs
  cases hidle : p.isIdle (x.timeLimit options) with
  | true =>
    have hjobs : (x.racePlan q options).jobs = [] := by
      unfold racePlan
      rw [hplan]
      simp only [IndexPlan.race, hidle, if_true]
    have hnone := Race.ended_of_no_jobs hjobs hpath
    refine ⟨fun _ => ?_, fun hended => absurd (by simp [Fanout.hasEnded, hnone]) hended⟩
    have hsingle := x.isSingle_indexPlan q options hplan
    unfold IndexPlan.isIdle at hidle
    rw [hsingle] at hidle
    split at hidle
    · rename_i seconds hone hlimit
      exact ⟨seconds, hlimit, Or.inl ⟨s, hmem, rfl, Or.inl ⟨hone, of_decide_eq_true hidle⟩⟩⟩
    · cases hidle
  | false =>
    obtain ⟨hentry, hends⟩ := endOf_racePlan hplan hidle hs
    refine ⟨?_, ?_⟩
    · intro hlate
      rcases hpunctual.closes ⟨_, hentry, hlate⟩ with hfails | ⟨seconds, hlimit, passed, hmoment,
        hclosed⟩
      · rw [x.fails_racePlan q options hplan] at hfails
        cases hfails
      · rw [timeout_racePlan] at hlimit
        refine ⟨seconds, hlimit, Or.inl ⟨s, hmem, rfl, Or.inr ⟨passed, hmoment, ?_⟩⟩⟩
        by_cases hbegun : ∃ begun, (begun, s.entityType) ∈ (x.course q options now).fanout.started
        · obtain ⟨begun, hbegun⟩ := hbegun
          have hgoing := hclosed.begun _ hbegun hlate
          rw [hends] at hgoing
          exact Or.inl ⟨begun, hbegun, hgoing⟩
        · rw [not_exists] at hbegun
          exact Or.inr ⟨hbegun, hclosed.waiting _ hentry hbegun⟩
    · intro hended
      rw [Bool.not_eq_false, Fanout.hasEnded, List.any_eq_true] at hended
      obtain ⟨⟨ended, job⟩, hjob, hsame⟩ := hended
      obtain rfl : job = s.entityType := of_decide_eq_true hsame
      obtain ⟨begun, hbegun, honTime⟩ := hpunctual.ends _ hjob
      rw [hends] at honTime
      exact Or.inl ⟨s, hmem, rfl, begun, ended, hbegun, honTime, hpunctual.inTime _ hjob⟩

end Types

/-- A secondary source that has ended did so in time; one that is given up is late. -/
theorem keeps_source {source : σ} (hsecond : x.secondary options = some source)
    (hsteady : ∀ now, (SemanticSource.search source q (x.asked options)
      (Strategy.choose q).type? now).Through SourceRun.IsPending SourceRun.HasEnded)
    (hnumbers : (x.racePlan q options).Numbers now)
    (hsource : ∀ side ∈ x.side? q options, side.Numbers)
    {turns : List (Float × Turn EntityType)} {clock : Float}
    {awaited : Multiset (Float × Turn EntityType)}
    (htimed : Race.Timed (x.racePlan q options) (x.side? q options) now turns
      (x.course q options now) clock awaited)
    {side : SourceSide (SourceRun σ α)} (hside : (x.course q options now).source = some side)
    (hover : side.next = none) :
    x.Keeps q options now "semantic" (side.ending = .missed) := by
  have hmissed := ending_eq_missed_iff htimed.path hsecond hsteady hside
  by_cases hnever : ∃ seconds, x.timeLimit options = some seconds ∧ seconds ≤ 0
  · obtain ⟨seconds, hlimit, hnever⟩ := hnever
    refine ⟨fun _ => ⟨seconds, hlimit, Or.inr ⟨rfl, Or.inl hnever⟩⟩, ?_⟩
    intro hended
    exact absurd (hmissed.mpr ⟨seconds, hlimit, Or.inl hnever⟩) hended
  · -- it is asked, and has come to its end or was given up
    obtain ⟨initial, hinitial⟩ : ∃ initial, initial = sourceSide (α := α) source
      (Strategy.choose q) q (x.asked options) (x.timeLimit options) := ⟨_, rfl⟩
    have hside? : x.side? q options = some initial := by simp [side?, hsecond, hinitial]
    have hstart := sourceSide_start (x.timeLimit options) hsteady
    rw [← hinitial] at hstart
    obtain ⟨⟨_, hthrough⟩, hpending, hidle⟩ := hstart
    cases hnext : initial.next with
    | none => exact absurd (hidle.mp hnext) hnever
    | some search =>
      rw [hside?] at htimed
      obtain ⟨last, hlast, hcourse⟩ := Race.source_of_timed hnumbers (hsource initial hside?) hnext
        htimed
      obtain rfl : last = side := Option.some.inj (hlast.symm.trans hside)
      have hwhole : (Activity.waits initial.stage 0 search).Through SourceRun.IsPending
          SourceRun.HasEnded := ⟨hpending, hthrough search hnext⟩
      cases hcourse with
      | waiting next hopen => exact absurd (hopen.symm.trans hover) (by simp)
      | working next seconds since hopen => exact absurd (hopen.symm.trans hover) (by simp)
      | ended moment _ hcomes htime =>
        have hended : last.stage.HasEnded := hwhole.comes hcomes
        refine ⟨fun hlate => absurd (last.ending_eq_missed_iff.mp hlate).2 hended, fun _ => ?_⟩
        exact Or.inr ⟨rfl, initial, hside?, search, hnext, last.stage, moment, hcomes, htime⟩
      | givenUp seconds moment pause since later hgiven hlimit hmoment hcomes hpassed =>
        have hwaits : last.stage.IsPending := (hwhole.comes hcomes).1
        rw [timeout_racePlan] at hlimit
        refine ⟨fun _ => ⟨seconds, hlimit, Or.inr ⟨rfl, Or.inr ⟨initial, hside?, search, hnext,
          moment, hmoment, last.stage, pause, later, since, hcomes, hpassed⟩⟩⟩, ?_⟩
        intro hended
        exact absurd (last.ending_eq_missed_iff.mpr ⟨hover, hwaits⟩) hended

variable {x q options now} in
/-- On the clock the sources of a steady search end as their durations say, unless the limit cannot
be divided among the types at all: one that has missed its time limit is late, the others end in
time. -/
theorem Steady.endings_onClock (hsteady : x.Steady q options)
    (hclock : x.OnClock (x.timeLimit options) now)
    (hsource : ∀ side ∈ x.side? q options, side.Numbers) {p : IndexPlan α}
    (hplan : x.indexPlan q options = .ok p) :
    Race.Punctual (x.racePlan q options) now (x.course q options now).fanout ∧
      ∀ source ending, (source, ending) ∈ x.endings q options now →
        x.Keeps q options now source (ending = .missed) := by
  have hnumbers : (x.racePlan q options).Numbers now := by
    unfold racePlan
    rw [hplan]
    exact hclock.race (IndexPlan.planned_ofStrategy hplan) x.limits.bound
  obtain ⟨_, _, hpath, hsettled⟩ := hsteady.exists_path now
  obtain ⟨hclosed, hover, _⟩ := hsettled p hplan
  obtain ⟨_, _, _, htimed, _⟩ := Race.run_timed hnumbers hsource
    (((x.secondary options).map SemanticSource.waits).getD 0)
  have hpunctual := Race.punctual_of_timed (x.bound_racePlan q options) hnumbers hsource htimed
    hclosed
  refine ⟨hpunctual, ?_⟩
  intro source ending hending
  rcases mem_endings hending with
    ⟨p', hplan', s, hs, rfl, rfl⟩ | ⟨secondary, hsecond, side, hside, rfl, rfl⟩
  · rw [SubSearch.endIn_eq_missed_iff]
    exact keeps_type hplan' hpath hpunctual hs
  · have hidle : side.next = none := by
      rw [Race.sourceOpen, Option.mem_def.mp hside] at hover
      simpa using hover
    exact x.keeps_source q options now hsecond
      (fun now => (hsteady.source secondary hsecond now).2) hnumbers hsource htimed hside hidle

end Searcher

end EntitySearch

import EntitySearch.Proofs.Search.Termless
import EntitySearch.Proofs.Search.TimeLimits
import EntitySearch.Proofs.Service.FailureCounts
/-!
# How the sources of a search end

A search looks in types and may ask a secondary source. Each of these sources answers, fails, or has
not ended when its time limit passes, and a search measures exactly the failures of its sources
besides itself (`Searcher.measurements_eq`): one failure for each source that has failed or missed
its time limit.
-/

namespace EntitySearch

open Number (ArithmeticError)

variable {σ α : Type}

/-! ## Ends -/

/-- How a source has ended in a search. -/
inductive SourceEnd where
  | answered
  | failed
  /-- It had not ended when its time limit passed. -/
  | missed
  /-- The search was over before. -/
  | withdrawn
  deriving Repr, DecidableEq

namespace SourceEnd

/-- The reason for which an end is counted; nothing if it is no failure. -/
def reason? : SourceEnd → Option FailureReason
  | failed => some .error
  | missed => some .timeout
  | answered | withdrawn => none

/-- How often an end is counted under a reason. -/
def countFor (e : SourceEnd) (reason : Text) : Nat :=
  if e.reason?.map FailureReason.name = some reason then 1 else 0

theorem countFor_missed (reason : Text) :
    missed.countFor reason = if reason = ("timeout" : Text) then 1 else 0 := by
  simp [countFor, reason?, FailureReason.name, eq_comm]

theorem countFor_failed (reason : Text) :
    failed.countFor reason = if reason = ("error" : Text) then 1 else 0 := by
  simp [countFor, reason?, FailureReason.name, eq_comm]

/-- The failures among the ends of sources. -/
def failures (ends : List (Text × SourceEnd)) : List Measurement :=
  ends.filterMap fun e => e.2.reason?.map (Measurement.failure e.1)

theorem failures_append (ends more : List (Text × SourceEnd)) :
    failures (ends ++ more) = failures ends ++ failures more :=
  List.filterMap_append

variable (source reason : Text)

theorem countP_failures_cons (e : Text × SourceEnd) (rest : List (Text × SourceEnd)) :
    (failures (e :: rest)).countP (Measurement.isFailureOf source reason) =
      (if e.1 = source then e.2.countFor reason else 0) +
        (failures rest).countP (Measurement.isFailureOf source reason) := by
  obtain ⟨name, ending⟩ := e
  cases hreason : ending.reason? with
  | none => simp [failures, countFor, hreason]
  | some r =>
    have hcons : failures ((name, ending) :: rest) = .failure name r :: failures rest := by
      simp [failures, hreason]
    rw [hcons, List.countP_cons, Nat.add_comm]
    by_cases hname : name = source
    · simp [Measurement.isFailureOf, countFor, hreason, hname]
    · simp [Measurement.isFailureOf, hname]

/-- What is no source of a search is not counted. -/
theorem countP_failures_of_notMem {ends : List (Text × SourceEnd)}
    (h : source ∉ ends.map Prod.fst) :
    (failures ends).countP (Measurement.isFailureOf source reason) = 0 := by
  induction ends with
  | nil => rfl
  | cons e rest ih =>
    rw [List.map_cons, List.mem_cons, not_or] at h
    rw [countP_failures_cons, if_neg fun heq => h.1 heq.symm, ih h.2]

/-- A source that is listed once is counted by its one end. -/
theorem countP_failures_of_mem {ends : List (Text × SourceEnd)}
    (hnodup : (ends.map Prod.fst).Nodup) {ending : SourceEnd} (h : (source, ending) ∈ ends) :
    (failures ends).countP (Measurement.isFailureOf source reason) = ending.countFor reason := by
  induction ends with
  | nil => cases h
  | cons e rest ih =>
    rw [List.map_cons, List.nodup_cons] at hnodup
    rw [countP_failures_cons]
    rcases List.mem_cons.mp h with rfl | hrest
    · rw [if_pos rfl, countP_failures_of_notMem source reason hnodup.1]
      rfl
    · have hother : e.1 ≠ source := fun heq =>
        hnodup.1 (List.mem_map.mpr ⟨(source, ending), hrest, heq.symm⟩)
      rw [if_neg hother, ih hnodup.2 hrest, Nat.zero_add]

end SourceEnd

/-- Types are told apart by their names. -/
theorem EntityType.name_injective : Function.Injective fun t : EntityType => (t.name : Text) := by
  intro s t h
  cases s <;> cases t <;> first | rfl | exact absurd h (by decide)

/-- The secondary source has a name of its own. -/
theorem EntityType.name_ne_semantic (t : EntityType) : (t.name : Text) ≠ ("semantic" : Text) := by
  cases t <;> decide

/-- How the search in a type has ended, by the jobs that have ended. -/
def SubSearch.endIn (fanout : Fanout EntityType) (s : SubSearch α) : SourceEnd :=
  if fanout.hasEnded s.entityType then
    match s.search.ending with
    | .found _ => .answered
    | .failed => .failed
    | .cancelled => .withdrawn
  else .missed

/-- How a secondary source has ended. One that has come to nothing yet is given up, or the search is
over before. -/
def SourceSide.ending (side : SourceSide (SourceRun σ α)) : SourceEnd :=
  match side.stage.outcome with
  | .returned _ => .answered
  | .failed => .failed
  | .pending => if side.next.isNone then .missed else .withdrawn

namespace SubSearch

variable (fanout : Fanout EntityType) (s : SubSearch α)

theorem endIn_eq_missed_iff :
    s.endIn fanout = .missed ↔ fanout.hasEnded s.entityType = false := by
  unfold endIn
  cases fanout.hasEnded s.entityType <;> cases s.search.ending <;> simp

theorem endIn_eq_failed_iff : s.endIn fanout = .failed ↔
    fanout.hasEnded s.entityType = true ∧ s.search.ending = .failed := by
  unfold endIn
  cases fanout.hasEnded s.entityType <;> cases s.search.ending <;> simp

variable {s} (hcalm : s.search.ending ≠ .cancelled)

include hcalm

theorem endIn_eq_answered_iff : s.endIn fanout = .answered ↔
    fanout.hasEnded s.entityType = true ∧ s.search.ending ≠ .failed := by
  unfold endIn
  cases fanout.hasEnded s.entityType <;> cases hending : s.search.ending <;> simp_all

theorem endIn_ne_withdrawn : s.endIn fanout ≠ .withdrawn := by
  unfold endIn
  cases fanout.hasEnded s.entityType <;> cases hending : s.search.ending <;> simp_all

end SubSearch

namespace SourceSide

variable (side : SourceSide (SourceRun σ α))

theorem ending_eq_missed_iff :
    side.ending = .missed ↔ side.next = none ∧ side.stage.outcome = .pending := by
  unfold ending
  cases side.stage.outcome <;> cases side.next <;> simp

theorem ending_eq_failed_iff : side.ending = .failed ↔ side.stage.outcome = .failed := by
  unfold ending
  cases side.stage.outcome <;> cases side.next <;> simp

theorem ending_eq_answered_iff :
    side.ending = .answered ↔ ∃ results, side.stage.outcome = .returned results := by
  unfold ending
  cases side.stage.outcome <;> cases side.next <;> simp

theorem isSome_next_of_withdrawn (h : side.ending = .withdrawn) : side.next.isSome = true := by
  revert h
  unfold ending
  cases side.stage.outcome <;> cases side.next <;> simp

end SourceSide

theorem IndexPlan.failure?_eq (fanout : Fanout EntityType) (s : SubSearch α) :
    failure? fanout s = (s.endIn fanout).reason?.map (Measurement.failure s.entityType.name) := by
  unfold failure? SubSearch.endIn
  split
  · cases s.search.ending <;> rfl
  · rfl

theorem Searcher.sourceFailure?_eq (side : SourceSide (SourceRun σ α)) :
    sourceFailure? side = side.ending.reason?.map (Measurement.failure "semantic") := by
  unfold sourceFailure? SourceSide.ending
  cases side.stage.outcome with
  | returned results => rfl
  | failed => rfl
  | pending => cases side.next.isNone <;> rfl

/-! ## Searches and their sources -/

namespace Searcher

variable [LogScalar α] (x : Searcher σ α) (q : Query) (options : SearchOptions)

/-- The secondary source that a search asks. -/
def secondary : Option σ := if options.semantic then x.source else none

omit [LogScalar α] in
theorem asked_eq : x.asked options = match x.secondary options with
    | none => x.limits.resolve options.limit
    | some _ => x.limits.resolve options.limit * 2 := rfl

/-- The time limit of a search. -/
def timeLimit : Option Float := options.timeout.or x.limits.timeout

/-- What a search sets out to do in the index. -/
def indexPlan : Except ArithmeticError (IndexPlan α) :=
  IndexPlan.ofStrategy x.adjuster x.store (Strategy.choose q) q (x.asked options)

/-- The searches in types that a search consists of. -/
def searches : List (SubSearch α) :=
  match x.indexPlan q options with
  | .error _ => []
  | .ok p => p.searches

/-- The sources of a search: the types in which it looks, by their names, and the secondary
source. -/
def sources : List Text :=
  if x.limits.resolve options.limit = 0 then []
  else
    ((x.searches q options).map fun s => (s.entityType.name : Text)) ++
      (x.secondary options).toList.map fun _ => ("semantic" : Text)

/-- What a search sets out with. -/
def racePlan : RacePlan EntityType :=
  match x.indexPlan q options with
  | .error _ => { jobs := [], timeout := x.timeLimit options, fails := true }
  | .ok p => p.race x.limits.bound (x.timeLimit options)

/-! ## What is measured besides -/

omit [LogScalar α] in
@[simp] theorem isFailureOf_completed (s : Strategy) (results : List (SearchResult α))
    (source reason : Text) : (completed s results).isFailureOf source reason = false := rfl

@[simp] theorem isFailureOf_fusion (algorithm source reason : Text) :
    (Measurement.fusion algorithm).isFailureOf source reason = false := rfl

omit [LogScalar α] in
/-- Searching the index alone measures no failures besides those of the searches. -/
theorem measurements_lexicalOnly (s : Strategy) (limit : Int) (index : IndexRun α) :
    ∃ rest, (x.lexicalOnly s limit index).measurements = index.measurements ++ rest ∧
      ∀ m ∈ rest, ∀ source reason, m.isFailureOf source reason = false := by
  unfold lexicalOnly
  cases index.outcome with
  | error cause => exact ⟨[], (List.append_nil _).symm, by simp⟩
  | ok found => exact ⟨[completed s (cut limit found)], rfl, by simp⟩

/-- Joining both sides measures the failure of the source besides those of the index side. -/
theorem measurements_join (s : Strategy) (limit : Int) (index : IndexRun α)
    (side : SourceSide (SourceRun σ α)) :
    ∃ rest, (x.join s q limit index side).measurements =
        index.measurements ++ (sourceFailure? side).toList ++ rest ∧
      ∀ m ∈ rest, ∀ source reason, m.isFailureOf source reason = false := by
  unfold join
  cases index.outcome with
  | error cause => exact ⟨[], (List.append_nil _).symm, by simp⟩
  | ok lexical =>
    simp only
    split
    · exact ⟨[], (List.append_nil _).symm, by simp⟩
    · rename_i results _
      exact ⟨[.fusion RankFusion.name, completed s results], rfl, by simp⟩

section Courses

variable [SemanticSource σ α]

/-- The secondary source as a search sets out with it. -/
def side? : Option (SourceSide (SourceRun σ α)) :=
  (x.secondary options).map fun source =>
    sourceSide source (Strategy.choose q) q (x.asked options) (x.timeLimit options)

/-- Where both sides of a search have come in the end. -/
def course (now : Float) : Race EntityType (SourceRun σ α) :=
  (Race.run (x.racePlan q options) (x.side? q options)
    (((x.secondary options).map SemanticSource.waits).getD 0) now).1

/-- The ends of the sources of a search. -/
def endings (now : Float) : List (Text × SourceEnd) :=
  if x.limits.resolve options.limit = 0 then []
  else
    ((x.searches q options).map fun s =>
      ((s.entityType.name : Text), s.endIn (x.course q options now).fanout)) ++
    (x.course q options now).source.toList.map fun side => (("semantic" : Text), side.ending)

/-! ## What is measured -/

omit [SemanticSource σ α] in
/-- Searching the index measures the failures of its searches. -/
theorem measurements_searchIndex (now : Float) :
    (x.searchIndex (Strategy.choose q) q (x.asked options) (x.timeLimit options)
        now).measurements =
      SourceEnd.failures ((x.searches q options).map fun s => ((s.entityType.name : Text),
        s.endIn (Race.run (x.racePlan q options) (none : Option (SourceSide Unit)) 0
          now).1.fanout)) := by
  unfold searchIndex searches racePlan indexPlan
  cases IndexPlan.ofStrategy x.adjuster x.store (Strategy.choose q) q (x.asked options) with
  | error cause => rfl
  | ok p =>
    simp only [IndexPlan.run, IndexPlan.conclude, SourceEnd.failures, List.filterMap_map,
      Function.comp_def, IndexPlan.failure?_eq]

/-- Where the secondary source of a search has come in the end, if it asks one. -/
theorem isSome_course_source (now : Float) :
    (x.course q options now).source.isSome = (x.secondary options).isSome := by
  obtain ⟨turns, hpath⟩ := Race.exists_path (x.racePlan q options) (x.side? q options)
    (((x.secondary options).map SemanticSource.waits).getD 0) now
  unfold course
  rw [← hpath.after_eq]
  exact (Race.isSome_source _ turns).trans Option.isSome_map

theorem course_eq {source : σ} (hsecond : x.secondary options = some source) (now : Float) :
    x.course q options now = (Race.run (x.racePlan q options)
      (some (sourceSide source (Strategy.choose q) q (x.asked options) (x.timeLimit options)))
      (SemanticSource.waits source) now).1 := by
  simp [course, side?, hsecond]

/-- Searching both sides measures the failures of the searches in types, and shows where the source
has come. -/
theorem measurements_searchBoth {source : σ} (hsecond : x.secondary options = some source)
    (now : Float) :
    let run := x.searchBoth source (Strategy.choose q) q (x.asked options)
      (x.timeLimit options) now
    run.1.measurements = SourceEnd.failures ((x.searches q options).map fun s =>
        ((s.entityType.name : Text), s.endIn (x.course q options now).fanout)) ∧
      (x.course q options now).source = some run.2 := by
  have hsome : (x.course q options now).source.isSome = true := by
    rw [isSome_course_source, hsecond]
    rfl
  obtain ⟨side, hside⟩ := Option.isSome_iff_exists.mp hsome
  rw [course_eq x q options hsecond] at hside ⊢
  unfold searchBoth searches
  unfold racePlan at hside ⊢
  unfold indexPlan at hside ⊢
  cases hplan : IndexPlan.ofStrategy x.adjuster x.store (Strategy.choose q) q
      (x.asked options) with
  | error cause =>
    rw [hplan] at hside
    simp only at hside ⊢
    exact ⟨rfl, by rw [hside]; rfl⟩
  | ok p =>
    rw [hplan] at hside
    simp only at hside ⊢
    refine ⟨?_, by rw [hside]; rfl⟩
    simp only [IndexPlan.conclude, SourceEnd.failures, List.filterMap_map, Function.comp_def,
      IndexPlan.failure?_eq]

/-- A search measures the failures of its sources and no others. -/
theorem measurements_eq (now : Float) :
    ∃ rest, (x.search q options now).measurements =
        SourceEnd.failures (x.endings q options now) ++ rest ∧
      ∀ m ∈ rest, ∀ source reason, m.isFailureOf source reason = false := by
  unfold search endings
  simp only
  split
  · exact ⟨[], rfl, by simp⟩
  · cases hsecond : x.secondary options with
    | none =>
      -- what the index side does is not up to what is said of a source
      have hfanout : (x.course q options now).fanout = (Race.run (x.racePlan q options)
          (none : Option (SourceSide Unit)) 0 now).1.fanout := by
        have hrun := Race.run_map (x.racePlan q options) (fun _ : SourceRun σ α => ()) none 0 now
        rw [Option.map_none] at hrun
        rw [hrun]
        simp [course, side?, hsecond, Race.map]
      have hsource : (x.course q options now).source = none := by
        rw [← Option.not_isSome_iff_eq_none, isSome_course_source, hsecond]
        simp
      have hlimit : x.asked options = x.limits.resolve options.limit := by
        simp [asked_eq, hsecond]
      have hmeasured := x.measurements_searchIndex q options now
      rw [hlimit, ← hfanout] at hmeasured
      unfold secondary at hsecond
      rw [hsecond, hsource, Option.toList_none, List.map_nil, List.append_nil, ← hmeasured]
      exact x.measurements_lexicalOnly _ _ _
    | some source =>
      have hlimit : x.asked options = x.limits.resolve options.limit * 2 := by
        simp [asked_eq, hsecond]
      obtain ⟨hmeasured, hsource⟩ := x.measurements_searchBoth q options hsecond now
      rw [hlimit] at hmeasured hsource
      unfold secondary at hsecond
      rw [hsecond, hsource]
      obtain ⟨rest, hjoin, hrest⟩ := x.measurements_join q (Strategy.choose q)
        (x.limits.resolve options.limit) (x.searchBoth source (Strategy.choose q) q
          (x.limits.resolve options.limit * 2) (x.timeLimit options) now).1
        (x.searchBoth source (Strategy.choose q) q (x.limits.resolve options.limit * 2)
          (x.timeLimit options) now).2
      refine ⟨rest, ?_, hrest⟩
      rw [hmeasured, sourceFailure?_eq] at hjoin
      rw [SourceEnd.failures_append]
      exact hjoin

/-! ## How often sources are counted -/

omit [SemanticSource σ α] in
theorem nodup_searches : ((x.searches q options).map SubSearch.entityType).Nodup := by
  unfold searches
  cases hplan : x.indexPlan q options with
  | error cause => exact List.nodup_nil
  | ok p => exact (IndexPlan.planned_ofStrategy hplan).nodup

theorem map_fst_endings (now : Float) :
    (x.endings q options now).map Prod.fst = x.sources q options := by
  unfold endings sources
  split
  · rfl
  · rw [List.map_append, List.map_map, List.map_map]
    refine congrArg _ ?_
    have hsome := x.isSome_course_source q options now
    cases hsecond : x.secondary options <;> cases hsource : (x.course q options now).source <;>
      simp_all

omit [SemanticSource σ α] in
/-- A source is one type or the secondary source, and is listed once. -/
theorem nodup_sources : (x.sources q options).Nodup := by
  unfold sources
  split
  · exact List.nodup_nil
  · rw [List.nodup_append]
    refine ⟨?_, ?_, ?_⟩
    · have hnames := (x.nodup_searches q options).map EntityType.name_injective
      rwa [List.map_map] at hnames
    · cases x.secondary options <;> simp
    · intro name hname other hother
      obtain ⟨s, _, rfl⟩ := List.mem_map.mp hname
      obtain ⟨_, _, rfl⟩ := List.mem_map.mp hother
      exact s.entityType.name_ne_semantic

/-- Each source of a search counts by its end, and nothing else does. -/
theorem failuresOf_search (now : Float) (before : Metrics) (source reason : Text) :
    (∀ ending, (source, ending) ∈ x.endings q options now →
      (before.recordAll (x.search q options now).measurements).failuresOf source reason =
        before.failuresOf source reason + ending.countFor reason) ∧
    (source ∉ x.sources q options →
      (before.recordAll (x.search q options now).measurements).failuresOf source reason =
        before.failuresOf source reason) := by
  obtain ⟨rest, hmeasured, hrest⟩ := x.measurements_eq q options now
  have hquiet : rest.countP (Measurement.isFailureOf source reason) = 0 :=
    List.countP_eq_zero.mpr fun m hm => by simp [hrest m hm]
  rw [Metrics.failuresOf_recordAll, hmeasured, List.countP_append, hquiet, Nat.add_zero]
  rw [← x.map_fst_endings q options now]
  refine ⟨fun ending hending => ?_, fun hnone => ?_⟩
  · rw [SourceEnd.countP_failures_of_mem source reason ?_ hending]
    rw [map_fst_endings]
    exact x.nodup_sources q options
  · rw [SourceEnd.countP_failures_of_notMem source reason hnone, Nat.add_zero]

end Courses

end Searcher

end EntitySearch

import EntitySearch.Proofs.Search.IndexResults
import EntitySearch.Proofs.Search.Punctuality
import EntitySearch.Search.Hybrid
/-!
# Unified search whatever the schedule

The searches of a unified search begin, wait for places and end in any order, and some may not end
before the time limit. What comes of them depends on nothing but which have ended: the results of
these, in the order of the shares, ranked (`IndexPlan.outcome_unified`). The search that runs is one
of these schedules and goes on until all have ended or the time limit has passed. On the clock those
have ended whose duration was over before that, from the moment at which they found a place
(`Searcher.unified_schedules`).
-/

namespace EntitySearch

open Number (ArithmeticError overflow)

variable {σ ρ α : Type} [LogScalar α]

namespace IndexPlan

/-- The types of a unified search, in their order. -/
def unifiedTypes : List EntityType := quotaPercents.map Prod.fst

/-- What the search in a type contributes: its results if it has ended. -/
def contribution (p : IndexPlan α) (fanout : Fanout EntityType) (t : EntityType) :
    List (SearchResult α) :=
  if fanout.hasEnded t then ((p.search? t).map fun s => s.search.results).getD [] else []

omit [LogScalar α] in
/-- What searches contribute type by type is what those that have ended contribute. -/
theorem flatMap_find {types : List EntityType} (hnodup : types.Nodup)
    {searches : List (SubSearch α)}
    (hsub : (searches.map SubSearch.entityType).Sublist types) (hasEnded : EntityType → Bool) :
    (searches.filter fun s => hasEnded s.entityType).flatMap (fun s => s.search.results) =
      types.flatMap fun t =>
        if hasEnded t then
          ((searches.find? fun s => s.entityType = t).map fun s => s.search.results).getD []
        else [] := by
  induction types generalizing searches with
  | nil =>
    have hnil : searches = [] := by simpa using hsub
    rw [hnil]
    rfl
  | cons t rest ih =>
    obtain ⟨hnew, hrest⟩ := List.nodup_cons.mp hnodup
    rw [List.flatMap_cons]
    rcases List.sublist_cons_iff.mp hsub with hskip | ⟨types, htypes, htail⟩
    · -- the first type is not searched
      have hnone : (searches.find? fun s => s.entityType = t) = none := by
        rw [List.find?_eq_none]
        intro s hs heq
        have hin := hskip.subset (List.mem_map_of_mem (f := SubSearch.entityType) hs)
        rw [of_decide_eq_true heq] at hin
        exact hnew hin
      rw [hnone, ih hrest hskip]
      simp
    · -- the first type is that of the first search, and of no other
      obtain ⟨s, others, rfl, rfl, rfl⟩ := List.map_eq_cons_iff.mp htypes
      have hothers : ∀ t' ∈ rest, ((s :: others).find? fun s => s.entityType = t') =
          others.find? fun s => s.entityType = t' := by
        intro t' ht'
        refine List.find?_cons_of_neg ?_
        intro heq
        rw [of_decide_eq_true heq] at hnew
        exact hnew ht'
      have hfirst : ((s :: others).find? fun s' => s'.entityType = s.entityType) = some s :=
        List.find?_cons_of_pos (by simp)
      have htails : (rest.flatMap fun t' => if hasEnded t' then
          (((s :: others).find? fun s => s.entityType = t').map fun s => s.search.results).getD []
          else []) = rest.flatMap fun t' => if hasEnded t' then
          ((others.find? fun s => s.entityType = t').map fun s => s.search.results).getD []
          else [] := by
        refine List.flatMap_congr fun t' ht' => ?_
        rw [hothers t' ht']
      rw [hfirst, htails, ← ih hrest htail, List.filter_cons]
      split <;> simp [*]

section Unified

variable {adjuster : Adjuster α} {store : IndexStore α} {q : Query} {limit : Int}
  {p : IndexPlan α}

theorem unified_shape (h : unified adjuster store q limit = .ok p) :
    p.strategy = .unified ∧ p.limit = limit := by
  unfold unified at h
  split at h
  · cases h
    exact ⟨rfl, rfl⟩
  · cases hparts : subLimits α limit with
    | error e =>
      rw [hparts] at h
      cases h
    | ok parts =>
      rw [hparts] at h
      cases h
      exact ⟨rfl, rfl⟩

theorem breaksOff_unified (h : unified adjuster store q limit = .ok p) (t : EntityType) :
    p.breaksOff t = false := by
  unfold breaksOff isSingle
  rw [(unified_shape h).1]
  split <;> rfl

/-- A unified search comes to the results of the searches that have ended, in the order of the
shares, ranked. -/
theorem outcome_unified (h : unified adjuster store q limit = .ok p)
    (fanout : Fanout EntityType) :
    p.outcome fanout =
      .ok (SearchResult.rank limit (unifiedTypes.flatMap (p.contribution fanout))) := by
  have hcollect : p.collect fanout = unifiedTypes.flatMap (p.contribution fanout) :=
    flatMap_find (by decide) (types_unified h) fanout.hasEnded
  unfold outcome
  rw [if_neg (by simp [breaksOff_unified h]), if_neg (by simp [isSingle, (unified_shape h).1,
    Strategy.type?]), (unified_shape h).2, hcollect]

/-- Searches that contribute the same come to the same. -/
theorem outcome_unified_congr {adjuster' : Adjuster α} {store' : IndexStore α} {q' : Query}
    {p' : IndexPlan α} (h : unified adjuster store q limit = .ok p)
    (h' : unified adjuster' store' q' limit = .ok p') {fanout fanout' : Fanout EntityType}
    (hsame : ∀ t ∈ unifiedTypes, p.contribution fanout t = p'.contribution fanout' t) :
    p.outcome fanout = p'.outcome fanout' := by
  rw [outcome_unified h, outcome_unified h', List.flatMap_congr hsame]

/-- The searches of a unified search are its jobs, none of which breaks it off. -/
theorem race_unified (h : unified adjuster store q limit = .ok p) (bound : Option Nat)
    (timeout : Option Float) :
    p.race bound timeout =
      { jobs := p.searches.map fun s => (s.entityType, s.search.duration), bound := bound
        timeout := timeout } := by
  have hmany : p.isSingle = false := by
    simp [isSingle, (unified_shape h).1, Strategy.type?]
  have hbreaks : p.breaksOff = fun _ => false := funext (breaksOff_unified h)
  simp [race, isIdle, hmany, hbreaks]

end Unified

/-- The schedules of a plan: the turns of its searches in any order and at any moments, perhaps with
those of a source in between. -/
def Schedule (p : IndexPlan α) (bound : Option Nat) (timeout : Option Float)
    (source : Option (SourceSide ρ)) :
    List (Float × Turn EntityType) → Race EntityType ρ → Multiset (Turn EntityType) → Prop :=
  Race.Path (p.race bound timeout) source

end IndexPlan

theorem SearchLimits.bound_ne_zero (l : SearchLimits) : l.bound ≠ some 0 := by
  unfold bound
  split
  · intro h
    have hzero := Option.some.inj h
    omega
  · simp

/-- The search in a type takes no time, or that of the store. -/
theorem TypeSearch.duration_plan (adjuster : Adjuster α) (store : IndexStore α) (t : EntityType)
    (q : Query) (limit : Int) :
    (TypeSearch.plan adjuster store t q limit).duration = 0 ∨
      ∃ d, (TypeSearch.plan adjuster store t q limit).duration = store.searchTime d := by
  unfold TypeSearch.plan
  split
  · exact Or.inl rfl
  · rename_i d _
    split
    · exact Or.inl rfl
    · unfold TypeSearch.inDescriptor
      split
      · exact Or.inl rfl
      · simp only
        split
        · exact Or.inl rfl
        · exact Or.inr ⟨d, rfl⟩

namespace Searcher

open IndexPlan

/-- A search from a moment on keeps to numbers: the clock is not negative, and the times of the
store and the moment of the time limit are numbers. -/
structure OnClock (x : Searcher σ α) (timeout : Option Float) (now : Float) : Prop where
  clock : Number.Plain now
  times : ∀ d, Scalar.isOrderly (x.store.searchTime d) = true
  limit : ∀ seconds, timeout = some seconds → Scalar.isOrderly (now + seconds) = true

theorem OnClock.race {x : Searcher σ α} {timeout : Option Float} {now : Float}
    (h : x.OnClock timeout now) {q : Query} {p : IndexPlan α}
    (hp : Planned x.adjuster x.store q p) (bound : Option Nat) :
    (p.race bound timeout).Numbers now := by
  refine ⟨h.clock, ?_, h.limit⟩
  intro entry hentry
  unfold IndexPlan.race at hentry
  simp only at hentry
  split at hentry
  · cases hentry
  · obtain ⟨s, hs, rfl⟩ := List.mem_map.mp hentry
    simp only [hp.ofType s hs]
    rcases TypeSearch.duration_plan x.adjuster x.store s.entityType q s.limit with hzero | ⟨d, hd⟩
    · rw [hzero]
      exact Number.plain_zero.isOrderly
    · rw [hd]
      exact h.times d

/-- A unified search runs by one of its schedules until all its searches have ended or the time
limit has passed; on the clock it is punctual. -/
theorem searchIndex_unified (x : Searcher σ α) {q : Query} {limit : Int} {p : IndexPlan α}
    (h : unified x.adjuster x.store q limit = .ok p) (timeout : Option Float) (now : Float) :
    ∃ turns race pending,
      p.Schedule x.limits.bound timeout (none : Option (SourceSide Unit)) turns race pending ∧
      (x.searchIndex .unified q limit timeout now).outcome = p.outcome race.fanout ∧
      race.indexOpen = false ∧
      ((∀ s ∈ p.searches, race.fanout.hasEnded s.entityType = true) ∨
        (timeout.isSome = true ∧ .closeIndex ∈ turns.map Prod.snd)) ∧
      (x.OnClock timeout now →
        Race.Punctual (p.race x.limits.bound timeout) now race.fanout) := by
  have hrace := race_unified h x.limits.bound timeout
  have hbound : (p.race x.limits.bound timeout).bound ≠ some 0 := by
    rw [hrace]
    exact x.limits.bound_ne_zero
  have hbreaks : ((p.race x.limits.bound timeout).jobs.map fun entry =>
      Race.breakCost (p.race x.limits.bound timeout) entry.1).sum ≤ 1 := by
    rw [hrace]
    simp [Race.breakCost, Function.comp_def]
  obtain ⟨turns, pending, hpath, hend⟩ := Race.run_closed (p := p.race x.limits.bound timeout)
    hbound (none : Option (SourceSide Unit)) 0 now hbreaks (by simp [Race.SourceWithin])
  have hbroken := Race.not_broken (p := p.race x.limits.bound timeout) (by rw [hrace])
    (by rw [hrace]; exact fun _ => rfl) hpath
  have hsearch : x.searchIndex .unified q limit timeout now =
      p.run x.limits.bound timeout now := by
    simp [searchIndex, ofStrategy, h]
  -- nothing breaks a unified search off, and it does not fail as it begins
  obtain ⟨hclosed, hdone⟩ := hend.resolve_left (by simp [hbroken])
  refine ⟨turns, _, pending, hpath, ?_, hclosed, ?_, ?_⟩
  · rw [hsearch]
    rfl
  · rcases hdone with hended | hpassed | hfails
    · refine Or.inl fun s hs => hended (s.entityType, s.search.duration) ?_
      rw [hrace]
      exact List.mem_map_of_mem hs
    · rw [hrace] at hpassed
      exact Or.inr hpassed
    · rw [hrace] at hfails
      cases hfails
  · intro hclock
    have hnumbers := hclock.race (planned_unified h) x.limits.bound
    have hnothing : ∀ side ∈ (none : Option (SourceSide Unit)), side.Numbers := by simp
    obtain ⟨_, _, _, htimed, _⟩ := Race.run_timed hnumbers hnothing 0
    exact Race.punctual_of_timed hbound hnumbers (by simp) htimed hclosed

/-- In doubles a unified search raises an error if the limit is too large for a double. Otherwise,
on every schedule of its searches, whatever bounds them and whatever else goes on, it comes to the
results of those that have ended, in the order of the shares, ranked; what has ended stays, and
nothing is added to it once the search is closed. Searches that contribute the same therefore come
to the same. The search that runs is one of these schedules, at the end of which all searches have
ended or the time limit has passed. On the clock every schedule that has come to its end, and the
one that runs, is punctual: searches begin as places become free and end when their duration is
over, none after the time limit, and what has not ended would not have ended before the limit. -/
theorem unified_schedules (x : Searcher σ Float) (q : Query) (limit : Int) (hlimit : 1 ≤ limit)
    (timeout : Option Float) :
    ((overflow : Int) ≤ limit → ∀ now,
      (x.searchIndex .unified q limit timeout now).outcome = .error (.arithmetic .outOfRange)) ∧
    (limit < overflow →
      ∃ p, unified x.adjuster x.store q limit = .ok p ∧
        (∀ (source : Option (SourceSide ρ)) turns race pending,
          p.Schedule x.limits.bound timeout source turns race pending →
          p.outcome race.fanout =
            .ok (SearchResult.rank limit (unifiedTypes.flatMap (p.contribution race.fanout))) ∧
          ∀ more later after,
            Agenda.Path (Race.work (p.race x.limits.bound timeout)) race pending more later after →
            race.fanout.ended <:+ later.fanout.ended ∧
              (race.indexOpen = false → later.fanout = race.fanout)) ∧
        (∀ (x' : Searcher σ Float) q' p' fanout fanout',
          unified x'.adjuster x'.store q' limit = .ok p' →
          (∀ t ∈ unifiedTypes, p.contribution fanout t = p'.contribution fanout' t) →
          p.outcome fanout = p'.outcome fanout') ∧
        ∀ now,
          (x.OnClock timeout now → ∀ (source : Option (SourceSide ρ)),
            (∀ side ∈ source, side.Numbers) → ∀ turns race clock awaited,
              Race.Timed (p.race x.limits.bound timeout) source now turns race clock awaited →
              race.indexOpen = false →
              Race.Punctual (p.race x.limits.bound timeout) now race.fanout) ∧
          ∃ turns race pending,
            p.Schedule x.limits.bound timeout (none : Option (SourceSide Unit)) turns race pending ∧
            (x.searchIndex .unified q limit timeout now).outcome = p.outcome race.fanout ∧
            race.indexOpen = false ∧
            ((∀ s ∈ p.searches, race.fanout.hasEnded s.entityType = true) ∨
              (timeout.isSome = true ∧ .closeIndex ∈ turns.map Prod.snd)) ∧
            (x.OnClock timeout now →
              Race.Punctual (p.race x.limits.bound timeout) now race.fanout)) := by
  constructor
  · intro hover now
    have hplan := unified_eq_error x.adjuster x.store q (by omega) hover
    simp [searchIndex, ofStrategy, hplan]
  · intro hsmall
    obtain ⟨p, hp⟩ := exists_unified x.adjuster x.store q hsmall
    have hbound : (p.race x.limits.bound timeout).bound ≠ some 0 := by
      rw [race_unified hp]
      exact x.limits.bound_ne_zero
    refine ⟨p, hp, ?_, ?_, fun now => ⟨?_, searchIndex_unified x hp timeout now⟩⟩
    · intro source turns race pending hschedule
      refine ⟨outcome_unified hp race.fanout, ?_⟩
      intro more later after hmore
      refine ⟨Race.ended_suffix hmore, ?_⟩
      intro hclosed
      -- a closed side has begun, so that it cannot begin again
      cases Race.phase_of_path hbound hschedule with
      | waiting hopen => exact absurd hopen (by simp [hclosed])
      | working hopen => exact absurd hopen (by simp [hclosed])
      | closed _ _ hbegun => exact Race.fanout_eq_of_closed hclosed hbegun hmore
    · intro x' q' p' fanout fanout' hp' hsame
      exact outcome_unified_congr hp hp' hsame
    · intro hclock source hsource turns race clock awaited htimed hclosed
      have hnumbers := hclock.race (planned_unified hp) x.limits.bound
      exact Race.punctual_of_timed hbound hnumbers hsource htimed hclosed

/-! A store that cancels the search of the lists, fails to search the articles, finds a note at once
and a video after five seconds, searched two types at a time for three seconds. -/

/-- A searcher with this store. -/
def patchy : Searcher Unit Float where
  store :=
    { (IndexStore.down : IndexStore Float) with
      search := fun d _ _ _ =>
        match d.entityType with
        | .list => .cancelled
        | .article => .failed .unavailable
        | .note => .hits [⟨"a", 1, none, [], 0⟩]
        | .video => .hits [⟨"v", 2, none, [], 0⟩]
        | _ => .hits []
      searchTime := fun d => if d.entityType = .video then 5 else 0 }
  source := none
  limits := { maxConcurrency := 2 }
  fusion := .usual
  adjuster := ⟨.usual, .ok 0⟩

/-- A query that is searched in every type. -/
def anyBit : Query := { terms := ["bit"] }

theorem onClock_patchy : patchy.OnClock (some 3) 0 := by
  refine ⟨Number.plain_zero, ?_, ?_⟩
  · intro d
    show Scalar.isOrderly (if d.entityType = .video then (5 : Float) else 0) = true
    split
    · decide +kernel
    · decide +kernel
  · rintro seconds ⟨⟩
    decide +kernel

set_option maxRecDepth 100000 in
/-- The video comes too late. -/
theorem unified_patchy :
    (patchy.searchIndex .unified anyBit (2 ^ 1024) (some 3) 0).outcome =
      .error (.arithmetic .outOfRange) ∧
    ∃ (p : IndexPlan Float) (race : Race EntityType Unit),
      unified patchy.adjuster patchy.store anyBit 5 = .ok p ∧
      (patchy.searchIndex .unified anyBit 5 (some 3) 0).outcome =
        .ok (SearchResult.rank 5 (unifiedTypes.flatMap (p.contribution race.fanout))) ∧
      (SearchResult.rank 5 (unifiedTypes.flatMap (p.contribution race.fanout))).map
        SearchResult.key = [(EntityType.note, ("a" : Text))] ∧
      Race.Punctual (p.race patchy.limits.bound (some 3)) 0 race.fanout := by
  refine ⟨(unified_schedules patchy anyBit (2 ^ 1024) (by decide +kernel) (some 3)
    (ρ := Unit)).1 (by decide +kernel) 0, ?_⟩
  obtain ⟨p, hp, hschedules, _, hruns⟩ :=
    (unified_schedules patchy anyBit 5 (by decide) (some 3)).2 (by decide +kernel)
  obtain ⟨_, turns, race, pending, hschedule, houtcome, _, _, hpunctual⟩ := hruns 0
  have hranked := (hschedules none turns race pending hschedule).1
  refine ⟨p, race, hp, houtcome.trans hranked, ?_, hpunctual onClock_patchy⟩
  have hkeys : ((patchy.searchIndex .unified anyBit 5 (some 3) 0).outcome.map
      (List.map SearchResult.key)).toOption = some [(EntityType.note, ("a" : Text))] := by
    decide +kernel
  rw [houtcome, hranked] at hkeys
  exact Option.some.inj hkeys

end Searcher

end EntitySearch

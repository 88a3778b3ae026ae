import EntitySearch.Proofs.Semantic.BreakerHistory
import Mathlib
/-!
# Calls that arrive after a breaker has opened

A breaker that has opened is meant to turn calls away until the recovery time has passed, and then
to let a single one through as a trial. Calls that were let through before it opened end all the
same, and what they report counts: a success closes the breaker however recent the failures are, and
nothing but a failure makes a breaker that is being tried turn calls away.

`KeepOpen` says of the calls that have ended since the breaker opened that they leave failures
enough. With it, the admission of a call is decided by what has ended since: while a trial runs
(`trial_guards_iff`), and within the recovery time after a failure (`failure_guards_iff`).
-/

namespace EntitySearch

/-! ## Ends since the breaker opened -/

section Ends

variable {τ : Type}

/-- Ends of calls that leave failures enough where there were enough before: none of the calls has
succeeded, or as many as the threshold have failed since the last that did. -/
def KeepOpen (threshold : Int) (ends : List (τ × CallEnd)) : Prop :=
  (∃ e ∈ ends, e.2 = .succeeded) → threshold ≤ (failuresSinceSuccess ends : Int)

theorem latestFailure?_append (ends more : List (τ × CallEnd)) :
    latestFailure? (ends ++ more) = (latestFailure? more).or (latestFailure? ends) := by
  simp only [latestFailure?, List.reverse_append, List.find?_append, Option.map_or]

theorem exists_of_latestFailure? {ends : List (τ × CallEnd)} {last : τ}
    (h : latestFailure? ends = some last) : ∃ e ∈ ends, e.1 = last := by
  obtain ⟨e, hfound, rfl⟩ := Option.map_eq_some_iff.mp h
  exact ⟨e, List.mem_reverse.mp (List.mem_of_find?_eq_some hfound), rfl⟩

/-- A success hides all that ended before it. -/
theorem failuresSinceSuccess_append_of_succeeded (ends : List (τ × CallEnd))
    {more : List (τ × CallEnd)} (h : ∃ e ∈ more, e.2 = .succeeded) :
    failuresSinceSuccess (ends ++ more) = failuresSinceSuccess more := by
  obtain ⟨e, he, hsucceeded⟩ := h
  have hshort : ¬ (more.reverse.takeWhile fun e => e.2 ≠ .succeeded).length =
      more.reverse.length := by
    intro hall
    have hwhole := List.takeWhile_eq_self_iff.mp
      ((List.takeWhile_prefix (fun e : τ × CallEnd => decide (e.2 ≠ .succeeded))).eq_of_length hall)
    simpa [hsucceeded] using hwhole e (List.mem_reverse.mpr he)
  rw [failuresSinceSuccess, failuresSinceSuccess, List.reverse_append, List.takeWhile_append,
    if_neg hshort]

/-- Without a success, failures add up. -/
theorem failuresSinceSuccess_le_append (ends : List (τ × CallEnd)) {more : List (τ × CallEnd)}
    (h : ¬ ∃ e ∈ more, e.2 = .succeeded) :
    failuresSinceSuccess ends ≤ failuresSinceSuccess (ends ++ more) := by
  have hwhole : (more.reverse.takeWhile fun e => e.2 ≠ .succeeded) = more.reverse := by
    rw [List.takeWhile_eq_self_iff]
    intro e he
    simpa using fun hsucceeded => h ⟨e, List.mem_reverse.mp he, hsucceeded⟩
  rw [failuresSinceSuccess, failuresSinceSuccess, List.reverse_append, List.takeWhile_append,
    hwhole, if_pos rfl, List.countP_append]
  exact Nat.le_add_left _ _

theorem enough_append_iff {threshold : Int} {ends : List (τ × CallEnd)}
    (h : threshold ≤ (failuresSinceSuccess ends : Int)) (more : List (τ × CallEnd)) :
    threshold ≤ (failuresSinceSuccess (ends ++ more) : Int) ↔ KeepOpen threshold more := by
  by_cases hmore : ∃ e ∈ more, e.2 = .succeeded
  · rw [failuresSinceSuccess_append_of_succeeded ends hmore]
    exact ⟨fun henough _ => henough, fun hopen => hopen hmore⟩
  · have hle := failuresSinceSuccess_le_append ends hmore
    exact ⟨fun _ hsome => absurd hsome hmore, fun _ => by omega⟩

end Ends

namespace Traffic

/-! ## Logs -/

section Log

variable {τ : Type} [Sub τ] [LE τ] [DecidableLE τ]

theorem endsOf_log_append (x : Traffic τ) (events more : List (τ × CallEvent)) :
    endsOf (x.log (events ++ more)) =
      endsOf (x.log events) ++ endsOf ((x.run events).log more) := by
  rw [log_append, endsOf, List.filterMap_append]
  rfl

/-- Calls end at the moments of events. -/
theorem mem_times_of_mem_ends {x : Traffic τ} {events : List (τ × CallEvent)} {e : τ × CallEnd}
    (h : e ∈ endsOf (x.log events)) : e.1 ∈ events.map Prod.fst := by
  induction events generalizing x with
  | nil => cases h
  | cons first rest ih =>
    obtain ⟨now, event⟩ := first
    rw [List.map_cons, List.mem_cons]
    rw [← List.singleton_append, endsOf_log_append, List.mem_append] at h
    rcases h with hnow | hlater
    · left
      cases event with
      | arrive call =>
        rw [endsOf_log_arrive] at hnow
        cases hnow
      | finish call how =>
        rw [endsOf_log_finish] at hnow
        split at hnow
        · rw [List.mem_singleton.mp hnow]
        · cases hnow
    · exact Or.inr (ih hlater)

/-- A call runs until it ends. -/
theorem mem_running_run {call : Nat} {x : Traffic τ} {events : List (τ × CallEvent)}
    (hrunning : call ∈ x.running) (hgoing : ∀ e ∈ events, ∀ how, e.2 ≠ .finish call how) :
    call ∈ (x.run events).running := by
  induction events generalizing x with
  | nil => exact hrunning
  | cons first rest ih =>
    obtain ⟨now, event⟩ := first
    refine ih ?_ fun e he => hgoing e (List.mem_cons_of_mem _ he)
    cases event with
    | arrive other =>
      rcases Breaker.accept_cases x.breaker now with ⟨_, _, h⟩ | ⟨_, _, h⟩ | ⟨_, h⟩
      all_goals simp [step, h, hrunning]
    | finish other how =>
      have hother : call ≠ other := by
        rintro rfl
        exact hgoing _ List.mem_cons_self how rfl
      by_cases hmem : other ∈ x.running
      · simp only [step, hmem, if_true]
        exact (List.mem_erase_of_ne hother).mpr hrunning
      · simpa only [step, hmem, if_false] using hrunning

end Log

/-! ## Admission -/

section Notes

variable {τ : Type} [Sub τ] [LinearOrder τ] {fresh : Breaker τ} {past : List τ}
  {ends : List (τ × CallEnd)} {x : Traffic τ} {now : τ}

theorem Inv.rejects_iff (h : Inv fresh past ends x.breaker) (call : Nat)
    (hnow : ∀ s ∈ past, s ≤ now) :
    x.note? now (.arrive call) = some (call, .rejected ⟨fresh.name⟩) ↔
      fresh.threshold ≤ (failuresSinceSuccess ends : Int) ∧
        ∃ last, latestFailure? ends = some last ∧ now - last < fresh.recovery := by
  rw [← h.count, ← h.last, ← h.accept_eq_error_iff hnow]
  unfold note?
  rcases x.breaker.accept_cases now with ⟨_, _, haccept⟩ | ⟨_, _, haccept⟩ | ⟨_, haccept⟩
  all_goals simp [haccept]

/-- A call that arrives is rejected or starts. -/
theorem Inv.starts_iff (h : Inv fresh past ends x.breaker) (call : Nat) (now : τ) :
    x.note? now (.arrive call) = some (call, .started) ↔
      ¬ x.note? now (.arrive call) = some (call, .rejected ⟨fresh.name⟩) := by
  unfold note?
  rcases x.breaker.accept_cases now with ⟨_, _, haccept⟩ | ⟨_, _, haccept⟩ | ⟨_, haccept⟩
  all_goals simp [haccept, h.config.1]

/-- A call that turns an open breaker into one that is being tried arrives when the recovery time
has passed since the latest failure. -/
theorem Inv.trial_late (h : Inv fresh past ends x.breaker) {call : Nat}
    (hopen : x.breaker.state = .opened)
    (htrial : (x.step now (.arrive call)).breaker.state = .halfOpen) :
    call ∈ (x.step now (.arrive call)).running ∧
      ∃ last, latestFailure? ends = some last ∧ fresh.recovery ≤ now - last := by
  rcases x.breaker.accept_cases now with ⟨_, _, h'⟩ | ⟨_, hrecovered, haccept⟩ | ⟨h', _⟩
  · simp [Traffic.step, h', hopen] at htrial
  · refine ⟨by simp [Traffic.step, haccept], ?_⟩
    obtain ⟨last, hlast⟩ := h.failed (by simp [hopen])
    refine ⟨last, h.last ▸ hlast, ?_⟩
    rw [← h.config.2.2]
    simpa [Breaker.recovered, hlast] using hrecovered
  · exact absurd hopen h'

end Notes

/-! ## On a clock -/

section Clock

variable {τ : Type} [LinearOrder τ]

/-- The moments of events come from a clock that never goes back. -/
def Chronological (events : List (τ × CallEvent)) : Prop :=
  (events.map Prod.fst).Pairwise (· ≤ ·)

theorem Chronological.le_last {events : List (τ × CallEvent)} {now : τ} {event : CallEvent}
    (h : Chronological (events ++ [(now, event)])) : ∀ s ∈ events.map Prod.fst, s ≤ now := by
  rw [Chronological, List.map_append, List.pairwise_append] at h
  intro s hs
  exact h.2.2 s hs now (List.mem_singleton.mpr rfl)

theorem Chronological.le_of_mem {before after : List (τ × CallEvent)} {t s : τ} {event : CallEvent}
    (h : Chronological (before ++ (t, event) :: after)) (hs : s ∈ after.map Prod.fst) : t ≤ s := by
  rw [Chronological, List.map_append, List.pairwise_append] at h
  exact (List.pairwise_cons.mp h.2.1).1 s hs

end Clock

section Admission

variable {τ : Type} [AddCommGroup τ] [LinearOrder τ] [IsOrderedAddMonoid τ] {fresh : Breaker τ}

/-- Calls that have ended since a breaker was tried make it turn calls away at a moment: they leave
failures enough, and one of them has failed within the recovery time. -/
def Reopened (fresh : Breaker τ) (ends : List (τ × CallEnd)) (now : τ) : Prop :=
  KeepOpen fresh.threshold ends ∧
    ∃ last, latestFailure? ends = some last ∧ now - last < fresh.recovery

/-- What a breaker knows in the end, with the ends of calls cut behind an event. -/
theorem inv_run_cut (hfresh : Fresh fresh) (before after : List (τ × CallEvent)) (t : τ)
    (event : CallEvent) :
    Inv fresh ((before ++ (t, event) :: after).map Prod.fst)
      (endsOf (log ⟨fresh, []⟩ before) ++ endsOf ((run ⟨fresh, []⟩ before).log [(t, event)]) ++
        endsOf (((run ⟨fresh, []⟩ before).step t event).log after))
      (((run ⟨fresh, []⟩ before).step t event).run after).breaker := by
  have hcut : run ⟨fresh, []⟩ (before ++ [(t, event)]) = (run ⟨fresh, []⟩ before).step t event := by
    rw [run_append]
    rfl
  rw [← endsOf_log_append, ← hcut, ← endsOf_log_append, ← run_append, List.append_cons]
  exact inv_run hfresh (fun s t last h => sub_le_sub_right h last) _

/-- While a trial runs, another call that arrives is rejected if the breaker has been reopened since
the trial began, and only then; otherwise it starts beside the trial. -/
theorem trial_guards_iff (hfresh : Fresh fresh) (before during : List (τ × CallEvent)) (t now : τ)
    (trial call : Nat)
    (hclock : Chronological (before ++ (t, .arrive trial) :: during ++ [(now, .arrive call)]))
    (hopen : (run ⟨fresh, []⟩ before).breaker.state = .opened)
    (htrial : ((run ⟨fresh, []⟩ before).step t (.arrive trial)).breaker.state = .halfOpen)
    (hgoing : ∀ e ∈ during, ∀ how, e.2 ≠ .finish trial how) :
    let x := (run ⟨fresh, []⟩ before).step t (.arrive trial)
    trial ∈ (x.run during).running ∧
    ((x.run during).note? now (.arrive call) = some (call, .rejected ⟨fresh.name⟩) ↔
      Reopened fresh (endsOf (x.log during)) now) ∧
    ((x.run during).note? now (.arrive call) = some (call, .started) ↔
      ¬ Reopened fresh (endsOf (x.log during)) now) := by
  intro x
  have hbefore := inv_run hfresh (fun s t last h => sub_le_sub_right h last) before
  obtain ⟨hrunning, last, hlast, hlate⟩ := hbefore.trial_late hopen htrial
  have henough := hbefore.enough (by simp [hopen])
  rw [hbefore.count, hbefore.config.2.1] at henough
  have hpast := hclock.le_last
  have htime : t ≤ now := hpast t (by simp)
  have hinv := inv_run_cut hfresh before during t (.arrive trial)
  rw [endsOf_log_arrive, List.append_nil] at hinv
  have hrejects : (x.run during).note? now (.arrive call) = some (call, .rejected ⟨fresh.name⟩) ↔
      Reopened fresh (endsOf (x.log during)) now := by
    rw [hinv.rejects_iff call hpast, enough_append_iff henough, latestFailure?_append, hlast]
    -- the failure before the trial is too long ago to count
    have hold : ¬ now - last < fresh.recovery :=
      not_lt.mpr (hlate.trans (sub_le_sub_right htime last))
    cases hsince : latestFailure? (endsOf (x.log during)) with
    | none => simp [Reopened, hsince, x, hold]
    | some since => simp [Reopened, hsince, x]
  exact ⟨mem_running_run hrunning hgoing, hrejects, (hinv.starts_iff call now).trans hrejects.not⟩

/-- Two calls that arrive at a breaker that is being tried start beside the trial. -/
theorem probes_overlap :
    let x := run ⟨⟨"semantic", 1, 10, 0, none, .closed⟩, []⟩
      [((1 : ℤ), .arrive 0), (1, .finish 0 .failed), (12, .arrive 1), (13, .arrive 2)]
    1 ∈ x.running ∧ 2 ∈ x.running ∧ x.note? 14 (.arrive 3) = some (3, .started) := by
  have hfresh : Fresh (⟨"semantic", 1, 10, 0, none, .closed⟩ : Breaker ℤ) :=
    ⟨by decide, rfl, rfl, rfl⟩
  have hguards := trial_guards_iff hfresh [(1, .arrive 0), (1, .finish 0 .failed)]
    [(13, .arrive 2)] 12 14 1 3 (by simp [Chronological]) (by decide) (by decide) (by simp)
  refine ⟨hguards.1, by decide, hguards.2.2.mpr ?_⟩
  rintro ⟨_, last, hlast, _⟩
  cases hlast

/-- After a failure that leaves the breaker open, a call that arrives before the recovery time has
passed is rejected unless a call has succeeded in the meantime and fewer than the threshold have
failed since the last that did; then it starts. -/
theorem failure_guards_iff (hfresh : Fresh fresh) (before after : List (τ × CallEvent)) (t now : τ)
    (failing call : Nat)
    (hclock : Chronological
      (before ++ (t, .finish failing .failed) :: after ++ [(now, .arrive call)]))
    (hrunning : failing ∈ (run ⟨fresh, []⟩ before).running)
    (hopen : ((run ⟨fresh, []⟩ before).step t (.finish failing .failed)).breaker.state = .opened)
    (hearly : now < t + fresh.recovery) :
    let x := (run ⟨fresh, []⟩ before).step t (.finish failing .failed)
    ((x.run after).note? now (.arrive call) = some (call, .rejected ⟨fresh.name⟩) ↔
      KeepOpen fresh.threshold (endsOf (x.log after))) ∧
    ((x.run after).note? now (.arrive call) = some (call, .started) ↔
      ¬ KeepOpen fresh.threshold (endsOf (x.log after))) := by
  intro x
  have hfailed := inv_run_cut hfresh before [] t (.finish failing .failed)
  have hinv := inv_run_cut hfresh before after t (.finish failing .failed)
  rw [endsOf_log_finish, if_pos hrunning] at hfailed hinv
  have hnot : x.breaker.state ≠ .closed := by simp [x, hopen]
  have henough := hfailed.enough hnot
  rw [hfailed.count, hfailed.config.2.1, show endsOf (x.log []) = [] from rfl,
    List.append_nil] at henough
  have hrejects : (x.run after).note? now (.arrive call) = some (call, .rejected ⟨fresh.name⟩) ↔
      KeepOpen fresh.threshold (endsOf (x.log after)) := by
    rw [hinv.rejects_iff call hclock.le_last, enough_append_iff henough, latestFailure?_append,
      latestFailure?_failed]
    -- the latest failure is this one or a later one
    refine and_iff_left ?_
    cases hsince : latestFailure? (endsOf (x.log after)) with
    | none => exact ⟨t, rfl, sub_lt_iff_lt_add'.mpr hearly⟩
    | some since =>
      refine ⟨since, rfl, ?_⟩
      obtain ⟨e, he, rfl⟩ := exists_of_latestFailure? hsince
      have hsooner : t ≤ e.1 := by
        rw [List.append_assoc, List.cons_append] at hclock
        refine hclock.le_of_mem ?_
        rw [List.map_append]
        exact List.mem_append_left _ (mem_times_of_mem_ends he)
      calc now - e.1 ≤ now - t := sub_le_sub_left hsooner now
        _ < fresh.recovery := sub_lt_iff_lt_add'.mpr hearly
  exact ⟨hrejects, (hinv.starts_iff call now).trans hrejects.not⟩

/-- A call that began before the breaker opened succeeds and closes it three seconds after the
failure, where the recovery time is thirty. -/
theorem straggler_readmits :
    let x := run ⟨⟨"semantic", 1, 30, 0, none, .closed⟩, []⟩
      [((1 : ℤ), .arrive 0), (2, .arrive 1), (3, .finish 1 .failed), (6, .finish 0 .succeeded)]
    x.note? 10 (.arrive 2) = some (2, .started) := by
  have hfresh : Fresh (⟨"semantic", 1, 30, 0, none, .closed⟩ : Breaker ℤ) :=
    ⟨by decide, rfl, rfl, rfl⟩
  have hguards := failure_guards_iff hfresh [(1, .arrive 0), (2, .arrive 1)]
    [(6, .finish 0 .succeeded)] 3 10 1 2 (by simp [Chronological]) (by decide) (by decide)
    (by decide)
  refine hguards.2.mpr fun hopen => ?_
  have hmany := hopen ⟨(6, .succeeded), by decide, rfl⟩
  exact absurd hmany (by decide)

end Admission

end Traffic

end EntitySearch

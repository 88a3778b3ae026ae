import EntitySearch.Semantic.Traffic
import Mathlib
/-!
# What a breaker knows of its calls

Calls overlap under a breaker and end in any order, some of them never. `Traffic.Inv` relates the
breaker to the ends that its log shows: the counter holds the failures since the last success, the
breaker is closed as long as they are fewer than the threshold, and once it is half open the
recovery time has passed since the latest failure and stays passed, because a failure reopens it.
Every event keeps this (`Traffic.Inv.step`), so it holds after any events (`Traffic.inv_run`), and
it decides which calls are rejected (`Traffic.run_guards`).
-/

namespace EntitySearch

/-! ## Ends of calls -/

section Ends

variable {τ : Type}

/-- How calls have ended according to a log, with the moments, in order. -/
def endsOf (log : List (CallEntry τ)) : List (τ × CallEnd) :=
  log.filterMap fun entry =>
    match entry.note with
    | .ended how => some (entry.time, how)
    | _ => none

/-- How many calls have failed since the last one that succeeded. -/
def failuresSinceSuccess (ends : List (τ × CallEnd)) : Nat :=
  (ends.reverse.takeWhile fun e => e.2 ≠ .succeeded).countP fun e => e.2 = .failed

/-- When a call failed last. -/
def latestFailure? (ends : List (τ × CallEnd)) : Option τ :=
  (ends.reverse.find? fun e => e.2 = .failed).map Prod.fst

variable (ends : List (τ × CallEnd)) (now : τ)

@[simp] theorem failuresSinceSuccess_succeeded :
    failuresSinceSuccess (ends ++ [(now, .succeeded)]) = 0 := by
  simp [failuresSinceSuccess]

@[simp] theorem failuresSinceSuccess_failed :
    failuresSinceSuccess (ends ++ [(now, .failed)]) = failuresSinceSuccess ends + 1 := by
  simp [failuresSinceSuccess]

@[simp] theorem failuresSinceSuccess_cancelled :
    failuresSinceSuccess (ends ++ [(now, .cancelled)]) = failuresSinceSuccess ends := by
  simp [failuresSinceSuccess]

@[simp] theorem latestFailure?_failed :
    latestFailure? (ends ++ [(now, .failed)]) = some now := by
  simp [latestFailure?]

@[simp] theorem latestFailure?_succeeded :
    latestFailure? (ends ++ [(now, .succeeded)]) = latestFailure? ends := by
  simp [latestFailure?]

@[simp] theorem latestFailure?_cancelled :
    latestFailure? (ends ++ [(now, .cancelled)]) = latestFailure? ends := by
  simp [latestFailure?]

end Ends

/-! ## Admission -/

namespace Breaker

variable {τ : Type} [Sub τ] [LE τ] [DecidableLE τ]

/-- An open breaker turns a call away before the recovery time has passed and is half open with it
afterwards; any other breaker lets the call through as it is. -/
theorem accept_cases (b : Breaker τ) (now : τ) :
    (b.state = .opened ∧ b.recovered now = false ∧ b.accept now = .error ⟨b.name⟩) ∨
    (b.state = .opened ∧ b.recovered now = true ∧
      b.accept now = .ok { b with state := .halfOpen }) ∨
    (b.state ≠ .opened ∧ b.accept now = .ok b) := by
  unfold accept
  cases hstate : b.state with
  | closed => exact Or.inr (Or.inr ⟨by simp, rfl⟩)
  | halfOpen => exact Or.inr (Or.inr ⟨by simp, rfl⟩)
  | opened =>
    cases hrecovered : b.recovered now with
    | false => exact Or.inl ⟨rfl, rfl, by simp [throw, throwThe, MonadExceptOf.throw]⟩
    | true => exact Or.inr (Or.inl ⟨rfl, rfl, by simp [pure, Except.pure]⟩)

end Breaker

namespace Traffic

section Log

variable {τ : Type} [Sub τ] [LE τ] [DecidableLE τ]

theorem run_append (x : Traffic τ) (events more : List (τ × CallEvent)) :
    x.run (events ++ more) = (x.run events).run more :=
  List.foldl_append

theorem log_append (x : Traffic τ) (events more : List (τ × CallEvent)) :
    x.log (events ++ more) = x.log events ++ (x.run events).log more := by
  induction events generalizing x with
  | nil => rfl
  | cons e rest ih =>
    obtain ⟨now, event⟩ := e
    have hrun : x.run ((now, event) :: rest) = (x.step now event).run rest := rfl
    rw [hrun, List.cons_append, log, log]
    simp only [ih]
    split
    · rfl
    · rfl

/-- An arrival is no end. -/
theorem endsOf_log_arrive (x : Traffic τ) (now : τ) (call : Nat) :
    endsOf (x.log [(now, .arrive call)]) = [] := by
  rcases Breaker.accept_cases x.breaker now with ⟨_, _, h⟩ | ⟨_, _, h⟩ | ⟨_, h⟩
  all_goals simp [log, note?, h, endsOf]

theorem endsOf_log_finish (x : Traffic τ) (now : τ) (call : Nat) (how : CallEnd) :
    endsOf (x.log [(now, .finish call how)]) = if call ∈ x.running then [(now, how)] else [] := by
  by_cases hrunning : call ∈ x.running
  all_goals simp [log, note?, hrunning, endsOf]

end Log

/-! ## The invariant -/

section History

variable {τ : Type} [Sub τ] [LinearOrder τ]

/-- What a breaker with a threshold and a recovery time knows after calls have ended in these ways,
at any moment that is not before those of `past`. -/
structure Inv (fresh : Breaker τ) (past : List τ) (ends : List (τ × CallEnd)) (b : Breaker τ) :
    Prop where
  config : b.name = fresh.name ∧ b.threshold = fresh.threshold ∧ b.recovery = fresh.recovery
  count : b.failureCount = failuresSinceSuccess ends
  last : b.lastFailure = latestFailure? ends
  closed_iff : b.state = .closed ↔ (b.failureCount : Int) < b.threshold
  failed : b.state ≠ .closed → ∃ last, b.lastFailure = some last
  /-- While the breaker is half open, the recovery time stays passed. -/
  recovered : b.state = .halfOpen → ∀ t, (∀ s ∈ past, s ≤ t) → b.recovered t = true

/-- A breaker without a history. -/
def Fresh (b : Breaker τ) : Prop :=
  1 ≤ b.threshold ∧ b.failureCount = 0 ∧ b.lastFailure = none ∧ b.state = .closed

namespace Inv

variable {fresh b : Breaker τ} {past : List τ} {ends : List (τ × CallEnd)} {now : τ}

omit [Sub τ] [LinearOrder τ] in
theorem lt_of_fresh (h : Fresh fresh) (hconfig : b.threshold = fresh.threshold) :
    (0 : Int) < b.threshold := by
  rw [hconfig]
  exact h.1

theorem init (h : Fresh fresh) : Inv fresh [] [] fresh := by
  obtain ⟨hthreshold, hcount, hlast, hstate⟩ := h
  refine ⟨⟨rfl, rfl, rfl⟩, hcount, hlast, ?_, ?_, ?_⟩
  · simp only [hstate, hcount, true_iff]
    omega
  · intro hopen
    exact absurd hstate hopen
  · intro htried
    rw [hstate] at htried
    cases htried

/-- Time that passes changes nothing. -/
theorem pass (h : Inv fresh past ends b) (now : τ) : Inv fresh (past ++ [now]) ends b := by
  refine ⟨h.config, h.count, h.last, h.closed_iff, h.failed, ?_⟩
  intro htried t ht
  exact h.recovered htried t fun s hs => ht s (List.mem_append_left _ hs)

theorem succeed (hfresh : Fresh fresh) (h : Inv fresh past ends b) (now : τ) :
    Inv fresh past (ends ++ [(now, .succeeded)]) b.succeed := by
  have hpos := lt_of_fresh hfresh h.config.2.1
  refine ⟨h.config, ?_, ?_, ?_, ?_, ?_⟩
  · rw [failuresSinceSuccess_succeeded]
    rfl
  · rw [latestFailure?_succeeded]
    exact h.last
  · simpa [Breaker.succeed] using hpos
  · intro hopen
    exact absurd rfl hopen
  · intro htried
    cases htried

theorem fail (h : Inv fresh past ends b) (now : τ) :
    Inv fresh past (ends ++ [(now, .failed)]) (b.fail now) := by
  refine ⟨h.config, ?_, ?_, ?_, ?_, ?_⟩
  · rw [failuresSinceSuccess_failed, ← h.count]
    rfl
  · rw [latestFailure?_failed]
    rfl
  · -- the breaker is closed afterwards if it was and one failure more is still too few
    have hbefore := h.closed_iff
    unfold Breaker.fail
    simp only
    cases hstate : b.state with
    | closed =>
      by_cases henough : b.threshold ≤ ((b.failureCount + 1 : Nat) : Int)
      · simp only [henough, or_true, if_true, reduceCtorEq, false_iff]
        omega
      · simp only [henough, reduceCtorEq, or_self, if_false, true_iff]
        omega
    | opened =>
      have hmany : ¬ (b.failureCount : Int) < b.threshold := by
        rw [← hbefore, hstate]
        simp
      simp only [reduceCtorEq, false_or, ite_self, false_iff]
      omega
    | halfOpen =>
      have hmany : ¬ (b.failureCount : Int) < b.threshold := by
        rw [← hbefore, hstate]
        simp
      simp only [true_or, if_true, reduceCtorEq, false_iff]
      omega
  · intro _
    exact ⟨now, rfl⟩
  · -- a failure never leaves the breaker half open
    intro htried
    unfold Breaker.fail at htried
    simp only at htried
    split at htried
    · cases htried
    · rename_i hother
      exact absurd (Or.inl htried) hother

theorem cancel (h : Inv fresh past ends b) (now : τ) :
    Inv fresh past (ends ++ [(now, .cancelled)]) b := by
  refine ⟨h.config, ?_, ?_, h.closed_iff, h.failed, h.recovered⟩
  · rw [failuresSinceSuccess_cancelled]
    exact h.count
  · rw [latestFailure?_cancelled]
    exact h.last

theorem settle (hfresh : Fresh fresh) (h : Inv fresh past ends b) (now : τ) (how : CallEnd) :
    Inv fresh past (ends ++ [(now, how)]) (Traffic.settle b now how) := by
  cases how with
  | succeeded => exact h.succeed hfresh now
  | failed => exact h.fail now
  | cancelled => exact h.cancel now

/-- An open breaker is tried once the recovery time has passed. -/
theorem trial (hlater : ∀ s t last : τ, s ≤ t → s - last ≤ t - last)
    (h : Inv fresh past ends b) (hstate : b.state = .opened) (hrecovered : b.recovered now = true) :
    Inv fresh (past ++ [now]) ends { b with state := .halfOpen } := by
  have hopen : b.state ≠ .closed := by
    rw [hstate]
    simp
  refine ⟨h.config, h.count, h.last, ?_, fun _ => h.failed hopen, ?_⟩
  · have hmany := h.closed_iff
    simp only [hstate, reduceCtorEq, false_iff] at hmany ⊢
    exact hmany
  · intro _ t ht
    have hnow : now ≤ t := ht now (List.mem_append_right _ (List.mem_singleton.mpr rfl))
    obtain ⟨last, hlast⟩ := h.failed hopen
    simp only [Breaker.recovered, hlast, decide_eq_true_eq] at hrecovered ⊢
    exact le_trans hrecovered (hlater now t last hnow)

/-- Every event keeps the invariant, with the end that the log shows of it, if any. -/
theorem step (hfresh : Fresh fresh) (hlater : ∀ s t last : τ, s ≤ t → s - last ≤ t - last)
    {x : Traffic τ} (h : Inv fresh past ends x.breaker) (now : τ) (event : CallEvent) :
    Inv fresh (past ++ [now]) (ends ++ endsOf (x.log [(now, event)]))
      (x.step now event).breaker := by
  cases event with
  | arrive call =>
    rw [endsOf_log_arrive, List.append_nil]
    rcases Breaker.accept_cases x.breaker now with
      ⟨_, _, haccept⟩ | ⟨hstate, hrecovered, haccept⟩ | ⟨_, haccept⟩
    · simpa only [Traffic.step, haccept] using h.pass now
    · simpa only [Traffic.step, haccept] using h.trial hlater hstate hrecovered
    · simpa only [Traffic.step, haccept] using h.pass now
  | finish call how =>
    rw [endsOf_log_finish]
    by_cases hrunning : call ∈ x.running
    · simpa only [Traffic.step, hrunning, if_true] using (h.settle hfresh now how).pass now
    · simpa only [Traffic.step, hrunning, if_false, List.append_nil] using h.pass now

/-- Once a breaker is not closed, failures are enough. -/
theorem enough (h : Inv fresh past ends b) (hopen : b.state ≠ .closed) :
    b.threshold ≤ (b.failureCount : Int) := by
  rw [Ne, h.closed_iff] at hopen
  omega

/-- A call that arrives now is turned away if failures are enough and the latest is too recent. -/
theorem accept_eq_error_iff (h : Inv fresh past ends b) (hnow : ∀ s ∈ past, s ≤ now) :
    b.accept now = .error ⟨fresh.name⟩ ↔
      fresh.threshold ≤ (b.failureCount : Int) ∧
        ∃ last, b.lastFailure = some last ∧ now - last < fresh.recovery := by
  obtain ⟨hname, hthreshold, hrecovery⟩ := h.config
  rw [← hname, ← hthreshold, ← hrecovery]
  have hrecent : b.recovered now = true → ∀ last, b.lastFailure = some last →
      ¬ now - last < b.recovery := by
    intro hrecovered last hlast
    simpa [Breaker.recovered, hlast] using hrecovered
  rcases b.accept_cases now with
    ⟨hstate, hrecovered, haccept⟩ | ⟨hstate, hrecovered, haccept⟩ | ⟨hstate, haccept⟩
  · rw [haccept]
    have hopen : b.state ≠ .closed := by
      rw [hstate]
      simp
    obtain ⟨last, hlast⟩ := h.failed hopen
    have hlt : now - last < b.recovery := by
      simpa [Breaker.recovered, hlast] using hrecovered
    exact ⟨fun _ => ⟨h.enough hopen, last, hlast, hlt⟩, fun _ => rfl⟩
  · rw [haccept]
    refine ⟨fun herror => (by cases herror), ?_⟩
    rintro ⟨_, last, hlast, hlt⟩
    exact absurd hlt (hrecent hrecovered last hlast)
  · rw [haccept]
    refine ⟨fun herror => (by cases herror), ?_⟩
    rintro ⟨henough, last, hlast, hlt⟩
    cases hcase : b.state with
    | closed =>
      have hfew := h.closed_iff.mp hcase
      omega
    | opened => exact absurd hcase hstate
    | halfOpen => exact absurd hlt (hrecent (h.recovered hcase now hnow) last hlast)

end Inv

/-! ## Any events -/

variable {fresh : Breaker τ} (hfresh : Fresh fresh)
  (hlater : ∀ s t last : τ, s ≤ t → s - last ≤ t - last) (events : List (τ × CallEvent))

include hfresh hlater in
theorem inv_run :
    Inv fresh (events.map Prod.fst) (endsOf (log ⟨fresh, []⟩ events))
      (run ⟨fresh, []⟩ events).breaker := by
  -- an event is added at the end, where the invariant holds before it
  induction events using List.reverseRecOn with
  | nil => exact Inv.init hfresh
  | append_singleton events e ih =>
    obtain ⟨now, event⟩ := e
    rw [run_append, log_append, List.map_append, endsOf, List.filterMap_append]
    exact ih.step hfresh hlater now event

include hfresh hlater in
/-- After any events under a fresh breaker, the counter holds the failures since the last success,
the latest failure is remembered, and the breaker is closed as long as failures are fewer than the
threshold. A call that arrives then is rejected if they are not and the latest is more recent than
the recovery time, and only then; a rejected call leaves everything as it is. -/
theorem run_guards :
    (run ⟨fresh, []⟩ events).breaker.failureCount =
      failuresSinceSuccess (endsOf (log ⟨fresh, []⟩ events)) ∧
    (run ⟨fresh, []⟩ events).breaker.lastFailure =
      latestFailure? (endsOf (log ⟨fresh, []⟩ events)) ∧
    ((run ⟨fresh, []⟩ events).breaker.state = .closed ↔
      ((run ⟨fresh, []⟩ events).breaker.failureCount : Int) < fresh.threshold) ∧
    ∀ call now, (∀ e ∈ events, e.1 ≤ now) →
      ((run ⟨fresh, []⟩ events).note? now (.arrive call) = some (call, .rejected ⟨fresh.name⟩) ↔
        fresh.threshold ≤ ((run ⟨fresh, []⟩ events).breaker.failureCount : Int) ∧
          ∃ last, (run ⟨fresh, []⟩ events).breaker.lastFailure = some last ∧
            now - last < fresh.recovery) ∧
      ((run ⟨fresh, []⟩ events).note? now (.arrive call) = some (call, .rejected ⟨fresh.name⟩) →
        (run ⟨fresh, []⟩ events).step now (.arrive call) = run ⟨fresh, []⟩ events) := by
  have hinv := inv_run hfresh hlater events
  generalize run ⟨fresh, []⟩ events = x at hinv ⊢
  refine ⟨hinv.count, hinv.last, ?_, ?_⟩
  · rw [← hinv.config.2.1]
    exact hinv.closed_iff
  · intro call now hnow
    have hpast : ∀ s ∈ events.map Prod.fst, s ≤ now := by
      intro s hs
      obtain ⟨e, he, rfl⟩ := List.mem_map.mp hs
      exact hnow e he
    have hrejected : x.note? now (.arrive call) = some (call, .rejected ⟨fresh.name⟩) ↔
        x.breaker.accept now = .error ⟨fresh.name⟩ := by
      unfold note?
      cases haccept : x.breaker.accept now with
      | ok b => simp
      | error e => simp
    refine ⟨hrejected.trans (hinv.accept_eq_error_iff hpast), ?_⟩
    intro hnote
    simp [step, hrejected.mp hnote]

end History

/-- Two calls that overlap and fail under a breaker that opens with the second failure, and a third
one that begins between the failures and is cancelled. -/
def overlapping : List (ℤ × CallEvent) :=
  [(0, .arrive 0), (1, .arrive 1), (2, .finish 0 .failed), (3, .arrive 2), (5, .finish 1 .failed),
    (6, .finish 2 .cancelled)]

theorem overlapping_rejects :
    (run ⟨⟨"semantic", 2, 30, 0, none, .closed⟩, []⟩ overlapping).note? 20 (.arrive 3) =
      some (3, .rejected ⟨"semantic"⟩) := by
  have hfresh : Fresh (⟨"semantic", 2, 30, 0, none, .closed⟩ : Breaker ℤ) :=
    ⟨by decide, rfl, rfl, rfl⟩
  have hguards := run_guards hfresh (fun s t last h => Int.sub_le_sub_right h last) overlapping
  exact ((hguards.2.2.2 3 20 (by decide)).1).mpr ⟨by decide, 5, by decide, by decide⟩

end Traffic

end EntitySearch

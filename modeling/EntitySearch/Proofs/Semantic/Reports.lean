import EntitySearch.Proofs.Search.Failures
import EntitySearch.Proofs.Search.RaceStages
import EntitySearch.Semantic.Client
/-!
# A client that reports its failures

The client of the semantic service comes to no results where it fails. `Reporting` is the same
client, but it says that it has failed: the breaker rejects it, or no attempt is left after a
request that has failed. Both wait alike, and the client forgives the failures that the other one
reports (`Client.forgives_reporting`).
-/

namespace EntitySearch

variable {σ α : Type}

/-- The same run, with a failure counted as no results. -/
def SourceRun.forgiven (run : SourceRun σ α) : SourceRun σ α :=
  { run with outcome := run.outcome.forgiven }

theorem Activity.Within.mono {ρ : Type} {m n : Nat} {a : Activity ρ} (h : a.Within m)
    (hle : m ≤ n) : a.Within n := by
  induction a generalizing m n with
  | ended stage => cases n <;> trivial
  | waits stage seconds next ih =>
    cases m with
    | zero => exact absurd h (by simp [Activity.Within])
    | succ m =>
      cases n with
      | zero => omega
      | succ n => exact fun now => ih now (h now) (by omega)

theorem Activity.within_map {ρ ρ' : Type} (f : ρ → ρ') {n : Nat} {a : Activity ρ}
    (h : a.Within n) : (a.map f).Within n := by
  induction a generalizing n with
  | ended stage => cases n <;> trivial
  | waits stage seconds next ih =>
    cases n with
    | zero => exact absurd h (by simp [Activity.Within])
    | succ n => exact fun now => ih now (h now)

namespace Semantic.Client

/-! ## Reporting -/

/-- How a search goes on after a request that has failed: it tries again, or it has failed. -/
def retryReporting
    (again : Client → List SourceRequest → Float → Activity (SourceRun Client Float))
    (attempt left : Nat) (c : Client) (sent : List SourceRequest) :
    Activity (SourceRun Client Float) :=
  match left, c.policy.delay? attempt with
  | _ + 1, some delay => .waits ⟨c, .pending, sent⟩ delay (again c sent)
  | _, _ => .ended ⟨c, .failed, sent⟩

/-- How a search goes on when a request has been answered. -/
def concludeReporting
    (again : Client → List SourceRequest → Float → Activity (SourceRun Client Float))
    (limit : Int) (attempt left : Nat) (c : Client) (sent : List SourceRequest)
    (outcome : Except AnswerError (List (SearchResult Float))) (now : Float) :
    Activity (SourceRun Client Float) :=
  match outcome with
  | .ok results =>
    .ended ⟨{ c with breaker := c.breaker.succeed }, .returned (cut limit results), sent⟩
  | .error _ => retryReporting again attempt left { c with breaker := c.breaker.fail now } sent

/-- After the last attempt a search has failed. -/
def lastFailed (c : Client) (sent : List SourceRequest) (_ : Float) :
    Activity (SourceRun Client Float) :=
  .ended ⟨c, .failed, sent⟩

/-- Sends requests from an attempt on. A search that the breaker rejects has failed. -/
def attemptsReporting (payload : Json) (limit : Int) (attempt : Nat) : (left : Nat) → Client →
    List SourceRequest → Float → Activity (SourceRun Client Float)
  | left, c, sent, now =>
    match c.breaker.accept now with
    | .error _ => .ended ⟨c, .failed, sent⟩
    | .ok admitted =>
      let e : Exchange := Client.exchange { c with breaker := admitted } payload now
      let again := match left with
        | 0 => lastFailed
        | left + 1 => attemptsReporting payload limit (attempt + 1) left
      let answered :=
        concludeReporting again limit attempt left e.client (sent ++ e.requests) e.outcome
      if e.delay == 0 then answered now
      else .waits ⟨e.client, .pending, sent ++ e.requests⟩ e.delay answered

/-- Searches the service and says whether that has failed. A query without text or a limit below one
needs no request. -/
def searchReporting (c : Client) (q : Query) (limit : Int) (t : Option EntityType) (now : Float) :
    Activity (SourceRun Client Float) :=
  if (Text.join " " q.terms).isEmpty || decide (limit ≤ 0) then .ended ⟨c, .returned [], []⟩
  else attemptsReporting (payload q limit t) limit 1 (c.policy.count - 1) c [] now

section Forgiving

variable {again again' : Client → List SourceRequest → Float → Activity (SourceRun Client Float)}
  (hagain : ∀ c sent now, (again c sent now).map SourceRun.forgiven = again' c sent now)

include hagain

theorem map_retryReporting (attempt left : Nat) (c : Client) (sent : List SourceRequest) :
    (retryReporting again attempt left c sent).map SourceRun.forgiven =
      retry again' attempt left c sent := by
  have hnext : (fun now => (again c sent now).map SourceRun.forgiven) = again' c sent :=
    funext (hagain c sent)
  unfold retryReporting retry
  cases left with
  | zero => rfl
  | succ left =>
    cases c.policy.delay? attempt with
    | none => rfl
    | some delay =>
      rw [← hnext]
      rfl

theorem map_concludeReporting (limit : Int) (attempt left : Nat) (c : Client)
    (sent : List SourceRequest) (outcome : Except AnswerError (List (SearchResult Float)))
    (now : Float) :
    (concludeReporting again limit attempt left c sent outcome now).map SourceRun.forgiven =
      conclude again' limit attempt left c sent outcome now := by
  unfold concludeReporting conclude
  cases outcome with
  | ok results => rfl
  | error cause => exact map_retryReporting hagain attempt left _ sent

/-- An exchange is the same for both. -/
theorem map_exchangeReporting (limit : Int) (attempt left : Nat) (e : Exchange)
    (sent : List SourceRequest) (now : Float) :
    (if e.delay == 0 then
        concludeReporting again limit attempt left e.client (sent ++ e.requests) e.outcome now
      else .waits ⟨e.client, .pending, sent ++ e.requests⟩ e.delay
        (concludeReporting again limit attempt left e.client (sent ++ e.requests)
          e.outcome)).map SourceRun.forgiven =
      if e.delay == 0 then
        conclude again' limit attempt left e.client (sent ++ e.requests) e.outcome now
      else .waits ⟨e.client, .pending, sent ++ e.requests⟩ e.delay
        (conclude again' limit attempt left e.client (sent ++ e.requests) e.outcome) := by
  have hanswered := map_concludeReporting hagain limit attempt left e.client
    (sent ++ e.requests) e.outcome
  split
  · exact hanswered now
  · have hnext := funext hanswered
    rw [← hnext]
    rfl

end Forgiving

/-- The client comes to no results where the reporting one has failed, and goes the same way. -/
theorem map_attemptsReporting (payload : Json) (limit : Int) (attempt left : Nat) (c : Client)
    (sent : List SourceRequest) (now : Float) :
    (attemptsReporting payload limit attempt left c sent now).map SourceRun.forgiven =
      attempts payload limit attempt left c sent now := by
  induction left generalizing attempt c sent now with
  | zero =>
    unfold attemptsReporting attempts
    cases c.breaker.accept now with
    | error rejection => rfl
    | ok admitted =>
      have hlast : ∀ (c : Client) (sent : List SourceRequest) (now : Float),
          (lastFailed c sent now).map SourceRun.forgiven = .ended ⟨c, .returned [], sent⟩ :=
        fun _ _ _ => rfl
      exact map_exchangeReporting hlast limit attempt 0
        (exchange { c with breaker := admitted } payload now) sent now
  | succ left ih =>
    unfold attemptsReporting attempts
    cases c.breaker.accept now with
    | error rejection => rfl
    | ok admitted =>
      exact map_exchangeReporting (fun c sent now => ih (attempt + 1) c sent now) limit attempt
        (left + 1) (exchange { c with breaker := admitted } payload now) sent now

theorem map_searchReporting (c : Client) (q : Query) (limit : Int) (t : Option EntityType)
    (now : Float) :
    (c.searchReporting q limit t now).map SourceRun.forgiven = c.search q limit t now := by
  unfold searchReporting search
  split
  · rfl
  · exact map_attemptsReporting (payload q limit t) limit 1 (c.policy.count - 1) c [] now

/-! ## Waiting -/

section Waiting

variable {again : Client → List SourceRequest → Float → Activity (SourceRun Client Float)}

/-- A search that waits at most so often, in which nothing has come out until it ends. -/
def Steady (n : Nat) (a : Activity (SourceRun Client Float)) : Prop :=
  a.Within n ∧ a.Through SourceRun.IsPending SourceRun.HasEnded

theorem steady_ended {n : Nat} {run : SourceRun Client Float} (h : run.HasEnded) :
    Steady n (.ended run) := by
  refine ⟨?_, h⟩
  cases n <;> trivial

theorem Steady.mono {m n : Nat} {a : Activity (SourceRun Client Float)} (h : Steady m a)
    (hle : m ≤ n) : Steady n a :=
  ⟨h.1.mono hle, h.2⟩

theorem steady_waits {n : Nat} {run : SourceRun Client Float} {seconds : Float}
    {next : Float → Activity (SourceRun Client Float)} (hrun : run.IsPending)
    (h : ∀ now, Steady n (next now)) : Steady (n + 1) (.waits run seconds next) :=
  ⟨fun now => (h now).1, hrun, fun now => (h now).2⟩

theorem steady_concludeReporting {n : Nat} (left : Nat)
    (hagain : left ≠ 0 → ∀ c sent now, Steady n (again c sent now)) (limit : Int) (attempt : Nat)
    (c : Client) (sent : List SourceRequest)
    (outcome : Except AnswerError (List (SearchResult Float))) (now : Float) :
    Steady (n + 1) (concludeReporting again limit attempt left c sent outcome now) := by
  unfold concludeReporting
  cases outcome with
  | ok results => exact steady_ended nofun
  | error cause =>
    unfold retryReporting
    simp only
    split
    · exact steady_waits rfl fun now => hagain (by simp) _ _ now
    · exact steady_ended nofun

theorem steady_exchangeReporting {n : Nat} (left : Nat)
    (hagain : left ≠ 0 → ∀ c sent now, Steady n (again c sent now)) (limit : Int) (attempt : Nat)
    (e : Exchange) (sent : List SourceRequest) (now : Float) :
    Steady (n + 2) (if e.delay == 0 then
        concludeReporting again limit attempt left e.client (sent ++ e.requests) e.outcome now
      else .waits ⟨e.client, .pending, sent ++ e.requests⟩ e.delay
        (concludeReporting again limit attempt left e.client (sent ++ e.requests) e.outcome)) := by
  have hanswered := steady_concludeReporting left hagain limit attempt e.client
    (sent ++ e.requests) e.outcome
  split
  · exact (hanswered now).mono (by omega)
  · exact steady_waits rfl hanswered

/-- Each attempt waits for its answer and before the next one. -/
theorem steady_attemptsReporting (payload : Json) (limit : Int) (attempt left : Nat) (c : Client)
    (sent : List SourceRequest) (now : Float) :
    Steady (2 * left + 2) (attemptsReporting payload limit attempt left c sent now) := by
  induction left generalizing attempt c sent now with
  | zero =>
    unfold attemptsReporting
    cases c.breaker.accept now with
    | error rejection => exact steady_ended nofun
    | ok admitted => exact steady_exchangeReporting 0 (by simp) limit attempt _ sent now
  | succ left ih =>
    unfold attemptsReporting
    cases c.breaker.accept now with
    | error rejection => exact steady_ended nofun
    | ok admitted =>
      exact steady_exchangeReporting (left + 1) (fun _ c sent now => ih (attempt + 1) c sent now)
        limit attempt _ sent now

theorem steady_searchReporting (c : Client) (q : Query) (limit : Int) (t : Option EntityType)
    (now : Float) : Steady (SemanticSource.waits c) (c.searchReporting q limit t now) := by
  unfold searchReporting
  split
  · exact steady_ended nofun
  · have hcount : 1 ≤ c.policy.count := by
      unfold RetryPolicy.count
      omega
    have hwaits : SemanticSource.waits c = 2 * c.policy.count := rfl
    refine (steady_attemptsReporting _ limit 1 (c.policy.count - 1) c [] now).mono ?_
    omega

end Waiting

end Semantic.Client

/-- The client with its failures reported. -/
structure Semantic.Reporting where
  client : Semantic.Client

namespace Semantic

/-- A run of the client as a run of the reporting one. -/
def Reporting.lift (run : SourceRun Client Float) : SourceRun Reporting Float :=
  ⟨⟨run.source⟩, run.outcome, run.requests⟩

instance : SemanticSource Reporting Float where
  search s q limit t now := (s.client.searchReporting q limit t now).map Reporting.lift
  waits s := SemanticSource.waits s.client
  close s := SemanticSource.close s.client

/-- The client comes to no results where the reporting one has failed. -/
theorem Client.forgives_reporting (c : Client) :
    SemanticSource.Forgives c (⟨c⟩ : Reporting) where
  search q limit t now := by
    show (c.search q limit t now).map SourceRun.outcome =
      ((c.searchReporting q limit t now).map Reporting.lift).map fun run => run.outcome.forgiven
    rw [← c.map_searchReporting, Activity.map_map, Activity.map_map]
    rfl
  waits := rfl

/-- The reporting client waits at most as often as it says, and has come to nothing until it
ends. -/
theorem Reporting.steady (c : Reporting) (q : Query) (limit : Int) (t : Option EntityType)
    (now : Float) :
    (SemanticSource.search c q limit t now).Within (SemanticSource.waits c) ∧
      (SemanticSource.search c q limit t now).Through SourceRun.IsPending SourceRun.HasEnded := by
  obtain ⟨hwithin, hthrough⟩ := c.client.steady_searchReporting q limit t now
  exact ⟨Activity.within_map _ hwithin, hthrough.map (fun _ h => h) fun _ h => h⟩

/-- So does the client. -/
theorem Client.steady (c : Client) (q : Query) (limit : Int) (t : Option EntityType) (now : Float) :
    (SemanticSource.search c q limit t now).Within (SemanticSource.waits c) ∧
      (SemanticSource.search c q limit t now).Through SourceRun.IsPending SourceRun.HasEnded := by
  obtain ⟨hwithin, hthrough⟩ := c.steady_searchReporting q limit t now
  show (c.search q limit t now).Within _ ∧ (c.search q limit t now).Through _ _
  rw [← c.map_searchReporting]
  refine ⟨Activity.within_map _ hwithin, hthrough.map ?_ ?_⟩
  · rintro ⟨_, outcome, _⟩ rfl
    rfl
  · rintro ⟨_, outcome, _⟩ hended
    cases outcome with
    | pending => exact absurd rfl hended
    | failed => exact nofun
    | returned results => exact nofun

end Semantic

end EntitySearch

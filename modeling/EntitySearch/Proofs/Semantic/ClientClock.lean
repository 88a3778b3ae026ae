import EntitySearch.Proofs.Number.Doubling
import EntitySearch.Proofs.Number.Plain
import EntitySearch.Proofs.Search.RaceClock
import EntitySearch.Semantic.Client
/-!
# The client on the clock

The client waits for the answers of the service and between its attempts. If the delays of the
answers and of its policy are numbers (`Client.Delays`), so are all its waits, whenever it goes on
(`Client.Delays.search`).
-/

namespace EntitySearch.Semantic

open Number (Plain)

/-- The delays of a client are numbers: those of the answers that are still to come, and those of
its policy, of which the first is not negative. -/
structure Client.Delays (c : Client) : Prop where
  answers : ∀ answer ∈ c.answers, Scalar.isOrderly answer.delay = true
  base : Plain c.policy.baseDelay
  greatest : Scalar.isOrderly c.policy.maxDelay = true

/-- Doubling a delay does not lead out of the numbers. -/
theorem RetryPolicy.isOrderly_delay {p : RetryPolicy} (hbase : Plain p.baseDelay)
    (hgreatest : Scalar.isOrderly p.maxDelay = true) {attempt : ℕ} {seconds : Float}
    (h : p.delay? attempt = some seconds) : Scalar.isOrderly seconds = true := by
  unfold delay? at h
  cases hfactor : Number.floatOfInt (Nat.pow 2 (attempt - 1) : ℕ) with
  | error cause =>
    rw [hfactor] at h
    cases h
  | ok factor =>
    rw [hfactor] at h
    simp only [Option.some.injEq] at h
    have hstands : Number.StandsFor factor (2 ^ 52 * 2 ^ (((attempt - 1 : ℕ) : ℤ) - 52)) := by
      have hsmall := Number.floatOfInt_eq_ok_iff.mp ⟨factor, hfactor⟩
      have hpow : (2 : ℕ) ^ (attempt - 1) < 2 ^ 1024 := by
        refine lt_of_lt_of_le hsmall ?_
        decide +kernel
      have hexponent := (Nat.pow_lt_pow_iff_right (by decide)).mp hpow
      exact ⟨2 ^ 52, _, _, Number.isTwoPow_floatOfInt hfactor, le_refl _, by decide, by omega,
        by omega, by norm_num⟩
    rw [← h]
    split
    · exact hgreatest
    · exact (hbase.mul hstands).1.isOrderly

namespace Client.Delays

variable {c : Client} (hc : c.Delays)

include hc

theorem answer : Scalar.isOrderly c.answer.delay = true := by
  unfold Client.answer
  cases hanswers : c.answers with
  | nil => exact Number.plain_zero.isOrderly
  | cons first rest => exact hc.answers first (by rw [hanswers]; exact List.mem_cons_self)

theorem later : ({ c with answers := c.later } : Client).Delays := by
  refine ⟨?_, hc.base, hc.greatest⟩
  intro answer hanswer
  refine hc.answers answer ?_
  revert hanswer
  show answer ∈ c.later → answer ∈ c.answers
  unfold Client.later
  rcases c.answers with _ | ⟨first, _ | ⟨next, rest⟩⟩
  · exact id
  · exact id
  · exact List.mem_cons_of_mem first

theorem withBreaker (b : Breaker Float) : ({ c with breaker := b } : Client).Delays :=
  ⟨hc.answers, hc.base, hc.greatest⟩

/-- A request takes a number of seconds, and leaves delays that are numbers. -/
theorem exchange (payload : Json) (now : Float) :
    (c.exchange payload now).client.Delays ∧
      Scalar.isOrderly (c.exchange payload now).delay = true := by
  unfold Client.exchange
  split
  · exact ⟨hc.later, hc.answer⟩
  · exact ⟨hc, Number.plain_zero.isOrderly⟩

section Attempts

variable {again : Client → List SourceRequest → Float → Activity (SourceRun Client Float)}
  (hagain : ∀ c : Client, c.Delays → ∀ sent now, (again c sent now).Numbers)

include hagain

theorem conclude (limit : Int) (attempt left : ℕ) (sent : List SourceRequest)
    (outcome : Except AnswerError (List (SearchResult Float))) (now : Float) :
    (Client.conclude again limit attempt left c sent outcome now).Numbers := by
  unfold Client.conclude
  cases outcome with
  | ok results => trivial
  | error cause =>
    have hfailed := hc.withBreaker (c.breaker.fail now)
    unfold Client.retry
    simp only
    split
    · rename_i seconds hdelay
      refine ⟨RetryPolicy.isOrderly_delay hc.base hc.greatest hdelay, ?_⟩
      exact fun later _ => hagain _ hfailed sent later
    · trivial

/-- One attempt, from its request to the wait before the next. -/
theorem attempt (payload : Json) (limit : Int) (number left : ℕ) (sent : List SourceRequest)
    (now : Float) :
    (if (c.exchange payload now).delay == 0 then
        Client.conclude again limit number left (c.exchange payload now).client
          (sent ++ (c.exchange payload now).requests) (c.exchange payload now).outcome now
      else .waits ⟨(c.exchange payload now).client, .pending,
          sent ++ (c.exchange payload now).requests⟩ (c.exchange payload now).delay
        (Client.conclude again limit number left (c.exchange payload now).client
          (sent ++ (c.exchange payload now).requests)
          (c.exchange payload now).outcome)).Numbers := by
  obtain ⟨hclient, hdelay⟩ := hc.exchange payload now
  have hconclude := hclient.conclude hagain limit number left
    (sent ++ (c.exchange payload now).requests) (c.exchange payload now).outcome
  split
  · exact hconclude now
  · exact ⟨hdelay, fun later _ => hconclude later⟩

end Attempts

/-- The waits of all attempts are numbers. -/
theorem attempts (payload : Json) (limit : Int) (number left : ℕ) (sent : List SourceRequest)
    (now : Float) :
    (Client.attempts payload limit number left c sent now).Numbers := by
  induction left generalizing number c sent now with
  | zero =>
    unfold Client.attempts
    cases c.breaker.accept now with
    | error rejection => trivial
    | ok admitted =>
      refine (hc.withBreaker admitted).attempt ?_ payload limit number 0 sent now
      exact fun _ _ _ _ => trivial
  | succ left ih =>
    unfold Client.attempts
    cases c.breaker.accept now with
    | error rejection => trivial
    | ok admitted =>
      refine (hc.withBreaker admitted).attempt ?_ payload limit number (left + 1) sent now
      exact fun c hc sent later => ih hc (number + 1) sent later

/-- The waits of a search are numbers. -/
theorem search (q : Query) (limit : Int) (t : Option EntityType) (now : Float) :
    (c.search q limit t now).Numbers := by
  unfold Client.search
  split
  · trivial
  · exact hc.attempts (payload q limit t) limit 1 (c.policy.count - 1) [] now

end Client.Delays

end EntitySearch.Semantic

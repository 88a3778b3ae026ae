import EntitySearch.Proofs.Query.Lexical
import EntitySearch.Proofs.Semantic.Attempts
/-!
# Searches that repeat their requests

Searches that follow each other share a breaker and the answers of the service. Each makes the
attempts that the retry protocol allows under the breaker as those before it have left it, and a
search that has no text or is for no results makes none (`Client.Obeys`). Every sequence of searches
is such a `Client.Session` (`Client.runs_obey`), by induction on the searches that are to come.
-/

namespace EntitySearch.Semantic

open Number (value?)

/-- A search that a client is asked for at a moment. -/
structure Call where
  query : Query
  limit : Int
  entityType : Option EntityType
  moment : Float

namespace Call

/-- The text that is searched for. -/
def text (call : Call) : Text := Text.join " " call.query.terms

/-- What the service is asked. -/
def payload (call : Call) : Json := Client.payload call.query call.limit call.entityType

/-- The search has no text or is for no results. The text of a search string is no text as well if
it consists of blanks. -/
def IsIdle (call : Call) : Prop :=
  call.limit ≤ 0 ∨ call.text = [] ∨
    (∃ raw, call.query = Query.parse raw) ∧ ∀ ch ∈ call.text, Text.isBlank ch = true

/-- Terms of a search string make up a text without blanks only if there are none. -/
theorem text_eq_nil {call : Call} {raw : Text} (h : call.query = Query.parse raw)
    (hblank : ∀ ch ∈ call.text, Text.isBlank ch = true) : call.text = [] := by
  unfold text at hblank ⊢
  rw [h] at hblank ⊢
  cases hterms : (Query.parse raw).terms with
  | nil => rfl
  | cons term rest =>
    rw [hterms] at hblank
    have hsolid : Text.Solid term :=
      Query.solid_of_mem_terms (show term ∈ (Query.parse raw).terms by simp [hterms])
    obtain ⟨ch, hch⟩ := List.exists_mem_of_ne_nil term hsolid.1
    have hmem : ch ∈ Text.join " " (term :: rest) := by
      unfold Text.join
      cases rest <;> simp [List.intercalate, hch]
    exact absurd (hblank ch hmem) (by simp [hsolid.2 ch hch])

end Call

namespace Client

/-- The end of a search by itself. -/
def run (c : Client) (call : Call) : SourceRun Client Float :=
  ((c.search call.query call.limit call.entityType call.moment).alone call.moment).1

/-- The ends of searches that follow each other. -/
def runs (c : Client) : List Call → List (SourceRun Client Float)
  | [] => []
  | call :: rest => c.run call :: (c.run call).source.runs rest

/-- A search ends with attempts that keep the protocol, and with none if it is idle. -/
structure Obeys (c : Client) (b : Breaker Float) (posted : ℕ) (call : Call) (made : List Attempt)
    (run : SourceRun Client Float) : Prop extends
    c.Ends call.payload call.limit b posted [] made run where
  protocol : call.text ≠ [] → 1 ≤ call.limit →
    c.Protocol call.payload 1 b posted call.moment made
  idle : call.IsIdle → made = []

/-- Searches that follow each other: each has a breaker that has seen the attempts of those before
it, and goes on with the answers that their requests have left. -/
inductive Session (c : Client) :
    Breaker Float → ℕ → List Call → List (SourceRun Client Float) → Prop where
  | nil {b posted} : Session c b posted [] []
  | cons {b posted call made run rest runs} (obeys : c.Obeys b posted call made run)
      (later : Session c (breakerAfter b made) (posted + run.requests.length) rest runs) :
      Session c b posted (call :: rest) (run :: runs)

theorem exists_obeys (c : Client) (b : Breaker Float) (posted : ℕ) (call : Call) :
    ∃ made, c.Obeys b posted call made ((c.after b posted).run call) := by
  have hcount : 1 + (c.policy.count - 1) = c.policy.count := by
    unfold RetryPolicy.count
    omega
  have hguard : ((Text.join " " call.query.terms).isEmpty || decide (call.limit ≤ 0)) = true ↔
      call.text = [] ∨ call.limit ≤ 0 := by
    rw [Bool.or_eq_true, List.isEmpty_iff, decide_eq_true_iff]
    exact Iff.rfl
  by_cases hidle : call.text = [] ∨ call.limit ≤ 0
  · have hrun : (c.after b posted).run call = ⟨c.after b posted, .returned [], []⟩ := by
      unfold run search
      rw [if_pos (hguard.mpr hidle)]
      rfl
    rw [hrun]
    refine ⟨[], Ends.nothing c call.payload call.limit posted [] b, fun htext hlimit => ?_,
      fun _ => rfl⟩
    rcases hidle with hnone | hfew
    · exact absurd hnone htext
    · omega
  · have hrun : (c.after b posted).run call =
        ((attempts call.payload call.limit 1 (c.policy.count - 1) (c.after b posted) []
          call.moment).alone call.moment).1 := by
      unfold run search
      rw [if_neg (mt hguard.mp hidle)]
      rfl
    obtain ⟨made, hprotocol, hends⟩ := exists_attempts c call.payload call.limit
      (c.policy.count - 1) 1 hcount b posted [] call.moment
    rw [hrun]
    -- a search that goes on is not idle: terms of a search string are not blank
    refine ⟨made, hends, fun _ _ => hprotocol, fun hnot => ?_⟩
    rcases hnot with hfew | hnone | ⟨⟨raw, hraw⟩, hblank⟩
    · exact absurd (Or.inr hfew) hidle
    · exact absurd (Or.inl hnone) hidle
    · exact absurd (Or.inl (Call.text_eq_nil hraw hblank)) hidle

theorem session_runs (c : Client) (calls : List Call) (b : Breaker Float) (posted : ℕ) :
    c.Session b posted calls ((c.after b posted).runs calls) := by
  induction calls generalizing b posted with
  | nil => exact Session.nil
  | cons call rest ih =>
    obtain ⟨made, hobeys⟩ := c.exists_obeys b posted call
    refine Session.cons hobeys ?_
    rw [hobeys.source, hobeys.requests, List.nil_append]
    exact ih _ _

/-- Searches that follow each other keep the retry protocol under the breaker, whatever the service
answers: the delays double up to the greatest one, and the results of an attempt that has succeeded
are those of the answer that its request has got. -/
theorem runs_obey (c : Client) (hcount : c.policy.count ≤ 1025) (calls : List Call) :
    c.Session c.breaker 0 calls (c.runs calls) ∧
    (∀ number, number < c.policy.count → ∃ delay, c.policy.delay? number = some delay ∧
      ∀ base greatest, value? c.policy.baseDelay = some base → 0 ≤ base →
        value? c.policy.maxDelay = some greatest → 0 ≤ greatest →
          value? delay = some (min (base * 2 ^ (number - 1)) greatest)) ∧
    ∀ payload posted all, (c.reply payload posted).2 = .ok all →
      Parsed (scripted c.answers posted) all := by
  refine ⟨?_, fun number hnumber => c.policy.exists_delay (by omega), ?_⟩
  · have hsession := c.session_runs calls c.breaker 0
    rwa [after_zero] at hsession
  · intro payload posted all hall
    unfold reply at hall
    split at hall
    · simp only at hall
      split at hall
      · exact parsed_of_results hall
      · cases hall
    · cases hall

/-! A service that fails twice before it answers, and a breaker that opens with the second failure:
the first search is broken off while it is repeated, the second one is rejected, and the third one
is let through as a trial. -/

/-- A client of such a service. -/
def flaky : Client where
  baseUrl := "http://s"
  breaker := { name := "b", threshold := 2, recovery := 30 }
  answers := [{ status := 500 }, { unreachable := true, delay := 1 }, { body :=
    "\x7b\"results\": [\x7b\"entity_type\": \"note\", \"entity_id\": \"n\"\x7d]\x7d" }]

/-- A search of the three, at a moment. -/
def bitAt (moment : Float) : Call := ⟨{ terms := ["bit"] }, 5, none, moment⟩

theorem runs_obey_flaky :
    flaky.policy.count ≤ 1025 ∧
    flaky.Session flaky.breaker 0 [bitAt 0, bitAt 10, bitAt 40]
      (flaky.runs [bitAt 0, bitAt 10, bitAt 40]) ∧
    (flaky.runs [bitAt 0, bitAt 10, bitAt 40]).map (fun run => run.requests.length) = [2, 0, 1] :=
  ⟨by decide, (runs_obey flaky (by decide) [bitAt 0, bitAt 10, bitAt 40]).1, by decide +kernel⟩

end Client

end EntitySearch.Semantic

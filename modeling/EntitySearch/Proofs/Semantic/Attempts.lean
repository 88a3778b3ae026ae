import EntitySearch.Proofs.Number.Doubling
import EntitySearch.Proofs.Semantic.Items
import EntitySearch.Semantic.Traffic
/-!
# Requests that are repeated

A search makes one attempt after the other. `Client.Protocol` says which attempts there are: the
first one if the breaker admits it, and after each attempt another one exactly if the attempt has
failed, attempts are left and the breaker admits the next one after the delay. `Client.Ends` says
what comes of them: the breaker has seen them, their requests have been sent, and the results are
those of the attempt that has succeeded. What a search does keeps both (`Client.exists_attempts`),
by induction on the attempts that are left.
-/

namespace EntitySearch

open Activity (resumption)

/-- No time passes in no seconds. -/
theorem Activity.resumption_of_zero {now seconds : Float} (h : (seconds == 0) = true) :
    resumption now seconds = now := by
  have hzero : (0 : Float).toModel.unpack = .zero .positive := rfl
  have hsame : seconds.toModel.unpack.compare (0 : Float).toModel.unpack = some .eq :=
    beq_iff_eq.mp ((Number.same_eq_compare seconds 0).symm.trans h)
  have hless : ¬ (0 : Float) < seconds := by
    intro hlt
    have hcompare : (0 : Float).toModel.unpack.compare seconds.toModel.unpack = some .lt :=
      beq_iff_eq.mp ((Number.less_eq_compare 0 seconds).symm.trans (decide_eq_true hlt))
    rw [hzero] at hsame hcompare
    -- what equals zero is a zero of either sign, and none of them is above zero
    generalize seconds.toModel.unpack = u at hsame hcompare
    rcases u with (_ | _) | _ | _ | ⟨_ | _, m, e, hm⟩ <;>
      simp [Float.Model.UnpackedFloat.compare] at hsame hcompare
  unfold resumption
  rw [if_neg hless]

/-- A breaker lets a call through at a moment. -/
def Breaker.Admits (b : Breaker Float) (now : Float) : Prop :=
  ∃ admitted, b.accept now = .ok admitted

namespace Semantic

open Number (overflow value?)

/-! ## Delays -/

/-- The delay after an attempt, for up to 1024 of them: the base delay times a power of two, but no
more than the greatest delay. -/
theorem RetryPolicy.exists_delay (p : RetryPolicy) {number : ℕ} (hnumber : number ≤ 1024) :
    ∃ delay, p.delay? number = some delay ∧ ∀ base greatest,
      value? p.baseDelay = some base → 0 ≤ base →
      value? p.maxDelay = some greatest → 0 ≤ greatest →
        value? delay = some (min (base * 2 ^ (number - 1)) greatest) := by
  have hsmall : 2 ^ (number - 1) < overflow := by
    have hpow := Number.two_pow_le_two_pow (show number - 1 ≤ 1023 by omega)
    have htop : 2 ^ 1023 < overflow := by decide +kernel
    omega
  obtain ⟨factor, hfactor⟩ := Number.floatOfInt_eq_ok_iff.mpr
    (show ((Nat.pow 2 (number - 1) : ℕ) : ℤ).natAbs < overflow from hsmall)
  have htwo := Number.isTwoPow_floatOfInt hfactor
  unfold delay?
  simp only [hfactor]
  refine ⟨_, rfl, fun base greatest hbase hpos hmax hpos' => ?_⟩
  have hless : ∀ grown : Float, (p.maxDelay < grown) ↔ Scalar.less p.maxDelay grown = true :=
    fun grown => decide_eq_true_iff.symm
  rcases Number.value?_mul_two_pow hbase hpos htwo with hgrown | ⟨hgrown, hlarge⟩
  · have hgrowth : (0 : ℚ) ≤ base * 2 ^ (number - 1) := by positivity
    have hcut : (p.maxDelay < p.baseDelay * factor) ↔ greatest < base * 2 ^ (number - 1) := by
      rw [hless, Number.less_eq_value hmax hpos' hgrown hgrowth, decide_eq_true_iff]
    by_cases hlong : greatest < base * 2 ^ (number - 1)
    · rw [if_pos (hcut.mpr hlong), hmax, min_eq_right hlong.le]
    · rw [if_neg (mt hcut.mp hlong), hgrown, min_eq_left (not_lt.mp hlong)]
  · -- a delay beyond all doubles is beyond the greatest one
    rw [if_pos ((hless _).mpr (Number.less_infinity hmax hpos' hgrown)), hmax,
      min_eq_right ((Number.value?_lt hmax hpos').le.trans hlarge)]

/-! ## Attempts -/

/-- An attempt that the breaker has let through: when the request was made, when it was answered,
and the results or why there are none. -/
structure Attempt where
  asked : Float
  answered : Float
  outcome : Except AnswerError (List (SearchResult Float))

namespace Attempt

/-- How the attempt ends as a call under the breaker. -/
def ending (a : Attempt) : CallEnd :=
  match a.outcome with
  | .ok _ => .succeeded
  | .error _ => .failed

/-- What the breaker sees of the attempt. -/
def events (a : Attempt) : List (Float × CallEvent) :=
  [(a.asked, .arrive 0), (a.answered, .finish 0 a.ending)]

end Attempt

/-- A breaker after attempts that follow each other. -/
def breakerAfter (b : Breaker Float) (attempts : List Attempt) : Breaker Float :=
  (Traffic.run ⟨b, []⟩ (attempts.flatMap Attempt.events)).breaker

theorem breakerAfter_cons {b admitted : Breaker Float} {a : Attempt}
    (h : b.accept a.asked = .ok admitted) (rest : List Attempt) :
    breakerAfter b (a :: rest) =
      breakerAfter (Traffic.settle admitted a.answered a.ending) rest := by
  unfold breakerAfter Traffic.run
  rw [List.flatMap_cons, List.foldl_append]
  simp [Attempt.events, Traffic.step, h]

/-! ## The answers of the service -/

/-- The answer to a request, if so many have been posted before: the last answer repeats. -/
def scripted (answers : List ServiceAnswer) (posted : ℕ) : ServiceAnswer :=
  answers.getD (min posted (answers.length - 1)) {}

/-- The answers that are left. -/
def remaining (answers : List ServiceAnswer) (posted : ℕ) : List ServiceAnswer :=
  answers.drop (min posted (answers.length - 1))

namespace Client

/-- The client with a breaker, once so many requests have been posted. -/
def after (c : Client) (b : Breaker Float) (posted : ℕ) : Client :=
  { c with breaker := b, answers := remaining c.answers posted }

theorem after_zero (c : Client) : c.after c.breaker 0 = c := by
  unfold after remaining
  rw [Nat.zero_min, List.drop_zero]

theorem answer_after (c : Client) (b : Breaker Float) (posted : ℕ) :
    (c.after b posted).answer = scripted c.answers posted := by
  unfold answer after remaining scripted
  rw [List.headD_eq_head?_getD, List.head?_drop, List.getD_eq_getElem?_getD]

theorem later_after (c : Client) (b : Breaker Float) (posted : ℕ) :
    (c.after b posted).later = remaining c.answers (posted + 1) := by
  have hlater : ∀ c : Client,
      c.later = if 1 < c.answers.length then c.answers.tail else c.answers := by
    intro c
    unfold later
    rcases c.answers with _ | ⟨first, _ | ⟨next, rest⟩⟩ <;> simp
  rw [hlater]
  unfold after remaining
  simp only [List.length_drop]
  split
  · rw [List.tail_drop]
    congr 1
    omega
  · congr 1
    omega

/-- The request that an attempt sends, unless its address is invalid or its content cannot be
sent. -/
def post (c : Client) (payload : Json) (time : Float) : List SourceRequest :=
  match Url.Address.readFrom {} c.url, payload.isSendable with
  | .ok target, true => [.posted target.render payload time]
  | _, _ => []

/-- The requests that attempts send. -/
def posts (c : Client) (payload : Json) (attempts : List Attempt) : List SourceRequest :=
  attempts.flatMap fun a => c.post payload a.asked

/-- How long it takes until a request is answered, if so many have been posted before, and the
results or why there are none. -/
def reply (c : Client) (payload : Json) (posted : ℕ) :
    Float × Except AnswerError (List (SearchResult Float)) :=
  match Url.Address.readFrom {} c.url, payload.isSendable with
  | .ok target, true =>
    ((scripted c.answers posted).delay,
      if target.isAbsolute then (scripted c.answers posted).results else .error .relativeAddress)
  | _, _ => (0, .error .unsendable)

theorem exchange_after (c : Client) (b : Breaker Float) (payload : Json) (posted : ℕ)
    (now : Float) : (c.after b posted).exchange payload now =
      ⟨c.after b (posted + (c.post payload now).length), c.post payload now,
        (c.reply payload posted).1, (c.reply payload posted).2⟩ := by
  have hurl : (c.after b posted).url = c.url := rfl
  unfold exchange post reply
  rw [hurl, answer_after, later_after]
  cases Url.Address.readFrom {} c.url with
  | error e => rfl
  | ok target => cases payload.isSendable <;> rfl

/-! ## The protocol -/

/-- The retry protocol for the attempts of a search, the first of which has a number and is due at a
moment, under a breaker and with so many requests posted before. -/
structure Protocol (c : Client) (payload : Json) (number : ℕ) (b : Breaker Float) (posted : ℕ)
    (start : Float) (attempts : List Attempt) : Prop where
  /-- The first attempt is made if the breaker admits it. -/
  first : attempts ≠ [] ↔ b.Admits start
  /-- It is made at once. -/
  firstAt : ∀ a, attempts[0]? = some a → a.asked = start
  /-- Another attempt follows exactly if one has failed, attempts are left and the breaker admits it
  after the delay. -/
  next : ∀ i a, attempts[i]? = some a →
    (i + 1 < attempts.length ↔ a.ending = .failed ∧ number + i < c.policy.count ∧
      ∃ delay, c.policy.delay? (number + i) = some delay ∧
        (breakerAfter b (attempts.take (i + 1))).Admits (resumption a.answered delay))
  /-- It is made after the delay. -/
  nextAt : ∀ i a a', attempts[i]? = some a → attempts[i + 1]? = some a' →
    ∃ delay, c.policy.delay? (number + i) = some delay ∧ a'.asked = resumption a.answered delay
  /-- Each attempt is answered as the service answers the requests one after the other. -/
  answered : ∀ i a, attempts[i]? = some a →
    let (delay, outcome) := c.reply payload (posted + (c.posts payload (attempts.take i)).length)
    a.answered = resumption a.asked delay ∧ a.outcome = outcome

section Protocol

variable {c : Client} {payload : Json} {number posted : ℕ} {b admitted : Breaker Float}
  {start : Float}

theorem Protocol.rejected {error : BreakerOpen} (h : b.accept start = .error error) :
    c.Protocol payload number b posted start [] := by
  have hnot : ¬ b.Admits start := by
    rintro ⟨admitted, haccept⟩
    rw [h] at haccept
    cases haccept
  exact ⟨by simp [hnot], by simp, by simp, by simp, by simp⟩

/-- The attempt that is made at a moment if the breaker admits it. -/
def attempt (c : Client) (payload : Json) (posted : ℕ) (start : Float) : Attempt :=
  ⟨start, resumption start (c.reply payload posted).1, (c.reply payload posted).2⟩

/-- An attempt after which the search ends. -/
theorem Protocol.last (haccept : b.accept start = .ok admitted)
    (hends : ¬ ((c.attempt payload posted start).ending = .failed ∧ number < c.policy.count ∧
      ∃ delay, c.policy.delay? number = some delay)) :
    c.Protocol payload number b posted start [c.attempt payload posted start] := by
  refine ⟨by simpa using ⟨admitted, haccept⟩, ?_, ?_, ?_, ?_⟩
  · rintro a ⟨⟩
    rfl
  · rintro (_ | i) a ha
    · cases ha
      refine ⟨fun hlt => absurd hlt (by simp), ?_⟩
      rintro ⟨hfailed, hleft, delay, hdelay, -⟩
      exact absurd ⟨hfailed, hleft, delay, hdelay⟩ hends
    · simp at ha
  · rintro i a a' - ha'
    simp at ha'
  · rintro (_ | i) a ha
    · cases ha
      exact ⟨rfl, rfl⟩
    · simp at ha

/-- An attempt that has failed is followed by those that the protocol allows after the delay. -/
theorem Protocol.prepend (haccept : b.accept start = .ok admitted)
    (hfailed : (c.attempt payload posted start).ending = .failed) (hleft : number < c.policy.count)
    {delay : Float} (hdelay : c.policy.delay? number = some delay) {rest : List Attempt}
    (hrest : c.Protocol payload (number + 1)
      (admitted.fail (c.attempt payload posted start).answered)
      (posted + (c.post payload start).length)
      (resumption (c.attempt payload posted start).answered delay) rest) :
    c.Protocol payload number b posted start (c.attempt payload posted start :: rest) := by
  have hbreaker : ∀ attempts, breakerAfter b (c.attempt payload posted start :: attempts) =
      breakerAfter (admitted.fail (c.attempt payload posted start).answered) attempts := by
    intro attempts
    rw [breakerAfter_cons (a := c.attempt payload posted start) haccept, hfailed]
    rfl
  have hnumber : ∀ i, number + (i + 1) = number + 1 + i := fun i => by omega
  refine ⟨by simpa using ⟨admitted, haccept⟩, ?_, ?_, ?_, ?_⟩
  · rintro a ⟨⟩
    rfl
  · rintro (_ | i) a ha
    · -- whether the first attempt is followed by another is whether there is one in the rest
      cases ha
      have hnil : breakerAfter b ((c.attempt payload posted start :: rest).take (0 + 1)) =
          admitted.fail (c.attempt payload posted start).answered := by
        rw [Nat.zero_add, List.take_succ_cons, List.take_zero, hbreaker]
        rfl
      simp only [hnil, Nat.add_zero]
      have hfirst := hrest.first
      rw [List.length_cons, Nat.lt_add_left_iff_pos, List.length_pos_iff, hfirst]
      constructor
      · exact fun hadmits => ⟨hfailed, hleft, delay, hdelay, hadmits⟩
      · rintro ⟨-, -, delay', hdelay', hadmits⟩
        rw [hdelay] at hdelay'
        cases hdelay'
        exact hadmits
    · have hnext := hrest.next i a ha
      rw [List.take_succ_cons, hbreaker, hnumber i, List.length_cons, Nat.add_lt_add_iff_right]
      exact hnext
  · rintro (_ | i) a a' ha ha'
    · cases ha
      exact ⟨delay, hdelay, hrest.firstAt a' ha'⟩
    · rw [hnumber i]
      exact hrest.nextAt i a a' ha ha'
  · rintro (_ | i) a ha
    · cases ha
      exact ⟨rfl, rfl⟩
    · have hanswered := hrest.answered i a ha
      have hposts :
          (c.posts payload ((c.attempt payload posted start :: rest).take (i + 1))).length =
            (c.post payload start).length + (c.posts payload (rest.take i)).length := by
        rw [List.take_succ_cons, posts, List.flatMap_cons, List.length_append]
        rfl
      rw [hposts, ← Nat.add_assoc]
      exact hanswered

end Protocol

/-! ## The end of a search -/

/-- How a search with these attempts ends: the breaker has seen them, their requests have been sent,
and what it returns are the first results of the attempt that has succeeded, if there is one. -/
structure Ends (c : Client) (payload : Json) (limit : Int) (b : Breaker Float) (posted : ℕ)
    (sent : List SourceRequest) (attempts : List Attempt) (run : SourceRun Client Float) :
    Prop where
  source : run.source =
    c.after (breakerAfter b attempts) (posted + (c.posts payload attempts).length)
  requests : run.requests = sent ++ c.posts payload attempts
  returned : ∃ results, run.outcome = .returned results ∧
    ((∃ a ∈ attempts, ∃ all, a.outcome = .ok all ∧ results = cut limit all) ∨
      results = [] ∧ ∀ a ∈ attempts, a.ending = .failed)

section Ends

variable (c : Client) (payload : Json) (limit : Int) {b admitted : Breaker Float} (posted : ℕ)
  (sent : List SourceRequest)

theorem Ends.nothing (b : Breaker Float) :
    c.Ends payload limit b posted sent [] ⟨c.after b posted, .returned [], sent⟩ :=
  ⟨rfl, by simp [posts], [], rfl, Or.inr ⟨rfl, by simp⟩⟩

/-- The attempts that follow one that has failed end the search. -/
theorem Ends.prepend {start : Float} (haccept : b.accept start = .ok admitted)
    (hfailed : (c.attempt payload posted start).ending = .failed) {rest : List Attempt}
    {run : SourceRun Client Float}
    (h : c.Ends payload limit (admitted.fail (c.attempt payload posted start).answered)
      (posted + (c.post payload start).length) (sent ++ c.post payload start) rest run) :
    c.Ends payload limit b posted sent (c.attempt payload posted start :: rest) run := by
  have hposts : c.posts payload (c.attempt payload posted start :: rest) =
      c.post payload start ++ c.posts payload rest := by
    rw [posts, List.flatMap_cons]
    rfl
  obtain ⟨hsource, hrequests, results, houtcome, hresults⟩ := h
  refine ⟨?_, ?_, results, houtcome, ?_⟩
  · rw [hsource, breakerAfter_cons (a := c.attempt payload posted start) haccept, hfailed, hposts,
      List.length_append, Nat.add_assoc]
    rfl
  · rw [hrequests, hposts, List.append_assoc]
  · rcases hresults with ⟨a, ha, all, hall, hcut⟩ | ⟨hnone, hall⟩
    · exact Or.inl ⟨a, List.mem_cons_of_mem _ ha, all, hall, hcut⟩
    · exact Or.inr ⟨hnone, List.forall_mem_cons.mpr ⟨hfailed, hall⟩⟩

/-- An attempt that has succeeded ends the search. -/
theorem Ends.succeeded {start : Float} (haccept : b.accept start = .ok admitted)
    {all : List (SearchResult Float)} (hall : (c.attempt payload posted start).outcome = .ok all) :
    c.Ends payload limit b posted sent [c.attempt payload posted start]
      ⟨c.after admitted.succeed (posted + (c.post payload start).length),
        .returned (cut limit all), sent ++ c.post payload start⟩ := by
  have hposts : c.posts payload [c.attempt payload posted start] = c.post payload start := by
    simp [posts, attempt]
  have hending : (c.attempt payload posted start).ending = .succeeded := by
    unfold Attempt.ending
    rw [hall]
  refine ⟨?_, by rw [hposts], cut limit all, rfl,
    Or.inl ⟨_, List.mem_singleton_self _, all, hall, rfl⟩⟩
  rw [breakerAfter_cons (a := c.attempt payload posted start) haccept, hending, hposts]
  rfl

end Ends

/-- A search ends if the breaker rejects its next attempt. -/
theorem alone_rejected (c : Client) (payload : Json) (limit : Int) {b : Breaker Float}
    {error : BreakerOpen} (posted number left : ℕ) (sent : List SourceRequest) (now : Float)
    (haccept : b.accept now = .error error) :
    ((attempts payload limit number left (c.after b posted) sent now).alone now).1 =
      ⟨c.after b posted, .returned [], sent⟩ := by
  have hbreaker : (c.after b posted).breaker.accept now = .error error := haccept
  unfold attempts
  simp only [hbreaker]
  rfl

/-- The next attempt of a search by itself. -/
theorem alone_attempts (c : Client) (payload : Json) (limit : Int) {b admitted : Breaker Float}
    (posted number left : ℕ) (sent : List SourceRequest) (now : Float)
    (haccept : b.accept now = .ok admitted) :
    (attempts payload limit number left (c.after b posted) sent now).alone now =
      (conclude (match left with
          | 0 => fun c sent _ => .ended ⟨c, .returned [], sent⟩
          | left + 1 => attempts payload limit (number + 1) left)
        limit number left (c.after admitted (posted + (c.post payload now).length))
        (sent ++ c.post payload now) (c.attempt payload posted now).outcome
        (c.attempt payload posted now).answered).alone (c.attempt payload posted now).answered := by
  have hbreaker : (c.after b posted).breaker.accept now = .ok admitted := haccept
  have hadmitted : { c.after b posted with breaker := admitted } = c.after admitted posted := rfl
  unfold attempts
  simp only [hbreaker, hadmitted, exchange_after]
  split
  · rename_i hdelay
    have hanswered : (c.attempt payload posted now).answered = now :=
      Activity.resumption_of_zero hdelay
    rw [hanswered]
    rfl
  · rfl

/-- Whatever comes of an attempt, the search goes on as the protocol says, if the attempts after it
do. -/
theorem exists_concluded (c : Client) (payload : Json) (limit : Int) {b admitted : Breaker Float}
    (posted number left : ℕ) (hcount : number + left = c.policy.count) (sent : List SourceRequest)
    (now : Float) (haccept : b.accept now = .ok admitted)
    {again : Client → List SourceRequest → Float → Activity (SourceRun Client Float)}
    (hagain : left ≠ 0 → ∀ b posted sent now, ∃ made,
      c.Protocol payload (number + 1) b posted now made ∧
        c.Ends payload limit b posted sent made ((again (c.after b posted) sent now).alone now).1) :
    ∃ made, c.Protocol payload number b posted now made ∧
      c.Ends payload limit b posted sent made
        ((conclude again limit number left (c.after admitted (posted + (c.post payload now).length))
          (sent ++ c.post payload now) (c.attempt payload posted now).outcome
          (c.attempt payload posted now).answered).alone
            (c.attempt payload posted now).answered).1 := by
  cases houtcome : (c.attempt payload posted now).outcome with
  | ok all =>
    have hnot : (c.attempt payload posted now).ending ≠ .failed := by
      unfold Attempt.ending
      rw [houtcome]
      simp
    exact ⟨_, Protocol.last haccept fun h => hnot h.1,
      Ends.succeeded c payload limit posted sent haccept houtcome⟩
  | error cause =>
    have hfailed : (c.attempt payload posted now).ending = .failed := by
      unfold Attempt.ending
      rw [houtcome]
    -- without another attempt the search ends with nothing
    have hlast : (∀ delay, left ≠ 0 → c.policy.delay? number ≠ some delay) →
        ∃ made, c.Protocol payload number b posted now made ∧
          c.Ends payload limit b posted sent made
            ⟨c.after (admitted.fail (c.attempt payload posted now).answered)
              (posted + (c.post payload now).length), .returned [],
              sent ++ c.post payload now⟩ := by
      intro hnone
      refine ⟨_, Protocol.last haccept ?_, Ends.prepend c payload limit posted sent haccept hfailed
        (Ends.nothing c payload limit _ _ _)⟩
      rintro ⟨-, hleft, delay, hdelay⟩
      exact hnone delay (by omega) hdelay
    show ∃ made, _ ∧ c.Ends payload limit b posted sent made ((retry again number left
      (c.after (admitted.fail (c.attempt payload posted now).answered)
        (posted + (c.post payload now).length))
      (sent ++ c.post payload now)).alone (c.attempt payload posted now).answered).1
    have hpolicy : (c.after (admitted.fail (c.attempt payload posted now).answered)
        (posted + (c.post payload now).length)).policy = c.policy := rfl
    unfold retry
    rw [hpolicy]
    cases left with
    | zero => exact hlast fun _ h => absurd rfl h
    | succ left =>
      cases hdelay : c.policy.delay? number with
      | none => exact hlast fun delay _ h => by rw [hdelay] at h; cases h
      | some delay =>
        obtain ⟨rest, hprotocol, hends⟩ := hagain (Nat.succ_ne_zero left)
          (admitted.fail (c.attempt payload posted now).answered)
          (posted + (c.post payload now).length) (sent ++ c.post payload now)
          (resumption (c.attempt payload posted now).answered delay)
        refine ⟨_, Protocol.prepend haccept hfailed (by omega) hdelay hprotocol, ?_⟩
        exact Ends.prepend c payload limit posted sent haccept hfailed hends

/-- Whether the breaker rejects the next attempt or lets it through, the protocol is kept, if the
attempts after it keep it. -/
theorem exists_next (c : Client) (payload : Json) (limit : Int) (left number : ℕ)
    (hcount : number + left = c.policy.count) (b : Breaker Float) (posted : ℕ)
    (sent : List SourceRequest) (now : Float)
    (hagain : left ≠ 0 → ∀ b posted sent now, ∃ made,
      c.Protocol payload (number + 1) b posted now made ∧
        c.Ends payload limit b posted sent made
          ((attempts payload limit (number + 1) (left - 1) (c.after b posted) sent now).alone
            now).1) :
    ∃ made, c.Protocol payload number b posted now made ∧
      c.Ends payload limit b posted sent made
        ((attempts payload limit number left (c.after b posted) sent now).alone now).1 := by
  cases haccept : b.accept now with
  | error e =>
    rw [alone_rejected c payload limit posted number left sent now haccept]
    exact ⟨[], Protocol.rejected haccept, Ends.nothing c payload limit posted sent b⟩
  | ok admitted =>
    rw [alone_attempts c payload limit posted number left sent now haccept]
    refine exists_concluded c payload limit posted number left hcount sent now haccept
      fun hleft => ?_
    cases left with
    | zero => exact absurd rfl hleft
    | succ left => exact hagain hleft

/-- Attempts by themselves keep the protocol, and the search ends with them. -/
theorem exists_attempts (c : Client) (payload : Json) (limit : Int) (left number : ℕ)
    (hcount : number + left = c.policy.count) (b : Breaker Float) (posted : ℕ)
    (sent : List SourceRequest) (now : Float) :
    ∃ made, c.Protocol payload number b posted now made ∧
      c.Ends payload limit b posted sent made
        ((attempts payload limit number left (c.after b posted) sent now).alone now).1 := by
  -- by induction on the attempts that are left, for every state in which a failure may leave the
  -- breaker and the service
  induction left generalizing number b posted sent now with
  | zero =>
    exact exists_next c payload limit 0 number hcount b posted sent now fun h => absurd rfl h
  | succ left ih =>
    exact exists_next c payload limit (left + 1) number hcount b posted sent now
      fun _ => ih (number + 1) (by omega)

end Client

end Semantic

end EntitySearch

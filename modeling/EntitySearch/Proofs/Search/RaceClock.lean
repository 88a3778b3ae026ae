import EntitySearch.Proofs.Number.Plain
import EntitySearch.Proofs.Schedule.Clock
import EntitySearch.Proofs.Search.TimeLimits
/-!
# Searches on the clock

A search whose clock, durations and time limits are numbers keeps to the clock: everything that it
waits for has a number for its moment (`Race.numbered_of_timed`), so it takes one of its paths on
the clock until it is over or nothing is left to do (`Race.run_timed`).
-/

namespace EntitySearch

open Number (Plain)

variable {ι ρ : Type}

/-! ## Numbers -/

/-- All waits of an activity are numbers, whenever it goes on. -/
def Activity.Numbers : Activity ρ → Prop
  | .ended _ => True
  | .waits _ seconds next =>
    Scalar.isOrderly seconds = true ∧ ∀ now, Plain now → (next now).Numbers

/-- All waits of a source are numbers, whenever it goes on. -/
def SourceSide.Numbers (side : SourceSide ρ) : Prop :=
  ∀ next ∈ side.next, ∀ now, Plain now → (next now).Numbers

/-- A search that begins at a moment keeps to numbers: its clock is not negative, and its durations
and the moment of its time limits are numbers. -/
structure RacePlan.Numbers (p : RacePlan ι) (start : Float) : Prop where
  clock : Plain start
  durations : ∀ entry ∈ p.jobs, Scalar.isOrderly entry.2 = true
  limit : ∀ seconds, p.timeout = some seconds → Scalar.isOrderly (start + seconds) = true

theorem RacePlan.Numbers.pauseOf [DecidableEq ι] {p : RacePlan ι} {start : Float}
    (h : p.Numbers start) (job : ι) : Scalar.isOrderly (Race.pauseOf p job) = true := by
  unfold Race.pauseOf
  cases hfound : p.jobs.find? fun entry => entry.1 = job with
  | none => exact Number.plain_zero.isOrderly
  | some entry => exact h.durations entry (List.mem_of_find?_eq_some hfound)

theorem plain_resumption {now : Float} (hnow : Plain now) (seconds : Float) :
    Plain (Activity.resumption now seconds) := by
  unfold Activity.resumption
  split
  · rename_i hpositive
    exact hnow.add (Number.plain_zero.of_lt hpositive)
  · exact hnow

section Rests

variable {now seconds : Float} (hseconds : Scalar.isOrderly seconds = true)

include hseconds

/-- A rest is over when an activity that waits as long goes on. -/
theorem restUntil_eq_resumption (now : Float) :
    Agenda.restUntil now seconds = Activity.resumption now seconds := by
  have hiff := Number.not_le_iff_lt hseconds Number.plain_zero.isOrderly
  unfold Agenda.restUntil Activity.resumption
  by_cases hle : seconds ≤ 0
  · rw [if_pos hle, if_neg fun hlt => hiff.mpr hlt hle]
  · rw [if_neg hle, if_pos (hiff.mp hle)]

theorem isOrderly_restUntil (hnow : Plain now) :
    Scalar.isOrderly (Agenda.restUntil now seconds) = true := by
  rw [restUntil_eq_resumption hseconds]
  exact (plain_resumption hnow seconds).isOrderly

end Rests

namespace SourceSide.Numbers

variable {side : SourceSide ρ}

theorem proceed (h : side.Numbers) {now : Float} (hnow : Plain now) :
    (side.proceed now).Numbers := by
  obtain ⟨stage, next⟩ := side
  unfold SourceSide.proceed
  cases next with
  | none => exact h
  | some next =>
    have hstep := h next rfl now hnow
    simp only
    cases hnext : next now with
    | ended stage => simp [SourceSide.Numbers]
    | waits stage seconds later =>
      rw [hnext] at hstep
      rintro next ⟨rfl⟩
      exact hstep.2

theorem giveUp : side.giveUp.Numbers := by simp [SourceSide.Numbers, SourceSide.giveUp]

end SourceSide.Numbers

namespace Turn

/-- Whether a turn is that of a job that waits for its place or has been called to it. -/
def isSeeking : Turn ι → Bool
  | .ask _ | .enter _ => true
  | _ => false

/-- Whether a turn is that of a job that has been called to its place. -/
def isCalled : Turn ι → Bool
  | .enter _ => true
  | _ => false

theorem isSeeking_of_isCalled {turn : Turn ι} (h : turn.isCalled = true) :
    turn.isSeeking = true := by
  cases turn with
  | enter job => rfl
  | ask job => rfl
  | openIndex => cases h
  | finish job => cases h
  | closeIndex => cases h
  | breakOff => cases h
  | openSource => cases h
  | proceed => cases h
  | closeSource => cases h

/-- Whether a turn is the end of a job. -/
def isEnd : Turn ι → Bool
  | .finish _ => true
  | _ => false

end Turn

namespace Race

variable [DecidableEq ι] (p : RacePlan ι)

/-! ## What turns bring about -/

/-- What the turns of jobs bring about: a job is called to its place, rests, or breaks the search
off. -/
inductive Arises (now : Float) : Float × Turn ι → Prop
  | call (job : ι) : Arises now (now, .enter job)
  | rest (job : ι) : Arises now (Agenda.restUntil now (pauseOf p job), .finish job)
  | breakOff : Arises now (now, .breakOff)

omit [DecidableEq ι] in
/-- How many jobs have been called to their place. -/
def callsIn (awaited : Multiset (Float × Turn ι)) : ℕ :=
  awaited.countP fun entry => entry.2.isCalled = true

omit [DecidableEq ι] in
/-- How many jobs have their end before them. -/
def endsIn (awaited : Multiset (Float × Turn ι)) : ℕ :=
  awaited.countP fun entry => entry.2.isEnd = true

omit [DecidableEq ι] in
@[simp] theorem callsIn_cons (entry : Float × Turn ι) (awaited : Multiset (Float × Turn ι)) :
    callsIn (entry ::ₘ awaited) = callsIn awaited + if entry.2.isCalled = true then 1 else 0 :=
  Multiset.countP_cons _ _ _

omit [DecidableEq ι] in
theorem callsIn_add (awaited more : Multiset (Float × Turn ι)) :
    callsIn (awaited + more) = callsIn awaited + callsIn more :=
  Multiset.countP_add _ _ _

omit [DecidableEq ι] in
@[simp] theorem endsIn_cons (entry : Float × Turn ι) (awaited : Multiset (Float × Turn ι)) :
    endsIn (entry ::ₘ awaited) = endsIn awaited + if entry.2.isEnd = true then 1 else 0 :=
  Multiset.countP_cons _ _ _

omit [DecidableEq ι] in
theorem endsIn_add (awaited more : Multiset (Float × Turn ι)) :
    endsIn (awaited + more) = endsIn awaited + endsIn more :=
  Multiset.countP_add _ _ _

section Awaits

variable {entry : Float × Turn ι}

omit [DecidableEq ι] in
/-- When a job ends, the first in line is called, and the search may be broken off. -/
theorem exists_awaits_finish (job : ι) (x : State ι ρ) :
    ∃ more, (finish p job x).2.awaits = more + x.2.awaits ∧
      (∀ entry ∈ more, entry = (x.2.now, .breakOff) ∨ ∃ other, entry = (x.2.now, .enter other)) ∧
      callsIn more = if (x.1.fanout.leave x.2.now job).1.isSome then 1 else 0 := by
  -- breaking off adds nothing to what is said of the call
  have hbroken : ∀ (a : Agenda (Turn ι)) (call : Multiset (Float × Turn ι)) (n : ℕ),
      a.now = x.2.now → a.awaits = call + x.2.awaits →
      (∀ entry ∈ call, ∃ other, entry = (x.2.now, .enter other)) → callsIn call = n →
      ∃ more, (if p.breaksOff job then a.soon .breakOff else a).awaits = more + x.2.awaits ∧
        (∀ entry ∈ more, entry = (x.2.now, .breakOff) ∨
          ∃ other, entry = (x.2.now, .enter other)) ∧ callsIn more = n := by
    intro a call n hnow hawaits hcall hcount
    split
    · refine ⟨(x.2.now, .breakOff) ::ₘ call, ?_, ?_, ?_⟩
      · rw [Agenda.awaits_soon, hnow, hawaits, Multiset.cons_add]
      · intro entry hentry
        exact (Multiset.mem_cons.mp hentry).imp_right (hcall entry)
      · rw [callsIn_cons, hcount]
        rfl
    · exact ⟨call, hawaits, fun entry hentry => Or.inr (hcall entry hentry), hcount⟩
  unfold finish
  rcases x.1.fanout.leave x.2.now job with ⟨_ | other, fanout⟩
  · exact hbroken x.2 0 0 rfl (zero_add _).symm (by simp) rfl
  · refine hbroken (x.2.soon (.enter other)) {(x.2.now, .enter other)} 1 rfl ?_ ?_ rfl
    · rw [Agenda.awaits_soon, Multiset.singleton_add]
    · intro entry hentry
      exact ⟨other, Multiset.mem_singleton.mp hentry⟩

theorem mem_awaits_finish (job : ι) (x : State ι ρ) (h : entry ∈ (finish p job x).2.awaits) :
    entry ∈ x.2.awaits ∨ Arises p x.2.now entry := by
  obtain ⟨more, hawaits, hmore, _⟩ := exists_awaits_finish p job x
  rw [hawaits] at h
  rcases Multiset.mem_add.mp h with hnew | hold
  · rcases hmore entry hnew with rfl | ⟨other, rfl⟩
    · exact Or.inr .breakOff
    · exact Or.inr (.call other)
  · exact Or.inl hold

theorem mem_awaits_enter (job : ι) (x : State ι ρ) (h : entry ∈ (enter p job x).2.awaits) :
    entry ∈ x.2.awaits ∨ Arises p x.2.now entry := by
  unfold enter at h
  simp only at h
  split at h
  · have hmem := mem_awaits_finish p job _ h
    exact hmem
  · rw [Agenda.awaits_rest, Multiset.mem_cons] at h
    rcases h with rfl | hold
    · exact Or.inr (.rest job)
    · exact Or.inl hold

theorem mem_awaits_ask (job : ι) (x : State ι ρ) (h : entry ∈ (ask p job x).2.awaits) :
    entry ∈ x.2.awaits ∨ Arises p x.2.now entry := by
  unfold ask at h
  split at h
  · have hmem := mem_awaits_enter p job _ h
    exact hmem
  · exact Or.inl h

theorem mem_awaits_foldl_ask (jobs : List (ι × Float)) (x : State ι ρ)
    (h : entry ∈ (jobs.foldl (fun x entry => ask p entry.1 x) x).2.awaits) :
    entry ∈ x.2.awaits ∨ Arises p x.2.now entry := by
  induction jobs generalizing x with
  | nil => exact Or.inl h
  | cons job rest ih =>
    have hnow : (ask p job.1 x).2.now = x.2.now := (adds_ask p job.1).now x.1 x.2
    rcases ih (ask p job.1 x) h with hmid | hnew
    · exact mem_awaits_ask p job.1 x hmid
    · rw [hnow] at hnew
      exact Or.inr hnew

omit [DecidableEq ι] in
theorem mem_awaits_withLimit (a : Agenda (Turn ι)) (h : entry ∈ (withLimit p a).awaits) :
    entry ∈ a.awaits ∨
      ∃ seconds, p.timeout = some seconds ∧ entry = (a.now + seconds, .closeIndex) := by
  unfold withLimit at h
  split at h
  · rename_i seconds htimeout
    rw [Agenda.awaits_wait, Multiset.mem_cons] at h
    exact h.symm.imp_right fun heq => ⟨seconds, htimeout, heq⟩
  · exact Or.inl h

/-- What the beginning of the index side brings about besides: its jobs ask, and its time limit is
set. -/
theorem mem_awaits_openIndex (x : State ι ρ) (h : entry ∈ (openIndex p x).2.awaits) :
    entry ∈ x.2.awaits ∨ Arises p x.2.now entry ∨ (∃ job, entry = (x.2.now, .ask job)) ∨
      ∃ seconds, p.timeout = some seconds ∧ entry = (x.2.now + seconds, .closeIndex) := by
  have hlimit : entry ∈ (withLimit p x.2).awaits → _ := mem_awaits_withLimit p x.2
  have hnow : (withLimit p x.2).now = x.2.now := (adds_withLimit p).now x.1 x.2
  rw [openIndex_eq] at h
  split at h
  · rw [Agenda.awaits_soon, Multiset.mem_cons] at h
    rcases h with rfl | hold
    · exact Or.inr (Or.inl .breakOff)
    · exact Or.inl hold
  · split at h
    · exact Or.inl h
    · split at h
      · rcases mem_awaits_foldl_ask p p.jobs _ h with hmid | hnew
        · exact (hlimit hmid).imp_right fun hset => Or.inr (Or.inr hset)
        · simp only [hnow] at hnew
          exact Or.inr (Or.inl hnew)
      · rw [awaits_foldl_soon, Multiset.mem_add, hnow] at h
        rcases h with hmid | hnew
        · exact (hlimit hmid).imp_right fun hset => Or.inr (Or.inr hset)
        · obtain ⟨job, _, rfl⟩ := List.mem_map.mp (Multiset.mem_coe.mp hnew)
          exact Or.inr (Or.inr (Or.inl ⟨job.1, rfl⟩))

/-- What the turns of the index side bring about. -/
theorem mem_awaits_act_index {turn : Turn ι} (hturn : turn.isIndex = true) (x : State ι ρ)
    (h : entry ∈ (act p turn x).2.awaits) :
    entry ∈ x.2.awaits ∨ Arises p x.2.now entry ∨ (turn = .openIndex ∧
      ((∃ job, entry = (x.2.now, .ask job)) ∨
        ∃ seconds, p.timeout = some seconds ∧ entry = (x.2.now + seconds, .closeIndex))) := by
  have hjob : ∀ {f : State ι ρ → State ι ρ}, (entry ∈ (f x).2.awaits →
      entry ∈ x.2.awaits ∨ Arises p x.2.now entry) →
      entry ∈ (if x.1.indexOpen then f x else x).2.awaits →
        entry ∈ x.2.awaits ∨ Arises p x.2.now entry := by
    intro f hf hmem
    split at hmem
    · exact hf hmem
    · exact Or.inl hmem
  cases turn with
  | openIndex =>
    exact (mem_awaits_openIndex p x h).imp_right fun hnew => hnew.imp_right fun hset => ⟨rfl, hset⟩
  | ask job => exact (hjob (mem_awaits_ask p job x) h).imp_right Or.inl
  | enter job => exact (hjob (mem_awaits_enter p job x) h).imp_right Or.inl
  | finish job => exact (hjob (mem_awaits_finish p job x) h).imp_right Or.inl
  | closeIndex => exact Or.inl h
  | breakOff => cases hturn
  | openSource => cases hturn
  | proceed => cases hturn
  | closeSource => cases hturn

omit [DecidableEq ι] in
/-- A source that goes on may go on later again. -/
theorem mem_awaits_proceed (x : State ι ρ) (h : entry ∈ (Race.proceed x).2.awaits) :
    entry ∈ x.2.awaits ∨ ∃ side ∈ x.1.source, ∃ next ∈ side.next, ∃ stage seconds later,
      next x.2.now = .waits stage seconds later ∧
        entry = (Agenda.restUntil x.2.now seconds, .proceed) := by
  unfold Race.proceed at h
  split at h
  · rename_i stage next hsource
    split at h
    · exact Or.inl h
    · rename_i waiting seconds later hstep
      rw [Agenda.awaits_rest, Multiset.mem_cons] at h
      exact h.symm.imp_right fun heq =>
        ⟨⟨stage, some next⟩, hsource, next, rfl, waiting, seconds, later, hstep, heq⟩
  · exact Or.inl h

/-- What the other turns bring about: the source goes on, perhaps later, and its time limit is
set. -/
theorem mem_awaits_act_source {turn : Turn ι} (hturn : turn.isIndex = false) (x : State ι ρ)
    (h : entry ∈ (act p turn x).2.awaits) :
    entry ∈ x.2.awaits ∨
      (∃ side ∈ x.1.source, ∃ next ∈ side.next, ∃ stage seconds later,
        next x.2.now = .waits stage seconds later ∧
          entry = (Agenda.restUntil x.2.now seconds, .proceed)) ∨
      (turn = .openSource ∧ (entry = (x.2.now, .proceed) ∨
        ∃ seconds, p.timeout = some seconds ∧ entry = (x.2.now + seconds, .closeSource))) := by
  cases turn with
  | openIndex => cases hturn
  | ask job => cases hturn
  | enter job => cases hturn
  | finish job => cases hturn
  | closeIndex => cases hturn
  | breakOff => exact Or.inl h
  | openSource =>
    simp only [act, openSource] at h
    split at h
    · exact (mem_awaits_proceed x h).imp_right Or.inl
    · rename_i seconds htimeout
      simp only [Agenda.awaits_soon, Agenda.awaits_wait, Multiset.mem_cons] at h
      rcases h with hproceed | hclose | hold
      · exact Or.inr (Or.inr ⟨rfl, Or.inl hproceed⟩)
      · exact Or.inr (Or.inr ⟨rfl, Or.inr ⟨seconds, htimeout, hclose⟩⟩)
      · exact Or.inl hold
  | proceed => exact (mem_awaits_proceed x h).imp_right Or.inl
  | closeSource => exact Or.inl h

end Awaits

/-! ## Paths on the clock -/

/-- The paths on the clock that a search can take from a moment on. -/
def Timed (source : Option (SourceSide ρ)) (start : Float) :
    List (Float × Turn ι) → Race ι ρ → Float → Multiset (Float × Turn ι) → Prop :=
  Agenda.Timed (work p) { fanout := { bound := p.bound }, source := source } start
    ((openings source : List (Turn ι)).map fun turn => (start, turn) : List (Float × Turn ι))

/-- Everything that waits has a number for its moment, and the sides begin at the first moment. -/
structure Numbered (start now : Float) (x : Race ι ρ) (awaited : Multiset (Float × Turn ι)) :
    Prop where
  clock : Plain now
  moments : ∀ entry ∈ awaited, Scalar.isOrderly entry.1 = true
  source : ∀ side ∈ x.source, side.Numbers
  beginning : ∀ entry ∈ awaited, entry.2 = .openIndex ∨ entry.2 = .openSource →
    entry.1 = start ∧ now = start

omit [DecidableEq ι] in
/-- The time limit of a search that began at a moment has not passed. -/
def InTime (start now : Float) : Prop :=
  ∀ seconds, p.timeout = some seconds → now = start ∨ ¬ start + seconds < now

variable {p} {source : Option (SourceSide ρ)} {start now : Float}
  {turns : List (Float × Turn ι)} {y : Race ι ρ} {awaited : Multiset (Float × Turn ι)}

/-- A path on the clock is a path. -/
theorem Timed.path (h : Timed p source start turns y now awaited) :
    Path p source turns y (awaited.map Prod.snd) := by
  have hpath := Agenda.Timed.path h
  unfold Path
  simpa [Function.comp_def] using hpath

variable (hnumbers : p.Numbers start)

include hnumbers

/-- What turns bring about has a number for its moment. -/
theorem Numbered.isOrderly_act {s : Race ι ρ} {a : Agenda (Turn ι)} {moment : Float}
    {turn : Turn ι} (h : Numbered start a.now s ((moment, turn) ::ₘ a.awaits))
    {entry : Float × Turn ι} (hentry : entry ∈ (act p turn (s, a)).2.awaits) :
    Scalar.isOrderly entry.1 = true := by
  have hold : entry ∈ a.awaits → Scalar.isOrderly entry.1 = true := fun hmem =>
    h.moments entry (Multiset.mem_cons_of_mem hmem)
  have hnow : turn = .openIndex ∨ turn = .openSource → a.now = start := fun hturn =>
    (h.beginning (moment, turn) (Multiset.mem_cons_self _ _) hturn).2
  cases hindex : turn.isIndex with
  | true =>
    rcases mem_awaits_act_index p hindex (s, a) hentry with
      hmem | harises | ⟨hturn, ⟨job, rfl⟩ | ⟨seconds, htimeout, rfl⟩⟩
    · exact hold hmem
    · cases harises with
      | call job => exact h.clock.isOrderly
      | rest job => exact isOrderly_restUntil (hnumbers.pauseOf job) h.clock
      | breakOff => exact h.clock.isOrderly
    · exact h.clock.isOrderly
    · simp only [hnow (Or.inl hturn)]
      exact hnumbers.limit seconds htimeout
  | false =>
    rcases mem_awaits_act_source p hindex (s, a) hentry with
      hmem | ⟨side, hside, next, hnext, stage, seconds, later, hstep, rfl⟩ |
        ⟨hturn, rfl | ⟨seconds, htimeout, rfl⟩⟩
    · exact hold hmem
    · have hwait := h.source side hside next hnext a.now h.clock
      rw [hstep] at hwait
      exact isOrderly_restUntil hwait.1 h.clock
    · exact h.clock.isOrderly
    · simp only [hnow (Or.inr hturn)]
      exact hnumbers.limit seconds htimeout

theorem Numbered.act {s : Race ι ρ} {a : Agenda (Turn ι)} {moment : Float} {turn : Turn ι}
    (h : Numbered start a.now s ((moment, turn) ::ₘ a.awaits)) :
    Numbered start a.now (Race.act p turn (s, a)).1 (Race.act p turn (s, a)).2.awaits := by
  refine ⟨h.clock, fun entry hentry => h.isOrderly_act hnumbers hentry, ?_, ?_⟩
  · intro side hside
    rcases source_act p turn (s, a) with hsame | hgoes | ⟨_, hgiven⟩
    · rw [hsame] at hside
      exact h.source side hside
    · rw [hgoes] at hside
      obtain ⟨before, hbefore, rfl⟩ := Option.map_eq_some_iff.mp hside
      exact (h.source before hbefore).proceed h.clock
    · rw [hgiven] at hside
      obtain ⟨before, _, rfl⟩ := Option.map_eq_some_iff.mp hside
      exact SourceSide.Numbers.giveUp
  · -- no side begins again
    intro entry hentry hbegins
    cases hindex : turn.isIndex with
    | true =>
      rcases mem_awaits_act_index p hindex (s, a) hentry with
        hold | harises | ⟨_, ⟨job, rfl⟩ | ⟨seconds, _, rfl⟩⟩
      · exact h.beginning entry (Multiset.mem_cons_of_mem hold) hbegins
      · cases harises <;> simp at hbegins
      · simp at hbegins
      · simp at hbegins
    | false =>
      rcases mem_awaits_act_source p hindex (s, a) hentry with
        hold | ⟨_, _, _, _, _, seconds, _, _, rfl⟩ | ⟨_, rfl | ⟨seconds, _, rfl⟩⟩
      · exact h.beginning entry (Multiset.mem_cons_of_mem hold) hbegins
      · simp at hbegins
      · simp at hbegins
      · simp at hbegins

/-- On every path on the clock all moments are numbers. -/
theorem numbered_of_timed (hsource : ∀ side ∈ source, side.Numbers)
    (h : Timed p source start turns y now awaited) : Numbered start now y awaited := by
  refine Agenda.Timed.invariant (additive p)
    (I := fun _ y now awaited => Numbered start now y awaited) ?_ ?_ ?_ ?_ h
  · refine ⟨hnumbers.clock, ?_, hsource, ?_⟩
    · intro entry hentry
      obtain ⟨turn, _, rfl⟩ := List.mem_map.mp (Multiset.mem_coe.mp hentry)
      exact hnumbers.clock.isOrderly
    · intro entry hentry _
      obtain ⟨turn, _, rfl⟩ := List.mem_map.mp (Multiset.mem_coe.mp hentry)
      exact ⟨rfl, rfl⟩
  · intro _ s now awaited later _ hs hlater hpassed
    refine ⟨hs.clock.of_lt hlater, hs.moments, hs.source, ?_⟩
    -- the clock does not pass the beginning of a side
    intro entry hentry hbegins
    obtain ⟨hmoment, hnow⟩ := hs.beginning entry hentry hbegins
    refine absurd ?_ (hpassed entry hentry)
    rw [hmoment, ← hnow]
    exact hlater
  · intro _ s a moment turn _ hs _
    exact hs.act hnumbers
  · intro _ s now moment turn others hs _
    exact ⟨hs.clock, fun entry hentry => hs.moments entry (Multiset.mem_cons_of_mem hentry),
      hs.source, fun entry hentry => hs.beginning entry (Multiset.mem_cons_of_mem hentry)⟩

/-- A search takes one of its paths on the clock. -/
theorem run_timed (hsource : ∀ side ∈ source, side.Numbers) (waits : Nat) :
    ∃ turns now awaited, Timed p source start turns (run p source waits start).1 now awaited ∧
      awaited.map Prod.snd =
        (Agenda.run (work p) (rounds p waits) (opening p source start)).2.pending := by
  have hall : Agenda.AllNumbers (work p) { fanout := { bound := p.bound }, source := source } start
      ((openings source : List (Turn ι)).map fun turn => (start, turn) : List (Float × Turn ι)) :=
    fun turns y now awaited h => (numbered_of_timed hnumbers hsource h).moments
  obtain ⟨turns, awaited, hpath, hholds⟩ := Agenda.run_timed (additive p) hall (rounds p waits)
    (x := opening p source start) .start (Agenda.holds_ready start (openings source))
  refine ⟨turns, _, awaited, by rw [run_eq]; exact hpath, ?_⟩
  obtain ⟨⟨due, hready, _, rfl⟩, _⟩ := hholds
  rw [Multiset.map_add, Multiset.map_coe, hready]
  rfl

end Race

end EntitySearch

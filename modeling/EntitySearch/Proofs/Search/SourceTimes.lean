import EntitySearch.Proofs.Search.RaceClock
/-!
# The source of a search on the clock

An activity comes to its stages on the clock: after a wait it goes on when its time is over
(`Activity.Comes`). The source of a search is asked at the first moment. When it is no longer at
work it has come to its end before the time limit, or it was given up at the moment at which the
limit has passed, at a stage at which it would not have gone on before (`Race.SourceCourse`,
`Race.source_of_timed`).
-/

namespace EntitySearch

open Agenda (OnTime)

variable {ι ρ : Type}

/-- The stages to which an activity comes on the clock, each with the moment at which it is reached:
when a wait is over it goes on. -/
inductive Activity.Comes (a : Activity ρ) (start : Float) : Activity ρ → Float → Prop
  | here : Comes a start a start
  | later {stage : ρ} {seconds : Float} {next : Float → Activity ρ} {since now : Float} :
    Comes a start (.waits stage seconds next) since →
      OnTime since (resumption since seconds) now → Comes a start (next now) now

namespace Turn

/-- Whether a turn is that of the source. -/
def isSource : Turn ι → Bool
  | .openSource | .proceed | .closeSource => true
  | _ => false

theorem isIndex_of_not_isSource {turn : Turn ι} (h : turn.isSource = false)
    (hbreak : turn ≠ .breakOff) : turn.isIndex = true := by
  cases turn with
  | openIndex => rfl
  | ask job => rfl
  | enter job => rfl
  | finish job => rfl
  | closeIndex => rfl
  | breakOff => exact absurd rfl hbreak
  | openSource => cases h
  | proceed => cases h
  | closeSource => cases h

end Turn

namespace Race

/-! ## What waits for the source -/

/-- What waits for turns of the source. -/
def sourceAwaits (awaited : Multiset (Float × Turn ι)) : Multiset (Float × Turn ι) :=
  awaited.filter fun entry => entry.2.isSource = true

theorem sourceAwaits_cons_of_pos {entry : Float × Turn ι} (h : entry.2.isSource = true)
    (awaited : Multiset (Float × Turn ι)) :
    sourceAwaits (entry ::ₘ awaited) = entry ::ₘ sourceAwaits awaited :=
  Multiset.filter_cons_of_pos _ h

theorem sourceAwaits_cons_of_neg {entry : Float × Turn ι} (h : entry.2.isSource = false)
    (awaited : Multiset (Float × Turn ι)) :
    sourceAwaits (entry ::ₘ awaited) = sourceAwaits awaited :=
  Multiset.filter_cons_of_neg _ (by simp [h])

/-- The time limit of the source, as it waits. -/
def limitAwaits (p : RacePlan ι) (start : Float) : Multiset (Float × Turn ι) :=
  match p.timeout with
  | none => 0
  | some seconds => {(start + seconds, .closeSource)}

theorem mem_limitAwaits {p : RacePlan ι} {start : Float} {entry : Float × Turn ι} :
    entry ∈ limitAwaits p start ↔
      ∃ seconds, p.timeout = some seconds ∧ entry = (start + seconds, .closeSource) := by
  unfold limitAwaits
  cases p.timeout with
  | none => simp
  | some seconds => simp

variable [DecidableEq ι] (p : RacePlan ι) (start : Float)

/-- Turns of the index side, and breaking off, bring about no turns of the source. -/
theorem sourceAwaits_act {turn : Turn ι} (hturn : turn.isSource = false) (s : Race ι ρ)
    (a : Agenda (Turn ι)) :
    sourceAwaits (act p turn (s, a)).2.awaits = sourceAwaits a.awaits := by
  by_cases hbreak : turn = .breakOff
  · rw [hbreak]
    rfl
  have hindex := Turn.isIndex_of_not_isSource hturn hbreak
  have hadds : (act p turn (s, a)).2.awaits =
      a.awaits + (act p turn (s, { now := a.now })).2.awaits := (additive p turn).awaits s a
  have hnone : sourceAwaits (act p turn (s, { now := a.now })).2.awaits = 0 := by
    refine Multiset.filter_eq_nil.mpr ?_
    intro entry hentry
    rcases mem_awaits_act_index p hindex _ hentry with
      hold | harises | ⟨_, ⟨job, rfl⟩ | ⟨seconds, _, rfl⟩⟩
    · exact absurd hold (Multiset.notMem_zero _)
    · cases harises <;> exact Bool.false_ne_true
    · exact Bool.false_ne_true
    · exact Bool.false_ne_true
  unfold sourceAwaits at hnone ⊢
  rw [hadds, Multiset.filter_add, hnone, add_zero]

/-! ## The course of a source -/

/-- Where a source stands that is asked at the first moment: it is yet to be asked, is at work, has
ended before the time limit, or was given up when the limit had passed, at a stage at which it would
not have gone on before. -/
inductive SourceCourse (asked : Activity ρ) (side : SourceSide ρ) (now : Float)
    (awaited : Multiset (Float × Turn ι)) : Prop
  | waiting (next : Float → Activity ρ) (hnext : side.next = some next)
      (hasked : asked = .waits side.stage 0 next)
      (hawaits : sourceAwaits awaited = {(start, .openSource)})
  | working (next : Float → Activity ρ) (seconds since : Float) (hnext : side.next = some next)
      (hcomes : asked.Comes start (.waits side.stage seconds next) since)
      (hpassed : now = since ∨ ¬ Activity.resumption since seconds < now)
      (htime : InTime p start now)
      (hawaits : sourceAwaits awaited =
        (Activity.resumption since seconds, .proceed) ::ₘ limitAwaits p start)
  | ended (moment : Float) (hnext : side.next = none)
      (hcomes : asked.Comes start (.ended side.stage) moment) (htime : InTime p start moment)
  | givenUp (limit moment seconds since : Float) (next : Float → Activity ρ)
      (hnext : side.next = none) (hlimit : p.timeout = some limit)
      (hmoment : OnTime start (start + limit) moment)
      (hcomes : asked.Comes start (.waits side.stage seconds next) since)
      (hpassed : moment = since ∨ ¬ Activity.resumption since seconds < moment)

variable {p start} {asked : Activity ρ} {now : Float}

omit [DecidableEq ι] in
/-- A wait of no time is over at once. -/
theorem onTime_zero {now : Float} (hnow : Number.Plain now) :
    OnTime now (Activity.resumption now 0) now := by
  unfold Activity.resumption
  rw [if_neg (Agenda.not_lt_self 0)]
  exact Agenda.onTime_self hnow

section Steps

variable {s : Race ι ρ} {a : Agenda (Turn ι)} {moment : Float} {turn : Turn ι}

omit [DecidableEq ι] in
/-- A source whose wait is over goes on: it ends or waits again. -/
theorem SourceCourse.proceed {side : SourceSide ρ} {next : Float → Activity ρ}
    {seconds since : Float} (hside : s.source = some side) (hnext : side.next = some next)
    (hnumbers : side.Numbers) (hclock : Number.Plain a.now)
    (hcomes : asked.Comes start (.waits side.stage seconds next) since)
    (honTime : OnTime since (Activity.resumption since seconds) a.now)
    (htime : InTime p start a.now) (hawaits : sourceAwaits a.awaits = limitAwaits p start) :
    ∃ after, (Race.proceed (s, a)).1.source = some after ∧
      SourceCourse p start asked after a.now (Race.proceed (s, a)).2.awaits := by
  obtain ⟨stage, next'⟩ := side
  obtain rfl : next' = some next := hnext
  have hlater := hcomes.later honTime
  have hwaits := hnumbers next rfl a.now hclock
  unfold Race.proceed
  simp only [hside]
  cases hstep : next a.now with
  | ended last =>
    rw [hstep] at hlater
    exact ⟨_, rfl, .ended a.now rfl hlater htime⟩
  | waits waiting pause later =>
    rw [hstep] at hlater hwaits
    refine ⟨_, rfl, .working later pause a.now rfl hlater (Or.inl rfl) htime ?_⟩
    simp only
    rw [Agenda.awaits_rest, restUntil_eq_resumption hwaits.1, sourceAwaits_cons_of_pos rfl, hawaits]

/-- A source that is no longer at work stays as it is. -/
theorem source_act_of_idle {side : SourceSide ρ} (hside : s.source = some side)
    (hidle : side.next = none) (turn : Turn ι) (a : Agenda (Turn ι)) :
    (act p turn (s, a)).1.source = some side := by
  have hgoes : SourceSide.proceed a.now side = side := by simp [SourceSide.proceed, hidle]
  have hgiven : side.giveUp = side := by simp [SourceSide.giveUp, ← hidle]
  rcases source_act p turn (s, a) with hsame | hproceeds | ⟨_, hgives⟩
  · exact hsame.trans hside
  · exact hproceeds.trans (by simp [hside, hgoes])
  · exact hgives.trans (by simp [hside, hgiven])

omit [DecidableEq ι] in
/-- Only what waits for the source matters to its course. -/
theorem SourceCourse.congr {side : SourceSide ρ} {awaited awaited' : Multiset (Float × Turn ι)}
    (h : SourceCourse p start asked side now awaited)
    (hsame : sourceAwaits awaited' = sourceAwaits awaited) :
    SourceCourse p start asked side now awaited' := by
  cases h with
  | waiting next hnext hasked hawaits => exact .waiting next hnext hasked (hsame.trans hawaits)
  | working next seconds since hnext hcomes hpassed htime hawaits =>
    exact .working next seconds since hnext hcomes hpassed htime (hsame.trans hawaits)
  | ended ending hnext hcomes htime => exact .ended ending hnext hcomes htime
  | givenUp limit given seconds since next hnext hlimit hmoment hcomes hpassed =>
    exact .givenUp limit given seconds since next hnext hlimit hmoment hcomes hpassed

omit [DecidableEq ι] in
/-- A source that is no longer at work waits for nothing. -/
theorem SourceCourse.of_idle {side : SourceSide ρ} {awaited : Multiset (Float × Turn ι)}
    (h : SourceCourse p start asked side now awaited) (hidle : side.next = none)
    (awaited' : Multiset (Float × Turn ι)) : SourceCourse p start asked side now awaited' := by
  cases h with
  | waiting next hnext => cases hidle.symm.trans hnext
  | working next seconds since hnext => cases hidle.symm.trans hnext
  | ended ending hnext hcomes htime => exact .ended ending hnext hcomes htime
  | givenUp limit given seconds since next hnext hlimit hmoment hcomes hpassed =>
    exact .givenUp limit given seconds since next hnext hlimit hmoment hcomes hpassed

/-- Turns that are not of the source leave it alone. -/
theorem source_act_of_neg {side : SourceSide ρ} (hside : s.source = some side)
    (hturn : turn.isSource = false) : (Race.act p turn (s, a)).1.source = some side := by
  by_cases hbreak : turn = .breakOff
  · rw [hbreak]
    exact hside
  · exact ((keeps_source p).act (Turn.isIndex_of_not_isSource hturn hbreak) (s, a)).trans hside

omit [DecidableEq ι] in
/-- A source that is asked goes on, unless a time limit is set, with which it waits for its turn. -/
theorem SourceCourse.asks {side : SourceSide ρ} {next : Float → Activity ρ}
    (hside : s.source = some side) (hnext : side.next = some next) (hnumbers : side.Numbers)
    (hclock : Number.Plain a.now) (hnow : a.now = start)
    (hasked : asked = .waits side.stage 0 next) (hnone : sourceAwaits a.awaits = 0) :
    ∃ after, (Race.openSource p (s, a)).1.source = some after ∧
      SourceCourse p start asked after a.now (Race.openSource p (s, a)).2.awaits := by
  have hcomes : asked.Comes start (.waits side.stage 0 next) start := hasked ▸ .here
  have htime : InTime p start a.now := fun _ _ => Or.inl hnow
  unfold Race.openSource
  cases htimeout : p.timeout with
  | none =>
    refine SourceCourse.proceed hside hnext hnumbers hclock hcomes ?_ htime ?_
    · rw [← hnow]
      exact onTime_zero hclock
    · simpa [limitAwaits, htimeout] using hnone
  | some seconds =>
    refine ⟨side, hside, .working next 0 start hnext hcomes (Or.inl hnow) htime ?_⟩
    have hzero : Activity.resumption start 0 = start := if_neg (Agenda.not_lt_self 0)
    simp only [Agenda.awaits_soon, Agenda.awaits_wait]
    rw [sourceAwaits_cons_of_pos rfl, sourceAwaits_cons_of_pos rfl, hnone, hzero]
    simp [limitAwaits, htimeout, hnow, Agenda.wait]

/-- Every turn that comes when it is due keeps the course of the source. -/
theorem SourceCourse.act {side : SourceSide ρ} (hside : s.source = some side)
    (hnumbered : Numbered start a.now s ((moment, turn) ::ₘ a.awaits))
    (h : SourceCourse p start asked side a.now ((moment, turn) ::ₘ a.awaits))
    (hdue : Agenda.isDue a.now moment = true) :
    ∃ after, (Race.act p turn (s, a)).1.source = some after ∧
      SourceCourse p start asked after a.now (Race.act p turn (s, a)).2.awaits := by
  by_cases hidle : side.next = none
  · exact ⟨side, source_act_of_idle hside hidle turn a, h.of_idle hidle _⟩
  have hnumbers : side.Numbers := hnumbered.source side hside
  cases hturn : turn.isSource with
  | false =>
    refine ⟨side, source_act_of_neg hside hturn, h.congr ?_⟩
    rw [sourceAwaits_act p hturn, sourceAwaits_cons_of_neg hturn]
  | true =>
    cases h with
    | waiting next hnext hasked hawaits =>
      rw [sourceAwaits_cons_of_pos hturn] at hawaits
      have hmem : (moment, turn) ∈ ({(start, .openSource)} : Multiset (Float × Turn ι)) := by
        rw [← hawaits]
        exact Multiset.mem_cons_self _ _
      obtain ⟨rfl, rfl⟩ := Prod.mk.inj (Multiset.mem_singleton.mp hmem)
      have hnone : sourceAwaits a.awaits = 0 :=
        (Multiset.cons_inj_right _).mp (hawaits.trans (Multiset.cons_zero _).symm)
      have hnow := (hnumbered.beginning _ (Multiset.mem_cons_self _ _) (Or.inr rfl)).2
      exact SourceCourse.asks hside hnext hnumbers hnumbered.clock hnow hasked hnone
    | working next seconds since hnext hcomes hpassed htime hawaits =>
      rw [sourceAwaits_cons_of_pos hturn] at hawaits
      have hmem : (moment, turn) ∈ (Activity.resumption since seconds, Turn.proceed) ::ₘ
          limitAwaits p start := by
        rw [← hawaits]
        exact Multiset.mem_cons_self _ _
      rcases Multiset.mem_cons.mp hmem with heq | hlimit
      · -- its wait is over
        obtain ⟨rfl, rfl⟩ := Prod.mk.inj heq
        have honTime : OnTime since (Activity.resumption since seconds) a.now :=
          ⟨hnumbered.clock, hdue, hpassed⟩
        exact SourceCourse.proceed hside hnext hnumbers hnumbered.clock hcomes honTime htime
          ((Multiset.cons_inj_right _).mp hawaits)
      · -- the time limit has passed
        obtain ⟨limit, htimeout, heq⟩ := mem_limitAwaits.mp hlimit
        obtain ⟨rfl, rfl⟩ := Prod.mk.inj heq
        refine ⟨side.giveUp, by simp [Race.act, hside, SourceSide.giveUp], ?_⟩
        exact .givenUp limit a.now seconds since next rfl htimeout
          ⟨hnumbered.clock, hdue, htime limit htimeout⟩ hcomes hpassed
    | ended ending hnext => exact absurd hnext hidle
    | givenUp limit given seconds since next hnext => exact absurd hnext hidle

omit [DecidableEq ι] in
/-- The course of the source stays as the clock goes on. -/
theorem SourceCourse.wait {side : SourceSide ρ} {awaited : Multiset (Float × Turn ι)}
    {later : Float} (h : SourceCourse p start asked side now awaited)
    (hpassedBy : ∀ entry ∈ awaited, ¬ entry.1 < later) :
    SourceCourse p start asked side later awaited := by
  have hmem : ∀ entry ∈ sourceAwaits awaited, ¬ entry.1 < later := fun entry hentry =>
    hpassedBy entry (Multiset.mem_filter.mp hentry).1
  cases h with
  | waiting next hnext hasked hawaits => exact .waiting next hnext hasked hawaits
  | working next seconds since hnext hcomes hpassed htime hawaits =>
    rw [hawaits] at hmem
    refine .working next seconds since hnext hcomes ?_ ?_ hawaits
    · have hstays := hmem (Activity.resumption since seconds, .proceed) (Multiset.mem_cons_self _ _)
      exact Or.inr hstays
    · intro limit htimeout
      have hstays := hmem (start + limit, .closeSource)
        (Multiset.mem_cons_of_mem (mem_limitAwaits.mpr ⟨limit, htimeout, rfl⟩))
      exact Or.inr hstays
  | ended ending hnext hcomes htime => exact .ended ending hnext hcomes htime
  | givenUp limit given seconds since next hnext hlimit hmoment hcomes hpassed =>
    exact .givenUp limit given seconds since next hnext hlimit hmoment hcomes hpassed

omit [DecidableEq ι] in
/-- Dropping what no longer matters keeps the course of the source. -/
theorem SourceCourse.drop {side : SourceSide ρ} {awaited : Multiset (Float × Turn ι)}
    (hside : s.source = some side)
    (h : SourceCourse p start asked side now ((moment, turn) ::ₘ awaited))
    (hstale : isStale s turn = true) : SourceCourse p start asked side now awaited := by
  by_cases hidle : side.next = none
  · exact h.of_idle hidle _
  · -- turns of the source matter as long as it is at work
    refine h.congr (sourceAwaits_cons_of_neg ?_ awaited).symm
    have hwork : s.sourceOpen = true := by
      simp [sourceOpen, hside, Option.isSome_iff_ne_none.mpr hidle]
    cases turn <;> simp_all [isStale, Turn.isSource]

end Steps

/-- On every path on the clock a source that is asked keeps to its course. -/
theorem source_of_timed (hnumbers : p.Numbers start) {initial : SourceSide ρ}
    (hsource : initial.Numbers) {next : Float → Activity ρ} (hnext : initial.next = some next)
    {turns : List (Float × Turn ι)} {y : Race ι ρ} {awaited : Multiset (Float × Turn ι)}
    (h : Timed p (some initial) start turns y now awaited) :
    ∃ side, y.source = some side ∧
      SourceCourse p start (.waits initial.stage 0 next) side now awaited := by
  have hsources : ∀ side ∈ some initial, side.Numbers := by
    rintro side ⟨rfl⟩
    exact hsource
  refine Agenda.Timed.invariant (additive p) (I := fun _ y now awaited =>
    ∃ side, y.source = some side ∧
      SourceCourse p start (.waits initial.stage 0 next) side now awaited) ?_ ?_ ?_ ?_ h
  · exact ⟨initial, rfl, .waiting next hnext rfl rfl⟩
  · rintro _ s now awaited later _ ⟨side, hside, hcourse⟩ _ hpassed
    exact ⟨side, hside, hcourse.wait hpassed⟩
  · rintro _ s a moment turn hpath ⟨side, hside, hcourse⟩ hdue
    exact hcourse.act hside (numbered_of_timed hnumbers hsources hpath) hdue
  · rintro _ s now moment turn others ⟨side, hside, hcourse⟩ hstale
    exact ⟨side, hside, hcourse.drop hside hstale⟩

end Race

end EntitySearch

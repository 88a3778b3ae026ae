import EntitySearch.Proofs.Search.Places
import EntitySearch.Proofs.Search.RaceClock
/-!
# The jobs of a search on the clock

On the clock the index side is punctual (`Race.Punctual`): its jobs begin as places become free,
each ends when its duration is over, none ends after the time limit, and what has not ended in the
end would not have ended before the moment at which the limit has passed. This holds of every path
on the clock whose index side is closed (`Race.punctual_of_timed`).

While the index side is at work, everything that waits waits for its proper moment (`Race.Proper`),
every job that has begun has its end among what waits, and the places that are left have just become
free, if anyone waits for one (`Race.Working`).
-/

namespace EntitySearch

open Agenda (OnTime)

variable {ι ρ : Type}

namespace Race

variable [DecidableEq ι] (p : RacePlan ι) (start : Float)

/-! ## Punctuality -/

/-- The moment at which a job that has begun is to end. -/
def endOf (begun : Float) (job : ι) : Float := Activity.resumption begun (pauseOf p job)

/-- The index side was closed at a moment: what has ended had ended by then, what had begun was to
end no earlier, and what had not begun had found no place before. -/
structure ClosedAt (moment : Float) (fanout : Fanout ι) : Prop where
  ended : ∀ entry ∈ fanout.ended, ¬ moment < entry.1
  begun : ∀ entry ∈ fanout.started, fanout.hasEnded entry.2 = false →
    moment = entry.1 ∨ ¬ endOf p entry.1 entry.2 < moment
  waiting : ∀ entry ∈ p.jobs, (∀ begun, (begun, entry.1) ∉ fanout.started) →
    fanout.Fresh start moment

/-- The jobs of an index side that began at a moment keep to the clock. -/
structure Punctual (fanout : Fanout ι) : Prop where
  /-- Jobs begin as places become free. -/
  begins : ∀ k entry, fanout.started.reverse[k]? = some entry →
    fanout.place? start k = some entry.1
  /-- A job ends when its duration is over. -/
  ends : ∀ entry ∈ fanout.ended, ∃ begun, (begun, entry.2) ∈ fanout.started ∧
    OnTime begun (endOf p begun entry.2) entry.1
  /-- No job ends after the time limit. -/
  inTime : ∀ entry ∈ fanout.ended, InTime p start entry.1
  /-- Unless all jobs have ended, or the index side has failed, its time limit has passed. -/
  closes : (∃ entry ∈ p.jobs, fanout.hasEnded entry.1 = false) → p.fails = true ∨
    ∃ seconds, p.timeout = some seconds ∧
      ∃ moment, OnTime start (start + seconds) moment ∧ ClosedAt p start moment fanout

/-! ## At work -/

/-- What waits for its proper moment. -/
def Proper (now : Float) (fanout : Fanout ι) (entry : Float × Turn ι) : Prop :=
  match entry.2 with
  | .openIndex => False
  | .ask _ => entry.1 = start ∧ now = start
  | .enter _ => entry.1 = now
  | .finish job => ∃ begun, (begun, job) ∈ fanout.started ∧ entry.1 = endOf p begun job ∧
      (now = begun ∨ ¬ entry.1 < now)
  | .closeIndex => ∃ seconds, p.timeout = some seconds ∧ entry.1 = start + seconds ∧
      (now = start ∨ ¬ entry.1 < now)
  | .breakOff | .openSource | .proceed | .closeSource => True

/-- The jobs of an index side at work, but perhaps for the ends of some; so many have been called,
and so many are running, besides those whose turns wait. -/
structure Keeping (but : Float × ι → Prop) (called running : ℕ) (now : Float) (fanout : Fanout ι)
    (awaited : Multiset (Float × Turn ι)) : Prop where
  clock : Number.Plain now
  proper : ∀ entry ∈ awaited, Proper p start now fanout entry
  going : ∀ entry ∈ fanout.started, fanout.hasEnded entry.2 = false → ¬ but entry →
    (endOf p entry.1 entry.2, .finish entry.2) ∈ awaited ∧
      (now = entry.1 ∨ ¬ endOf p entry.1 entry.2 < now)
  ends : ∀ entry ∈ fanout.ended, ∃ begun, (begun, entry.2) ∈ fanout.started ∧
    OnTime begun (endOf p begun entry.2) entry.1
  inTime : ∀ entry ∈ fanout.ended, InTime p start entry.1
  past : ∀ entry ∈ fanout.ended, Number.Plain entry.1 ∧ ¬ now < entry.1
  seated : fanout.Seated start (callsIn awaited + called) (endsIn awaited + running)

/-- Nobody waits for a place. -/
def Idle (fanout : Fanout ι) (awaited : Multiset (Float × Turn ι)) : Prop :=
  fanout.line = [] ∧ ∀ entry ∈ awaited, entry.2.isSeeking = false

/-- An index side at work: its time limit waits, and places that are left have just become free, if
anyone waits for one. -/
structure Working (now : Float) (fanout : Fanout ι) (awaited : Multiset (Float × Turn ι)) :
    Prop where
  keeping : Keeping p start (fun _ => False) 0 0 now fanout awaited
  limit : ∀ seconds, p.timeout = some seconds → (start + seconds, .closeIndex) ∈ awaited
  next : fanout.Fresh start now ∨ Idle fanout awaited

variable {p start} {now : Float} {called running : ℕ}

/-- While the index side is at work its time limit has not passed. -/
theorem Working.inTime {fanout : Fanout ι} {awaited : Multiset (Float × Turn ι)}
    (h : Working p start now fanout awaited) : InTime p start now := by
  intro seconds htimeout
  obtain ⟨_, _, _, hpassed⟩ := h.keeping.proper _ (h.limit seconds htimeout)
  exact hpassed

/-! ## Steps of jobs -/

/-- What waited for its proper moment still does after jobs have begun. -/
theorem Proper.mono {fanout fanout' : Fanout ι} {entry : Float × Turn ι}
    (h : Proper p start now fanout entry) (hstarted : fanout.started ⊆ fanout'.started) :
    Proper p start now fanout' entry := by
  obtain ⟨moment, turn⟩ := entry
  cases turn with
  | finish job =>
    obtain ⟨begun, hbegun, hrest⟩ := h
    exact ⟨begun, hstarted hbegun, hrest⟩
  | openIndex => exact h
  | ask job => exact h
  | enter job => exact h
  | closeIndex => exact h
  | breakOff => exact h
  | openSource => exact h
  | proceed => exact h
  | closeSource => exact h

omit [DecidableEq ι] in
theorem started_leave (x : Fanout ι) (now : Float) (job : ι) :
    (x.leave now job).2.started = x.started ∧
      (x.leave now job).2.ended = (now, job) :: x.ended := by
  unfold Fanout.leave
  split <;> exact ⟨rfl, rfl⟩

section Steps

variable {s : Race ι ρ} {a : Agenda (Turn ι)}

/-- With ends of more jobs set aside. -/
theorem Keeping.but_mono {but but' : Float × ι → Prop} {fanout : Fanout ι}
    {awaited : Multiset (Float × Turn ι)}
    (h : Keeping p start but called running now fanout awaited)
    (hbut : ∀ entry, but entry → but' entry) :
    Keeping p start but' called running now fanout awaited :=
  { h with going := fun entry hentry hgoing hother =>
      h.going entry hentry hgoing fun hset => hother (hbut entry hset) }

/-- A job ends when its duration is over. -/
theorem Keeping.finish {job : ι}
    (h : Keeping p start (fun entry => entry.2 = job) called 1 a.now s.fanout a.awaits)
    (htime : InTime p start a.now) {begun : Float} (hbegun : (begun, job) ∈ s.fanout.started)
    (honTime : OnTime begun (endOf p begun job) a.now) :
    Keeping p start (fun _ => False) called 0 a.now (Race.finish p job (s, a)).1.fanout
      (Race.finish p job (s, a)).2.awaits := by
  have hseated : (s.fanout.leave a.now job).2.Seated start
      (callsIn a.awaits + called + if (s.fanout.leave a.now job).1.isSome then 1 else 0)
      (endsIn a.awaits) := h.seated.leave job
  have hfanout : (Race.finish p job (s, a)).1.fanout = (s.fanout.leave a.now job).2 := rfl
  obtain ⟨more, hawaits, hmore, hcalls⟩ := exists_awaits_finish p job (s, a)
  obtain ⟨hstarted, hended⟩ := started_leave s.fanout a.now job
  rw [hfanout, hawaits]
  refine ⟨h.clock, ?_, ?_, ?_, ?_, ?_, ?_⟩
  · intro entry hentry
    rcases Multiset.mem_add.mp hentry with hnew | hold
    · rcases hmore entry hnew with rfl | ⟨other, rfl⟩
      · trivial
      · exact rfl
    · exact (h.proper entry hold).mono (by rw [hstarted]; exact List.Subset.refl _)
  · intro entry hentry hgoing _
    rw [hstarted] at hentry
    unfold Fanout.hasEnded at hgoing
    rw [hended, List.any_cons, Bool.or_eq_false_iff] at hgoing
    have hother : ¬ entry.2 = job := fun heq => of_decide_eq_false hgoing.1 heq.symm
    obtain ⟨hmem, hpassed⟩ := h.going entry hentry hgoing.2 hother
    exact ⟨Multiset.mem_add.mpr (Or.inr hmem), hpassed⟩
  · intro entry hentry
    rw [hstarted]
    rw [hended] at hentry
    rcases List.mem_cons.mp hentry with rfl | hold
    · exact ⟨begun, hbegun, honTime⟩
    · exact h.ends entry hold
  · intro entry hentry
    rw [hended] at hentry
    rcases List.mem_cons.mp hentry with rfl | hold
    · exact htime
    · exact h.inTime entry hold
  · intro entry hentry
    rw [hended] at hentry
    rcases List.mem_cons.mp hentry with rfl | hold
    · exact ⟨h.clock, Agenda.not_lt_self a.now⟩
    · exact h.past entry hold
  · -- one is running less, and one more is called if someone stands in line
    have hends : endsIn more = 0 := by
      refine Multiset.countP_eq_zero.mpr ?_
      intro entry hentry
      rcases hmore entry hentry with rfl | ⟨other, rfl⟩
      · exact Bool.false_ne_true
      · exact Bool.false_ne_true
    rw [callsIn_add, endsIn_add, hcalls, hends, zero_add, add_assoc, add_comm]
    exact hseated

/-- A job that has been called begins. -/
theorem Keeping.starts {fanout : Fanout ι} {awaited : Multiset (Float × Turn ι)}
    (h : Keeping p start (fun _ => False) 1 0 now fanout awaited)
    (hfresh : fanout.Fresh start now) (job : ι) :
    Keeping p start (fun entry => entry = (now, job)) 0 1 now (fanout.start now job) awaited := by
  have hsub : fanout.started ⊆ (fanout.start now job).started := List.subset_cons_self _ _
  refine ⟨h.clock, ?_, ?_, ?_, h.inTime, h.past, h.seated.starts hfresh job⟩
  · intro entry hentry
    exact (h.proper entry hentry).mono hsub
  · intro entry hentry hgoing hother
    rcases List.mem_cons.mp hentry with heq | hold
    · exact absurd heq hother
    · exact h.going entry hold hgoing not_false
  · intro entry hentry
    obtain ⟨begun, hbegun, honTime⟩ := h.ends entry hentry
    exact ⟨begun, hsub hbegun, honTime⟩

/-- A job that has begun rests for its duration. -/
theorem Keeping.rests {fanout : Fanout ι} {awaited : Multiset (Float × Turn ι)} {job : ι}
    (h : Keeping p start (fun entry => entry = (now, job)) 0 1 now fanout awaited)
    (hbegun : (now, job) ∈ fanout.started) :
    Keeping p start (fun _ => False) 0 0 now fanout
      ((endOf p now job, .finish job) ::ₘ awaited) := by
  refine ⟨h.clock, ?_, ?_, h.ends, h.inTime, h.past, ?_⟩
  · intro entry hentry
    rcases Multiset.mem_cons.mp hentry with rfl | hold
    · exact ⟨now, hbegun, rfl, Or.inl rfl⟩
    · exact h.proper entry hold
  · intro entry hentry hgoing _
    by_cases heq : entry = (now, job)
    · rw [heq]
      exact ⟨Multiset.mem_cons_self _ _, Or.inl rfl⟩
    · obtain ⟨hmem, hpassed⟩ := h.going entry hentry hgoing heq
      exact ⟨Multiset.mem_cons_of_mem hmem, hpassed⟩
  · rw [callsIn_cons, endsIn_cons]
    exact h.seated

/-- A job with no duration is to end as it begins. -/
theorem endOf_of_zero {job : ι} (hpause : Scalar.isOrderly (pauseOf p job) = true)
    (hzero : (pauseOf p job == 0) = true) (now : Float) : endOf p now job = now := by
  have hsame : Scalar.same (pauseOf p job) 0 = true := hzero
  rw [Number.same_eq_place hpause Number.plain_zero.isOrderly, decide_eq_true_iff] at hsame
  unfold endOf Activity.resumption
  rw [if_neg]
  rw [Number.lt_iff_place Number.plain_zero.isOrderly hpause, hsame]
  exact lt_irrefl _

variable (hnumbers : p.Numbers start)

include hnumbers

/-- A job that has been called begins, and ends at once or rests. -/
theorem Keeping.enter (h : Keeping p start (fun _ => False) 1 0 a.now s.fanout a.awaits)
    (hfresh : s.fanout.Fresh start a.now) (htime : InTime p start a.now) (job : ι) :
    Keeping p start (fun _ => False) 0 0 a.now (Race.enter p job (s, a)).1.fanout
        (Race.enter p job (s, a)).2.awaits ∧
      (Race.enter p job (s, a)).1.fanout.Fresh start a.now := by
  have hpause := hnumbers.pauseOf job
  have hstarts := h.starts hfresh job
  have hbegun : (a.now, job) ∈ (s.fanout.start a.now job).started := List.mem_cons_self
  have hfreshStart := hfresh.starts job
  unfold Race.enter
  simp only
  split
  · rename_i hzero
    have honTime : OnTime a.now (endOf p a.now job) a.now := by
      rw [endOf_of_zero hpause hzero]
      exact Agenda.onTime_self h.clock
    have hending : Keeping p start (fun entry => entry.2 = job) 0 1 a.now
        (s.fanout.start a.now job) a.awaits :=
      hstarts.but_mono fun entry heq => congrArg Prod.snd heq
    exact ⟨hending.finish (s := { s with fanout := s.fanout.start a.now job }) htime hbegun honTime,
      hfreshStart.leave job⟩
  · rw [Agenda.awaits_rest, restUntil_eq_resumption hpause]
    exact ⟨hstarts.rests hbegun, hfreshStart⟩

/-- A job asks for a place, and either has it or stands in line. -/
theorem Keeping.ask (h : Keeping p start (fun _ => False) 0 0 a.now s.fanout a.awaits)
    (hfresh : s.fanout.Fresh start a.now) (htime : InTime p start a.now) (job : ι) :
    Keeping p start (fun _ => False) 0 0 a.now (Race.ask p job (s, a)).1.fanout
        (Race.ask p job (s, a)).2.awaits ∧
      (Race.ask p job (s, a)).1.fanout.Fresh start a.now := by
  unfold Race.ask
  cases hroom : s.fanout.hasRoom with
  | true =>
    have hcalled : Keeping p start (fun _ => False) 1 0 a.now s.fanout.enter a.awaits :=
      ⟨h.clock, h.proper, h.going, h.ends, h.inTime, h.past, h.seated.enter hroom⟩
    exact hcalled.enter (s := { s with fanout := s.fanout.enter }) hnumbers hfresh htime job
  | false =>
    exact ⟨⟨h.clock, h.proper, h.going, h.ends, h.inTime, h.past, h.seated.queue hroom job⟩, hfresh⟩

theorem Keeping.foldl_ask (jobs : List (ι × Float))
    (h : Keeping p start (fun _ => False) 0 0 a.now s.fanout a.awaits)
    (hfresh : s.fanout.Fresh start a.now) (htime : InTime p start a.now) :
    Keeping p start (fun _ => False) 0 0 a.now
        (jobs.foldl (fun x entry => Race.ask p entry.1 x) (s, a)).1.fanout
        (jobs.foldl (fun x entry => Race.ask p entry.1 x) (s, a)).2.awaits ∧
      (jobs.foldl (fun x entry => Race.ask p entry.1 x) (s, a)).1.fanout.Fresh start a.now := by
  induction jobs generalizing s a with
  | nil => exact ⟨h, hfresh⟩
  | cons entry rest ih =>
    obtain ⟨hasked, hstill⟩ := h.ask hnumbers hfresh htime entry.1
    have hnow : (Race.ask p entry.1 (s, a)).2.now = a.now := (adds_ask p entry.1).now s a
    have hrest := ih (s := (Race.ask p entry.1 (s, a)).1) (a := (Race.ask p entry.1 (s, a)).2)
    rw [hnow] at hrest
    exact hrest hasked hstill htime

omit hnumbers

/-! ## Steps of an index side at work -/

/-- What waits besides a turn that is had. -/
theorem Keeping.tail {fanout : Fanout ι} {entry : Float × Turn ι}
    {awaited : Multiset (Float × Turn ι)}
    (h : Keeping p start (fun _ => False) 0 0 now fanout (entry ::ₘ awaited)) :
    Keeping p start (fun begun => entry.2 = .finish begun.2)
      (if entry.2.isCalled = true then 1 else 0) (if entry.2.isEnd = true then 1 else 0)
      now fanout awaited := by
  refine ⟨h.clock, fun other hother => h.proper other (Multiset.mem_cons_of_mem hother), ?_, h.ends,
    h.inTime, h.past, ?_⟩
  · intro begun hbegun hgoing hother
    obtain ⟨hmem, hpassed⟩ := h.going begun hbegun hgoing not_false
    rcases Multiset.mem_cons.mp hmem with heq | hmem
    · exact absurd (congrArg Prod.snd heq).symm hother
    · exact ⟨hmem, hpassed⟩
  · have hseated := h.seated
    rw [callsIn_cons, endsIn_cons] at hseated
    exact hseated

/-- Turns of jobs leave the time limit alone. -/
theorem limit_act {turn : Turn ι} {moment : Float} (hturn : turn ≠ .closeIndex)
    (h : ∀ seconds, p.timeout = some seconds →
      (start + seconds, .closeIndex) ∈ (moment, turn) ::ₘ a.awaits) :
    ∀ seconds, p.timeout = some seconds →
      (start + seconds, .closeIndex) ∈ (Race.act p turn (s, a)).2.awaits := by
  intro seconds htimeout
  have hadds : (Race.act p turn (s, a)).2.awaits =
      a.awaits + (Race.act p turn (s, { now := a.now })).2.awaits := (additive p turn).awaits s a
  rw [hadds]
  rcases Multiset.mem_cons.mp (h seconds htimeout) with heq | hmem
  · exact absurd (congrArg Prod.snd heq).symm hturn
  · exact Multiset.mem_add.mpr (Or.inl hmem)

/-- If a job seeks a place, the places that are left have just become free. -/
theorem Working.fresh {fanout : Fanout ι} {awaited : Multiset (Float × Turn ι)}
    (h : Working p start now fanout awaited) (hseeks : ¬ Idle fanout awaited) :
    fanout.Fresh start now :=
  h.next.resolve_right hseeks

omit [DecidableEq ι] in
/-- If nobody stands in line when a job ends, nobody is called. -/
theorem Idle.finish {entry : Float × Turn ι} (h : Idle s.fanout (entry ::ₘ a.awaits)) (job : ι) :
    Idle (Race.finish p job (s, a)).1.fanout (Race.finish p job (s, a)).2.awaits := by
  obtain ⟨hline, hquiet⟩ := h
  have hleave : (s.fanout.leave a.now job).1 = none ∧ (s.fanout.leave a.now job).2.line = [] := by
    unfold Fanout.leave
    rw [hline]
    exact ⟨rfl, rfl⟩
  obtain ⟨more, hawaits, hmore, hcalls⟩ := exists_awaits_finish p job (s, a)
  rw [hleave.1] at hcalls
  refine ⟨hleave.2, ?_⟩
  intro other hother
  rw [hawaits] at hother
  rcases Multiset.mem_add.mp hother with hnew | hold
  · rcases hmore other hnew with rfl | ⟨called, rfl⟩
    · rfl
    · exact absurd rfl (Multiset.countP_eq_zero.mp hcalls _ hnew)
  · exact hquiet other (Multiset.mem_cons_of_mem hold)

/-- The turn of a job keeps an index side at work going. -/
theorem Working.act_job (hnumbers : p.Numbers start) {moment : Float} {turn : Turn ι} {job : ι}
    (hjob : turn.job? = some job) (hopen : s.indexOpen = true)
    (h : Working p start a.now s.fanout ((moment, turn) ::ₘ a.awaits))
    (hdue : Agenda.isDue a.now moment = true) :
    Working p start a.now (Race.act p turn (s, a)).1.fanout (Race.act p turn (s, a)).2.awaits := by
  have hlimit := limit_act (s := s) (by rintro rfl; cases hjob) h.limit
  have htail := h.keeping.tail
  have hseeks : turn.isSeeking = true → s.fanout.Fresh start a.now := fun hseeking =>
    h.fresh fun hidle => by
      have hquiet := hidle.2 (moment, turn) (Multiset.mem_cons_self _ _)
      exact absurd hseeking (by simp [hquiet])
  cases turn with
  | ask other =>
    have hasked := Keeping.ask (s := s) (a := a) hnumbers
      (htail.but_mono fun entry heq => by cases heq) (hseeks rfl) h.inTime other
    simp only [Race.act, hopen, if_true] at hlimit ⊢
    exact ⟨hasked.1, hlimit, Or.inl hasked.2⟩
  | enter other =>
    have hentered := Keeping.enter (s := s) (a := a) hnumbers
      (htail.but_mono fun entry heq => by cases heq) (hseeks rfl) h.inTime other
    simp only [Race.act, hopen, if_true] at hlimit ⊢
    exact ⟨hentered.1, hlimit, Or.inl hentered.2⟩
  | finish other =>
    obtain ⟨begun, hbegun, hmoment, hpassed⟩ :=
      h.keeping.proper (moment, .finish other) (Multiset.mem_cons_self _ _)
    have honTime : OnTime begun (endOf p begun other) a.now :=
      ⟨h.keeping.clock, hmoment ▸ hdue, hmoment ▸ hpassed⟩
    have hfinished := Keeping.finish (s := s) (a := a)
      (htail.but_mono fun entry heq => (Turn.finish.inj heq).symm) h.inTime hbegun honTime
    simp only [Race.act, hopen, if_true] at hlimit ⊢
    refine ⟨hfinished, hlimit, ?_⟩
    exact h.next.imp (fun hfresh => hfresh.leave other) fun hidle => hidle.finish other
  | openIndex => cases hjob
  | closeIndex => cases hjob
  | breakOff => cases hjob
  | openSource => cases hjob
  | proceed => cases hjob
  | closeSource => cases hjob

/-- Those who seek a place have their turns before the clock goes on. -/
theorem Working.quiet {fanout : Fanout ι} {awaited : Multiset (Float × Turn ι)} {later : Float}
    (h : Working p start now fanout awaited) (hlater : now < later)
    (hpassed : ∀ entry ∈ awaited, ¬ entry.1 < later) :
    ∀ entry ∈ awaited, entry.2.isSeeking = false := by
  rintro ⟨moment, turn⟩ hentry
  have hproper := h.keeping.proper _ hentry
  have hstays := hpassed _ hentry
  cases turn with
  | ask job =>
    obtain ⟨hmoment, hstart⟩ := hproper
    refine absurd ?_ hstays
    rw [hmoment, ← hstart]
    exact hlater
  | enter job =>
    refine absurd ?_ hstays
    rw [show moment = now from hproper]
    exact hlater
  | openIndex => rfl
  | finish job => rfl
  | closeIndex => rfl
  | breakOff => rfl
  | openSource => rfl
  | proceed => rfl
  | closeSource => rfl

/-- What seeks no place and is not passed by waits for its proper moment as the clock goes on. -/
theorem Proper.wait {fanout : Fanout ι} {entry : Float × Turn ι} {later : Float}
    (h : Proper p start now fanout entry) (hquiet : entry.2.isSeeking = false)
    (hpassed : ¬ entry.1 < later) : Proper p start later fanout entry := by
  obtain ⟨moment, turn⟩ := entry
  cases turn with
  | ask job => cases hquiet
  | enter job => cases hquiet
  | finish job =>
    obtain ⟨begun, hbegun, hmoment, _⟩ := h
    exact ⟨begun, hbegun, hmoment, Or.inr hpassed⟩
  | closeIndex =>
    obtain ⟨seconds, htimeout, hmoment, _⟩ := h
    exact ⟨seconds, htimeout, hmoment, Or.inr hpassed⟩
  | openIndex => exact h
  | breakOff => trivial
  | openSource => trivial
  | proceed => trivial
  | closeSource => trivial

/-- As the clock goes on, an index side at work keeps going: nobody was left waiting for a place
that is free. -/
theorem Working.wait {fanout : Fanout ι} {awaited : Multiset (Float × Turn ι)} {later : Float}
    (h : Working p start now fanout awaited) (hlater : now < later)
    (hpassed : ∀ entry ∈ awaited, ¬ entry.1 < later) :
    Working p start later fanout awaited := by
  have hquiet := h.quiet hlater hpassed
  have hnow := h.keeping.clock
  have hplain := hnow.of_lt hlater
  refine ⟨⟨hplain, ?_, ?_, h.keeping.ends, h.keeping.inTime, ?_, h.keeping.seated⟩, h.limit, ?_⟩
  · intro entry hentry
    exact (h.keeping.proper entry hentry).wait (hquiet entry hentry) (hpassed entry hentry)
  · intro entry hentry hgoing _
    have hmem := (h.keeping.going entry hentry hgoing not_false).1
    have hstays := hpassed (endOf p entry.1 entry.2, .finish entry.2) hmem
    exact ⟨hmem, Or.inr hstays⟩
  · intro entry hentry
    obtain ⟨hentry, hpast⟩ := h.keeping.past entry hentry
    exact ⟨hentry, Number.not_lt_trans hentry.isOrderly hnow.isOrderly hplain.isOrderly hpast
      (Number.not_lt_of_lt hnow.isOrderly hplain.isOrderly hlater)⟩
  · by_cases hline : fanout.line = []
    · exact Or.inr ⟨hline, hquiet⟩
    · -- with someone in line and nobody called, all places are taken
      refine Or.inl fun k hk t ht => ?_
      have hcalls : callsIn awaited = 0 := by
        refine Multiset.countP_eq_zero.mpr ?_
        intro entry hentry hcalled
        have hseeks := Turn.isSeeking_of_isCalled hcalled
        rw [hquiet entry hentry] at hseeks
        cases hseeks
      have hseated := h.keeping.seated
      rw [hcalls] at hseated
      rw [hseated.place?_eq_none hline hk] at ht
      cases ht

end Steps

end Race

end EntitySearch

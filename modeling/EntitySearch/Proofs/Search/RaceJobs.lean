import EntitySearch.Proofs.Search.RaceTurns
/-!
# The jobs of a search

While the index side is at work every job is accounted for: it is about to ask for a place, has one,
stands in line or has ended, and someone has a place as long as there is a line (`Race.Accounted`).
A search therefore cannot run out of turns before its index side is done
(`Race.Accounted.closed_of_idle`).
-/

namespace EntitySearch

namespace Turn

variable {ι : Type}

/-- The job that takes its turn. -/
def job? : Turn ι → Option ι
  | .ask job | .enter job | .finish job => some job
  | _ => none

/-- Whether a turn is that of a job that has a place. -/
def isInside : Turn ι → Bool
  | .enter _ | .finish _ => true
  | _ => false

end Turn

namespace Race

variable {ι ρ : Type} [DecidableEq ι]

/-! ## Turns of jobs -/

/-- How many turns of a job are pending. -/
def turnsOf (pending : Multiset (Turn ι)) (job : ι) : Nat :=
  pending.countP fun turn => turn.job? = some job

omit [DecidableEq ι] in
/-- How many jobs with a place have a turn pending. -/
def insiders (pending : Multiset (Turn ι)) : Nat := pending.countP fun turn => turn.isInside = true

@[simp] theorem turnsOf_zero (job : ι) : turnsOf 0 job = 0 := rfl

@[simp] theorem turnsOf_cons (turn : Turn ι) (pending : Multiset (Turn ι)) (job : ι) :
    turnsOf (turn ::ₘ pending) job =
      turnsOf pending job + if turn.job? = some job then 1 else 0 :=
  Multiset.countP_cons _ _ _

omit [DecidableEq ι] in
@[simp] theorem insiders_zero : insiders (0 : Multiset (Turn ι)) = 0 := rfl

omit [DecidableEq ι] in
@[simp] theorem insiders_cons (turn : Turn ι) (pending : Multiset (Turn ι)) :
    insiders (turn ::ₘ pending) = insiders pending + if turn.isInside = true then 1 else 0 :=
  Multiset.countP_cons _ _ _

omit [DecidableEq ι] in
/-- The pending turns of the index side. -/
def indexTurns (pending : Multiset (Turn ι)) : Multiset (Turn ι) :=
  pending.filter fun turn => turn.isIndex = true

omit [DecidableEq ι] in
theorem mem_indexTurns {turn : Turn ι} {pending : Multiset (Turn ι)} :
    turn ∈ indexTurns pending ↔ turn ∈ pending ∧ turn.isIndex = true :=
  Multiset.mem_filter

omit [DecidableEq ι] in
theorem indexTurns_cons_of_pos {turn : Turn ι} (h : turn.isIndex = true)
    (pending : Multiset (Turn ι)) :
    indexTurns (turn ::ₘ pending) = turn ::ₘ indexTurns pending :=
  Multiset.filter_cons_of_pos _ h

omit [DecidableEq ι] in
theorem indexTurns_cons_of_neg {turn : Turn ι} (h : turn.isIndex = false)
    (pending : Multiset (Turn ι)) : indexTurns (turn ::ₘ pending) = indexTurns pending :=
  Multiset.filter_cons_of_neg _ (by simp [h])

/-! ## Jobs are accounted for -/

/-- How often a job is about to ask, has a place, stands in line or has ended. -/
def stations (x : Race ι ρ) (pending : Multiset (Turn ι)) (job : ι) : Nat :=
  turnsOf pending job + x.fanout.line.count job + (x.fanout.ended.map Prod.snd).count job

variable (p : RacePlan ι)

/-- Jobs are accounted for as often as is said, places are counted but for so many, and the line
waits for someone; the index side is at work as long as jobs have not ended. -/
structure Accounted (owed : ι → Nat) (out : Nat) (x : Race ι ρ) (pending : Multiset (Turn ι)) :
    Prop where
  stations : ∀ job, stations x pending job = owed job
  inside : x.fanout.inside = insiders pending + out
  line : x.fanout.line ≠ [] → 0 < x.fanout.inside
  atWork : x.indexOpen = decide (x.fanout.ended.length < p.jobs.length)
  bound : x.fanout.bound = p.bound

/-- As often as before, and one job once more. -/
def oneMore (owed : ι → Nat) (job : ι) : ι → Nat :=
  fun other => owed other + if job = other then 1 else 0

variable {p} {owed : ι → Nat} {x : State ι ρ}

/-- A job that has its place ends. -/
theorem Accounted.finish (h : Accounted p owed 1 x.1 x.2.pending) (job : ι) :
    Accounted p (oneMore owed job) 0 (Race.finish p job x).1 (Race.finish p job x).2.pending := by
  obtain ⟨⟨⟨bound, inside, line, started, ended⟩, isOpen, source, broken⟩, a⟩ := x
  obtain ⟨hstations, hinside, hline, _, hbound⟩ := h
  simp only [Race.stations] at hstations hinside hline hbound
  unfold Race.finish
  cases line with
  | nil =>
    -- nobody is in line, and the place is free again
    refine ⟨?_, ?_, ?_, rfl, hbound⟩
    · intro other
      rw [oneMore, ← hstations other]
      cases p.breaksOff job <;>
        simp [Race.stations, Fanout.leave, Turn.job?, List.count_cons, Nat.add_assoc]
    · cases p.breaksOff job <;> simp [Fanout.leave, hinside, Turn.isInside]
    · simp [Fanout.leave]
  | cons first rest =>
    -- the place goes to the first in line, whose turn becomes pending
    refine ⟨?_, ?_, ?_, rfl, hbound⟩
    · intro other
      rw [oneMore, ← hstations other]
      cases p.breaksOff job <;>
        simp [Race.stations, Fanout.leave, Turn.job?, List.count_cons] <;> omega
    · cases p.breaksOff job <;> simp [Fanout.leave, hinside, Turn.isInside]
    · intro _
      exact hline (by simp)

/-- A job that has been given a place begins. -/
theorem Accounted.enter (h : Accounted p owed 1 x.1 x.2.pending) (job : ι) :
    Accounted p (oneMore owed job) 0 (Race.enter p job x).1 (Race.enter p job x).2.pending := by
  have hstarted : Accounted p owed 1
      ({ x.1 with fanout := x.1.fanout.start x.2.now job } : Race ι ρ) x.2.pending :=
    ⟨h.stations, h.inside, h.line, h.atWork, h.bound⟩
  unfold Race.enter
  simp only
  split
  · exact Accounted.finish (x := (_, x.2)) hstarted job
  · -- it keeps its place while its end is pending
    refine ⟨?_, ?_, h.line, h.atWork, h.bound⟩
    · intro other
      rw [oneMore, ← h.stations other, Agenda.pending_rest]
      simp [Race.stations, Fanout.start, Turn.job?]
      omega
    · rw [Agenda.pending_rest, insiders_cons]
      exact h.inside

/-- A job asks for a place, and either has it or stands in line. -/
theorem Accounted.ask (h : Accounted p owed 0 x.1 x.2.pending)
    (hbound : p.bound ≠ some 0) (job : ι) :
    Accounted p (oneMore owed job) 0 (Race.ask p job x).1 (Race.ask p job x).2.pending := by
  unfold Race.ask
  split
  · have hentered : Accounted p owed 1
        ({ x.1 with fanout := x.1.fanout.enter } : Race ι ρ) x.2.pending := by
      refine ⟨h.stations, ?_, fun _ => Nat.succ_pos _, h.atWork, h.bound⟩
      exact congrArg (· + 1) h.inside
    exact Accounted.enter (x := (_, x.2)) hentered job
  · rename_i hroom
    refine ⟨?_, h.inside, ?_, h.atWork, h.bound⟩
    · intro other
      rw [oneMore, ← h.stations other]
      simp [Race.stations, Fanout.queue, List.count_cons]
      omega
    · -- without room someone has a place: the bound is reached or there is a line
      intro _
      by_cases hline : x.1.fanout.line = []
      · simp only [Fanout.hasRoom, hline, List.isEmpty_nil, Bool.and_true] at hroom
        split at hroom
        · exact absurd rfl hroom
        · rename_i b hb
          have hpos : b ≠ 0 := fun hzero => hbound (by rw [← h.bound, hb, hzero])
          simp only [decide_eq_true_eq, not_lt] at hroom
          exact lt_of_lt_of_le (Nat.pos_of_ne_zero hpos) hroom
      · exact h.line hline

/-- How often each job asks. -/
def asked (p : RacePlan ι) (job : ι) : Nat := (p.jobs.map Prod.fst).count job

theorem Accounted.foldl_ask (hbound : p.bound ≠ some 0) (jobs : List (ι × Float))
    (h : Accounted p owed 0 x.1 x.2.pending) :
    Accounted p (fun job => owed job + (jobs.map Prod.fst).count job) 0
      (jobs.foldl (fun x entry => Race.ask p entry.1 x) x).1
      (jobs.foldl (fun x entry => Race.ask p entry.1 x) x).2.pending := by
  induction jobs generalizing owed x with
  | nil => exact h
  | cons entry rest ih =>
    -- what is owed grows by one job at a time
    have hrest := ih (h.ask hbound entry.1)
    refine ⟨?_, hrest.inside, hrest.line, hrest.atWork, hrest.bound⟩
    intro job
    rw [List.foldl_cons, hrest.stations job]
    simp [oneMore, List.count_cons]
    omega

/-- Jobs that have been made ready to ask are accounted for as well. -/
theorem Accounted.foldl_soon {y : Race ι ρ} {a : Agenda (Turn ι)} (jobs : List (ι × Float))
    (h : Accounted p owed 0 y a.pending) :
    Accounted p (fun job => owed job + (jobs.map Prod.fst).count job) 0 y
      (jobs.foldl (fun a entry => a.soon (.ask entry.1)) a).pending := by
  induction jobs generalizing owed a with
  | nil => exact h
  | cons entry rest ih =>
    have hnext : Accounted p (oneMore owed entry.1) 0 y (a.soon (.ask entry.1)).pending := by
      refine ⟨?_, ?_, h.line, h.atWork, h.bound⟩
      · intro job
        rw [oneMore, ← h.stations job, Agenda.pending_soon]
        unfold Race.stations
        rw [turnsOf_cons]
        simp only [Turn.job?, Option.some.injEq]
        omega
      · rw [Agenda.pending_soon, insiders_cons]
        exact h.inside
    have hrest := ih hnext
    refine ⟨?_, hrest.inside, hrest.line, hrest.atWork, hrest.bound⟩
    intro job
    rw [List.foldl_cons, hrest.stations job]
    simp [oneMore, List.count_cons]
    omega

/-- Only turns of the index side count. -/
theorem turnsOf_indexTurns (pending : Multiset (Turn ι)) (job : ι) :
    turnsOf (indexTurns pending) job = turnsOf pending job := by
  unfold turnsOf indexTurns
  rw [Multiset.countP_filter]
  refine Multiset.countP_congr rfl ?_
  intro turn _
  cases turn <;> simp [Turn.job?, Turn.isIndex]

omit [DecidableEq ι] in
theorem insiders_indexTurns (pending : Multiset (Turn ι)) :
    insiders (indexTurns pending) = insiders pending := by
  unfold insiders indexTurns
  rw [Multiset.countP_filter]
  refine Multiset.countP_congr rfl ?_
  intro turn _
  cases turn <;> simp [Turn.isInside, Turn.isIndex]

theorem Accounted.congr {y : Race ι ρ} {pending pending' : Multiset (Turn ι)}
    (h : Accounted p owed 0 y pending) {z : Race ι ρ} (hfanout : z.fanout = y.fanout)
    (hopen : z.indexOpen = y.indexOpen) (hpending : indexTurns pending' = indexTurns pending) :
    Accounted p owed 0 z pending' := by
  refine ⟨?_, ?_, ?_, ?_, ?_⟩
  · intro job
    unfold Race.stations
    rw [hfanout, ← turnsOf_indexTurns pending', hpending, turnsOf_indexTurns]
    exact h.stations job
  · rw [hfanout, ← insiders_indexTurns pending', hpending, insiders_indexTurns]
    exact h.inside
  · rw [hfanout]
    exact h.line
  · rw [hopen, hfanout]
    exact h.atWork
  · rw [hfanout]
    exact h.bound

/-- When all jobs are accounted for and the index side is no longer at work, they have ended. -/
theorem Accounted.all_ended {y : Race ι ρ} {pending : Multiset (Turn ι)}
    (h : Accounted p (asked p) 0 y pending) (hclosed : y.indexOpen = false) :
    ∀ entry ∈ p.jobs, y.fanout.hasEnded entry.1 = true := by
  -- no job has ended more often than it asks, and as many have ended as ask
  have hle : ((y.fanout.ended.map Prod.snd : List ι) : Multiset ι) ≤
      (p.jobs.map Prod.fst : List ι) := by
    rw [Multiset.le_iff_count]
    intro job
    have hjob := h.stations job
    unfold Race.stations asked at hjob
    simp only [Multiset.coe_count]
    omega
  have hcard : p.jobs.length ≤ y.fanout.ended.length := by
    have hwork := h.atWork
    rw [hclosed] at hwork
    simpa using hwork.symm
  have heq := Multiset.eq_of_le_of_card_le hle (by simpa using hcard)
  intro entry hentry
  have hmem : entry.1 ∈ ((y.fanout.ended.map Prod.snd : List ι) : Multiset ι) := by
    rw [heq]
    exact Multiset.mem_coe.mpr (List.mem_map_of_mem hentry)
  obtain ⟨e, he, hjob⟩ := List.mem_map.mp (Multiset.mem_coe.mp hmem)
  exact List.any_eq_true.mpr ⟨e, he, by simp [hjob]⟩

/-- With nothing pending, jobs that are accounted for have ended and the index side is closed. -/
theorem Accounted.closed_of_idle {y : Race ι ρ} (h : Accounted p (asked p) 0 y 0) :
    y.indexOpen = false := by
  -- those in line would wait for a job that has its end pending
  have hline : y.fanout.line = [] := by
    by_contra hne
    have hpos := h.line hne
    rw [h.inside] at hpos
    simp at hpos
  have hcounts : ((y.fanout.ended.map Prod.snd : List ι) : Multiset ι) =
      (p.jobs.map Prod.fst : List ι) := by
    ext job
    have hjob := h.stations job
    unfold Race.stations asked at hjob
    rw [hline] at hjob
    simpa using hjob
  have hlength := congrArg Multiset.card hcounts
  simp only [Multiset.coe_card, List.length_map] at hlength
  rw [h.atWork, hlength]
  simp

/-- A job whose turn has come is accounted for once less. -/
theorem Accounted.take {y : Race ι ρ} {turn : Turn ι} {pending : Multiset (Turn ι)} {job : ι}
    (h : Accounted p owed 0 y (turn ::ₘ pending)) (hjob : turn.job? = some job) :
    Accounted p (Race.stations y pending) (if turn.isInside = true then 1 else 0) y pending ∧
      oneMore (Race.stations y pending) job = owed := by
  refine ⟨⟨fun _ => rfl, ?_, h.line, h.atWork, h.bound⟩, ?_⟩
  · have hinside := h.inside
    rwa [insiders_cons] at hinside
  · funext other
    rw [← h.stations other]
    unfold Race.stations oneMore
    rw [turnsOf_cons, hjob]
    simp only [Option.some.injEq]
    omega

end Race

end EntitySearch

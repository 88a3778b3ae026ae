import EntitySearch.Proofs.Search.RaceTimes
/-!
# Searches are punctual

On every path on the clock the index side has yet to begin, is at work and keeps to the clock, or is
closed and has been punctual (`Race.Stage`, `Race.stage_of_timed`). The search that runs takes such
a path to its end (`Race.run_timed`).
-/

namespace EntitySearch

open Agenda (OnTime)

variable {ι ρ : Type}

namespace Race

variable [DecidableEq ι] {p : RacePlan ι} {start now : Float}

/-! ## Turns of the other side -/

omit [DecidableEq ι] in
/-- What waits for turns of the index side. -/
def indexAwaits (awaited : Multiset (Float × Turn ι)) : Multiset (Float × Turn ι) :=
  awaited.filter fun entry => entry.2.isIndex = true

omit [DecidableEq ι] in
theorem mem_indexAwaits {entry : Float × Turn ι} {awaited : Multiset (Float × Turn ι)} :
    entry ∈ indexAwaits awaited ↔ entry ∈ awaited ∧ entry.2.isIndex = true :=
  Multiset.mem_filter

omit [DecidableEq ι] in
theorem indexAwaits_cons_of_neg {entry : Float × Turn ι} (h : entry.2.isIndex = false)
    (awaited : Multiset (Float × Turn ι)) :
    indexAwaits (entry ::ₘ awaited) = indexAwaits awaited :=
  Multiset.filter_cons_of_neg _ (by simp [h])

omit [DecidableEq ι] in
theorem callsIn_indexAwaits (awaited : Multiset (Float × Turn ι)) :
    callsIn (indexAwaits awaited) = callsIn awaited := by
  unfold callsIn indexAwaits
  rw [Multiset.countP_filter]
  refine Multiset.countP_congr rfl ?_
  rintro ⟨moment, turn⟩ _
  cases turn <;> simp [Turn.isCalled, Turn.isIndex]

omit [DecidableEq ι] in
theorem endsIn_indexAwaits (awaited : Multiset (Float × Turn ι)) :
    endsIn (indexAwaits awaited) = endsIn awaited := by
  unfold endsIn indexAwaits
  rw [Multiset.countP_filter]
  refine Multiset.countP_congr rfl ?_
  rintro ⟨moment, turn⟩ _
  cases turn <;> simp [Turn.isEnd, Turn.isIndex]

/-- Turns of the source, and breaking off, bring about no turns of the index side. -/
theorem indexAwaits_act {turn : Turn ι} (hturn : turn.isIndex = false) (s : Race ι ρ)
    (a : Agenda (Turn ι)) :
    indexAwaits (act p turn (s, a)).2.awaits = indexAwaits a.awaits := by
  have hadds : (act p turn (s, a)).2.awaits =
      a.awaits + (act p turn (s, { now := a.now })).2.awaits := (additive p turn).awaits s a
  have hnone : indexAwaits (act p turn (s, { now := a.now })).2.awaits = 0 := by
    refine Multiset.filter_eq_nil.mpr ?_
    intro entry hentry
    rcases mem_awaits_act_source p hturn _ hentry with
      hold | ⟨_, _, _, _, _, seconds, _, _, rfl⟩ | ⟨_, rfl | ⟨seconds, _, rfl⟩⟩
    · exact absurd hold (Multiset.notMem_zero _)
    · exact Bool.false_ne_true
    · exact Bool.false_ne_true
    · exact Bool.false_ne_true
  unfold indexAwaits at hnone ⊢
  rw [hadds, Multiset.filter_add, hnone, add_zero]

/-- Whether an index side keeps going is up to what waits for turns of it. -/
theorem Working.congr {fanout : Fanout ι} {awaited awaited' : Multiset (Float × Turn ι)}
    (h : Working p start now fanout awaited) (hsame : indexAwaits awaited' = indexAwaits awaited) :
    Working p start now fanout awaited' := by
  have hmem : ∀ entry : Float × Turn ι, entry.2.isIndex = true →
      (entry ∈ awaited' ↔ entry ∈ awaited) := by
    intro entry hindex
    have hiff : entry ∈ indexAwaits awaited' ↔ entry ∈ indexAwaits awaited := by rw [hsame]
    simpa [mem_indexAwaits, hindex] using hiff
  refine ⟨⟨h.keeping.clock, ?_, ?_, h.keeping.ends, h.keeping.inTime, h.keeping.past, ?_⟩, ?_, ?_⟩
  · rintro ⟨moment, turn⟩ hentry
    cases hindex : turn.isIndex with
    | true => exact h.keeping.proper _ ((hmem (moment, turn) hindex).mp hentry)
    | false =>
      cases turn with
      | breakOff => trivial
      | openSource => trivial
      | proceed => trivial
      | closeSource => trivial
      | openIndex => cases hindex
      | ask job => cases hindex
      | enter job => cases hindex
      | finish job => cases hindex
      | closeIndex => cases hindex
  · intro entry hentry hgoing hbut
    obtain ⟨hend, hpassed⟩ := h.keeping.going entry hentry hgoing hbut
    exact ⟨(hmem (endOf p entry.1 entry.2, .finish entry.2) rfl).mpr hend, hpassed⟩
  · rw [← callsIn_indexAwaits, ← endsIn_indexAwaits, hsame, callsIn_indexAwaits,
      endsIn_indexAwaits]
    exact h.keeping.seated
  · intro seconds htimeout
    exact (hmem (start + seconds, .closeIndex) rfl).mpr (h.limit seconds htimeout)
  · refine h.next.imp_right fun hidle => ⟨hidle.1, ?_⟩
    rintro ⟨moment, turn⟩ hentry
    cases hseeks : turn.isSeeking with
    | false => rfl
    | true =>
      have hindex : turn.isIndex = true := by
        cases turn <;> first | rfl | cases hseeks
      exact hseeks.symm.trans (hidle.2 _ ((hmem (moment, turn) hindex).mp hentry))

/-! ## Beginning -/

omit [DecidableEq ι] in
/-- Before any job has begun the places are those that are there at first. -/
theorem fresh_initial (bound : Option ℕ) (start : Float) :
    ({ bound := bound } : Fanout ι).Fresh start start := by
  intro k _ t ht
  unfold Fanout.place? at ht
  cases bound with
  | none => exact (Option.some.inj ht).symm
  | some b =>
    simp only [List.reverse_nil, List.map_nil, List.append_nil] at ht
    exact List.eq_of_mem_replicate (List.mem_of_getElem? ht)

omit [DecidableEq ι] in
theorem seated_initial (bound : Option ℕ) (start : Float) :
    ({ bound := bound } : Fanout ι).Seated start 0 0 := by
  refine ⟨rfl, rfl, fun b _ => Nat.zero_le b, fun hline => absurd rfl hline, ?_⟩
  intro k entry hentry
  simp at hentry

section Beginning

variable {s : Race ι ρ} {a : Agenda (Turn ι)}

/-- When the time limit has been set, no job has begun and nothing else waits. -/
theorem keeping_withLimit (hclock : Number.Plain a.now) (hnow : a.now = start)
    (hnone : indexAwaits a.awaits = 0) :
    Keeping p start (fun _ => False) 0 0 a.now ({ bound := p.bound } : Fanout ι)
      (withLimit p a).awaits := by
  have hcounts : callsIn (withLimit p a).awaits = 0 ∧ endsIn (withLimit p a).awaits = 0 := by
    have hcalls : callsIn a.awaits = 0 := by
      rw [← callsIn_indexAwaits, hnone]
      rfl
    have hends : endsIn a.awaits = 0 := by
      rw [← endsIn_indexAwaits, hnone]
      rfl
    unfold withLimit
    split
    · rw [Agenda.awaits_wait, callsIn_cons, endsIn_cons, hcalls, hends]
      exact ⟨rfl, rfl⟩
    · exact ⟨hcalls, hends⟩
  refine ⟨hclock, ?_, by simp, by simp, by simp, by simp, ?_⟩
  · rintro ⟨moment, turn⟩ hentry
    rcases mem_awaits_withLimit p a hentry with hold | ⟨seconds, htimeout, heq⟩
    · -- what waited before is not of the index side
      have hindex : turn.isIndex = false := by
        by_contra hindex
        have hmem := mem_indexAwaits.mpr ⟨hold, by simpa using hindex⟩
        rw [hnone] at hmem
        exact absurd hmem (Multiset.notMem_zero _)
      cases turn with
      | breakOff => trivial
      | openSource => trivial
      | proceed => trivial
      | closeSource => trivial
      | openIndex => cases hindex
      | ask job => cases hindex
      | enter job => cases hindex
      | finish job => cases hindex
      | closeIndex => cases hindex
    · rw [heq]
      exact ⟨seconds, htimeout, by rw [hnow], Or.inl hnow⟩
  · rw [hcounts.1, hcounts.2]
    exact seated_initial p.bound start

/-- With all jobs about to ask. -/
theorem Keeping.foldl_soon {fanout : Fanout ι} (jobs : List (ι × Float)) (hnow : a.now = start)
    (h : Keeping p start (fun _ => False) 0 0 a.now fanout a.awaits) :
    Keeping p start (fun _ => False) 0 0 a.now fanout
      (jobs.foldl (fun a entry => a.soon (.ask entry.1)) a).awaits := by
  induction jobs generalizing a with
  | nil => exact h
  | cons job rest ih =>
    refine ih (a := a.soon (.ask job.1)) hnow ?_
    rw [Agenda.awaits_soon]
    refine ⟨h.clock, ?_, ?_, h.ends, h.inTime, h.past, ?_⟩
    · intro entry hentry
      rcases Multiset.mem_cons.mp hentry with rfl | hold
      · exact ⟨hnow, hnow⟩
      · exact h.proper entry hold
    · intro entry hentry hgoing hbut
      obtain ⟨hend, hpassed⟩ := h.going entry hentry hgoing hbut
      exact ⟨Multiset.mem_cons_of_mem hend, hpassed⟩
    · rw [callsIn_cons, endsIn_cons]
      exact h.seated

/-- An index side that begins with jobs is at work. -/
theorem working_openIndex (hnumbers : p.Numbers start) (hfails : p.fails = false)
    (hjobs : p.jobs.isEmpty = false) (hfanout : s.fanout = { bound := p.bound })
    (hclock : Number.Plain a.now) (hnow : a.now = start) (hnone : indexAwaits a.awaits = 0) :
    Working p start a.now (openIndex p (s, a)).1.fanout (openIndex p (s, a)).2.awaits := by
  have hnow' : (withLimit p a).now = a.now := (adds_withLimit p).now s a
  have hlimit : ∀ seconds, p.timeout = some seconds →
      (start + seconds, .closeIndex) ∈ (withLimit p a).awaits := by
    intro seconds htimeout
    unfold withLimit
    rw [htimeout, ← hnow]
    simp
  have hkeeping := keeping_withLimit (p := p) hclock hnow hnone
  have hfresh : s.fanout.Fresh start a.now := by
    rw [hfanout, hnow]
    exact fresh_initial p.bound start
  rw [openIndex_eq, if_neg (by simp [hfails]), if_neg (by simp [hjobs])]
  split
  · have htime : InTime p start a.now := fun _ _ => Or.inl hnow
    rw [← hfanout, ← hnow'] at hkeeping
    rw [← hnow'] at hfresh htime
    have hasked := hkeeping.foldl_ask hnumbers (s := s) p.jobs hfresh htime
    rw [hnow'] at hasked
    refine ⟨hasked.1, ?_, Or.inl hasked.2⟩
    -- asking adds to what waits
    intro seconds htimeout
    have hadds := Agenda.Adds.foldl (fun entry : ι × Float => adds_ask (ρ := ρ) p entry.1) p.jobs
    rw [hadds.awaits s (withLimit p a)]
    exact Multiset.mem_add.mpr (Or.inl (hlimit seconds htimeout))
  · rw [hfanout]
    rw [← hnow'] at hkeeping
    have hsoon := hkeeping.foldl_soon p.jobs (hnow'.trans hnow)
    rw [hnow'] at hsoon
    refine ⟨hsoon, ?_, Or.inl (hfanout ▸ hfresh)⟩
    intro seconds htimeout
    rw [awaits_foldl_soon]
    exact Multiset.mem_add.mpr (Or.inl (hlimit seconds htimeout))

end Beginning

/-! ## Ends -/

section Ends

variable {fanout : Fanout ι} {awaited : Multiset (Float × Turn ι)}

/-- An index side at work has been punctual so far. -/
theorem Working.punctual (h : Working p start now fanout awaited)
    (hcloses : (∃ entry ∈ p.jobs, fanout.hasEnded entry.1 = false) → p.fails = true ∨
      ∃ seconds, p.timeout = some seconds ∧
        ∃ moment, OnTime start (start + seconds) moment ∧ ClosedAt p start moment fanout) :
    Punctual p start fanout :=
  ⟨h.keeping.seated.begins, h.keeping.ends, h.keeping.inTime, hcloses⟩

/-- When the time limit has its turn, the index side is closed at its moment. -/
theorem Working.closed {x : Race ι ρ} {moment : Float} {pending : Multiset (Turn ι)}
    (h : Working p start now x.fanout ((moment, .closeIndex) ::ₘ awaited))
    (hdue : Agenda.isDue now moment = true)
    (haccounted : Accounted p (asked p) 0 x pending)
    (hpending : pending = ((moment, .closeIndex) ::ₘ awaited).map Prod.snd) :
    Punctual p start x.fanout := by
  obtain ⟨seconds, htimeout, hmoment, hpassed⟩ :=
    h.keeping.proper _ (Multiset.mem_cons_self _ _)
  simp only at hmoment hpassed
  rw [hmoment] at hdue hpassed
  refine h.punctual fun _ => Or.inr ⟨seconds, htimeout, now,
    ⟨h.keeping.clock, hdue, hpassed⟩, ?_, ?_, ?_⟩
  · intro entry hentry
    exact (h.keeping.past entry hentry).2
  · intro entry hentry hgoing
    exact (h.keeping.going entry hentry hgoing not_false).2
  · -- a job that has not begun stands in line, or is about to ask or to begin
    intro entry hentry hwaits
    refine h.fresh fun hidle => ?_
    have hstations := haccounted.stations entry.1
    have hasks : 0 < asked p entry.1 := List.count_pos_iff.mpr (List.mem_map_of_mem hentry)
    have hended : (x.fanout.ended.map Prod.snd).count entry.1 = 0 := by
      rw [List.count_eq_zero]
      intro hmem
      obtain ⟨ended, hin, heq⟩ := List.mem_map.mp hmem
      obtain ⟨begun, hbegun, _⟩ := h.keeping.ends ended hin
      rw [heq] at hbegun
      exact hwaits begun hbegun
    unfold stations at hstations
    rw [hidle.1, hended, List.count_nil, add_zero, add_zero] at hstations
    rw [← hstations] at hasks
    obtain ⟨turn, hturn, hjob⟩ := Multiset.countP_pos.mp hasks
    rw [hpending, Multiset.mem_map] at hturn
    obtain ⟨waiting, hwaiting, rfl⟩ := hturn
    have hseeks := hidle.2 waiting hwaiting
    have hproper := h.keeping.proper waiting hwaiting
    obtain ⟨due, turn⟩ := waiting
    cases turn with
    | ask job => cases hseeks
    | enter job => cases hseeks
    | finish job =>
      obtain ⟨begun, hbegun, _⟩ := hproper
      rw [Option.some.inj hjob] at hbegun
      exact hwaits begun hbegun
    | openIndex => cases hjob
    | closeIndex => cases hjob
    | breakOff => cases hjob
    | openSource => cases hjob
    | proceed => cases hjob
    | closeSource => cases hjob

end Ends

/-! ## Stages -/

variable (p start)

/-- Where an index side stands on the clock: it has yet to begin, is at work, or is closed and has
been punctual. Its time limit does not pass before it is closed. -/
inductive Stage (turns : List (Float × Turn ι)) (x : Race ι ρ) (now : Float)
    (awaited : Multiset (Float × Turn ι)) : Prop
  | waiting (hopen : x.indexOpen = true) (hfanout : x.fanout = { bound := p.bound })
      (hawaits : indexAwaits awaited = {(start, .openIndex)})
      (hearly : .closeIndex ∉ turns.map Prod.snd)
  | working (hopen : x.indexOpen = true) (h : Working p start now x.fanout awaited)
      (hearly : .closeIndex ∉ turns.map Prod.snd)
  | closed (hclosed : x.indexOpen = false) (h : Punctual p start x.fanout)
      (hbegun : .openIndex ∉ awaited.map Prod.snd)

variable {p start}

section Steps

variable {turns : List (Float × Turn ι)} {s : Race ι ρ} {a : Agenda (Turn ι)} {moment : Float}
  {turn : Turn ι} {awaited : Multiset (Float × Turn ι)}

omit [DecidableEq ι] in
theorem closeIndex_notMem_append (h : .closeIndex ∉ turns.map Prod.snd)
    (hturn : turn ≠ .closeIndex) (now : Float) :
    .closeIndex ∉ (turns ++ [(now, turn)]).map Prod.snd := by
  rw [List.map_append, List.mem_append, not_or]
  refine ⟨h, ?_⟩
  rw [List.map_singleton, List.mem_singleton]
  exact fun heq => hturn heq.symm

/-- Keeping going, an index side is at work or all its jobs have ended. -/
theorem Stage.of_working
    (hphase : Phase p turns s (awaited.map Prod.snd))
    (h : Working p start now s.fanout awaited) (hearly : .closeIndex ∉ turns.map Prod.snd) :
    Stage p start turns s now awaited := by
  have hbegun : .openIndex ∉ awaited.map Prod.snd := by
    intro hmem
    obtain ⟨entry, hentry, hturn⟩ := Multiset.mem_map.mp hmem
    have hproper := h.keeping.proper entry hentry
    unfold Proper at hproper
    rw [hturn] at hproper
    exact hproper
  cases hphase with
  | waiting _ _ hpending =>
    have hmem : Turn.openIndex ∈ indexTurns (awaited.map Prod.snd) := by
      rw [hpending]
      exact Multiset.mem_singleton_self _
    exact absurd (mem_indexTurns.mp hmem).1 hbegun
  | working hopen => exact .working hopen h hearly
  | closed hclosed hdone =>
    refine .closed hclosed (h.punctual ?_) hbegun
    rintro ⟨entry, hentry, hgoing⟩
    rcases hdone with hended | ⟨_, hpassed⟩ | hfails
    · exact absurd (hended entry hentry) (by simp [hgoing])
    · exact absurd hpassed hearly
    · exact Or.inl hfails

/-- A turn of the other side keeps the stage. -/
theorem Stage.act_other (hindex : turn.isIndex = false)
    (h : Stage p start turns s a.now ((moment, turn) ::ₘ a.awaits)) :
    Stage p start (turns ++ [(a.now, turn)]) (Race.act p turn (s, a)).1 a.now
      (Race.act p turn (s, a)).2.awaits := by
  obtain ⟨hsame, hstays, _⟩ := Race.act_other (p := p) hindex (s, a)
  have hkept : indexAwaits (Race.act p turn (s, a)).2.awaits =
      indexAwaits ((moment, turn) ::ₘ a.awaits) := by
    rw [indexAwaits_act hindex]
    exact (indexAwaits_cons_of_neg hindex a.awaits).symm
  have hlate : turn ≠ .closeIndex := by
    rintro rfl
    cases hindex
  cases h with
  | waiting hopen hfanout hawaits hearly =>
    exact .waiting (hstays.trans hopen) (hsame.trans hfanout) (hkept.trans hawaits)
      (closeIndex_notMem_append hearly hlate a.now)
  | working hopen hworking hearly =>
    refine .working (hstays.trans hopen) ?_ (closeIndex_notMem_append hearly hlate a.now)
    rw [hsame]
    exact hworking.congr hkept
  | closed hclosed hpunctual hbegun =>
    rw [Multiset.map_cons, Agenda.map_snd_awaits] at hbegun
    refine .closed (hstays.trans hclosed) (hsame ▸ hpunctual) ?_
    rw [Agenda.map_snd_awaits]
    exact openIndex_notMem_act turn hbegun

/-- When the index side begins it is at work, or closed because it fails or has nothing to do. -/
theorem Stage.begin (hnumbers : p.Numbers start) (hfanout : s.fanout = { bound := p.bound })
    (hclock : Number.Plain a.now) (hnow : a.now = start) (hnone : indexAwaits a.awaits = 0)
    (hafter : Phase p (turns ++ [(a.now, .openIndex)]) (Race.openIndex p (s, a)).1
      ((Race.openIndex p (s, a)).2.awaits.map Prod.snd))
    (hearly : .closeIndex ∉ (turns ++ [(a.now, Turn.openIndex)]).map Prod.snd) :
    Stage p start (turns ++ [(a.now, .openIndex)]) (Race.openIndex p (s, a)).1 a.now
      (Race.openIndex p (s, a)).2.awaits := by
  by_cases hwork : p.fails = true ∨ p.jobs.isEmpty = true
  · have hidle : (Race.openIndex p (s, a)).1.fanout = { bound := p.bound } ∧
        (Race.openIndex p (s, a)).1.indexOpen = false := by
      rw [openIndex_eq]
      split
      · exact ⟨hfanout, rfl⟩
      · rename_i hfails
        rw [if_pos (hwork.resolve_left hfails)]
        exact ⟨hfanout, rfl⟩
    refine .closed hidle.2 ?_ ?_
    · rw [hidle.1]
      refine ⟨(seated_initial p.bound start).begins, by simp, by simp, ?_⟩
      rintro ⟨entry, hentry, _⟩
      refine Or.inl (hwork.resolve_right ?_)
      intro hempty
      rw [List.isEmpty_iff.mp hempty] at hentry
      cases hentry
    · cases hafter with
      | waiting hopen => exact absurd (hidle.2.symm.trans hopen) (by simp)
      | working hopen => exact absurd (hidle.2.symm.trans hopen) (by simp)
      | closed _ _ hbegun => exact hbegun
  · rw [not_or, Bool.not_eq_true, Bool.not_eq_true] at hwork
    exact .of_working hafter
      (working_openIndex hnumbers hwork.1 hwork.2 hfanout hclock hnow hnone) hearly

omit [DecidableEq ι] in
/-- The turn that an index side waits for before it begins is its beginning. -/
theorem begins_of_waiting (hindex : turn.isIndex = true)
    (hawaits : indexAwaits ((moment, turn) ::ₘ awaited) = {(start, .openIndex)}) :
    moment = start ∧ turn = .openIndex ∧ indexAwaits awaited = 0 := by
  have hcons : (moment, turn) ::ₘ indexAwaits awaited = {(start, .openIndex)} := by
    rw [← hawaits]
    exact (Multiset.filter_cons_of_pos awaited hindex).symm
  have hmem : (moment, turn) ∈ ({(start, .openIndex)} : Multiset (Float × Turn ι)) := by
    rw [← hcons]
    exact Multiset.mem_cons_self _ _
  obtain ⟨rfl, rfl⟩ := Prod.mk.inj (Multiset.mem_singleton.mp hmem)
  exact ⟨rfl, rfl, (Multiset.cons_inj_right _).mp (hcons.trans (Multiset.cons_zero _).symm)⟩

/-- The time limit passes while the jobs are accounted for. -/
theorem Stage.close (hphase : Phase p turns s (.closeIndex ::ₘ a.pending))
    (hopen : s.indexOpen = true)
    (h : Working p start a.now s.fanout ((moment, .closeIndex) ::ₘ a.awaits))
    (hdue : Agenda.isDue a.now moment = true) :
    Stage p start (turns ++ [(a.now, .closeIndex)]) { s with indexOpen := false } a.now
      a.awaits := by
  cases hphase with
  | waiting _ _ hpending =>
    have hmem := mem_indexTurns.mpr ⟨Multiset.mem_cons_self Turn.closeIndex a.pending, rfl⟩
    rw [hpending, Multiset.mem_singleton] at hmem
    cases hmem
  | closed hclosed => exact absurd hopen (by simp [hclosed])
  | working _ hjobs hbegun =>
    refine .closed rfl (h.closed hdue hjobs ?_) ?_
    · rw [Multiset.map_cons, Agenda.map_snd_awaits]
    · rw [Agenda.map_snd_awaits]
      exact fun hmem => hbegun (Multiset.mem_cons_of_mem hmem)

/-- Every turn that comes when it is due keeps the stage. -/
theorem Stage.act (hbound : p.bound ≠ some 0) (hnumbers : p.Numbers start)
    (hnumbered : Numbered start a.now s ((moment, turn) ::ₘ a.awaits))
    (hphase : Phase p turns s (turn ::ₘ a.pending))
    (h : Stage p start turns s a.now ((moment, turn) ::ₘ a.awaits))
    (hdue : Agenda.isDue a.now moment = true) :
    Stage p start (turns ++ [(a.now, turn)]) (Race.act p turn (s, a)).1 a.now
      (Race.act p turn (s, a)).2.awaits := by
  have hafter : Phase p (turns ++ [(a.now, turn)]) (Race.act p turn (s, a)).1
      ((Race.act p turn (s, a)).2.awaits.map Prod.snd) := by
    rw [Agenda.map_snd_awaits]
    exact hphase.act hbound
  cases hindex : turn.isIndex with
  | false => exact h.act_other hindex
  | true =>
    cases h with
    | waiting hopen hfanout hawaits hearly =>
      obtain ⟨rfl, rfl, hnone⟩ := begins_of_waiting hindex hawaits
      have hnow := (hnumbered.beginning _ (Multiset.mem_cons_self _ _) (Or.inl rfl)).2
      refine .begin hnumbers hfanout hnumbered.clock hnow hnone hafter ?_
      exact closeIndex_notMem_append hearly (by rintro ⟨⟩) a.now
    | working hopen hworking hearly =>
      cases hjob : turn.job? with
      | some job =>
        refine .of_working hafter (hworking.act_job hnumbers hjob hopen hdue) ?_
        exact closeIndex_notMem_append hearly (by rintro rfl; cases hjob) a.now
      | none =>
        cases turn with
        | openIndex => exact (hworking.keeping.proper _ (Multiset.mem_cons_self _ _)).elim
        | closeIndex => exact .close hphase hopen hworking hdue
        | ask job => cases hjob
        | enter job => cases hjob
        | finish job => cases hjob
        | breakOff => cases hindex
        | openSource => cases hindex
        | proceed => cases hindex
        | closeSource => cases hindex
    | closed hclosed hpunctual hbegun =>
      rw [Multiset.map_cons, Agenda.map_snd_awaits] at hbegun
      have hturn : turn ≠ .openIndex := by
        rintro rfl
        exact hbegun (Multiset.mem_cons_self _ _)
      obtain ⟨hsame, hstays⟩ := act_closed (p := p) hclosed hturn a
      refine .closed hstays (hsame ▸ hpunctual) ?_
      rw [Agenda.map_snd_awaits]
      exact openIndex_notMem_act turn hbegun

/-- The stage stays as the clock goes on. -/
theorem Stage.wait {later : Float} (h : Stage p start turns s now awaited) (hlater : now < later)
    (hpassed : ∀ entry ∈ awaited, ¬ entry.1 < later) : Stage p start turns s later awaited := by
  cases h with
  | waiting hopen hfanout hawaits hearly => exact .waiting hopen hfanout hawaits hearly
  | working hopen hworking hearly => exact .working hopen (hworking.wait hlater hpassed) hearly
  | closed hclosed hpunctual hbegun => exact .closed hclosed hpunctual hbegun

/-- Dropping what no longer matters keeps the stage. -/
theorem Stage.drop (h : Stage p start turns s now ((moment, turn) ::ₘ awaited))
    (hstale : isStale s turn = true) : Stage p start turns s now awaited := by
  -- turns of the index side matter as long as it is at work
  have hother : s.indexOpen = true → turn.isIndex = false := by
    intro hopen
    cases turn <;> simp_all [isStale, Turn.isIndex]
  cases h with
  | waiting hopen hfanout hawaits hearly =>
    refine .waiting hopen hfanout ?_ hearly
    rw [← hawaits]
    exact (indexAwaits_cons_of_neg (hother hopen) awaited).symm
  | working hopen hworking hearly =>
    refine .working hopen (hworking.congr ?_) hearly
    exact (indexAwaits_cons_of_neg (hother hopen) awaited).symm
  | closed hclosed hpunctual hbegun =>
    refine .closed hclosed hpunctual fun hmem => hbegun ?_
    rw [Multiset.map_cons]
    exact Multiset.mem_cons_of_mem hmem

end Steps

/-! ## Paths and runs -/

section Paths

variable (hbound : p.bound ≠ some 0) (hnumbers : p.Numbers start)
  {source : Option (SourceSide ρ)} (hsource : ∀ side ∈ source, side.Numbers)

include hbound hnumbers hsource

theorem stage_of_timed {turns : List (Float × Turn ι)} {y : Race ι ρ}
    {awaited : Multiset (Float × Turn ι)} (h : Timed p source start turns y now awaited) :
    Stage p start turns y now awaited := by
  refine Agenda.Timed.invariant (additive p) (I := Stage p start) ?_ ?_ ?_ ?_ h
  · refine .waiting rfl rfl ?_ (by simp)
    cases source <;> rfl
  · intro turns s now awaited later _ hstage hlater hpassed
    exact hstage.wait hlater hpassed
  · intro turns s a moment turn hpath hstage hdue
    have hphase := phase_of_path hbound (Timed.path hpath)
    rw [Multiset.map_cons, Agenda.map_snd_awaits] at hphase
    exact hstage.act hbound hnumbers (numbered_of_timed hnumbers hsource hpath) hphase hdue
  · intro turns s now moment turn others hstage hstale
    exact hstage.drop hstale

/-- On every path on the clock an index side that is closed has been punctual. -/
theorem punctual_of_timed {turns : List (Float × Turn ι)} {y : Race ι ρ}
    {awaited : Multiset (Float × Turn ι)} (h : Timed p source start turns y now awaited)
    (hclosed : y.indexOpen = false) : Punctual p start y.fanout := by
  cases stage_of_timed hbound hnumbers hsource h with
  | waiting hopen => exact absurd hopen (by simp [hclosed])
  | working hopen => exact absurd hopen (by simp [hclosed])
  | closed _ hpunctual => exact hpunctual

end Paths

end Race

end EntitySearch

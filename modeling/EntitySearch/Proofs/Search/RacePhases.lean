import EntitySearch.Proofs.Search.RaceJobs
/-!
# Where a search stands

On every path the index side has yet to begin, is at work, or is closed because all jobs have ended,
the time limit has passed, or it has failed as it began (`Race.Phase`, `Race.phase_of_path`).
-/

namespace EntitySearch

namespace Race

variable {ι ρ : Type} [DecidableEq ι] {p : RacePlan ι}

/-! ## What comes of turns -/

/-- What may become pending: no side begins again, a time limit passes only if there is one, and the
search is broken off only if the plan says so. -/
structure Begets (p : RacePlan ι) (turn : Turn ι) : Prop where
  notIndex : turn ≠ .openIndex
  notSource : turn ≠ .openSource
  limit : turn = .closeIndex → p.timeout.isSome = true
  breaks : turn = .breakOff → p.fails = true ∨ ∃ job, p.breaksOff job = true
  sourceLimit : turn = .closeSource → p.timeout.isSome = true

section Pending

variable (p) {turn : Turn ι}

omit [DecidableEq ι] in
theorem mem_pending_finish (job : ι) (x : State ι ρ) (h : turn ∈ (finish p job x).2.pending) :
    turn ∈ x.2.pending ∨ Begets p turn := by
  -- the search may be broken off after the first in line is called
  have hbroken : ∀ agenda : Agenda (Turn ι),
      turn ∈ (if p.breaksOff job then agenda.soon .breakOff else agenda).pending →
        turn ∈ agenda.pending ∨ Begets p turn := by
    intro agenda hmem
    split at hmem
    · rename_i hbreaks
      rw [Agenda.pending_soon, Multiset.mem_cons] at hmem
      rcases hmem with rfl | hold
      · exact Or.inr ⟨by simp, by simp, by simp, fun _ => Or.inr ⟨job, hbreaks⟩, by simp⟩
      · exact Or.inl hold
    · exact Or.inl hmem
  unfold finish at h
  rcases hleave : x.1.fanout.leave x.2.now job with ⟨_ | other, fanout⟩
  · simp only [hleave] at h
    exact hbroken _ h
  · simp only [hleave] at h
    rcases hbroken _ h with hcalled | hbegets
    · rw [Agenda.pending_soon, Multiset.mem_cons] at hcalled
      rcases hcalled with rfl | hold
      · exact Or.inr ⟨by simp, by simp, by simp, by simp, by simp⟩
      · exact Or.inl hold
    · exact Or.inr hbegets

theorem mem_pending_enter (job : ι) (x : State ι ρ) (h : turn ∈ (enter p job x).2.pending) :
    turn ∈ x.2.pending ∨ Begets p turn := by
  unfold enter at h
  simp only at h
  split at h
  · have hmem := mem_pending_finish p job _ h
    exact hmem
  · rw [Agenda.pending_rest, Multiset.mem_cons] at h
    rcases h with rfl | hold
    · exact Or.inr ⟨by simp, by simp, by simp, by simp, by simp⟩
    · exact Or.inl hold

theorem mem_pending_ask (job : ι) (x : State ι ρ) (h : turn ∈ (ask p job x).2.pending) :
    turn ∈ x.2.pending ∨ Begets p turn := by
  unfold ask at h
  split at h
  · have hmem := mem_pending_enter p job _ h
    exact hmem
  · exact Or.inl h

theorem mem_pending_foldl_ask (jobs : List (ι × Float)) (x : State ι ρ)
    (h : turn ∈ (jobs.foldl (fun x entry => ask p entry.1 x) x).2.pending) :
    turn ∈ x.2.pending ∨ Begets p turn := by
  induction jobs generalizing x with
  | nil => exact Or.inl h
  | cons entry rest ih =>
    rcases ih (ask p entry.1 x) h with hmid | hnew
    · exact mem_pending_ask p entry.1 x hmid
    · exact Or.inr hnew

theorem mem_pending_openIndex (x : State ι ρ) (h : turn ∈ (openIndex p x).2.pending) :
    turn ∈ x.2.pending ∨ Begets p turn := by
  -- the time limit is set before any job asks
  have hlimit : turn ∈ (withLimit p x.2).pending → turn ∈ x.2.pending ∨ Begets p turn := by
    intro hmem
    unfold withLimit at hmem
    split at hmem
    · rename_i seconds htimeout
      rw [Agenda.pending_wait, Multiset.mem_cons] at hmem
      rcases hmem with rfl | hold
      · exact Or.inr ⟨by simp, by simp, fun _ => by simp [htimeout], by simp, by simp⟩
      · exact Or.inl hold
    · exact Or.inl hmem
  rw [openIndex_eq] at h
  split at h
  · rename_i hfails
    simp only [Agenda.pending_soon, Multiset.mem_cons] at h
    rcases h with rfl | hold
    · exact Or.inr ⟨by simp, by simp, by simp, fun _ => Or.inl hfails, by simp⟩
    · exact Or.inl hold
  · split at h
    · exact Or.inl h
    · split at h
      · rcases mem_pending_foldl_ask p p.jobs _ h with hmid | hnew
        · exact hlimit hmid
        · exact Or.inr hnew
      · rw [pending_foldl_soon, Multiset.mem_add] at h
        rcases h with hmid | hnew
        · exact hlimit hmid
        · obtain ⟨entry, _, rfl⟩ := List.mem_map.mp (Multiset.mem_coe.mp hnew)
          exact Or.inr ⟨by simp, by simp, by simp, by simp, by simp⟩

omit [DecidableEq ι] in
/-- The turns of the source make turns of the source pending. -/
theorem mem_pending_proceed (x : State ι ρ) (h : turn ∈ (proceed x).2.pending) :
    turn ∈ x.2.pending ∨ turn = .proceed := by
  unfold proceed at h
  split at h
  · split at h
    · exact Or.inl h
    · rw [Agenda.pending_rest, Multiset.mem_cons] at h
      exact h.symm
  · exact Or.inl h

omit [DecidableEq ι] in
theorem mem_pending_openSource (x : State ι ρ) (h : turn ∈ (openSource p x).2.pending) :
    turn ∈ x.2.pending ∨ turn = .proceed ∨
      turn = .closeSource ∧ p.timeout.isSome = true := by
  unfold openSource at h
  split at h
  · rcases mem_pending_proceed x h with hold | hnew
    · exact Or.inl hold
    · exact Or.inr (Or.inl hnew)
  · rename_i seconds htimeout
    simp only [Agenda.pending_soon, Agenda.pending_wait, Multiset.mem_cons] at h
    rcases h with hproceed | hclose | hold
    · exact Or.inr (Or.inl hproceed)
    · exact Or.inr (Or.inr ⟨hclose, by simp [htimeout]⟩)
    · exact Or.inl hold

theorem mem_pending_act (doing : Turn ι) (x : State ι ρ) (h : turn ∈ (act p doing x).2.pending) :
    turn ∈ x.2.pending ∨ Begets p turn := by
  -- turns of the source begin neither side
  have hproceed : Begets p .proceed := ⟨by simp, by simp, by simp, by simp, by simp⟩
  cases doing with
  | openIndex => exact mem_pending_openIndex p x h
  | ask job =>
    simp only [act] at h
    split at h
    · exact mem_pending_ask p job x h
    · exact Or.inl h
  | enter job =>
    simp only [act] at h
    split at h
    · exact mem_pending_enter p job x h
    · exact Or.inl h
  | finish job =>
    simp only [act] at h
    split at h
    · exact mem_pending_finish p job x h
    · exact Or.inl h
  | closeIndex => exact Or.inl h
  | breakOff => exact Or.inl h
  | openSource =>
    rcases mem_pending_openSource p x h with hold | rfl | ⟨rfl, hlimit⟩
    · exact Or.inl hold
    · exact Or.inr hproceed
    · exact Or.inr ⟨by simp, by simp, by simp, by simp, fun _ => hlimit⟩
  | proceed =>
    rcases mem_pending_proceed x h with hold | rfl
    · exact Or.inl hold
    · exact Or.inr hproceed
  | closeSource => exact Or.inl h

end Pending

/-! ## Turns of the source -/

omit [DecidableEq ι] in
/-- The turns of the source, and breaking off, leave the index side as it is. -/
theorem act_other [DecidableEq ι] {turn : Turn ι} (hturn : turn.isIndex = false) (x : State ι ρ) :
    (act p turn x).1.fanout = x.1.fanout ∧ (act p turn x).1.indexOpen = x.1.indexOpen ∧
      indexTurns (act p turn x).2.pending = indexTurns x.2.pending := by
  have hproceed : (proceed x).1.fanout = x.1.fanout ∧
      (proceed x).1.indexOpen = x.1.indexOpen ∧
      indexTurns (proceed x).2.pending = indexTurns x.2.pending := by
    unfold proceed
    split
    · split
      · exact ⟨rfl, rfl, rfl⟩
      · refine ⟨rfl, rfl, ?_⟩
        rw [Agenda.pending_rest]
        exact indexTurns_cons_of_neg rfl _
    · exact ⟨rfl, rfl, rfl⟩
  cases turn with
  | openIndex => cases hturn
  | ask job => cases hturn
  | enter job => cases hturn
  | finish job => cases hturn
  | closeIndex => cases hturn
  | breakOff => exact ⟨rfl, rfl, rfl⟩
  | openSource =>
    simp only [act, openSource]
    split
    · exact hproceed
    · refine ⟨rfl, rfl, ?_⟩
      rw [Agenda.pending_soon, Agenda.pending_wait, indexTurns_cons_of_neg rfl,
        indexTurns_cons_of_neg rfl]
  | proceed => exact hproceed
  | closeSource => exact ⟨rfl, rfl, rfl⟩

/-! ## Phases of the index side -/

variable (p)

/-- Why an index side is closed: all jobs have ended, the time limit has passed, or it has failed as
it began. -/
def Done (turns : List (Float × Turn ι)) (x : Race ι ρ) : Prop :=
  (∀ entry ∈ p.jobs, x.fanout.hasEnded entry.1 = true) ∨
    (p.timeout.isSome = true ∧ .closeIndex ∈ turns.map Prod.snd) ∨ p.fails = true

/-- Where an index side stands: it has yet to begin, is at work, or is closed. -/
inductive Phase (turns : List (Float × Turn ι)) (x : Race ι ρ) (pending : Multiset (Turn ι)) : Prop
  | waiting (hopen : x.indexOpen = true) (hfanout : x.fanout = { bound := p.bound })
      (hpending : indexTurns pending = {.openIndex})
  | working (hopen : x.indexOpen = true) (hjobs : Accounted p (asked p) 0 x pending)
      (hbegun : .openIndex ∉ pending)
      (hlimit : .closeIndex ∈ pending → p.timeout.isSome = true)
  | closed (hclosed : x.indexOpen = false) (hdone : Done p turns x) (hbegun : .openIndex ∉ pending)

variable {p}

theorem Done.append {turns : List (Float × Turn ι)} {y : Race ι ρ} (h : Done p turns y)
    (more : List (Float × Turn ι)) : Done p (turns ++ more) y := by
  rcases h with hended | ⟨hlimit, hpassed⟩ | hfails
  · exact Or.inl hended
  · refine Or.inr (Or.inl ⟨hlimit, ?_⟩)
    rw [List.map_append]
    exact List.mem_append_left _ hpassed
  · exact Or.inr (Or.inr hfails)

/-- When the jobs are accounted for, the index side is at work or all have ended. -/
theorem Phase.of_accounted {turns : List (Float × Turn ι)} {y : Race ι ρ}
    {pending : Multiset (Turn ι)} (h : Accounted p (asked p) 0 y pending)
    (hbegun : .openIndex ∉ pending) (hlimit : .closeIndex ∈ pending → p.timeout.isSome = true) :
    Phase p turns y pending := by
  cases hopen : y.indexOpen with
  | true => exact .working hopen h hbegun hlimit
  | false => exact .closed hopen (Or.inl (h.all_ended hopen)) hbegun

section Steps

variable {turns : List (Float × Turn ι)} {s : Race ι ρ} {a : Agenda (Turn ι)}

/-- The turn of a job keeps the phase. -/
theorem Phase.job {job : ι} {turn : Turn ι} (hjob : turn.job? = some job)
    (h : Phase p turns s (turn ::ₘ a.pending)) {f : State ι ρ → State ι ρ}
    (hf : ∀ owed, Accounted p owed (if turn.isInside = true then 1 else 0) s a.pending →
      Accounted p (oneMore owed job) 0 (f (s, a)).1 (f (s, a)).2.pending)
    (hnew : ∀ other ∈ (f (s, a)).2.pending, other ∈ a.pending ∨ Begets p other) (now : Float) :
    Phase p (turns ++ [(now, turn)]) (if s.indexOpen then f (s, a) else (s, a)).1
      (if s.indexOpen then f (s, a) else (s, a)).2.pending := by
  cases h with
  | waiting hopen hfanout hpending =>
    -- nothing but the beginning is pending
    exfalso
    have hmem : turn ∈ indexTurns (turn ::ₘ a.pending) := by
      refine mem_indexTurns.mpr ⟨Multiset.mem_cons_self _ _, ?_⟩
      cases turn <;> simp_all [Turn.job?, Turn.isIndex]
    rw [hpending, Multiset.mem_singleton] at hmem
    rw [hmem] at hjob
    cases hjob
  | working hopen hjobs hbegun hlimit =>
    rw [hopen]
    -- the job is accounted for without its turn, and with what comes of it again
    obtain ⟨htaken, howed⟩ := hjobs.take hjob
    have hafter := hf _ htaken
    rw [howed] at hafter
    refine Phase.of_accounted hafter ?_ ?_
    · intro hmem
      rcases hnew _ hmem with hold | hbegets
      · exact hbegun (Multiset.mem_cons_of_mem hold)
      · exact hbegets.notIndex rfl
    · intro hmem
      rcases hnew _ hmem with hold | hbegets
      · exact hlimit (Multiset.mem_cons_of_mem hold)
      · exact hbegets.limit rfl
  | closed hclosed hdone hbegun =>
    -- its turn comes too late and does nothing
    rw [hclosed]
    exact .closed hclosed (hdone.append _) fun hmem => hbegun (Multiset.mem_cons_of_mem hmem)

/-- What is not of the index side keeps the phase. -/
theorem Phase.congr {y : Race ι ρ} {pending pending' : Multiset (Turn ι)}
    (h : Phase p turns s pending) (later : List (Float × Turn ι))
    (hfanout : y.fanout = s.fanout) (hopen : y.indexOpen = s.indexOpen)
    (hpending : indexTurns pending' = indexTurns pending) :
    Phase p (turns ++ later) y pending' := by
  have hmem : ∀ turn : Turn ι, turn.isIndex = true → turn ∈ pending' → turn ∈ pending := by
    intro turn hindex hin
    have hmem := mem_indexTurns.mpr ⟨hin, hindex⟩
    rw [hpending] at hmem
    exact (mem_indexTurns.mp hmem).1
  cases h with
  | waiting hopen' hfanout' hpending' =>
    exact .waiting (hopen.trans hopen') (hfanout.trans hfanout') (hpending.trans hpending')
  | working hopen' hjobs hbegun hlimit =>
    exact .working (hopen.trans hopen') (hjobs.congr hfanout hopen hpending)
      (fun hin => hbegun (hmem _ rfl hin)) fun hin => hlimit (hmem _ rfl hin)
  | closed hclosed hdone hbegun =>
    refine .closed (hopen.trans hclosed) ?_ fun hin => hbegun (hmem _ rfl hin)
    have hlater := hdone.append later
    unfold Done at hlater ⊢
    rwa [hfanout]

/-- Before any job has asked none is accounted for. -/
theorem accounted_idle (hopen : s.indexOpen = true) (hfanout : s.fanout = { bound := p.bound })
    (hnone : indexTurns a.pending = 0) (hjobs : p.jobs.isEmpty = false) :
    Accounted p (fun _ => 0) 0 s (withLimit p a).pending := by
  have hturns : ∀ job, turnsOf a.pending job = 0 := by
    intro job
    rw [← turnsOf_indexTurns, hnone, turnsOf_zero]
  have hinside : insiders a.pending = 0 := by
    rw [← insiders_indexTurns, hnone, insiders_zero]
  refine ⟨?_, ?_, ?_, ?_, ?_⟩
  · intro job
    unfold Race.stations withLimit
    split
    · simp [hfanout, hturns, Turn.job?]
    · simp [hfanout, hturns]
  · unfold withLimit
    split
    · simp [hfanout, hinside, Turn.isInside]
    · simp [hfanout, hinside]
  · simp [hfanout]
  · have hpos : 0 < p.jobs.length := by
      rw [List.length_pos_iff]
      intro hnil
      rw [hnil] at hjobs
      cases hjobs
    simp [hopen, hfanout, hpos]
  · rw [hfanout]

/-- When the index side begins, its jobs are accounted for or it is closed. -/
theorem Phase.openIndex (hbound : p.bound ≠ some 0)
    (h : Phase p turns s (.openIndex ::ₘ a.pending)) (now : Float) :
    Phase p (turns ++ [(now, .openIndex)]) (Race.openIndex p (s, a)).1
      (Race.openIndex p (s, a)).2.pending := by
  cases h with
  | working _ _ hbegun => exact absurd (Multiset.mem_cons_self _ _) hbegun
  | closed _ _ hbegun => exact absurd (Multiset.mem_cons_self _ _) hbegun
  | waiting hopen hfanout hpending =>
    -- no other turn of the index side has been pending
    have hnone : indexTurns a.pending = 0 := by
      rw [indexTurns_cons_of_pos rfl, ← Multiset.cons_zero] at hpending
      exact (Multiset.cons_inj_right _).mp hpending
    have hquiet : ∀ turn ∈ a.pending, turn.isIndex ≠ true := by
      intro turn hin hindex
      have hmem := mem_indexTurns.mpr ⟨hin, hindex⟩
      rw [hnone] at hmem
      exact absurd hmem (Multiset.notMem_zero _)
    have hbegun : .openIndex ∉ (Race.openIndex p (s, a)).2.pending := by
      intro hin
      rcases mem_pending_openIndex p _ hin with hold | hbegets
      · exact hquiet _ hold rfl
      · exact hbegets.notIndex rfl
    have hlimit : .closeIndex ∈ (Race.openIndex p (s, a)).2.pending →
        p.timeout.isSome = true := by
      intro hin
      rcases mem_pending_openIndex p _ hin with hold | hbegets
      · exact absurd rfl (hquiet _ hold)
      · exact hbegets.limit rfl
    have howed : (fun job => 0 + (p.jobs.map Prod.fst).count job) = asked p := by
      funext job
      exact Nat.zero_add _
    revert hbegun hlimit
    rw [openIndex_eq]
    intro hbegun hlimit
    -- it fails, has no jobs, or its jobs ask at once or in the next round
    split
    · rename_i hfails
      rw [if_pos hfails] at hbegun
      exact .closed rfl (Or.inr (Or.inr hfails)) hbegun
    · rename_i hfails
      rw [if_neg hfails] at hbegun hlimit
      split
      · rename_i hjobs
        rw [if_pos hjobs] at hbegun
        refine .closed rfl (Or.inl ?_) hbegun
        rw [List.isEmpty_iff.mp hjobs]
        simp
      · rename_i hjobs
        rw [if_neg hjobs] at hbegun hlimit
        have hidle := accounted_idle hopen hfanout hnone (by simpa using hjobs)
        split
        · rename_i hdirect
          rw [if_pos hdirect] at hbegun hlimit
          have hjobs := Accounted.foldl_ask (x := (s, withLimit p a)) hbound p.jobs hidle
          rw [howed] at hjobs
          exact .of_accounted hjobs hbegun hlimit
        · rename_i hdirect
          rw [if_neg hdirect] at hbegun hlimit
          have hjobs := hidle.foldl_soon p.jobs
          rw [howed] at hjobs
          exact .of_accounted hjobs hbegun hlimit

/-- Every turn keeps the phase. -/
theorem Phase.act (hbound : p.bound ≠ some 0) {turn : Turn ι}
    (h : Phase p turns s (turn ::ₘ a.pending)) :
    Phase p (turns ++ [(a.now, turn)]) (Race.act p turn (s, a)).1
      (Race.act p turn (s, a)).2.pending := by
  have hother : turn.isIndex = false → Phase p (turns ++ [(a.now, turn)])
      (Race.act p turn (s, a)).1 (Race.act p turn (s, a)).2.pending := by
    intro hturn
    obtain ⟨hfanout, hopen, hpending⟩ := act_other (p := p) hturn (s, a)
    refine h.congr _ hfanout hopen ?_
    rw [hpending, indexTurns_cons_of_neg hturn]
  cases turn with
  | openIndex => exact h.openIndex hbound a.now
  | ask job =>
    exact h.job rfl (f := Race.ask p job) (fun owed howed => howed.ask hbound job)
      (fun other => mem_pending_ask p job (s, a)) a.now
  | enter job =>
    exact h.job rfl (f := Race.enter p job) (fun owed howed => howed.enter job)
      (fun other => mem_pending_enter p job (s, a)) a.now
  | finish job =>
    exact h.job rfl (f := Race.finish p job) (fun owed howed => howed.finish job)
      (fun other => mem_pending_finish p job (s, a)) a.now
  | closeIndex =>
    have hpassed : .closeIndex ∈ (turns ++ [(a.now, Turn.closeIndex)]).map Prod.snd := by simp
    cases h with
    | waiting hopen hfanout hpending =>
      -- a time limit is not set before the index side has begun
      exfalso
      have hmem := mem_indexTurns.mpr ⟨Multiset.mem_cons_self Turn.closeIndex a.pending, rfl⟩
      rw [hpending, Multiset.mem_singleton] at hmem
      cases hmem
    | working hopen hjobs hbegun hlimit =>
      exact .closed rfl (Or.inr (Or.inl ⟨hlimit (Multiset.mem_cons_self _ _), hpassed⟩))
        fun hmem => hbegun (Multiset.mem_cons_of_mem hmem)
    | closed hclosed hdone hbegun =>
      exact .closed rfl (hdone.append _) fun hmem => hbegun (Multiset.mem_cons_of_mem hmem)
  | breakOff => exact hother rfl
  | openSource => exact hother rfl
  | proceed => exact hother rfl
  | closeSource => exact hother rfl

/-- Dropping what no longer matters keeps the phase. -/
theorem Phase.drop {turn : Turn ι} {others : Multiset (Turn ι)}
    (h : Phase p turns s (turn ::ₘ others)) (hstale : isStale s turn = true) :
    Phase p turns s others := by
  -- turns of the index side matter as long as it is at work
  have hclosed : turn.isIndex = true → s.indexOpen = false := by
    intro hindex
    cases turn <;> simp_all [isStale, Turn.isIndex]
  cases hindex : turn.isIndex with
  | false =>
    have hsame := h.congr [] rfl rfl (indexTurns_cons_of_neg hindex others).symm
    rwa [List.append_nil] at hsame
  | true =>
    cases h with
    | waiting hopen => exact absurd hopen (by simp [hclosed hindex])
    | working hopen => exact absurd hopen (by simp [hclosed hindex])
    | closed hshut hdone hbegun =>
      exact .closed hshut hdone fun hmem => hbegun (Multiset.mem_cons_of_mem hmem)

end Steps

/-- On every path the index side has yet to begin, is at work, or is closed for a reason. -/
theorem phase_of_path (hbound : p.bound ≠ some 0) {source : Option (SourceSide ρ)}
    {turns : List (Float × Turn ι)} {y : Race ι ρ} {pending : Multiset (Turn ι)}
    (h : Path p source turns y pending) : Phase p turns y pending := by
  refine Agenda.Path.invariant (additive p) (I := Phase p) ?_ ?_ ?_ h
  · refine .waiting rfl rfl ?_
    cases source <;> rfl
  · intro turns s a turn hphase
    exact hphase.act hbound
  · intro turns s turn others hphase hstale
    exact hphase.drop hstale

end Race

end EntitySearch

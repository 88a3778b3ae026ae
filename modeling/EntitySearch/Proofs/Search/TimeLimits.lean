import EntitySearch.Proofs.Search.RaceEnds
import EntitySearch.Proofs.Search.RaceStages
/-!
# When the time limits pass

A job of the index side that has not ended in the end had not ended when the time limit passed, and
the other way round (`Race.hasEnded_eq_false_iff`). A source that has been given up in the end was
at work when its own time limit passed, or has not been asked at all (`Race.given_up_iff`). At the
end of a search that is not broken off neither side is at work (`Race.run_settled`).
-/

namespace EntitySearch

/-- The source goes on at a moment. -/
def SourceSide.proceed {ρ : Type} (now : Float) (side : SourceSide ρ) : SourceSide ρ :=
  match side.next with
  | none => side
  | some next =>
    match next now with
    | .ended stage => ⟨stage, none⟩
    | .waits stage _ later => ⟨stage, some later⟩

/-- A source on its way: as long as it is at work it waits at stages of one kind, and it comes to
its last stage at one of another. -/
def SourceSide.Along {ρ : Type} (waiting last : ρ → Prop) (side : SourceSide ρ) : Prop :=
  (side.next.isSome = true → waiting side.stage) ∧
    ∀ next ∈ side.next, ∀ now, (next now).Through waiting last

/-- A source that goes on stays on its way, and stops only at its last stage. -/
theorem SourceSide.Along.proceed {ρ : Type} {waiting last : ρ → Prop} {side : SourceSide ρ}
    (h : side.Along waiting last) (now : Float) :
    (side.proceed now).Along waiting last ∧
      ((side.proceed now).next = none → side.next = none ∨ last (side.proceed now).stage) := by
  obtain ⟨stage, next⟩ := side
  unfold SourceSide.proceed
  cases next with
  | none => exact ⟨h, fun _ => Or.inl rfl⟩
  | some next =>
    have hthrough := h.2 next rfl now
    simp only
    cases hstep : next now with
    | ended stage =>
      rw [hstep] at hthrough
      exact ⟨⟨by simp, by simp⟩, fun _ => Or.inr hthrough⟩
    | waits stage seconds later =>
      rw [hstep] at hthrough
      refine ⟨⟨fun _ => hthrough.1, ?_⟩, by simp⟩
      rintro next ⟨rfl⟩
      exact hthrough.2

/-- The source is given up. -/
def SourceSide.giveUp {ρ : Type} (side : SourceSide ρ) : SourceSide ρ := { side with next := none }

namespace Race

variable {ι ρ : Type} [DecidableEq ι] (p : RacePlan ι)

/-! ## Sides of a source -/

omit [DecidableEq ι] in
theorem source_proceed (x : State ι ρ) :
    (Race.proceed x).1.source = x.1.source.map (SourceSide.proceed x.2.now) := by
  rcases x with ⟨⟨fanout, indexOpen, _ | ⟨stage, _ | next⟩, broken⟩, agenda⟩
  · rfl
  · rfl
  · unfold Race.proceed SourceSide.proceed
    simp only [Option.map_some]
    cases next agenda.now <;> rfl

/-- A turn leaves the source alone, lets it go on, or gives it up. -/
theorem source_act (turn : Turn ι) (x : State ι ρ) :
    (act p turn x).1.source = x.1.source ∨
    (act p turn x).1.source = x.1.source.map (SourceSide.proceed x.2.now) ∨
    (turn = .closeSource ∧ (act p turn x).1.source = x.1.source.map SourceSide.giveUp) := by
  cases hindex : turn.isIndex with
  | true => exact Or.inl ((keeps_source p).act hindex x)
  | false =>
    cases turn with
    | openIndex => cases hindex
    | ask job => cases hindex
    | enter job => cases hindex
    | finish job => cases hindex
    | closeIndex => cases hindex
    | breakOff => exact Or.inl rfl
    | openSource =>
      simp only [act, openSource]
      split
      · exact Or.inr (Or.inl (source_proceed x))
      · exact Or.inl rfl
    | proceed => exact Or.inr (Or.inl (source_proceed x))
    | closeSource => exact Or.inr (Or.inr ⟨rfl, rfl⟩)

/-- Where turns lead a search. -/
def after (source : Option (SourceSide ρ)) (turns : List (Float × Turn ι)) : Race ι ρ :=
  (work p).after { fanout := { bound := p.bound }, source := source } turns

/-- Something was the case when a time limit passed. -/
def WhenPassed (source : Option (SourceSide ρ)) (turns : List (Float × Turn ι)) (limit : Turn ι)
    (P : Race ι ρ → Prop) : Prop :=
  ∃ before now later, turns = before ++ (now, limit) :: later ∧ P (after p source before)

variable {p} {source : Option (SourceSide ρ)} {turns : List (Float × Turn ι)}

theorem after_append (turn : Float × Turn ι) :
    after p source (turns ++ [turn]) = (act p turn.2 (after p source turns, { now := turn.1 })).1 :=
  Agenda.Work.after_append _ _ _ _

theorem WhenPassed.append {limit : Turn ι} {P : Race ι ρ → Prop}
    (h : WhenPassed p source turns limit P) (turn : Float × Turn ι) :
    WhenPassed p source (turns ++ [turn]) limit P := by
  obtain ⟨before, now, later, rfl, hbefore⟩ := h
  exact ⟨before, now, later ++ [turn], by simp, hbefore⟩

/-! ## The time limit of the source -/

section Sources

variable {waiting last : ρ → Prop} {initial : SourceSide ρ}

/-- Turns neither bring nor take a source. -/
theorem isSome_source (source : Option (SourceSide ρ)) (turns : List (Float × Turn ι)) :
    (after p source turns).source.isSome = source.isSome := by
  induction turns using List.reverseRecOn with
  | nil => rfl
  | append_singleton turns turn ih =>
    rw [after_append, ← ih]
    rcases source_act p turn.2 (after p source turns, { now := turn.1 }) with
      hsame | hgoes | ⟨_, hgiven⟩
    · rw [hsame]
    · rw [hgoes, Option.isSome_map]
    · rw [hgiven, Option.isSome_map]

variable (p initial) in
theorem exists_side (turns : List (Float × Turn ι)) :
    ∃ side, (after p (some initial) turns).source = some side :=
  Option.isSome_iff_exists.mp (isSome_source (some initial) turns)

/-- A source that is no longer at work stays as it is. -/
theorem source_still {side : SourceSide ρ} (hidle : side.next = none) {mid : Race ι ρ}
    (hmid : mid.source = some side) (later : List (Float × Turn ι)) :
    ((work p).after mid later).source = some side := by
  induction later using List.reverseRecOn with
  | nil => exact hmid
  | append_singleton later turn ih =>
    rw [Agenda.Work.after_append]
    have hgoes : SourceSide.proceed turn.1 side = side := by simp [SourceSide.proceed, hidle]
    have hgiven : side.giveUp = side := by simp [SourceSide.giveUp, ← hidle]
    rcases source_act p turn.2 ((work p).after mid later, { now := turn.1 }) with
      hsame | hproceeds | ⟨_, hgives⟩
    · exact hsame.trans ih
    · exact hproceeds.trans (by simp [ih, hgoes])
    · exact hgives.trans (by simp [ih, hgiven])

variable (halong : initial.Along waiting last)

include halong

theorem along_after (turns : List (Float × Turn ι)) :
    ∀ side ∈ (after p (some initial) turns).source, side.Along waiting last := by
  induction turns using List.reverseRecOn with
  | nil =>
    rintro side ⟨rfl⟩
    exact halong
  | append_singleton turns turn ih =>
    obtain ⟨side, hside⟩ := exists_side p initial turns
    have hbefore := ih side hside
    rw [after_append]
    rcases source_act p turn.2 (after p (some initial) turns, { now := turn.1 }) with
      hsame | hgoes | ⟨_, hgiven⟩
    · rw [hsame]
      exact ih
    · rw [hgoes, hside]
      rintro _ ⟨rfl⟩
      exact (hbefore.proceed turn.1).1
    · rw [hgiven, hside]
      rintro _ ⟨rfl⟩
      exact ⟨by simp [SourceSide.giveUp], by simp [SourceSide.giveUp]⟩

/-- A source that is no longer at work has come to its last stage, has not been asked, or was at
work when its time limit passed. -/
theorem given_up {side : SourceSide ρ} (turns : List (Float × Turn ι))
    (hside : (after p (some initial) turns).source = some side) (hidle : side.next = none) :
    last side.stage ∨ initial.next = none ∨
      WhenPassed p (some initial) turns .closeSource fun x => x.sourceOpen = true := by
  induction turns using List.reverseRecOn generalizing side with
  | nil =>
    cases hside
    exact Or.inr (Or.inl hidle)
  | append_singleton turns turn ih =>
    obtain ⟨before, hbefore⟩ := exists_side p initial turns
    -- what has happened before stays so
    have hearlier : before.next = none → before = side →
        last side.stage ∨ initial.next = none ∨ WhenPassed p (some initial) (turns ++ [turn])
          .closeSource fun x => x.sourceOpen = true := by
      rintro hnone rfl
      exact (ih hbefore hnone).imp_right fun h => h.imp_right fun h => h.append turn
    rw [after_append] at hside
    rcases source_act p turn.2 (after p (some initial) turns, { now := turn.1 }) with
      hsame | hgoes | ⟨hturn, hgiven⟩
    · rw [hsame, hbefore, Option.some_inj] at hside
      exact hearlier (hside ▸ hidle) hside
    · rw [hgoes, hbefore, Option.map_some, Option.some_inj] at hside
      subst hside
      rcases (along_after halong turns before hbefore).proceed turn.1 |>.2 hidle with hnone | hlast
      · exact hearlier hnone (by simp [SourceSide.proceed, hnone])
      · exact Or.inl hlast
    · rw [hgiven, hbefore, Option.map_some, Option.some_inj] at hside
      subst hside
      cases hnext : before.next with
      | none => exact hearlier hnext (by simp [SourceSide.giveUp, ← hnext])
      | some next =>
        refine Or.inr (Or.inr ⟨turns, turn.1, [], by rw [← hturn], ?_⟩)
        simp [sourceOpen, hbefore, hnext]

/-- A source that has been given up at a stage at which it waits has not been asked, or was at work
when its time limit passed. -/
theorem given_up_iff (hdisjoint : ∀ stage, waiting stage → ¬ last stage)
    (hstage : waiting initial.stage) {side : SourceSide ρ} (turns : List (Float × Turn ι))
    (hside : (after p (some initial) turns).source = some side) :
    (side.next = none ∧ waiting side.stage) ↔ initial.next = none ∨
      WhenPassed p (some initial) turns .closeSource fun x => x.sourceOpen = true := by
  constructor
  · rintro ⟨hidle, hwaiting⟩
    exact (given_up halong turns hside hidle).resolve_left (hdisjoint _ hwaiting)
  · rintro (hidle | ⟨before, now, later, rfl, hopen⟩)
    · have hstart : (after p (some initial) []).source = some initial := rfl
      have hstill := source_still (p := p) hidle hstart turns
      have hsame : side = initial := Option.some_inj.mp (hside.symm.trans hstill)
      exact hsame ▸ ⟨hidle, hstage⟩
    · -- given up as it waits, it stays so
      obtain ⟨mid, hmid⟩ := exists_side p initial before
      have hwaiting : waiting mid.stage := by
        refine (along_after halong before mid hmid).1 ?_
        simpa [sourceOpen, hmid] using hopen
      have hgiven : (after p (some initial) (before ++ [(now, .closeSource)])).source =
          some mid.giveUp := by
        rw [after_append]
        exact congrArg (Option.map SourceSide.giveUp) hmid
      have hstill := source_still (p := p) rfl hgiven later
      have hafter : (work p).after
          (after p (some initial) (before ++ [(now, .closeSource)])) later =
          after p (some initial) (before ++ (now, .closeSource) :: later) := by
        simp [after, Agenda.Work.after]
      rw [hafter] at hstill
      have hsame : side = mid.giveUp := Option.some_inj.mp (hside.symm.trans hstill)
      exact hsame ▸ ⟨rfl, hwaiting⟩

end Sources

/-! ## The ends of both sides -/

section Pending

variable {initial : SourceSide ρ} {y : Race ι ρ} {pending : Multiset (Turn ι)}

theorem mem_pending_act_of_mem {other : Turn ι} (turn : Turn ι) (s : Race ι ρ)
    {a : Agenda (Turn ι)} (h : other ∈ a.pending) : other ∈ (act p turn (s, a)).2.pending := by
  have hadds : (act p turn (s, a)).2.pending =
      a.pending + (act p turn (s, { now := a.now })).2.pending := (additive p turn).pending s a
  rw [hadds]
  exact Multiset.mem_add.mpr (Or.inl h)

omit [DecidableEq ι] in
/-- A source that has gone on and is at work goes on later. -/
theorem mem_pending_proceed_of_open (x : State ι ρ) (h : (Race.proceed x).1.sourceOpen = true) :
    .proceed ∈ (Race.proceed x).2.pending := by
  rcases x with ⟨⟨fanout, indexOpen, _ | ⟨stage, _ | next⟩, broken⟩, agenda⟩
  · cases h
  · cases h
  · unfold Race.proceed at h ⊢
    simp only at h ⊢
    cases hstep : next agenda.now with
    | ended last =>
      rw [hstep] at h
      cases h
    | waits stage seconds later =>
      simp only [Agenda.pending_rest]
      exact Multiset.mem_cons_self _ _

/-- A source that is at work is yet to be asked, or goes on later. -/
theorem pending_of_open (h : Path p source turns y pending) (hopen : y.sourceOpen = true) :
    .openSource ∈ pending ∨ .proceed ∈ pending := by
  revert hopen
  refine Agenda.Path.invariant (additive p) (I := fun _ (y : Race ι ρ) pending =>
    y.sourceOpen = true → .openSource ∈ pending ∨ .proceed ∈ pending) ?_ ?_ ?_ h
  · intro hopen
    cases source with
    | none => cases hopen
    | some side => exact Or.inl (by simp [openings])
  · intro _ s a turn hs hopen
    replace hopen : (act p turn (s, a)).1.sourceOpen = true := hopen
    -- the turn does not set a source to work
    have hbefore : s.sourceOpen = true := by
      unfold sourceOpen at hopen ⊢
      rcases source_act p turn (s, a) with hsame | hgoes | ⟨_, hgiven⟩
      · rwa [hsame] at hopen
      · rw [hgoes] at hopen
        rcases s with ⟨fanout, indexOpen, _ | ⟨stage, _ | next⟩, broken⟩
        · cases hopen
        · cases hopen
        · rfl
      · rw [hgiven] at hopen
        rcases s with ⟨fanout, indexOpen, _ | side, broken⟩ <;> cases hopen
    show .openSource ∈ (act p turn (s, a)).2.pending ∨ .proceed ∈ (act p turn (s, a)).2.pending
    rcases hs hbefore with hask | hgo
    · rcases Multiset.mem_cons.mp hask with rfl | hask
      · refine Or.inr ?_
        simp only [act, openSource] at hopen ⊢
        split at hopen
        · exact mem_pending_proceed_of_open _ hopen
        · simp
      · exact Or.inl (mem_pending_act_of_mem turn s hask)
    · rcases Multiset.mem_cons.mp hgo with rfl | hgo
      · exact Or.inr (mem_pending_proceed_of_open (s, a) hopen)
      · exact Or.inr (mem_pending_act_of_mem turn s hgo)
  · intro _ s turn others hs hstale hopen
    -- what is dropped is of a side that is no longer at work
    have hstale' : isStale s turn = true := hstale
    rcases hs hopen with hask | hgo
    · rcases Multiset.mem_cons.mp hask with rfl | hask
      · cases hstale'
      · exact Or.inl hask
    · rcases Multiset.mem_cons.mp hgo with rfl | hgo
      · simp [isStale, hopen] at hstale'
      · exact Or.inr hgo

/-- A time limit passes only if there is one. -/
theorem timed_of_mem {limit : Turn ι} (hlimit : limit = .closeIndex ∨ limit = .closeSource)
    (h : Path p source turns y pending) (hmem : limit ∈ turns.map Prod.snd) :
    p.timeout.isSome = true := by
  have hnever : limit ∈ turns.map Prod.snd ∨ limit ∈ pending → p.timeout.isSome = true := by
    refine Agenda.Path.invariant (additive p) (I := fun turns (_ : Race ι ρ) pending =>
      limit ∈ turns.map Prod.snd ∨ limit ∈ pending → p.timeout.isSome = true) ?_ ?_ ?_ h
    · rcases hlimit with rfl | rfl <;> cases source <;> simp [openings]
    · rintro turns s a turn hs (hold | hnew)
      · rw [List.map_append, List.mem_append] at hold
        rcases hold with hold | hturn
        · exact hs (Or.inl hold)
        · exact hs (Or.inr (by simpa using Or.inl hturn))
      · rcases mem_pending_act p turn (s, a) hnew with hold | hbegets
        · exact hs (Or.inr (Multiset.mem_cons_of_mem hold))
        · exact hlimit.elim hbegets.limit hbegets.sourceLimit
    · rintro turns s turn others hs _ (hold | hpending)
      · exact hs (Or.inl hold)
      · exact hs (Or.inr (Multiset.mem_cons_of_mem hpending))
  exact hnever (Or.inl hmem)

theorem WhenPassed.timed {limit : Turn ι} (hlimit : limit = .closeIndex ∨ limit = .closeSource)
    {P : Race ι ρ → Prop} (hpassed : WhenPassed p source turns limit P)
    (h : Path p source turns y pending) : p.timeout.isSome = true := by
  obtain ⟨before, now, later, rfl, _⟩ := hpassed
  exact timed_of_mem hlimit h (by simp)

/-- A search takes one of its paths and is broken off, or neither side is at work at its end. -/
theorem run_settled (hbound : p.bound ≠ some 0) (source : Option (SourceSide ρ)) (waits : Nat)
    (now : Float) (hbreaks : (p.jobs.map fun entry => breakCost p entry.1).sum ≤ 1)
    (hsource : SourceWithin waits source) :
    ∃ turns pending, Path p source turns (run p source waits now).1 pending ∧
      ((run p source waits now).1.broken = true ∨
        ((run p source waits now).1.indexOpen = false ∧
          (run p source waits now).1.sourceOpen = false ∧
          Done p turns (run p source waits now).1)) := by
  obtain ⟨turns, pending, hpath, hend⟩ := run_over p source waits now hbreaks hsource
  refine ⟨turns, pending, hpath, ?_⟩
  rcases closed_of_path hbound hpath hend with hbroken | ⟨hclosed, hdone⟩
  · exact Or.inl hbroken
  · rcases hend with hover | rfl
    · cases hbroken : (run p source waits now).1.broken with
      | true => exact Or.inl rfl
      | false =>
        refine Or.inr ⟨hclosed, ?_, hdone⟩
        simp only [isOver, hbroken, Bool.false_or, Bool.not_eq_true', Bool.or_eq_false_iff] at hover
        exact hover.2
    · refine Or.inr ⟨hclosed, ?_, hdone⟩
      -- with nothing pending the source is not at work
      by_contra hopen
      rw [Bool.not_eq_false] at hopen
      rcases pending_of_open hpath hopen with hask | hgo
      · exact absurd hask (Multiset.notMem_zero _)
      · exact absurd hgo (Multiset.notMem_zero _)

end Pending

/-! ## The time limit of the index side -/

section Jobs

variable {y : Race ι ρ} {pending : Multiset (Turn ι)}

/-- A job that had not ended when the time limit passed does not end later. -/
theorem hasEnded_of_passed (hbound : p.bound ≠ some 0) (h : Path p source turns y pending)
    {job : ι} (hpassed : WhenPassed p source turns .closeIndex fun x =>
      x.fanout.hasEnded job = false) : y.fanout.hasEnded job = false := by
  obtain ⟨before, now, later, rfl, hlate⟩ := hpassed
  rw [← List.singleton_append, ← List.append_assoc] at h
  obtain ⟨mid, between, hfirst, hlater⟩ := Agenda.Path.split h
  have hmid : mid = (act p .closeIndex (after p source before, { now := now })).1 := by
    rw [← hfirst.after_eq]
    exact after_append (now, .closeIndex)
  -- closed by the time limit, the index side never begins again
  have hclosed : mid.indexOpen = false := by rw [hmid]; rfl
  have hbegun : .openIndex ∉ between := by
    cases phase_of_path hbound hfirst with
    | waiting hopen => exact absurd hopen (by simp [hclosed])
    | working hopen => exact absurd hopen (by simp [hclosed])
    | closed _ _ hbegun => exact hbegun
  rw [fanout_eq_of_closed hclosed hbegun hlater, hmid]
  exact hlate

/-- Where there are no jobs none ends. -/
theorem ended_of_no_jobs (hjobs : p.jobs = []) (h : Path p source turns y pending) :
    y.fanout.ended = [] := by
  -- the index side only begins
  have hquiet : y.fanout.ended = [] ∧ ∀ turn ∈ indexTurns pending, turn = .openIndex := by
    refine Agenda.Path.invariant (additive p) (I := fun _ (y : Race ι ρ) pending =>
      y.fanout.ended = [] ∧ ∀ turn ∈ indexTurns pending, turn = .openIndex) ?_ ?_ ?_ h
    · refine ⟨rfl, ?_⟩
      cases source <;> simp [openings, mem_indexTurns, Turn.isIndex]
    · rintro _ s a turn ⟨hended, hmem⟩
      cases hindex : turn.isIndex with
      | true =>
        rw [indexTurns_cons_of_pos hindex] at hmem
        obtain rfl := hmem turn (Multiset.mem_cons_self _ _)
        have hrest := fun other hother => hmem other (Multiset.mem_cons_of_mem hother)
        show (Race.openIndex p (s, a)).1.fanout.ended = [] ∧
          ∀ turn ∈ indexTurns (Race.openIndex p (s, a)).2.pending, turn = .openIndex
        rw [openIndex_eq, hjobs]
        split
        · refine ⟨hended, ?_⟩
          rw [Agenda.pending_soon, indexTurns_cons_of_neg rfl]
          exact hrest
        · exact ⟨hended, hrest⟩
      | false =>
        obtain ⟨hfanout, _, hturns⟩ := act_other (p := p) hindex (s, a)
        rw [indexTurns_cons_of_neg hindex] at hmem
        exact ⟨(congrArg Fanout.ended hfanout).trans hended, hturns ▸ hmem⟩
    · rintro _ s turn others ⟨hended, hmem⟩ _
      refine ⟨hended, fun other hother => hmem other ?_⟩
      obtain ⟨hin, hindex⟩ := mem_indexTurns.mp hother
      exact mem_indexTurns.mpr ⟨Multiset.mem_cons_of_mem hin, hindex⟩
  exact hquiet.1

/-- At the end a job has not ended if and only if it had not ended when the time limit passed. -/
theorem hasEnded_eq_false_iff (hbound : p.bound ≠ some 0) (hfails : p.fails = false)
    (h : Path p source turns y pending) (hdone : Done p turns y) {entry : ι × Float}
    (hentry : entry ∈ p.jobs) :
    y.fanout.hasEnded entry.1 = false ↔ WhenPassed p source turns .closeIndex fun x =>
      x.fanout.hasEnded entry.1 = false := by
  refine ⟨fun hlate => ?_, hasEnded_of_passed hbound h⟩
  rcases hdone with hended | ⟨_, hpassed⟩ | hfailed
  · exact absurd (hended entry hentry) (by simp [hlate])
  · obtain ⟨⟨now, _⟩, hmem, rfl⟩ := List.mem_map.mp hpassed
    obtain ⟨before, later, rfl⟩ := List.append_of_mem hmem
    refine ⟨before, now, later, rfl, ?_⟩
    obtain ⟨mid, between, hfirst, hlater⟩ := Agenda.Path.split h
    -- what has ended by then has ended at last
    obtain ⟨more, hmore⟩ := ended_suffix hlater
    have hmid : after p source before = mid := hfirst.after_eq
    unfold Fanout.hasEnded at hlate ⊢
    rw [← hmore, List.any_append, Bool.or_eq_false_iff] at hlate
    rw [hmid]
    exact hlate.2
  · exact absurd hfailed (by simp [hfails])

end Jobs

end Race

end EntitySearch

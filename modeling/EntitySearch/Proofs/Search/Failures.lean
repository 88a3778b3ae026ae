import EntitySearch.Proofs.Ranking.FusionRange
import EntitySearch.Proofs.Search.IndexResults
import EntitySearch.Proofs.Search.RaceViews
import EntitySearch.Search.Hybrid
import EntitySearch.Search.ScriptedSource
/-!
# Failure is absence

A search in which calls of the store or of the source fail shows what it would show if these calls
had found nothing, at the same times (`Searcher.search_forgiven`): one searcher *forgives* another
if it finds nothing where the other fails and leaves the raw score where the other fails to look up
a hit.
-/

namespace EntitySearch

open Number (ArithmeticError overflow)

variable {σ σ' α : Type}

/-! ## Forgiving -/

/-- The reply of a search in which a failure counts as no hits. -/
def SearchReply.forgiven : SearchReply α → SearchReply α
  | .failed _ => .hits []
  | reply => reply

/-- How a search in a source has come out if a failure counts as no results. -/
def SourceOutcome.forgiven : SourceOutcome α → SourceOutcome α
  | .failed => .returned []
  | outcome => outcome

variable [LogScalar α]

/-- A store forgives the failures of another. Where the other fails to search or to check, it finds
nothing; where the other fails to look up a hit, it leaves the hit its raw score; otherwise it
answers as the other does, in the same time. -/
structure IndexStore.Forgives (a : Adjuster α) (store failing : IndexStore α) : Prop where
  search : ∀ d compiled f limit,
    store.search d compiled f limit = (failing.search d compiled f limit).forgiven
  searchTime : store.searchTime = failing.searchTime
  filterMatching : ∀ d ids f,
    store.filterMatching d ids f = .ok ((failing.filterMatching d ids f).toOption.getD [])
  signals : ∀ lookup answer, failing.signals lookup = .ok answer →
    store.signals lookup = .ok answer
  tagUsage : ∀ lookup answer, failing.tagUsage lookup = .ok answer →
    store.tagUsage lookup = .ok answer
  rawSignals : ∀ (d : Descriptor) now position hit error, d.adjustment = .engagement →
    failing.signals ⟨d.entityType, position, hit.entityId⟩ = .error error →
      a.score store d now position hit = .ok hit.score
  rawUsage : ∀ (d : Descriptor) now position hit error, d.adjustment = .trend →
    failing.tagUsage ⟨d.entityType, position, hit.entityId⟩ = .error error →
      a.score store d now position hit = .ok hit.score

/-- A source forgives the failures of another: its searches take the same time and come out in the
same way, but with no results where those of the other fail. -/
structure SemanticSource.Forgives [SemanticSource σ α] [SemanticSource σ' α] (source : σ)
    (failing : σ') : Prop where
  search : ∀ q limit t now,
    (SemanticSource.search source q limit t now).map SourceRun.outcome =
      (SemanticSource.search failing q limit t now).map fun run => run.outcome.forgiven
  waits : SemanticSource.waits source = SemanticSource.waits failing

/-- A searcher forgives the failures of another: its store and its source do, and it is like the
other in everything else. -/
structure Searcher.Forgives [SemanticSource σ α] [SemanticSource σ' α] (x : Searcher σ α)
    (failing : Searcher σ' α) : Prop where
  store : x.store.Forgives failing.adjuster failing.store
  source : Option.Rel SemanticSource.Forgives x.source failing.source
  limits : x.limits = failing.limits
  fusion : x.fusion = failing.fusion
  adjuster : x.adjuster = failing.adjuster

/-! ## Lenience

Whatever fails, there is a searcher that forgives it: one that goes the same way and counts failures
as empty answers. -/

section Lenience

omit [LogScalar α]

/-- The store with failures to search and to check counted as empty answers. -/
def IndexStore.lenient (store : IndexStore α) : IndexStore α :=
  { store with
    search := fun d compiled f limit => (store.search d compiled f limit).forgiven
    filterMatching := fun d ids f => .ok ((store.filterMatching d ids f).toOption.getD []) }

/-- A source whose failures count as empty answers. -/
structure Lenient (σ : Type) where
  source : σ

/-- How far a search in a lenient source has come. -/
def SourceRun.lenient (run : SourceRun σ α) : SourceRun (Lenient σ) α :=
  ⟨⟨run.source⟩, run.outcome.forgiven, run.requests⟩

instance [SemanticSource σ α] : SemanticSource (Lenient σ) α where
  search s q limit t now := (SemanticSource.search s.source q limit t now).map SourceRun.lenient
  waits s := SemanticSource.waits s.source
  close s := SemanticSource.close s.source

/-- The searcher with a lenient store and a lenient source. -/
def Searcher.lenient (x : Searcher σ α) : Searcher (Lenient σ) α :=
  { store := x.store.lenient, source := x.source.map Lenient.mk, limits := x.limits
    fusion := x.fusion, adjuster := x.adjuster }

theorem Activity.map_map {ρ ρ' ρ'' : Type} (f : ρ → ρ') (g : ρ' → ρ'') (a : Activity ρ) :
    (a.map f).map g = a.map (g ∘ f) := by
  induction a with
  | ended stage => rfl
  | waits stage seconds next ih => simp [Activity.map, ih]

theorem SemanticSource.lenient_forgives [SemanticSource σ α] (source : σ) :
    SemanticSource.Forgives (Lenient.mk source) source :=
  ⟨fun _ _ _ _ => Activity.map_map _ _ _, rfl⟩

end Lenience

theorem IndexStore.lenient_forgives (a : Adjuster α) (store : IndexStore α) :
    store.lenient.Forgives a store where
  search _ _ _ _ := rfl
  searchTime := rfl
  filterMatching _ _ _ := rfl
  signals _ _ h := h
  tagUsage _ _ h := h
  rawSignals d now position hit error hadjustment hlookup := by
    have hlenient : store.lenient.signals = store.signals := rfl
    simp only [Adjuster.score, hadjustment, hlenient, hlookup]
    rfl
  rawUsage d now position hit error hadjustment hlookup := by
    have hlenient : store.lenient.tagUsage = store.tagUsage := rfl
    simp only [Adjuster.score, hadjustment, hlenient, hlookup]
    rfl

theorem Searcher.lenient_forgives [SemanticSource σ α] (x : Searcher σ α) :
    x.lenient.Forgives x where
  store := x.store.lenient_forgives x.adjuster
  source := by
    unfold Searcher.lenient
    cases x.source with
    | none => exact Option.Rel.none
    | some source => exact Option.Rel.some (SemanticSource.lenient_forgives source)
  limits := rfl
  fusion := rfl
  adjuster := rfl

/-! ## The search in one type -/

namespace IndexStore.Forgives

variable {a : Adjuster α} {store failing : IndexStore α} (h : store.Forgives a failing)

include h

theorem score (d : Descriptor) (now : Int) (position : Nat) (hit : Hit α) :
    a.score store d now position hit = a.score failing d now position hit := by
  cases hadjustment : d.adjustment with
  | none => simp [Adjuster.score, hadjustment]
  | engagement =>
    cases hlookup : failing.signals ⟨d.entityType, position, hit.entityId⟩ with
    | error error =>
      -- the raw score on both sides
      rw [h.rawSignals d now position hit error hadjustment hlookup]
      simp [Adjuster.score, hadjustment, hlookup]
      rfl
    | ok answer => simp [Adjuster.score, hadjustment, hlookup, h.signals _ _ hlookup]
  | trend =>
    cases hlookup : failing.tagUsage ⟨d.entityType, position, hit.entityId⟩ with
    | error error =>
      rw [h.rawUsage d now position hit error hadjustment hlookup]
      simp [Adjuster.score, hadjustment, hlookup]
      rfl
    | ok answer => simp [Adjuster.score, hadjustment, hlookup, h.tagUsage _ _ hlookup]

theorem adjust (d : Descriptor) (hits : List (Hit α)) :
    a.adjust store d hits = a.adjust failing d hits := by
  have hfrom : ∀ now position, a.adjustFrom store d now position hits =
      a.adjustFrom failing d now position hits := by
    intro now
    induction hits with
    | nil => exact fun _ => rfl
    | cons hit rest ih =>
      intro position
      unfold Adjuster.adjustFrom
      rw [h.score, ih]
  unfold Adjuster.adjust
  simp only [hfrom]

end IndexStore.Forgives

namespace TypeSearch

/-- Whether a search ends by being cancelled. -/
def isCancelled (s : TypeSearch α) : Bool :=
  match s.ending with
  | .cancelled => true
  | _ => false

/-- Two searches take the same time and contribute the same. -/
structure Alike (s s' : TypeSearch α) : Prop where
  duration : s.duration = s'.duration
  results : s.results = s'.results
  isCancelled : s.isCancelled = s'.isCancelled

theorem cut_order_nil (d : Descriptor) (q : Query) (limit : Int) :
    cut limit (d.order q ([] : List (SearchResult α))) = [] := by
  rw [(order_perm d q []).eq_nil]
  exact List.take_nil

variable {a : Adjuster α} {store failing : IndexStore α} (h : store.Forgives a failing)

include h

theorem alike_inDescriptor (d : Descriptor) (q : Query) (limit : Int) :
    Alike (inDescriptor a store d q limit) (inDescriptor a failing d q limit) := by
  unfold inDescriptor
  split
  · exact ⟨rfl, rfl, rfl⟩
  · simp only
    split
    · exact ⟨rfl, rfl, rfl⟩
    · rw [h.search, h.searchTime]
      cases failing.search d (Lexical.build (d.queryTerms q)) q.filters limit with
      | hits found =>
        unfold SearchReply.forgiven conclude
        simp only [h.adjust]
        exact ⟨rfl, rfl, rfl⟩
      | failed error =>
        -- no hits are adjusted to no results, unless the moment for trends is out of range
        unfold SearchReply.forgiven conclude Adjuster.adjust
        cases a.now with
        | error cause => exact ⟨rfl, rfl, rfl⟩
        | ok now => exact ⟨rfl, cut_order_nil d q limit, rfl⟩
      | cancelled => exact ⟨rfl, rfl, rfl⟩

theorem alike_plan (t : EntityType) (q : Query) (limit : Int) :
    Alike (plan a store t q limit) (plan a failing t q limit) := by
  unfold plan
  split
  · exact ⟨rfl, rfl, rfl⟩
  · split
    · exact ⟨rfl, rfl, rfl⟩
    · exact alike_inDescriptor h _ q limit

end TypeSearch

/-! ## The index side -/

namespace IndexPlan

/-- The plan for parts of a limit. -/
def ofParts (a : Adjuster α) (store : IndexStore α) (s : Strategy) (q : Query) (limit : Int)
    (parts : List (EntityType × Int)) : IndexPlan α :=
  ⟨s, q, limit, parts.map fun part => ⟨part.1, part.2, TypeSearch.plan a store part.1 q part.2⟩⟩

/-- Which parts of a limit are planned, and whether it can be divided, is not up to the store. -/
theorem ofStrategy_eq (a : Adjuster α) (s : Strategy) (q : Query) (limit : Int) :
    (∃ cause, ∀ store, ofStrategy a store s q limit = .error cause) ∨
      ∃ parts, ∀ store, ofStrategy a store s q limit = .ok (ofParts a store s q limit parts) := by
  cases s with
  | single t => exact Or.inr ⟨[(t, limit)], fun store => rfl⟩
  | unified =>
    unfold ofStrategy unified
    by_cases hlimit : limit ≤ 0
    · simp only [if_pos hlimit]
      exact Or.inr ⟨[], fun store => rfl⟩
    · simp only [if_neg hlimit]
      cases subLimits α limit with
      | error cause => exact Or.inl ⟨cause, fun store => rfl⟩
      | ok parts => exact Or.inr ⟨parts, fun store => rfl⟩

section Parts

variable {a : Adjuster α} {store failing : IndexStore α} (h : store.Forgives a failing)
  (s : Strategy) (q : Query) (limit : Int) (parts : List (EntityType × Int))

omit [LogScalar α] in
/-- Whether the search in a type breaks off depends on whether it is cancelled. -/
theorem breaksOff_eq (p : IndexPlan α) (t : EntityType) :
    p.breaksOff t =
      (((p.search? t).map fun s => s.search.isCancelled).getD false && p.isSingle) := by
  unfold breaksOff
  split
  · rename_i hsearch
    rw [hsearch]
    rfl
  · rename_i hother
    cases hsearch : p.search? t with
    | none => rfl
    | some s =>
      rcases s with ⟨entityType, part, compiled, duration, _ | _ | _⟩
      · rfl
      · rfl
      · exact absurd hsearch (hother _ _ _ _)

include h

theorem breaksOff_ofParts (t : EntityType) :
    (ofParts a store s q limit parts).breaksOff t =
      (ofParts a failing s q limit parts).breaksOff t := by
  rw [breaksOff_eq, breaksOff_eq]
  unfold search? ofParts
  simp only [List.find?_map, Option.map_map, Function.comp_def,
    (TypeSearch.alike_plan h _ q _).isCancelled]
  rfl

theorem race_ofParts (bound : Option Nat) (timeout : Option Float) :
    (ofParts a store s q limit parts).race bound timeout =
      (ofParts a failing s q limit parts).race bound timeout := by
  have hbreaks : (ofParts a store s q limit parts).breaksOff =
      (ofParts a failing s q limit parts).breaksOff :=
    funext (breaksOff_ofParts h s q limit parts)
  unfold race
  rw [hbreaks]
  simp only [ofParts, List.map_map, Function.comp_def, (TypeSearch.alike_plan h _ q _).duration]
  rfl

theorem outcome_ofParts (fanout : Fanout EntityType) :
    (ofParts a store s q limit parts).outcome fanout =
      (ofParts a failing s q limit parts).outcome fanout := by
  unfold outcome collect ended
  simp only [breaksOff_ofParts h]
  simp only [ofParts, List.filter_map, List.any_map, List.flatMap_map, Function.comp_def,
    (TypeSearch.alike_plan h _ q _).results]
  rfl

end Parts

end IndexPlan

/-! ## The secondary side -/

namespace Secondary

variable {a : Adjuster α} {store failing : IndexStore α} (h : store.Forgives a failing)

include h

theorem confirm_forgiven (q : Query) (group : EntityType × List Text) :
    confirm store q group = confirm failing q group := by
  unfold confirm
  split
  · rfl
  · rw [h.filterMatching]
    cases failing.filterMatching _ group.2 q.filters with
    | error error => rfl
    | ok ids => rfl

theorem filter_forgiven (q : Query) (s : Strategy) (results lexical : List (SearchResult α)) :
    filter store q s results lexical = filter failing q s results lexical := by
  have hconfirm : confirm store q = confirm failing q := funext (confirm_forgiven h q)
  unfold filter
  rw [hconfirm]

end Secondary

namespace Searcher

omit [LogScalar α] in
theorem found_forgiven {run : SourceRun σ α} {run' : SourceRun σ' α}
    (h : run.outcome = run'.outcome.forgiven) : found run = found run' := by
  unfold found
  rw [h]
  cases run'.outcome <;> rfl

omit [LogScalar α] in
theorem lexicalOnly_congr (x : Searcher σ α) (x' : Searcher σ' α) (s : Strategy) (limit : Int)
    {index index' : IndexRun α} (h : index.outcome = index'.outcome) :
    (x.lexicalOnly s limit index).outcome = (x'.lexicalOnly s limit index').outcome := by
  unfold lexicalOnly
  rw [h]
  split
  · rfl
  · rfl

section Sources

variable [SemanticSource σ α] [SemanticSource σ' α] {source : σ} {failing : σ'}
  (h : SemanticSource.Forgives source failing) (s : Strategy) (q : Query) (limit : Int)
  (timeout : Option Float) (now : Float)

include h

omit [LogScalar α] in
theorem sourceSide_forgiven :
    (sourceSide source s q limit timeout).map SourceRun.outcome =
      (sourceSide failing s q limit timeout).map fun run => run.outcome.forgiven := by
  have hnext : (fun now => (SemanticSource.search source q limit s.type? now).map
      SourceRun.outcome) = fun now => (SemanticSource.search failing q limit s.type? now).map
        fun run => run.outcome.forgiven := funext (h.search q limit s.type?)
  unfold sourceSide
  cases timeout with
  | none =>
    simp only [SourceSide.map, Option.map_some, hnext]
    rfl
  | some seconds =>
    simp only
    split
    · rfl
    · simp only [SourceSide.map, Option.map_some, hnext]
      rfl

omit [LogScalar α] in
/-- Seen through what its source comes to, a search beside a source and one beside a source that
forgives its failures are the same. -/
theorem race_forgiven (p : RacePlan EntityType) (waits : Nat) :
    (Race.run p (some (sourceSide source s q limit timeout)) waits now).1.map SourceRun.outcome =
      (Race.run p (some (sourceSide failing s q limit timeout)) waits now).1.map
        fun run => run.outcome.forgiven := by
  have hrun := Race.run_map p SourceRun.outcome (some (sourceSide source s q limit timeout))
    waits now
  have hrun' := Race.run_map p (fun run : SourceRun σ' α => run.outcome.forgiven)
    (some (sourceSide failing s q limit timeout)) waits now
  rw [Option.map_some, sourceSide_forgiven h s q limit timeout] at hrun
  rw [Option.map_some, hrun] at hrun'
  exact congrArg Prod.fst hrun'

omit [LogScalar α] in
/-- Searches beside a source and beside one that forgives its failures have the same ends of jobs at
the same time, and find the same in the source. -/
theorem run_forgiven (p : RacePlan EntityType) (waits : Nat) :
    let run := Race.run p (some (sourceSide source s q limit timeout)) waits now
    let run' := Race.run p (some (sourceSide failing s q limit timeout)) waits now
    run.1.fanout = run'.1.fanout ∧
      found (run.1.source.getD (sourceSide source s q limit timeout)).stage =
        found (run'.1.source.getD (sourceSide failing s q limit timeout)).stage := by
  have hside := sourceSide_forgiven h s q limit timeout
  have hrace := race_forgiven h s q limit timeout now p waits
  intro run run'
  refine ⟨congrArg Race.fanout hrace, found_forgiven ?_⟩
  have hstages : (run.1.source.getD (sourceSide source s q limit timeout)).map SourceRun.outcome =
      (run'.1.source.getD (sourceSide failing s q limit timeout)).map
        fun run => run.outcome.forgiven := by
    have hsource : run.1.source.map (SourceSide.map SourceRun.outcome) =
        run'.1.source.map (SourceSide.map fun run => run.outcome.forgiven) :=
      congrArg Race.source hrace
    calc (run.1.source.getD (sourceSide source s q limit timeout)).map SourceRun.outcome
        = (run.1.source.map (SourceSide.map SourceRun.outcome)).getD
            ((sourceSide source s q limit timeout).map SourceRun.outcome) :=
          (Option.getD_map _ _ _).symm
      _ = (run'.1.source.map (SourceSide.map fun run => run.outcome.forgiven)).getD
            ((sourceSide failing s q limit timeout).map fun run => run.outcome.forgiven) := by
          rw [hsource, hside]
      _ = (run'.1.source.getD (sourceSide failing s q limit timeout)).map
            fun run => run.outcome.forgiven := Option.getD_map _ _ _
  exact congrArg SourceSide.stage hstages

end Sources

section Sides

variable [SemanticSource σ α] [SemanticSource σ' α] {x : Searcher σ α} {failing : Searcher σ' α}
  (h : x.Forgives failing) (s : Strategy) (q : Query) (limit : Int) (timeout : Option Float)
  (now : Float)

include h

theorem searchIndex_forgiven :
    (x.searchIndex s q limit timeout now).outcome =
      (failing.searchIndex s q limit timeout now).outcome := by
  unfold searchIndex
  rw [h.adjuster, h.limits]
  rcases IndexPlan.ofStrategy_eq failing.adjuster s q limit with ⟨cause, hcause⟩ | ⟨parts, hparts⟩
  · rw [hcause, hcause]
  · rw [hparts, hparts]
    unfold IndexPlan.run IndexPlan.conclude
    simp only [IndexPlan.race_ofParts h.store, IndexPlan.outcome_ofParts h.store]

theorem searchBoth_forgiven {source : σ} {source' : σ'}
    (hsource : SemanticSource.Forgives source source') :
    (x.searchBoth source s q limit timeout now).1.outcome =
        (failing.searchBoth source' s q limit timeout now).1.outcome ∧
      found (x.searchBoth source s q limit timeout now).2.stage =
        found (failing.searchBoth source' s q limit timeout now).2.stage := by
  unfold searchBoth
  rw [h.adjuster, h.limits, hsource.waits]
  rcases IndexPlan.ofStrategy_eq failing.adjuster s q limit with ⟨cause, hcause⟩ | ⟨parts, hparts⟩
  -- the limit cannot be divided, and the source is asked all the same
  · rw [hcause, hcause]
    obtain ⟨_, hfound⟩ := run_forgiven hsource s q limit timeout now
      { jobs := [], timeout := timeout, fails := true } (SemanticSource.waits source')
    exact ⟨rfl, hfound⟩
  · rw [hparts, hparts]
    simp only [IndexPlan.race_ofParts h.store]
    obtain ⟨hfanout, hfound⟩ := run_forgiven hsource s q limit timeout now
      ((IndexPlan.ofParts failing.adjuster failing.store s q limit parts).race
        failing.limits.bound timeout) (SemanticSource.waits source')
    refine ⟨?_, hfound⟩
    unfold IndexPlan.conclude
    simp only [IndexPlan.outcome_ofParts h.store, hfanout]

/-- Joining sides that have come to the same gives the same. -/
theorem join_forgiven {index index' : IndexRun α} {side : SourceSide (SourceRun σ α)}
    {side' : SourceSide (SourceRun σ' α)} (hindex : index.outcome = index'.outcome)
    (hfound : found side.stage = found side'.stage) :
    (x.join s q limit index side).outcome = (failing.join s q limit index' side').outcome := by
  unfold join
  simp only [hindex, hfound, h.fusion, Secondary.filter_forgiven h.store]
  split
  · rfl
  · split
    · simp only [*]
    · simp only [*]

/-- A searcher that forgives the failures of another comes to the same as the other. -/
theorem outcome_forgiven (options : SearchOptions) :
    (x.search q options now).outcome = (failing.search q options now).outcome := by
  have hnone := fun limit timeout => lexicalOnly_congr x failing
    (Strategy.choose q) (failing.limits.resolve options.limit)
    (searchIndex_forgiven h (Strategy.choose q) q limit timeout now)
  unfold search
  simp only [h.limits]
  split
  · rfl
  · cases options.semantic with
    | false => exact hnone _ _
    | true =>
      -- there is a source on both sides or on neither
      have hsources := h.source
      cases hx : x.source with
      | none =>
        cases hf : failing.source with
        | none => exact hnone _ _
        | some source' =>
          rw [hx, hf] at hsources
          cases hsources
      | some source =>
        cases hf : failing.source with
        | none =>
          rw [hx, hf] at hsources
          cases hsources
        | some source' =>
          rw [hx, hf] at hsources
          cases hsources with
          | some hsource =>
            obtain ⟨hindex, hfound⟩ := searchBoth_forgiven h (Strategy.choose q) q
              (failing.limits.resolve options.limit * 2)
              (options.timeout.or failing.limits.timeout) now hsource
            exact join_forgiven h _ q _ hindex hfound

end Sides

/-! ## Errors -/

section Errors

variable [SemanticSource σ Float] (x : Searcher σ Float) (q : Query) (options : SearchOptions)
  (now : Float)

/-- A search in doubles goes beyond their range: the limit of a unified search is too large for a
double, or the rank of an entity that is to be fused is, with the rank constant. -/
def Overflows : Prop :=
  let limit := x.limits.resolve options.limit
  let timeout := options.timeout.or x.limits.timeout
  let s := Strategy.choose q
  limit ≠ 0 ∧
    match (if options.semantic then x.source else none) with
    | none => s = .unified ∧ overflow ≤ limit
    | some source =>
      (s = .unified ∧ overflow ≤ limit * 2) ∨
        ∃ lexical, (x.searchBoth source s q (limit * 2) timeout now).1.outcome = .ok lexical ∧
          (RankFusion.Overflows x.fusion.k lexical ∨
            RankFusion.Overflows x.fusion.k (Secondary.filter x.store q s
              (found (x.searchBoth source s q (limit * 2) timeout now).2.stage) lexical).1)

variable {x} {q} {limit : Int} {timeout : Option Float} (hstore : x.store.NeverCancels)

include hstore

omit [SemanticSource σ Float] in
theorem exists_searchIndex {s : Strategy} (h : ¬ (s = .unified ∧ (overflow : Int) ≤ limit)) :
    ∃ results, (x.searchIndex s q limit timeout now).outcome = .ok results := by
  obtain ⟨p, hp⟩ := IndexPlan.exists_ofStrategy x.adjuster x.store q h
  unfold searchIndex
  rw [hp]
  exact (IndexPlan.planned_ofStrategy hp).exists_outcome hstore _

theorem exists_searchBoth (source : σ) {s : Strategy}
    (h : ¬ (s = .unified ∧ (overflow : Int) ≤ limit)) :
    ∃ results, (x.searchBoth source s q limit timeout now).1.outcome = .ok results := by
  obtain ⟨p, hp⟩ := IndexPlan.exists_ofStrategy x.adjuster x.store q h
  unfold searchBoth
  rw [hp]
  exact (IndexPlan.planned_ofStrategy hp).exists_outcome hstore _

omit hstore

omit [SemanticSource σ Float] in
theorem searchIndex_eq_error (hpos : 0 < limit) (hlimit : (overflow : Int) ≤ limit) :
    (x.searchIndex .unified q limit timeout now).outcome = .error (.arithmetic .outOfRange) := by
  have hplan := IndexPlan.unified_eq_error x.adjuster x.store q hpos hlimit
  simp [searchIndex, IndexPlan.ofStrategy, hplan]

theorem searchBoth_eq_error (source : σ) (hpos : 0 < limit) (hlimit : (overflow : Int) ≤ limit) :
    (x.searchBoth source .unified q limit timeout now).1.outcome =
      .error (.arithmetic .outOfRange) := by
  have hplan := IndexPlan.unified_eq_error x.adjuster x.store q hpos hlimit
  simp [searchBoth, IndexPlan.ofStrategy, hplan]

variable (hk : 0 ≤ x.fusion.k) (s : Strategy) {index : IndexRun Float}
  {side : SourceSide (SourceRun σ Float)} {lexical : List (SearchResult Float)}

omit [SemanticSource σ Float] in
theorem join_of_error {cause : SearchError} (hindex : index.outcome = .error cause) :
    (x.join s q limit index side).outcome = .error cause := by
  unfold join
  simp only [hindex]

omit [SemanticSource σ Float] in
include hk in
theorem join_eq_error (hindex : index.outcome = .ok lexical)
    (h : RankFusion.Overflows x.fusion.k lexical ∨ RankFusion.Overflows x.fusion.k
      (Secondary.filter x.store q s (found side.stage) lexical).1) :
    (x.join s q limit index side).outcome = .error (.arithmetic .outOfRange) := by
  unfold join
  simp only [hindex, RankFusion.fuse_eq_error hk _ _ limit h]

omit [SemanticSource σ Float] in
include hk in
theorem exists_join (hindex : index.outcome = .ok lexical)
    (h : ¬ (RankFusion.Overflows x.fusion.k lexical ∨ RankFusion.Overflows x.fusion.k
      (Secondary.filter x.store q s (found side.stage) lexical).1)) :
    ∃ results, (x.join s q limit index side).outcome = .ok results := by
  rw [not_or] at h
  obtain ⟨fused, hfused⟩ := RankFusion.exists_fuse hk _ _ limit h.1 h.2
  unfold join
  simp only [hindex, hfused]
  exact ⟨fused, rfl⟩

include hk hstore in
/-- A search in doubles comes to results unless it goes beyond their range. -/
theorem search_eq :
    (x.Overflows q options now →
      (x.search q options now).outcome = .error (.arithmetic .outOfRange)) ∧
    (¬ x.Overflows q options now → ∃ results, (x.search q options now).outcome = .ok results) := by
  have hnonneg : 0 ≤ x.limits.resolve options.limit := Int.le_max_right _ _
  unfold search Overflows
  simp only
  generalize x.limits.resolve options.limit = limit at hnonneg
  by_cases hzero : limit = 0
  · rw [if_pos hzero]
    exact ⟨fun h => absurd hzero h.1, fun _ => ⟨[], rfl⟩⟩
  · rw [if_neg hzero]
    have hpos : 0 < limit := by omega
    cases (if options.semantic then x.source else none) with
    | none =>
      -- the index alone
      constructor
      · rintro ⟨_, hunified, hover⟩
        rw [hunified]
        unfold lexicalOnly
        rw [searchIndex_eq_error now hpos hover]
      · intro h
        obtain ⟨results, houtcome⟩ := exists_searchIndex now hstore fun hover => h ⟨hzero, hover⟩
        unfold lexicalOnly
        rw [houtcome]
        exact ⟨_, rfl⟩
    | some source =>
      constructor
      · rintro ⟨_, ⟨hunified, hover⟩ | ⟨lexical, hlexical, hranks⟩⟩
        · rw [hunified]
          exact join_of_error _ (searchBoth_eq_error now source (by omega) hover)
        · exact join_eq_error hk _ hlexical hranks
      · intro h
        obtain ⟨lexical, hlexical⟩ := exists_searchBoth now hstore source
          fun hover => h ⟨hzero, Or.inl hover⟩
        refine exists_join hk _ hlexical fun hranks => ?_
        exact h ⟨hzero, Or.inr ⟨lexical, hlexical, hranks⟩⟩

end Errors

/-- Failure is absence: a search in doubles in which any calls of the store and of the source fail
comes to the same as one by a searcher that forgives these failures, and there is such a searcher.
It comes to results unless it goes beyond the range of doubles. -/
theorem search_forgiven [SemanticSource σ Float] [SemanticSource σ' Float]
    (failing : Searcher σ Float) (hk : 0 ≤ failing.fusion.k)
    (hstore : failing.store.NeverCancels) (q : Query) (options : SearchOptions) (now : Float) :
    (∀ x : Searcher σ' Float, x.Forgives failing →
      (failing.search q options now).outcome = (x.search q options now).outcome) ∧
    failing.lenient.Forgives failing ∧
    (failing.Overflows q options now →
      (failing.search q options now).outcome = .error (.arithmetic .outOfRange)) ∧
    (¬ failing.Overflows q options now →
      ∃ results, (failing.search q options now).outcome = .ok results) :=
  ⟨fun _ hx => (outcome_forgiven hx q now options).symm, failing.lenient_forgives,
    search_eq options now hstore hk⟩

/-! A searcher whose store finds one note and fails at everything else, and whose source fails. -/

/-- The searcher, with a rank constant. -/
def faulty (k : Int) : Searcher (ScriptedSource Float) Float where
  store :=
    { (IndexStore.down : IndexStore Float) with
      search := fun d _ _ _ =>
        match d.entityType with
        | .note => .hits [⟨"a", 1, none, [], 0⟩]
        | _ => .failed .unavailable }
  source := some { fails := true }
  limits := {}
  fusion := ⟨k, 1⟩
  adjuster := ⟨.usual, .ok 0⟩

/-- A query with a filter, by which results of a source are checked. -/
def bitByAuthor : Query := { terms := ["bit"], filters := { author := .value "p" } }

theorem faulty_neverCancels (k : Int) : (faulty k).store.NeverCancels := by
  intro d compiled f limit h
  unfold faulty at h
  simp only at h
  split at h <;> cases h

set_option maxRecDepth 100000 in
theorem search_faulty :
    ∃ results,
      ((faulty 60).search bitByAuthor { semantic := true } 0).outcome = .ok results ∧
      ((faulty 60).lenient.search bitByAuthor { semantic := true } 0).outcome = .ok results ∧
      results.map SearchResult.key = [(EntityType.note, ("a" : Text))] := by
  have hsame := fun (x : Searcher (Lenient (ScriptedSource Float)) Float) hx =>
    (search_forgiven (faulty 60) (by decide) (faulty_neverCancels 60) bitByAuthor
      { semantic := true } 0).1 x hx
  -- what is shown is computed once, and told of the lenient searcher by the theorem
  have hkeys : (((faulty 60).search bitByAuthor { semantic := true } 0).outcome.map
      (List.map SearchResult.key)).toOption = some [(EntityType.note, ("a" : Text))] := by
    decide +kernel
  cases houtcome : ((faulty 60).search bitByAuthor { semantic := true } 0).outcome with
  | error cause =>
    rw [houtcome] at hkeys
    cases hkeys
  | ok results =>
    rw [houtcome] at hkeys
    exact ⟨results, rfl, (hsame _ (faulty 60).lenient_forgives).symm.trans houtcome,
      Option.some.inj hkeys⟩

end Searcher

end EntitySearch

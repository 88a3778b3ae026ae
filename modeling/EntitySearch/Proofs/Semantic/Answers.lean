import EntitySearch.Proofs.Fallible
import EntitySearch.Proofs.Ranking.Rearrangement
import EntitySearch.Proofs.Search.Provenance
import EntitySearch.Semantic.Client
/-!
# What the service's answers come to

Whatever the service answers, a search of its client ends with results, no more than were asked for,
and all of them are read off items of one answer of status 200 (`Client.through_search`,
`mem_results`). What an item says is taken over field by field, so a result is sound only if its
item is (`sound_iff`).
-/

namespace EntitySearch

/-- A result as others rely on it: a finite score, no snippet or a text, and fields that are texts.
Its id is a text and its time a whole number in any case. -/
structure SearchResult.Sound (r : SearchResult Float) : Prop extends r.Shaped where
  score : Number.isFiniteFloat r.score = true

namespace Semantic

/-! ## Items -/

/-- What an item says under a key. -/
def part (item : Json) (key : Text) : Json := (item.get? key).getD .null

/-- An item whose score, if it can be converted, is finite, whose snippet is a text or null, and
whose fields are texts. -/
structure SoundItem (item : Json) : Prop where
  score : ∀ x, (part item "score").toFloat = .ok x → Number.isFiniteFloat x = true
  snippet : part item "snippet" = .null ∨ ∃ s, part item "snippet" = .text s
  fields : (part item "match_fields").isVacant = true ∨
    ∀ items, listed (part item "match_fields") = .ok items → ∀ i ∈ items, ∃ s, i = .text s

section Items

variable {item : Json} {r : SearchResult Float}

theorem lift_eq_ok {β : Type} {c : Except Json.ConversionError β} {x : β} :
    lift c = .ok x ↔ c = .ok x := by
  cases c with
  | error e =>
    constructor
    · intro h
      cases h
    · intro h
      cases h
  | ok y =>
    constructor
    · intro h
      cases h
      rfl
    · intro h
      cases h
      rfl

/-- A result takes its score, snippet and fields from its item. -/
theorem readItem_eq_some (h : readItem item = .ok (some r)) :
    (part item "score").toFloat = .ok r.score ∧ r.snippet = part item "snippet" ∧
      matchFields (part item "match_fields") = .ok r.matchFields := by
  unfold readItem at h
  split at h
  · simp only at h
    split at h
    · cases h
    · split at h
      · cases h
      · obtain ⟨score, hscore, h⟩ := bind_eq_ok.mp h
        obtain ⟨fields, hfields, h⟩ := bind_eq_ok.mp h
        obtain ⟨createdAt, _, h⟩ := bind_eq_ok.mp h
        cases h
        exact ⟨lift_eq_ok.mp hscore, rfl, hfields⟩
  · cases h

theorem atoms_eq_ok {items : List Json} {as : List Atom} (h : atoms items = .ok as) :
    items = as.map Json.atom := by
  induction items generalizing as with
  | nil =>
    cases h
    rfl
  | cons value rest ih =>
    cases value with
    | atom a =>
      obtain ⟨later, hlater, h⟩ := bind_eq_ok.mp h
      cases h
      rw [ih hlater, List.map_cons]
    | arr _ => cases h
    | obj _ => cases h

/-- An atom that agrees with a text is a text. -/
theorem alike_text {a : Atom} {s : Text} (h : Atom.alike a (.text s) = true) :
    ∃ t, a = .text t := by
  cases a with
  | text t => exact ⟨t, rfl⟩
  | null => simp [Atom.alike, Atom.same, Atom.compare?, Atom.whole?, Atom.isUndefined] at h
  | bool b => simp [Atom.alike, Atom.same, Atom.compare?, Atom.whole?, Atom.isUndefined] at h
  | int n => simp [Atom.alike, Atom.same, Atom.compare?, Atom.whole?, Atom.isUndefined] at h
  | float x => simp [Atom.alike, Atom.same, Atom.compare?, Atom.whole?, Atom.isUndefined] at h

/-- Leaving out repeats leaves only atoms of the list, and for each of them one that agrees. -/
theorem foldl_distinctBy (agree : Atom → Atom → Bool) (as found : List Atom) :
    let kept := as.foldl (fun found a => if found.any (agree a) then found else found ++ [a]) found
    (∀ a ∈ kept, a ∈ found ∨ a ∈ as) ∧ (∀ a ∈ found, a ∈ kept) ∧
      ∀ a ∈ as, a ∈ kept ∨ ∃ b ∈ kept, agree a b = true := by
  induction as generalizing found with
  | nil => simp
  | cons first rest ih =>
    rw [List.foldl_cons]
    split
    · rename_i hany
      obtain ⟨hfrom, hkeeps, hcovers⟩ := ih found
      refine ⟨fun a ha => (hfrom a ha).imp_right (List.mem_cons_of_mem _), hkeeps, ?_⟩
      rintro a ha
      rcases List.mem_cons.mp ha with rfl | hlater
      · obtain ⟨b, hb, hagree⟩ := List.any_eq_true.mp hany
        exact Or.inr ⟨b, hkeeps b hb, hagree⟩
      · exact hcovers a hlater
    · obtain ⟨hfrom, hkeeps, hcovers⟩ := ih (found ++ [first])
      refine ⟨fun a ha => ?_, fun a ha => hkeeps a (List.mem_append_left _ ha), fun a ha => ?_⟩
      · rcases hfrom a ha with hold | hlater
        · rcases List.mem_append.mp hold with hin | hnew
          · exact Or.inl hin
          · exact Or.inr (List.mem_cons.mpr (Or.inl (List.mem_singleton.mp hnew)))
        · exact Or.inr (List.mem_cons_of_mem _ hlater)
      · rcases List.mem_cons.mp ha with rfl | hlater
        · exact Or.inl (hkeeps a (List.mem_append_right _ List.mem_cons_self))
        · exact hcovers a hlater

/-- The fields that a value lists are texts exactly if it lists texts. -/
theorem matchFields_texts_iff {value : Json} {fields : List Atom}
    (h : matchFields value = .ok fields) :
    (∀ a ∈ fields, ∃ s, a = .text s) ↔
      value.isVacant = true ∨ ∀ items, listed value = .ok items → ∀ i ∈ items, ∃ s, i = .text s := by
  unfold matchFields at h
  split at h
  · rename_i hvacant
    cases h
    simp [hvacant]
  · rename_i hfilled
    obtain ⟨items, hitems, h⟩ := bind_eq_ok.mp h
    obtain ⟨as, has, h⟩ := bind_eq_ok.mp h
    cases h
    obtain ⟨hfrom, _, hcovers⟩ := foldl_distinctBy Atom.alike as []
    rw [atoms_eq_ok has] at hitems
    simp only [hfilled, hitems, Bool.false_eq_true, false_or, Except.ok.injEq, forall_eq']
    constructor
    · intro htexts i hi
      obtain ⟨a, ha, rfl⟩ := List.mem_map.mp hi
      rcases hcovers a ha with hin | ⟨b, hb, halike⟩
      · obtain ⟨s, rfl⟩ := htexts a hin
        exact ⟨s, rfl⟩
      · obtain ⟨s, rfl⟩ := htexts b hb
        obtain ⟨t, rfl⟩ := alike_text halike
        exact ⟨t, rfl⟩
    · intro htexts a ha
      have hin := (hfrom a ha).resolve_left List.not_mem_nil
      obtain ⟨s, hs⟩ := htexts _ (List.mem_map_of_mem hin)
      exact ⟨s, Json.atom.inj hs⟩

/-- A result is sound exactly if its item is. -/
theorem sound_iff (h : readItem item = .ok (some r)) : r.Sound ↔ SoundItem item := by
  obtain ⟨hscore, hsnippet, hfields⟩ := readItem_eq_some h
  constructor
  · rintro ⟨⟨snippet, fields⟩, score⟩
    refine ⟨fun x hx => ?_, hsnippet ▸ snippet, (matchFields_texts_iff hfields).mp fields⟩
    rw [hscore] at hx
    cases hx
    exact score
  · rintro ⟨score, snippet, fields⟩
    exact ⟨⟨hsnippet ▸ snippet, (matchFields_texts_iff hfields).mpr fields⟩, score _ hscore⟩

end Items

/-! ## Answers -/

/-- An answer lists an item: its body is an object with the item among its results. -/
def Lists (body : Text) (item : Json) : Prop :=
  ∃ value items,
    (body.chars?.map (Json.parseDocument maxNesting)).getD (.error .undecodable) = .ok value ∧
    listed ((value.get? "results").getD (.arr [])) = .ok items ∧ item ∈ items

theorem mem_readBody {body : Text} {results : List (SearchResult Float)}
    (h : readBody body = .ok results) {r : SearchResult Float} (hr : r ∈ results) :
    ∃ item, Lists body item ∧ readItem item = .ok (some r) := by
  unfold readBody at h
  split at h
  · cases h
  · rename_i value hvalue
    split at h
    · obtain ⟨items, hitems, h⟩ := bind_eq_ok.mp h
      obtain ⟨read, hread, h⟩ := bind_eq_ok.mp h
      cases h
      obtain ⟨result?, hmem, hsome⟩ := List.mem_filterMap.mp hr
      simp only [id_eq] at hsome
      subst hsome
      obtain ⟨item, hitem, hreads⟩ := exists_of_mem_mapM hread hmem
      exact ⟨item, ⟨_, items, hvalue, hitems, hitem⟩, hreads⟩
    · cases h

/-- Results come of an answer of status 200 only. -/
theorem results_eq_ok {a : ServiceAnswer} {results : List (SearchResult Float)}
    (h : a.results = .ok results) : a.status = 200 ∧ readBody a.body = .ok results := by
  unfold ServiceAnswer.results at h
  split at h
  · cases h
  · split at h
    · cases h
    · rename_i hstatus
      exact ⟨not_not.mp hstatus, h⟩

/-! ## Searches -/

namespace Client

/-- How a search for a client ends: with nothing, or with the first results of an answer of status
200. -/
def Answered (c : Client) (limit : Int) (run : SourceRun Client Float) : Prop :=
  ∃ results, run.outcome = .returned results ∧
    (results = [] ∨ ∃ a ∈ c.answers, ∃ all, a.results = .ok all ∧ results = cut limit all)

/-- While it waits, a search has come to nothing. -/
def Waits (run : SourceRun Client Float) : Prop := run.outcome = .pending

theorem Answered.nothing (c₀ : Client) (limit : Int) (c : Client) (sent : List SourceRequest) :
    c₀.Answered limit ⟨c, .returned [], sent⟩ := ⟨[], rfl, Or.inl rfl⟩

theorem later_subset (c : Client) : c.later ⊆ c.answers := by
  unfold later
  split
  · rename_i first next rest heq
    rw [heq]
    exact List.subset_cons_self _ _
  · exact List.Subset.refl _

/-- A request leaves answers of before, and results come of one of them. -/
theorem exchange_spec (c : Client) (payload : Json) (now : Float) :
    (c.exchange payload now).client.answers ⊆ c.answers ∧
      ∀ all, (c.exchange payload now).outcome = .ok all → ∃ a ∈ c.answers, a.results = .ok all := by
  have hanswer : ∀ all, c.answer.results = .ok all → ∃ a ∈ c.answers, a.results = .ok all := by
    intro all hall
    unfold answer at hall
    cases hanswers : c.answers with
    | nil =>
      -- an empty body is no document
      rw [hanswers] at hall
      cases hall
    | cons a rest =>
      rw [hanswers] at hall
      exact ⟨a, List.mem_cons_self, hall⟩
  unfold exchange
  split
  · refine ⟨later_subset c, fun all hall => ?_⟩
    simp only at hall
    split at hall
    · exact hanswer all hall
    · cases hall
  · exact ⟨List.Subset.refl _, fun all hall => by cases hall⟩

variable {c₀ : Client} {limit : Int}
  {again : Client → List SourceRequest → Float → Activity (SourceRun Client Float)}
  (hagain : ∀ c sent now, c.answers ⊆ c₀.answers →
    (again c sent now).Through Waits (c₀.Answered limit))

include hagain

theorem through_retry (attempt left : Nat) {c : Client} (hc : c.answers ⊆ c₀.answers)
    (sent : List SourceRequest) :
    (retry again attempt left c sent).Through Waits (c₀.Answered limit) := by
  unfold retry
  split
  · exact ⟨rfl, fun now => hagain c sent now hc⟩
  · exact Answered.nothing c₀ limit c sent

theorem through_conclude (attempt left : Nat) {c : Client} (hc : c.answers ⊆ c₀.answers)
    (sent : List SourceRequest) {outcome : Except AnswerError (List (SearchResult Float))}
    (houtcome : ∀ all, outcome = .ok all → ∃ a ∈ c₀.answers, a.results = .ok all) (now : Float) :
    (conclude again limit attempt left c sent outcome now).Through Waits (c₀.Answered limit) := by
  unfold conclude
  split
  · rename_i all
    obtain ⟨a, ha, hresults⟩ := houtcome all rfl
    exact ⟨_, rfl, Or.inr ⟨a, ha, all, hresults, rfl⟩⟩
  · exact through_retry hagain attempt left (c := { c with breaker := c.breaker.fail now }) hc sent

theorem through_exchange (payload : Json) (attempt left : Nat) {c : Client}
    (hc : c.answers ⊆ c₀.answers) (sent : List SourceRequest) (now : Float) :
    let e := c.exchange payload now
    let answered := conclude again limit attempt left e.client (sent ++ e.requests) e.outcome
    (if e.delay == 0 then answered now
      else .waits ⟨e.client, .pending, sent ++ e.requests⟩ e.delay answered).Through Waits
        (c₀.Answered limit) := by
  obtain ⟨hleft, hresults⟩ := exchange_spec c payload now
  have hended := through_conclude hagain attempt left (List.Subset.trans hleft hc)
    (sent ++ (c.exchange payload now).requests)
    fun all hall => (hresults all hall).imp fun a ha => ⟨hc ha.1, ha.2⟩
  intro e answered
  split
  · exact hended now
  · exact ⟨rfl, hended⟩

omit hagain

/-- Attempts wait for answers and between requests, and end with results of one answer at most. -/
theorem through_attempts (payload : Json) (attempt left : Nat) (c : Client)
    (sent : List SourceRequest) (now : Float) (hc : c.answers ⊆ c₀.answers) :
    (attempts payload limit attempt left c sent now).Through Waits (c₀.Answered limit) := by
  induction left generalizing attempt c sent now with
  | zero =>
    unfold attempts
    split
    · exact Answered.nothing c₀ limit c sent
    · rename_i admitted _
      have hlast : ∀ (c : Client) (sent : List SourceRequest) (_ : Float), c.answers ⊆ c₀.answers →
          (Activity.ended (⟨c, .returned [], sent⟩ : SourceRun Client Float)).Through Waits
            (c₀.Answered limit) := fun c sent _ _ => Answered.nothing c₀ limit c sent
      exact through_exchange hlast payload attempt 0 (c := { c with breaker := admitted }) hc sent
        now
  | succ left ih =>
    unfold attempts
    split
    · exact Answered.nothing c₀ limit c sent
    · rename_i admitted _
      exact through_exchange (fun c sent now hc => ih (attempt + 1) c sent now hc) payload attempt
        (left + 1) (c := { c with breaker := admitted }) hc sent now

/-- A search ends with results, whatever the service answers. -/
theorem through_search (c : Client) (q : Query) (limit : Int) (t : Option EntityType)
    (now : Float) : (c.search q limit t now).Through Waits (c.Answered limit) := by
  unfold search
  split
  · exact Answered.nothing c limit c []
  · exact through_attempts _ _ _ c [] now (List.Subset.refl _)

end Client

/-- The service has sent a result: it is read off an item of an answer of status 200. -/
def Client.Sent (c : Client) (r : SearchResult Float) : Prop :=
  ∃ a ∈ c.answers, a.status = 200 ∧ ∃ item, Lists a.body item ∧ readItem item = .ok (some r)

/-- The results with which a search ends are no more than were asked for, and the service has sent
each of them. -/
theorem mem_results {c : Client} {limit : Int} {run : SourceRun Client Float}
    (h : c.Answered limit run) :
    ∃ results, run.outcome = .returned results ∧ (results.length : Int) ≤ max limit 0 ∧
      ∀ r ∈ results, c.Sent r := by
  obtain ⟨results, houtcome, rfl | ⟨a, ha, all, hall, rfl⟩⟩ := h
  · exact ⟨[], houtcome, Int.le_max_right _ _, by simp⟩
  · obtain ⟨hstatus, hbody⟩ := results_eq_ok hall
    refine ⟨_, houtcome, length_cut_le limit all, fun r hr => ?_⟩
    obtain ⟨item, hitem, hread⟩ := mem_readBody hbody ((cut_sublist limit all).subset hr)
    exact ⟨a, ha, hstatus, item, hitem, hread⟩

end Semantic

end EntitySearch

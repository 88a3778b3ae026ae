import EntitySearch.Proofs.Semantic.Answers
import EntitySearch.Service.App
/-!
# Which results can be shown

A search request is answered with status 200 exactly if the search comes to results of which each
can be shown: its texts are well formed, its snippet is a text or null, its fields are texts and its
record is an object or null (`App.status_search_iff`).
-/

namespace EntitySearch

/-! ## Texts in order -/

namespace Atom

theorem insertSorted_perm {a : Atom} {atoms sorted : List Atom}
    (h : insertSorted a atoms = some sorted) : sorted.Perm (a :: atoms) := by
  induction atoms generalizing sorted with
  | nil =>
    cases h
    exact List.Perm.refl _
  | cons b rest ih =>
    obtain ⟨below, _, h⟩ := Option.bind_eq_some_iff.mp h
    split at h
    · obtain ⟨tail, htail, h⟩ := Option.bind_eq_some_iff.mp h
      cases h
      exact ((ih htail).cons b).trans (List.Perm.swap a b rest)
    · cases h
      exact List.Perm.refl _

theorem sorted?_perm {atoms sorted : List Atom} (h : sorted? atoms = some sorted) :
    sorted.Perm atoms := by
  induction atoms generalizing sorted with
  | nil =>
    cases h
    exact List.Perm.refl _
  | cons a rest ih =>
    obtain ⟨others, hothers, h⟩ := Option.bind_eq_some_iff.mp h
    exact (insertSorted_perm h).trans ((ih hothers).cons a)

/-- Texts have an order. -/
theorem exists_insertSorted (s : Text) {atoms : List Atom} (h : ∀ a ∈ atoms, ∃ t, a = .text t) :
    ∃ sorted, insertSorted (.text s) atoms = some sorted := by
  induction atoms with
  | nil => exact ⟨_, rfl⟩
  | cons b rest ih =>
    obtain ⟨t, rfl⟩ := h b List.mem_cons_self
    obtain ⟨tail, htail⟩ := ih fun a ha => h a (List.mem_cons_of_mem _ ha)
    cases hbelow : Text.before t s with
    | true => exact ⟨.text t :: tail, by simp [insertSorted, less?, hbelow, htail]⟩
    | false => exact ⟨.text s :: .text t :: rest, by simp [insertSorted, less?, hbelow]⟩

theorem exists_sorted? {atoms : List Atom} (h : ∀ a ∈ atoms, ∃ t, a = .text t) :
    ∃ sorted, sorted? atoms = some sorted := by
  induction atoms with
  | nil => exact ⟨[], rfl⟩
  | cons a rest ih =>
    have hrest : ∀ b ∈ rest, ∃ t, b = .text t := fun b hb => h b (List.mem_cons_of_mem _ hb)
    obtain ⟨others, hothers⟩ := ih hrest
    obtain ⟨s, rfl⟩ := h a List.mem_cons_self
    obtain ⟨sorted, hsorted⟩ := exists_insertSorted s fun b hb =>
      hrest b ((sorted?_perm hothers).mem_iff.mp hb)
    exact ⟨sorted, Option.bind_eq_some_iff.mpr ⟨others, hothers, hsorted⟩⟩

end Atom

theorem allTexts?_eq_some {atoms : List Atom} {texts : List Text} :
    allTexts? atoms = some texts ↔ atoms = texts.map Atom.text := by
  induction atoms generalizing texts with
  | nil => cases texts <;> simp [allTexts?]
  | cons a rest ih =>
    cases a <;> cases texts <;> simp [allTexts?, Option.map_eq_some_iff, ih, and_comm]

/-! ## What can be sent once numbers are finite -/

namespace Json

/-- Whether a value can be sent with null in place of numbers that are not finite. -/
def isShowable (value : Json) : Bool := value.finitePart.isSendable

theorem isShowable_atom (a : Atom) :
    (Json.atom a).isShowable = match a with
      | .text s => Text.isWellFormed s
      | _ => true := by
  cases a with
  | float x =>
    unfold isShowable finitePart isSendable finiteAtom
    simp only
    split
    · simpa [isSendableAtom]
    · rfl
  | null => rfl
  | bool b => rfl
  | int n => rfl
  | text s => rfl

theorem isShowable_arr (items : List Json) :
    (Json.arr items).isShowable = items.all isShowable := by
  show itemsSendable (finiteItems items) = items.all isShowable
  induction items with
  | nil => rfl
  | cons v rest ih =>
    rw [finiteItems, itemsSendable, ih, List.all_cons]
    rfl

theorem isShowable_obj (members : List (Text × Json)) :
    (Json.obj members).isShowable =
      members.all fun e => Text.isWellFormed e.1 && e.2.isShowable := by
  show membersSendable (finiteMembers members) = _
  induction members with
  | nil => rfl
  | cons e rest ih =>
    rw [finiteMembers, membersSendable, ih, List.all_cons]
    rfl

end Json

/-! ## Results -/

/-- A result can be shown with a record. -/
structure SearchResult.Presentable (r : SearchResult Float) (record : Option Json) : Prop where
  entityId : Text.isWellFormed r.entityId = true
  snippet : r.snippet = .null ∨ ∃ s, r.snippet = .text s ∧ Text.isWellFormed s = true
  fields : ∀ a ∈ r.matchFields, ∃ s, a = .text s ∧ Text.isWellFormed s = true
  record : ∃ shown, shownRecord? record = some shown ∧ shown.isShowable = true

section Results

variable {r : SearchResult Float} {record : Option Json}

/-- How a result is shown with its fields in order and its record. -/
theorem shownResult?_eq_some {shown : Json} :
    shownResult? r record = some shown ↔
      ∃ (sorted : List Atom) (fields : List Text) (entity : Json),
        Atom.sorted? r.matchFields = some sorted ∧ allTexts? sorted = some fields ∧
        shownRecord? record = some entity ∧ isTextOrNull r.snippet = true ∧
        shown = .obj [("entity_type", .text r.entityType.name), ("entity_id", .text r.entityId),
          ("score", .float r.score), ("fusion_score", (r.fusionScore.map Json.float).getD .null),
          ("snippet", r.snippet), ("match_fields", .arr (fields.map Json.text)),
          ("created_at", .int r.createdAt), ("entity", entity)] := by
  unfold shownResult?
  constructor
  · intro h
    obtain ⟨sorted, hsorted, h⟩ := Option.bind_eq_some_iff.mp h
    obtain ⟨fields, hfields, h⟩ := Option.bind_eq_some_iff.mp h
    obtain ⟨entity, hentity, h⟩ := Option.bind_eq_some_iff.mp h
    split at h
    · rename_i hsnippet
      cases h
      exact ⟨sorted, fields, entity, hsorted, hfields, hentity, hsnippet, rfl⟩
    · cases h
  · rintro ⟨sorted, fields, entity, hsorted, hfields, hentity, hsnippet, rfl⟩
    refine Option.bind_eq_some_iff.mpr ⟨sorted, hsorted, Option.bind_eq_some_iff.mpr
      ⟨fields, hfields, Option.bind_eq_some_iff.mpr ⟨entity, hentity, ?_⟩⟩⟩
    rw [if_pos hsnippet]
    rfl

/-- A shown result can be sent exactly if its texts can. -/
theorem isShowable_result (fields : List Text) (entity : Json) :
    (Json.obj [("entity_type", .text r.entityType.name), ("entity_id", .text r.entityId),
      ("score", .float r.score), ("fusion_score", (r.fusionScore.map Json.float).getD .null),
      ("snippet", r.snippet), ("match_fields", .arr (fields.map Json.text)),
      ("created_at", .int r.createdAt), ("entity", entity)]).isShowable = true ↔
    Text.isWellFormed r.entityId = true ∧ r.snippet.isShowable = true ∧
      (∀ s ∈ fields, Text.isWellFormed s = true) ∧ entity.isShowable = true := by
  have hname : Text.isWellFormed r.entityType.name = true := by
    cases r.entityType <;> decide
  have hfusion : ((r.fusionScore.map Json.float).getD .null).isShowable = true := by
    cases r.fusionScore with
    | none => rfl
    | some score => exact Json.isShowable_atom (.float score)
  have hkeys : ∀ key ∈ (["entity_type", "entity_id", "score", "fusion_score", "snippet",
      "match_fields", "created_at", "entity"] : List Text), Text.isWellFormed key = true := by
    decide
  simp only [List.forall_mem_cons] at hkeys
  simp [Json.isShowable_obj, Json.isShowable_arr, Json.isShowable_atom, hkeys, hname, hfusion,
    Function.comp_def]

theorem showable_snippet_iff {snippet : Json} :
    (isTextOrNull snippet = true ∧ snippet.isShowable = true) ↔
      snippet = .null ∨ ∃ s, snippet = .text s ∧ Text.isWellFormed s = true := by
  unfold isTextOrNull
  split
  · simp [Json.isShowable_atom]
  · simp [Json.isShowable_atom]
  · rename_i htext hnull
    constructor
    · rintro ⟨hnot, _⟩
      cases hnot
    · rintro (rfl | ⟨s, rfl, _⟩)
      · exact (hnull rfl).elim
      · exact (htext s rfl).elim

/-- A result is shown, and can be sent, exactly if it is presentable. -/
theorem presentable_iff :
    (∃ shown, shownResult? r record = some shown ∧ shown.isShowable = true) ↔
      r.Presentable record := by
  simp only [shownResult?_eq_some]
  constructor
  · rintro ⟨shown, ⟨sorted, fields, entity, hsorted, hfields, hentity, hsnippet, rfl⟩, hshowable⟩
    obtain ⟨hid, htext, hwell, hrecord⟩ := (isShowable_result fields entity).mp hshowable
    refine ⟨hid, showable_snippet_iff.mp ⟨hsnippet, htext⟩, fun a ha => ?_, entity, hentity,
      hrecord⟩
    have hin := (Atom.sorted?_perm hsorted).mem_iff.mpr ha
    rw [allTexts?_eq_some.mp hfields] at hin
    obtain ⟨s, hs, rfl⟩ := List.mem_map.mp hin
    exact ⟨s, rfl, hwell s hs⟩
  · rintro ⟨hid, hsnippet, htexts, entity, hentity, hrecord⟩
    obtain ⟨hsnippet, htext⟩ := showable_snippet_iff.mpr hsnippet
    obtain ⟨sorted, hsorted⟩ := Atom.exists_sorted? fun a ha => (htexts a ha).imp fun s hs => hs.1
    have hperm := Atom.sorted?_perm hsorted
    obtain ⟨fields, rfl⟩ : sorted ∈ Set.range (List.map Atom.text) := by
      rw [Set.range_list_map]
      intro a ha
      obtain ⟨s, rfl, _⟩ := htexts a (hperm.mem_iff.mp ha)
      exact ⟨s, rfl⟩
    refine ⟨_, ⟨_, fields, entity, hsorted, allTexts?_eq_some.mpr rfl, hentity, hsnippet, rfl⟩,
      (isShowable_result fields entity).mpr ⟨hid, htext, fun s hs => ?_, hrecord⟩⟩
    obtain ⟨t, heq, hwell⟩ := htexts _ (hperm.mem_iff.mp (List.mem_map_of_mem hs))
    rwa [Atom.text.inj heq]

end Results

/-! ## Replies -/

/-- All items of a list come to values with a property exactly if each of them does. -/
theorem exists_mapM_iff {β γ : Type} {f : β → Option γ} {P : γ → Prop} {items : List β} :
    (∃ values, items.mapM f = some values ∧ ∀ y ∈ values, P y) ↔
      ∀ x ∈ items, ∃ y, f x = some y ∧ P y := by
  induction items with
  | nil => simp
  | cons x rest ih =>
    rw [List.forall_mem_cons, ← ih]
    constructor
    · rintro ⟨values, hvalues, hall⟩
      rw [List.mapM_cons] at hvalues
      obtain ⟨y, hy, hvalues⟩ := Option.bind_eq_some_iff.mp hvalues
      obtain ⟨later, hlater, hvalues⟩ := Option.bind_eq_some_iff.mp hvalues
      cases hvalues
      obtain ⟨hfirst, hrest⟩ := List.forall_mem_cons.mp hall
      exact ⟨⟨y, hy, hfirst⟩, later, hlater, hrest⟩
    · rintro ⟨⟨y, hy, hfirst⟩, later, hlater, hrest⟩
      exact ⟨y :: later, by simp [List.mapM_cons, hy, hlater],
        List.forall_mem_cons.mpr ⟨hfirst, hrest⟩⟩

theorem isShowable_report (shown : List Json) (query strategy : Text) (semantic : Bool)
    (hstrategy : Text.isWellFormed strategy = true) :
    (Json.obj [("results", .arr shown), ("total", .int shown.length), ("query", .text query),
      ("strategy", .text strategy), ("semantic", .bool semantic)]).isShowable = true ↔
    Text.isWellFormed query = true ∧ ∀ j ∈ shown, j.isShowable = true := by
  have hkeys : ∀ key ∈ (["results", "total", "query", "strategy", "semantic"] : List Text),
      Text.isWellFormed key = true := by
    decide
  simp only [List.forall_mem_cons] at hkeys
  simp [Json.isShowable_obj, Json.isShowable_arr, Json.isShowable_atom, hkeys, hstrategy, and_comm]

/-- The report of a search can be made and sent exactly if its search string is well formed and each
result is presentable. -/
theorem searchReport_iff (r : SearchRequest) (q : Query) (results : List (SearchResult Float))
    (records : List (Option Json)) :
    (∃ report, searchReport? r q results records = some report ∧ report.isShowable = true) ↔
      Text.isWellFormed r.query = true ∧ ∀ p ∈ results.zip records, p.1.Presentable p.2 := by
  have hall : (∀ p ∈ results.zip records, p.1.Presentable p.2) ↔
      ∃ shown, ((results.zip records).mapM fun p => shownResult? p.1 p.2) =
        some shown ∧ ∀ j ∈ shown, j.isShowable = true := by
    rw [exists_mapM_iff]
    exact forall₂_congr fun p _ => presentable_iff.symm
  have hname : Text.isWellFormed (Strategy.choose q).name = true := by
    cases Strategy.choose q with
    | unified => decide
    | single t => exact (by decide : Text.isWellFormed ("single" : Text) = true)
  rw [hall]
  unfold searchReport?
  constructor
  · rintro ⟨report, hreport, hshowable⟩
    obtain ⟨shown, hshown, hreport⟩ := Option.bind_eq_some_iff.mp hreport
    cases hreport
    obtain ⟨hquery, hresults⟩ := (isShowable_report shown _ _ _ hname).mp hshowable
    exact ⟨hquery, shown, hshown, hresults⟩
  · rintro ⟨hquery, shown, hshown, hresults⟩
    exact ⟨_, Option.bind_eq_some_iff.mpr ⟨shown, hshown, rfl⟩,
      (isShowable_report shown _ _ _ hname).mpr ⟨hquery, hresults⟩⟩

namespace App

/-- The records that are shown with results. -/
def records (x : Searcher AnySource Float) (r : SearchRequest)
    (results : List (SearchResult Float)) : List (Option Json) :=
  if r.hydrate then x.hydrate results else results.map fun _ => none

/-- A request that the service takes has its search come to results. -/
def ComesTo (app : App) (x : Searcher AnySource Float) (r : SearchRequest)
    (results : List (SearchResult Float)) : Prop :=
  ∃ timeout, secondsOf r.timeoutMs = .ok timeout ∧
    (x.search (Query.parse r.query) ⟨r.limit, r.semantic, timeout⟩ app.time).outcome = .ok results

theorem status_shown_iff (body : Json) :
    (Reply.shown body).status = 200 ↔ body.isShowable = true := by
  unfold Reply.shown Json.isShowable
  split <;> simp [Reply.status, *]

theorem status_searchReply_iff (x : Searcher AnySource Float) (r : SearchRequest) (q : Query)
    (outcome : Except SearchError (List (SearchResult Float))) :
    (searchReply x r q outcome).status = 200 ↔
      Text.isWellFormed r.query = true ∧ ∃ results, outcome = .ok results ∧
        ∀ p ∈ results.zip (records x r results), p.1.Presentable p.2 := by
  unfold searchReply
  cases outcome with
  | error cause => cases cause <;> simp [Reply.status]
  | ok results =>
    have hreport := searchReport_iff r q results (records x r results)
    have hrecords : (if r.hydrate then x.hydrate results else results.map fun _ => none) =
        records x r results := rfl
    simp only [Except.ok.injEq, exists_eq_left', hrecords]
    rw [← hreport]
    cases searchReport? r q results (records x r results) with
    | none => simp [Reply.status]
    | some report => simp [status_shown_iff]

/-- A search is answered with status 200 exactly if its search string is well formed and it comes to
results of which each is presentable. -/
theorem status_search_iff (app : App) (x : Searcher AnySource Float) (r : SearchRequest) :
    (app.search x r).2.status = 200 ↔
      Text.isWellFormed r.query = true ∧ ∃ results, app.ComesTo x r results ∧
        ∀ p ∈ results.zip (records x r results), p.1.Presentable p.2 := by
  unfold search ComesTo
  simp only
  cases htimeout : secondsOf r.timeoutMs with
  | error cause => simp [Reply.status]
  | ok timeout => simp [status_searchReply_iff]

end App

end EntitySearch

import EntitySearch.Proofs.Index.Restriction
import EntitySearch.Proofs.Index.TagHistory
import EntitySearch.Proofs.Query.Lexical
import EntitySearch.Proofs.Search.SignalFailures
/-!
# Searching for recorded tags

A tag is kept as a whole, in lower case, but a search looks for words. The query for a tag asks for
words that begin with all of the tag, and of the words of the tag only one that is all of it does.
So a tag is found after it was recorded if and only if, in lower case, it is a single word; it is
then shown first (`Searcher.single_recorded_tag`). A tag with a sign in it is never found
(`Searcher.single_recorded_signs`).
-/

namespace EntitySearch

open MemoryIndex (Change after)
open Number (overflow)
open Text (HasWord IsWord Solid)

/-! ## Words of a tag -/

namespace Text

/-- A word of a text begins with all of the text, both in lower case, only if it is all of it. -/
theorem lower_prefix_lower_iff {text word : Text} (h : HasWord text word) :
    lower text <+: lower word ↔ word = text := by
  obtain ⟨-, before, after, rfl, -, -⟩ := h
  constructor
  · intro hprefix
    have hlength := hprefix.length_le
    rw [lower, lower, length_lowerFrom, length_lowerFrom] at hlength
    simp only [List.length_append, List.count_append] at hlength
    have hbefore : before = [] := List.length_eq_zero_iff.mp (by omega)
    have hafter : after = [] := List.length_eq_zero_iff.mp (by omega)
    rw [hbefore, hafter, List.nil_append, List.append_nil]
  · intro hall
    rw [← hall]

theorem exists_lower_prefix_iff {text : Text} :
    (∃ word, HasWord text word ∧ lower text <+: lower word) ↔ IsWord text := by
  constructor
  · rintro ⟨word, hword, hprefix⟩
    rw [← (lower_prefix_lower_iff hword).mp hprefix]
    exact hword.1
  · intro hword
    exact ⟨text, (hasWord_iff_of_isWord hword).mpr rfl, List.prefix_rfl⟩

end Text

/-- Of all tags, one that is a single word is matched by the query for it. -/
theorem Document.beginsWith_ofTag {d : Descriptor} (hd : Descriptor.of? .hashtag = some d)
    (name : Text) (firstSeen : Int) :
    (ofTag name firstSeen).BeginsWith d [Text.lower name] ↔ IsWord name := by
  cases hd
  rw [← Text.exists_lower_prefix_iff]
  unfold BeginsWith
  simp [ofTag, Ledger.get?]

/-! ## The query for a tag -/

namespace Query

/-- The search string that asks for a tag. -/
def forTag (tag : Text) : Text := "type:hashtag #" ++ tag

theorem tokenize_forTag {tag : Text} (h : Solid tag) :
    tokenize (forTag tag) = [Text.ofString "type:hashtag", .char '#' :: tag] := by
  have htype : Solid ("type:hashtag" : Text) := by
    unfold Text.Solid
    decide
  have htag : Solid (.char '#' :: tag) :=
    ⟨List.cons_ne_nil _ _, List.forall_mem_cons.mpr ⟨rfl, h.2⟩⟩
  have hsplit : forTag tag =
      [] ++ Text.ofString "type:hashtag" ++ (Text.ofString " " ++ (.char '#' :: tag) ++ []) := by
    rw [List.append_nil]
    rfl
  have hruns : Text.Runs (Text.ofString " " ++ (.char '#' :: tag) ++ []) [.char '#' :: tag] :=
    .run " " (by decide) htag (by simp) (.gap (by simp))
  have hend : ∀ c ∈ (Text.ofString " " ++ (CodePoint.char '#' :: tag) ++ []).head?,
      Text.isBlank c = true := by
    intro c hc
    cases hc
    rfl
  rw [hsplit]
  exact (Text.Runs.run [] (by simp) htype hend hruns).eq_splitBlank

theorem parse_forTag {tag : Text} (h : Solid tag) :
    parse (forTag tag) =
      { raw := forTag tag, entityType := some "hashtag"
        filters := { hashtags := some [Text.lower tag] } } := by
  have htype : Directive.ofToken "type:hashtag" = .entityType "hashtag" := by decide
  have htag : Directive.ofToken (.char '#' :: tag) = .hashtag (Text.lower tag) := by
    rw [TokenClass.ofToken_eq]
    exact (TokenClass.directive_hashtag tag).trans (if_neg h.1)
  rw [parse, directives, tokenize_forTag h, List.map_cons, List.map_cons, htype, htag]
  rfl

/-- Of the query for a tag the tag in lower case is what tags are searched for. -/
theorem queryTerms_forTag {d : Descriptor} (hd : d.presentation = .tag) {tag : Text}
    (h : Solid tag) : d.queryTerms (parse (forTag tag)) = [Text.lower tag] := by
  rw [parse_forTag h, Descriptor.queryTerms, hd]
  rfl

end Query

/-! ## Results of a search with room for all hits -/

namespace TypeSearch

variable {α : Type} [LogScalar α] {m : MemoryIndex} {t : EntityType} {d : Descriptor} {q : Query}

/-- A search whose filters can be checked and whose limit leaves room for every document shows the
adjusted hits of all documents that pass and match, in the order of the type; it shows nothing if
one of them cannot be adjusted. -/
theorem results_checked (adjuster : Adjuster α) (hd : Descriptor.of? t = some d)
    (hkind : d.acceptsGiven q.filters.kind = true)
    (hchecked : ∀ doc ∈ m.documentsOf t, m.Checked d q.filters doc) {limit : Int}
    (hpositive : 1 ≤ limit) (hlimit : ((m.documentsOf t).length : Int) ≤ limit) :
    (plan adjuster m.toStore t q limit).results =
      (adjuster.adjust m.toStore d (MemoryIndex.rankHits (m.matchingPassed α t d
        (Lexical.build (d.queryTerms q)) q.filters))).toOption.elim [] (d.order q) := by
  have hroom : cut limit (MemoryIndex.rankHits (m.matchingPassed α t d
      (Lexical.build (d.queryTerms q)) q.filters)) = _ := MemoryIndex.cut_rankHits hlimit
  cases hadjust : adjuster.adjust m.toStore d (MemoryIndex.rankHits (m.matchingPassed α t d
      (Lexical.build (d.queryTerms q)) q.filters)) with
  | ok adjusted =>
    have hcandidates : m.candidates? adjuster d q = some adjusted :=
      MemoryIndex.candidates?_eq_some.mpr
        ⟨_, MemoryIndex.matchingHits_checked hd (.inr hchecked), hadjust⟩
    rw [results_eq_order_cut hd hkind hcandidates hpositive]
    -- what is adjusted has room as well
    have hcut := Adjuster.adjust_cut adjuster m.toStore d hadjust limit
    rw [hroom, hadjust, Except.ok.injEq] at hcut
    rw [← hcut]
    rfl
  | error e =>
    rcases results_eq_nil_or adjuster m.toStore t q limit with
      hnil | ⟨d', hits, adjusted, hd', -, hsearch, hadjusted, -⟩
    · exact hnil
    · rw [hd] at hd'
      cases hd'
      have hhits := search_toStore hsearch
      rw [MemoryIndex.search_checked hd limit (.inr hchecked), hroom, Except.ok.injEq] at hhits
      rw [hhits, hadjusted] at hadjust
      cases hadjust

end TypeSearch

/-! ## Trends of tags -/

theorem isOrderly_trendingScore {usageCount firstSeen now : Int} {score : Float}
    (h : trendingScore usageCount firstSeen now = .ok score) : Scalar.isOrderly score = true := by
  unfold trendingScore at h
  split at h
  · cases h
    exact (Number.plain_ofNat 0).isOrderly
  · rename_i hpositive
    have hsmoothing : trendSmoothing = 86400 := rfl
    have hage : ¬ max (now - firstSeen) 0 + trendSmoothing < 0 := by omega
    have hcount : ¬ usageCount < 0 := by omega
    change Number.floatOfRatio usageCount (max (now - firstSeen) 0 + trendSmoothing) = _ at h
    unfold Number.floatOfRatio at h
    split at h
    · cases h
    · split at h
      · rename_i hquotient
        cases h
        simp only [hage, hcount, decide_false, bne_self_eq_false, Bool.false_and] at hquotient
        exact (Number.plain_of_ofQuotient hquotient).isOrderly
      · cases h

/-- The scores of tags can be compared. -/
theorem Adjuster.isOrderly_of_mem_adjust (a : Adjuster Float) (m : MemoryIndex) {d : Descriptor}
    (hd : d.adjustment = .trend) {hits : List (Hit Float)} {results : List (SearchResult Float)}
    (h : a.adjust m.toStore d hits = .ok results) :
    ∀ r ∈ results, Scalar.isOrderly r.score = true := by
  obtain ⟨clock, hclock, -⟩ := bind_eq_ok.mp h
  obtain ⟨hlength, hscores⟩ := (adjust_eq_ok_iff a m.toStore d hclock).mp h
  intro r hr
  obtain ⟨i, hi⟩ := List.mem_iff_getElem?.mp hr
  have hbound : i < hits.length := by
    rw [← hlength]
    exact (List.getElem?_eq_some_iff.mp hi).1
  obtain ⟨score, hscore, hresult⟩ := hscores i hits[i] (List.getElem?_eq_getElem hbound)
  rw [hi, Option.some.injEq] at hresult
  have hshown : r.score = score := by
    rw [hresult, Descriptor.shape]
    split <;> rfl
  rw [hshown]
  unfold Adjuster.score MemoryIndex.toStore at hscore
  simp only [hd, pure, Except.pure] at hscore
  split at hscore
  · rename_i herror
    cases herror
  · cases hscore
    exact (Number.plain_ofNat 0).isOrderly
  · exact isOrderly_trendingScore hscore

/-- Adjusting keeps which entities are hit. -/
theorem Adjuster.exists_entityId_iff {α : Type} [LogScalar α] {a : Adjuster α}
    {store : IndexStore α} {d : Descriptor} {hits : List (Hit α)}
    {results : List (SearchResult α)} (h : a.adjust store d hits = .ok results) {id : Text} :
    (∃ r ∈ results, r.entityId = id) ↔ ∃ hit ∈ hits, hit.entityId = id := by
  have hids := congrArg (List.map Prod.snd) (keys_adjust a store d h)
  rw [List.map_map, List.map_map] at hids
  have hmem : id ∈ results.map SearchResult.entityId ↔ id ∈ hits.map Hit.entityId :=
    iff_of_eq (congrArg (id ∈ ·) hids)
  simpa only [List.mem_map] using hmem

/-- As long as there are not very many changes, no trend is out of range. -/
theorem MemoryIndex.trendsInRange_after {changes : List Change} (h : changes.length ≤ overflow)
    (clock : Int) : ((after changes).toStore : IndexStore Float).TrendsInRange clock := by
  intro lookup usage husage
  have hcounters : TagUsage.ofTimes? (Text.lower lookup.entityId)
      (recordTimes lookup.entityId changes) = some usage := by
    rw [← usage?_after]
    exact Except.ok.inj husage
  have htimes : (recordTimes lookup.entityId changes).length ≤ changes.length :=
    List.length_filterMap_le _ _
  have hcount : usage.usageCount ≤ overflow := by
    cases hall : recordTimes lookup.entityId changes with
    | nil => simp [hall, TagUsage.ofTimes?] at hcounters
    | cons first rest =>
      rw [hall] at hcounters htimes
      cases hcounters
      rw [List.length_cons] at htimes
      simp only
      omega
  have hpositive : (0 : ℤ) < overflow := Int.natCast_pos.mpr Number.overflow_pos
  have hage : 1 < max (clock - usage.firstSeen) 0 + trendSmoothing := by
    have hsmoothing : trendSmoothing = 86400 := rfl
    omega
  calc usage.usageCount ≤ overflow := hcount
    _ < overflow * (max (clock - usage.firstSeen) 0 + trendSmoothing) :=
      lt_mul_of_one_lt_right hpositive hage

/-! ## The search for a tag -/

namespace Searcher

/-- The hits of the query for a tag, ranked. -/
def tagHits (m : MemoryIndex) (tag : Text) : List (Hit Float) :=
  MemoryIndex.rankHits (m.matchingPassed Float .hashtag ofTags
    (Lexical.build (ofTags.queryTerms (Query.parse (Query.forTag tag))))
    (Query.parse (Query.forTag tag)).filters)

section RecordedTag

variable {σ : Type} (x : Searcher σ Float) {m : MemoryIndex} (hm : m.Keyed) {tag : Text}
  (htag : Solid tag) {firstSeen : Int}
  (hdoc : .ofTag (Text.lower tag) firstSeen ∈ m.documentsOf .hashtag)

include htag

/-- Tags pass all filters, and match with a word that begins with the tag that is asked for. -/
theorem tagHits_perm : (tagHits m tag).Perm ((m.documentsOf .hashtag).filterMap
    (MemoryIndex.hit? ofTags [Text.lower (Text.lower tag)])) := by
  have hprefixes : MemoryIndex.searchPrefixes
      (Lexical.build (ofTags.queryTerms (Query.parse (Query.forTag tag)))) =
        [Text.lower (Text.lower tag)] := by
    have hsolid : ∀ term ∈ [Text.lower tag], Solid term := List.forall_mem_singleton.mpr htag.lower
    rw [Query.queryTerms_forTag rfl htag, MemoryIndex.searchPrefixes, Lexical.split_build hsolid]
    rfl
  have hall : (m.documentsOf .hashtag).filter (fun doc =>
      isPassed (m.passesIn ofTags (Query.parse (Query.forTag tag)).filters doc)) =
        m.documentsOf .hashtag := List.filter_eq_self.mpr fun doc _ => rfl
  rw [tagHits, MemoryIndex.matchingPassed, hall, hprefixes]
  exact MemoryIndex.rankHits_perm _

include hm hdoc

/-- The tag is among the hits if it is a single word. -/
theorem exists_tagHit_iff :
    (∃ hit ∈ tagHits m tag, hit.entityId = Text.lower tag) ↔ IsWord (Text.lower tag) := by
  rw [← Document.beginsWith_ofTag (d := ofTags) rfl (Text.lower tag) firstSeen]
  exact MemoryIndex.exists_hit_iff hm (tagHits_perm htag) hdoc

variable {limit : Int} (hlimit : ((m.documentsOf .hashtag).length : Int) ≤ limit)

include hlimit

omit hm in
/-- With room for all tags, the search for a tag shows its hits with their trends, in the order of
tags; it shows nothing if there is no trend of one of them. -/
theorem results_forTag :
    (TypeSearch.plan x.adjuster m.toStore .hashtag (Query.parse (Query.forTag tag)) limit).results =
      (x.adjuster.adjust m.toStore ofTags (tagHits m tag)).toOption.elim []
        (ofTags.order (Query.parse (Query.forTag tag))) := by
  have hkind : ofTags.acceptsGiven (Query.parse (Query.forTag tag)).filters.kind = true := by
    rw [Query.parse_forTag htag]
    rfl
  have hpositive : 1 ≤ limit := by
    have hsome := List.length_pos_of_mem hdoc
    omega
  exact TypeSearch.results_checked x.adjuster rfl hkind (fun _ _ => ⟨true, rfl⟩) hpositive hlimit

omit hm in
/-- If anything is shown, all hits have trends. -/
theorem exists_adjusted {r : SearchResult Float} (hr : r ∈ (TypeSearch.plan x.adjuster m.toStore
      .hashtag (Query.parse (Query.forTag tag)) limit).results) :
    ∃ adjusted, x.adjuster.adjust m.toStore ofTags (tagHits m tag) = .ok adjusted ∧
      (TypeSearch.plan x.adjuster m.toStore .hashtag
        (Query.parse (Query.forTag tag)) limit).results =
          ofTags.order (Query.parse (Query.forTag tag)) adjusted := by
  have hshown := results_forTag x htag hdoc hlimit
  cases hadjust : x.adjuster.adjust m.toStore ofTags (tagHits m tag) with
  | error e =>
    rw [hadjust] at hshown
    rw [hshown] at hr
    simp [Except.toOption] at hr
  | ok adjusted =>
    rw [hadjust] at hshown
    exact ⟨adjusted, rfl, hshown⟩

theorem isWord_of_mem_results {r : SearchResult Float} (hr : r ∈ (TypeSearch.plan x.adjuster
      m.toStore .hashtag (Query.parse (Query.forTag tag)) limit).results)
    (hid : r.entityId = Text.lower tag) : IsWord (Text.lower tag) := by
  obtain ⟨adjusted, hadjust, hshown⟩ := exists_adjusted x htag hdoc hlimit hr
  rw [hshown, (TypeSearch.order_perm _ _ adjusted).mem_iff] at hr
  rw [← exists_tagHit_iff hm htag hdoc]
  exact (Adjuster.exists_entityId_iff hadjust).mp ⟨r, hr, hid⟩

/-- Nothing is shown before the tag. -/
theorem before_eq_nil {before behind : List (SearchResult Float)} {r : SearchResult Float}
    (hresults : (TypeSearch.plan x.adjuster m.toStore .hashtag
      (Query.parse (Query.forTag tag)) limit).results = before ++ r :: behind)
    (hid : r.entityId = Text.lower tag) : before = [] := by
  have hr : r ∈ (TypeSearch.plan x.adjuster m.toStore .hashtag
      (Query.parse (Query.forTag tag)) limit).results := by simp [hresults]
  obtain ⟨adjusted, hadjust, hshown⟩ := exists_adjusted x htag hdoc hlimit hr
  -- a tag that is asked for stands first
  have hterms := Query.queryTerms_forTag (d := ofTags) rfl htag
  have hasked : r.entityId ∈ ofTags.queryTerms (Query.parse (Query.forTag tag)) := by
    rw [hterms, hid]
    exact List.mem_singleton_self _
  have horderly := x.adjuster.isOrderly_of_mem_adjust m rfl hadjust
  have hmem := (TypeSearch.order_perm _ _ adjusted).mem_iff.mp (hshown ▸ hr)
  obtain ⟨first, hfirst, hsame⟩ :=
    (Descriptor.head_order_asked horderly rfl).mpr ⟨r, hmem, hasked⟩
  rw [hterms, List.mem_singleton, ← hid] at hsame
  rw [← hshown, hresults] at hfirst
  cases before with
  | nil => rfl
  | cons other rest =>
    -- and no other result has its id
    exfalso
    cases hfirst
    have htype : ∀ s ∈ first :: rest ++ r :: behind, s.entityType = .hashtag := by
      intro s hs
      rw [← hresults] at hs
      exact (TypeSearch.confirms_of_mem_results hm _ _ _ _ hs).1
    have hkey : first.key = r.key :=
      Prod.ext ((htype first (by simp)).trans (htype r (by simp)).symm) hsame
    have hkeys := TypeSearch.keys_results_nodup hm x.adjuster .hashtag
      (Query.parse (Query.forTag tag)) limit
    rw [hresults, List.cons_append, List.map_cons, List.nodup_cons, hkey] at hkeys
    exact hkeys.1 (by simp)

omit hm in
/-- With a clock and all trends in range, the results are those of the hits. -/
theorem exists_result_iff {clock : Int} (hclock : x.adjuster.now = .ok clock)
    (hrange : (m.toStore : IndexStore Float).TrendsInRange clock) {id : Text} :
    (∃ r ∈ (TypeSearch.plan x.adjuster m.toStore .hashtag
      (Query.parse (Query.forTag tag)) limit).results, r.entityId = id) ↔
      ∃ hit ∈ tagHits m tag, hit.entityId = id := by
  obtain ⟨adjusted, hadjust⟩ :=
    Adjuster.exists_adjust x.adjuster m.toStore ofTags hclock hrange (tagHits m tag)
  have hshown := results_forTag x htag hdoc hlimit
  rw [hadjust] at hshown
  have hperm := TypeSearch.order_perm ofTags (Query.parse (Query.forTag tag)) adjusted
  rw [hshown, ← Adjuster.exists_entityId_iff hadjust]
  exact exists_congr fun r => and_congr_left fun _ => hperm.mem_iff

end RecordedTag

/-- After a tag was recorded, the query for it is searched with room for all tags. The tag, in lower
case, is shown only if it is a single word; such a tag is shown if the clock can be read and no
trend is out of range, for which there would have to be very many changes. Nothing is shown before
the tag. -/
theorem single_recorded_tag {σ : Type} (x : Searcher σ Float) (changes : List Change) {tag : Text}
    (htag : Solid tag) (now : Int) {limit : Int} (hlimit :
      (((after (changes ++ [.recordTag tag now])).documentsOf .hashtag).length : Int) ≤ limit)
    (time : Float) :
    let m := after (changes ++ [.recordTag tag now])
    ∃ results,
      ((x.onIndex m).searchIndex (.single .hashtag) (Query.parse ("type:hashtag #" ++ tag)) limit
        none time).outcome = .ok results ∧
      (∀ r ∈ results, r.entityId = Text.lower tag → IsWord (Text.lower tag)) ∧
      (∀ clock, x.adjuster.now = .ok clock → (m.toStore : IndexStore Float).TrendsInRange clock →
        IsWord (Text.lower tag) → ∃ r ∈ results, r.entityId = Text.lower tag) ∧
      (∀ before r behind, results = before ++ r :: behind → r.entityId = Text.lower tag →
        before = []) ∧
      (changes.length < overflow → ∀ clock,
        (m.toStore : IndexStore Float).TrendsInRange clock) := by
  intro m
  have hm : m.Keyed := MemoryIndex.after_keyed _
  obtain ⟨usage, -, hget⟩ := MemoryIndex.tag_after_record changes tag now
  have hdoc : .ofTag (Text.lower tag) usage.firstSeen ∈ m.documentsOf .hashtag :=
    MemoryIndex.mem_documentsOf.mpr ⟨_, Ledger.mem_of_get? hget⟩
  refine ⟨_, single_outcome x m .hashtag _ limit time, ?word, ?found, ?first, ?range⟩
  case word =>
    intro r hr hid
    exact isWord_of_mem_results x hm htag hdoc hlimit hr hid
  case found =>
    intro clock hclock hrange hword
    rw [← exists_tagHit_iff hm htag hdoc] at hword
    exact (exists_result_iff x htag hdoc hlimit hclock hrange).mpr hword
  case first =>
    intro before r behind hresults hid
    exact before_eq_nil x hm htag hdoc hlimit hresults hid
  case range =>
    intro hcount clock
    apply MemoryIndex.trendsInRange_after
    rw [List.length_append, List.length_singleton]
    omega

/-- A tag with signs in it is not found even where it is the only one; a word is shown first. -/
theorem single_recorded_signs :
    (∃ results, ((atZero.onIndex (after [.recordTag "c++" 0])).searchIndex (.single .hashtag)
      (Query.parse ("type:hashtag #" ++ Text.ofString "c++")) 1 none 0).outcome = .ok results ∧
      ∀ r ∈ results, r.entityId ≠ "c++") ∧
    ∃ r behind, ((atZero.onIndex (after [.recordTag "c++" 0, .recordTag "Bit" 5])).searchIndex
      (.single .hashtag) (Query.parse ("type:hashtag #" ++ Text.ofString "Bit")) 2 none
        0).outcome = .ok (r :: behind) ∧ r.entityId = "bit" := by
  have hsolid : Solid ("c++" : Text) ∧ Solid ("Bit" : Text) := by
    unfold Text.Solid
    decide
  have hlower : Text.lower "c++" = "c++" ∧ Text.lower "Bit" = "bit" := by decide +kernel
  have hone : 1 < overflow := by decide +kernel
  have hword : ¬ IsWord ("c++" : Text) ∧ IsWord ("bit" : Text) := by
    unfold Text.IsWord
    decide +kernel
  have hroom : (((after [.recordTag "c++" 0]).documentsOf .hashtag).length : Int) ≤ 1 ∧
      (((after [.recordTag "c++" 0, .recordTag "Bit" 5]).documentsOf
        .hashtag).length : Int) ≤ 2 := by decide +kernel
  constructor
  · obtain ⟨results, hresults, honly, -⟩ := single_recorded_tag atZero [] hsolid.1 0 hroom.1 0
    rw [hlower.1] at honly
    refine ⟨results, hresults, ?_⟩
    intro r hr hid
    exact hword.1 (honly r hr hid)
  · obtain ⟨results, hresults, -, hfound, hfirst, hrange⟩ :=
      single_recorded_tag atZero [.recordTag "c++" 0] hsolid.2 5 hroom.2 0
    rw [hlower.2] at hfound hfirst
    obtain ⟨r, hr, hid⟩ := hfound 0 rfl (hrange hone 0) hword.2
    obtain ⟨before, behind, rfl⟩ := List.append_of_mem hr
    rw [hfirst before r behind rfl hid] at hresults
    exact ⟨r, behind, hresults, hid⟩

end Searcher

end EntitySearch

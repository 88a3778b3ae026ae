import EntitySearch.Proofs.Index.Evidence
import EntitySearch.Proofs.Text.Span
/-!
# What snippets show

The snippet of a hit shows the first word that matches in the first field of the document that has
one, between marks and with at most `margin` characters on either side (`Highlight.shown`). Whatever
an index in memory holds and is asked for, this is what the snippets of its hits show
(`MemoryIndex.search_snippets`): the beginning of a text without a match is never shown.
-/

namespace EntitySearch

open Text (Span WordAt wordsAt)

namespace Highlight

/-- The snippet that marks what stands between two positions of a text. -/
def shown (text : Text) (start stop : Nat) : Text :=
  ellipsis (decide (margin < start)) ++ text.extract (start - margin) start
    ++ "<mark>" ++ text.extract start stop ++ "</mark>"
    ++ text.extract stop (min (stop + margin) text.length)
    ++ ellipsis (decide (stop + margin < text.length))

/-- What a snippet shows without its marks and ellipses. -/
def unmarked (text : Text) (start stop : Nat) : Text :=
  text.extract (start - margin) start ++ text.extract start stop
    ++ text.extract stop (min (stop + margin) text.length)

/-- What stands between two positions of a text begins, in lower case, with one of some prefixes. -/
def MatchesAt (prefixes : List Text) (text : Text) (start stop : Nat) : Prop :=
  ∃ p ∈ prefixes, p <+: Text.lower (text.extract start stop)

/-- The first word of a text that matches stands between two positions. -/
structure FirstMatch (prefixes : List Text) (text : Text) (start stop : Nat) : Prop where
  span : Span text start stop
  matched : MatchesAt prefixes text start stop
  first : ∀ start' stop', Span text start' stop' → MatchesAt prefixes text start' stop' →
    start ≤ start'

variable {prefixes : List Text} {text : Text} {start stop : Nat}

theorem matchesAny_between :
    matchesAny prefixes (WordAt.between text start stop).word = true ↔
      MatchesAt prefixes text start stop := by
  simp [matchesAny, MatchesAt, WordAt.between]

/-- What stands behind a position, up to a margin. -/
theorem take_drop_eq_extract (n : Nat) (hstop : stop ≤ text.length) :
    (text.drop stop).take n = text.extract stop (min (stop + n) text.length) := by
  rw [List.extract_eq_take_drop]
  rcases Nat.le_total (stop + n) text.length with hin | hout
  · rw [Nat.min_eq_left hin, Nat.add_sub_cancel_left]
  · have hlength : (text.drop stop).length = text.length - stop := List.length_drop
    rw [Nat.min_eq_right hout, List.take_of_length_le (by omega),
      List.take_of_length_le (by omega)]

/-- What stands before a position, up to a margin and nearest first. -/
theorem take_reverse_eq_extract (n : Nat) (hstart : start ≤ text.length) :
    (((text.take start).reverse).take n).reverse = text.extract (start - n) start := by
  have hlength : (text.take start).length = start := List.length_take_of_le hstart
  rw [List.take_reverse, List.reverse_reverse, hlength, List.drop_take,
    List.extract_eq_take_drop]

/-- A word between marks, with its surroundings. -/
theorem mark_between (hspan : Span text start stop) :
    mark (.between text start stop) = shown text start stop := by
  have hstop := hspan.stop_le_length
  have hstart : start ≤ text.length := hspan.lt.le.trans hstop
  have hbefore : ((text.take start).reverse).length = start := by
    rw [List.length_reverse, List.length_take_of_le hstart]
  have hbehind : decide (margin < (text.drop stop).length) =
      decide (stop + margin < text.length) := by
    rw [List.length_drop, decide_eq_decide]
    omega
  unfold mark shown WordAt.between
  simp only [hbefore, hbehind, take_reverse_eq_extract margin hstart,
    take_drop_eq_extract margin hstop]

/-- What stands between two positions is put together at a position between them. -/
theorem extract_append_extract {first middle last : Nat} (hfirst : first ≤ middle)
    (hlast : middle ≤ last) :
    text.extract first middle ++ text.extract middle last = text.extract first last := by
  have hdrop : text.drop middle = (text.drop first).drop (middle - first) := by
    rw [List.drop_drop]
    congr 1
    omega
  have hlength : last - first = (middle - first) + (last - middle) := by omega
  rw [List.extract_eq_take_drop, List.extract_eq_take_drop, List.extract_eq_take_drop, hdrop,
    hlength, List.take_add]

/-- Without marks and ellipses a snippet is a piece of the text. -/
theorem unmarked_isInfix (hspan : Span text start stop) : unmarked text start stop <:+: text := by
  have hlt := hspan.lt
  have hstop := hspan.stop_le_length
  have hpiece : unmarked text start stop =
      text.extract (start - margin) (min (stop + margin) text.length) := by
    rw [unmarked, extract_append_extract (by omega) hlt.le,
      extract_append_extract (by omega) (by omega)]
  rw [hpiece, List.extract_eq_take_drop]
  exact (List.take_prefix _ _).isInfix.trans (List.drop_suffix _ _).isInfix

/-- A text in which a word matches is shown with the first one that does between marks. -/
theorem snippet_eq_shown (h : ∃ w ∈ wordsAt text, matchesAny prefixes w.word = true) :
    ∃ start stop, FirstMatch prefixes text start stop ∧
      (wordsAt text).find? (fun w => matchesAny prefixes w.word) =
        some (.between text start stop) ∧
      snippet prefixes text = shown text start stop := by
  obtain ⟨w, hw⟩ : ∃ w, (wordsAt text).find? (fun w => matchesAny prefixes w.word) = some w := by
    rw [← Option.isSome_iff_exists, List.find?_isSome]
    exact h
  obtain ⟨start, stop, rfl, hspan, hleast⟩ := (Text.scan_wordsAt text).find?_eq_some hw
  have hmatched := List.find?_some hw
  refine ⟨start, stop, ⟨hspan, matchesAny_between.mp hmatched, ?_⟩, hw, ?_⟩
  · intro start' stop' hspan' hmatched'
    exact hleast start' stop' (Nat.zero_le _) hspan' (matchesAny_between.mpr hmatched')
  · rw [snippet, hw]
    exact mark_between hspan

end Highlight

/-- Of the words of a document that begin with one of some prefixes the first stands between two
positions of a text: in the first searchable field that has such a word, it is the first there. -/
structure Document.FirstMatch (doc : Document) (d : Descriptor) (prefixes : List Text)
    (text : Text) (start stop : Nat) : Prop where
  field : ∃ earlier name later, d.fields = earlier ++ name :: later ∧
    doc.fields.get? name = some text ∧ ∀ other ∈ earlier, ¬ doc.FieldBegins prefixes other
  word : Highlight.FirstMatch prefixes text start stop

namespace MemoryIndex

variable {α : Type} [Scalar α] {t : EntityType} {d : Descriptor} {prefixes : List Text}
  {doc : Document}

theorem fieldBegins_iff {name : Text} :
    doc.FieldBegins prefixes name ↔ matchedPrefixes prefixes doc name ≠ [] :=
  matchedPrefixes_ne_nil_iff.symm

/-- A field in which a word begins with a prefix has a text with a word that matches. -/
theorem exists_matchesAny {name : Text} (h : doc.FieldBegins prefixes name) :
    ∃ text, doc.fields.get? name = some text ∧
      ∃ w ∈ wordsAt text, Highlight.matchesAny prefixes w.word = true := by
  obtain ⟨text, htext, word, hword, p, hp, hbegins⟩ := h
  obtain ⟨w, hw, rfl⟩ := List.mem_map.mp (Text.mem_wordsOf_iff.mpr hword)
  refine ⟨text, htext, w, hw, ?_⟩
  rw [Highlight.matchesAny, List.any_eq_true]
  exact ⟨p, hp, List.isPrefixOf_iff_prefix.mpr hbegins⟩

/-- The fields that match begin with the first one that does. -/
theorem split_of_matchedFields {name : Text} {found : List Text} {rest : List (Text × List Text)}
    (h : matchedFields d prefixes doc = (name, found) :: rest) :
    ∃ earlier later, d.fields = earlier ++ name :: later ∧ doc.FieldBegins prefixes name ∧
      ∀ other ∈ earlier, ¬ doc.FieldBegins prefixes other := by
  obtain ⟨before, behind, hfields, hbefore, hfound, -⟩ := List.filter_eq_cons_iff.mp h
  obtain ⟨earlier, others, hsplit, rfl, hothers⟩ := List.map_eq_append_iff.mp hfields
  obtain ⟨name', later, rfl, hname, -⟩ := List.map_eq_cons_iff.mp hothers
  cases hname
  refine ⟨earlier, later, hsplit, ?_, ?_⟩
  · rw [fieldBegins_iff]
    simpa using hfound
  · intro other hother
    rw [fieldBegins_iff]
    have hnone := hbefore _ (List.mem_map_of_mem hother)
    simpa using hnone

/-- The snippet of a hit shows the first match of its document. -/
theorem snippet_hit? {hit : Hit α} (h : hit? d prefixes doc = some hit) :
    ∃ text start stop, doc.FirstMatch d prefixes text start stop ∧
      hit.snippet = some (Highlight.shown text start stop) ∧
      (wordsAt text).find? (fun w => Highlight.matchesAny prefixes w.word) =
        some (.between text start stop) := by
  obtain ⟨name, found, rest, hmatched, rfl⟩ := hit?_eq_some h
  obtain ⟨earlier, later, hsplit, hbegins, hnone⟩ := split_of_matchedFields hmatched
  obtain ⟨text, htext, hmatches⟩ := exists_matchesAny hbegins
  obtain ⟨start, stop, hfirst, hfind, hsnippet⟩ := Highlight.snippet_eq_shown hmatches
  refine ⟨text, start, stop, ⟨⟨earlier, name, later, hsplit, htext, hnone⟩, hfirst⟩, ?_, hfind⟩
  rw [htext, Option.getD_some, hsnippet]

/-- After any history, every hit of a search has a snippet that shows the first match of its
document: the first word that begins with a prefix of the query, in the first searchable field that
has one, between marks and with what stands around it. So there is always a word to be marked, and
without marks and ellipses the snippet is a piece of the field. -/
theorem search_snippets (changes : List Change) (hd : Descriptor.of? t = some d)
    {compiled : Text} {f : Filters} {limit : Int} {hits : List (Hit α)}
    (hsearch : (after changes).search d compiled f limit = .ok hits) {hit : Hit α}
    (hhit : hit ∈ hits) :
    ∃ doc ∈ (after changes).documentsOf t, doc.entityId = hit.entityId ∧
      ∃ text start stop, doc.FirstMatch d (searchPrefixes compiled) text start stop ∧
        hit.snippet = some (Highlight.shown text start stop) ∧
        (wordsAt text).find? (fun w => Highlight.matchesAny (searchPrefixes compiled) w.word) =
          some (.between text start stop) ∧
        Highlight.unmarked text start stop <:+: text := by
  rcases search_eq_ok hd hsearch with rfl | ⟨ranked, rfl, hperm⟩
  · simp at hhit
  · have hranked := hperm.mem_iff.mp ((cut_sublist limit ranked).subset hhit)
    obtain ⟨doc, hdoc, hfound⟩ := List.mem_filterMap.mp hranked
    obtain ⟨text, start, stop, hfirst, hsnippet, hfind⟩ := snippet_hit? hfound
    exact ⟨doc, List.mem_of_mem_filter hdoc, (entityId_hit? hfound).symm, text, start, stop, hfirst,
      hsnippet, hfind, Highlight.unmarked_isInfix hfirst.word.span⟩

/-- A film whose title does not match and whose summary is too long for a snippet. -/
def captioned : Document where
  entityId := "a"
  fields :=
    [("summary",
        "The long road from the first coin to Bitcoin and from there to every other one"),
      ("title", "Coins")]

set_option maxRecDepth 10000 in
/-- Both ends of the summary are left out. -/
theorem search_snippets_captioned :
    ∃ d, Descriptor.of? .video = some d ∧ ∃ hits : List (Hit Float),
      (after [.add .video captioned {}]).search d "bit*" {} 5 = .ok hits ∧ ∃ hit ∈ hits,
        hit.snippet = some ("...ong road from the first coin to <mark>Bitcoin</mark>" ++
          " and from there to every other o...") ∧
        ∃ doc ∈ (after [.add .video captioned {}]).documentsOf .video,
          doc.entityId = hit.entityId ∧ ∃ text start stop,
            doc.FirstMatch d (searchPrefixes "bit*") text start stop ∧
            hit.snippet = some (Highlight.shown text start stop) ∧
            Highlight.unmarked text start stop <:+: text := by
  have haccepted : (Change.add .video captioned {}).Accepted := ⟨_, rfl, by decide +kernel⟩
  have hdoc : captioned.kept ∈ (after [.add .video captioned {}]).documentsOf .video :=
    kept_mem_documentsOf {} haccepted
  have hlimit : (((after [.add .video captioned {}]).documentsOf .video).length : Int) ≤ 5 := by
    decide +kernel
  obtain ⟨hits, hsearch, hperm⟩ := search_noFilters (α := Float) (t := .video) rfl "bit*" hlimit
  have hsnippet : ((Descriptor.of? .video).bind fun d =>
      hit? (α := Float) d (searchPrefixes "bit*") captioned.kept).bind Hit.snippet =
        some ("...ong road from the first coin to <mark>Bitcoin</mark>" ++
          " and from there to every other o...") := by decide +kernel
  obtain ⟨hit, hfound, hshown⟩ := Option.bind_eq_some_iff.mp hsnippet
  have hhit : hit ∈ hits := hperm.mem_iff.mpr (List.mem_filterMap.mpr ⟨_, hdoc, hfound⟩)
  obtain ⟨doc, hof, hid, text, start, stop, hfirst, hmarked, -, hpiece⟩ :=
    search_snippets [.add .video captioned {}] (t := .video) rfl hsearch hhit
  exact ⟨_, rfl, hits, hsearch, hit, hhit, hshown, doc, hof, hid, text, start, stop, hfirst,
    hmarked, hpiece⟩

end MemoryIndex

end EntitySearch

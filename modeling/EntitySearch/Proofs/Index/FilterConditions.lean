import EntitySearch.Index.Sql
import EntitySearch.Proofs.Index.Holdings
/-!
# Filters as conditions on rows

The restrictions of a statement are read as a conjunction of predicates with numbered placeholders
(`Sql.restrictions_text`), for which the statement's parameters stand. A comparison with null is not
true. An index in memory passes a document through filters if and only if the restrictions are true
of the row that corresponds to the document (`MemoryIndex.passesIn_iff_restrictions`), unless a null
author is asked for or a counter is unknown (`MemoryIndex.passesIn_null`).
-/

namespace EntitySearch

namespace MemoryIndex

@[simp] theorem withinBound_absent (x : Option Int) (ok : Int → Int → Bool) :
    withinBound .absent x ok = .ok true := rfl

@[simp] theorem withinBound_null (x : Option Int) (ok : Int → Int → Bool) :
    withinBound .null x ok = .error .incomparable := by
  cases x <;> rfl

@[simp] theorem withinBound_value (b n : Int) (ok : Int → Int → Bool) :
    withinBound (.value b) (some n) ok = .ok (ok n b) := rfl

@[simp] theorem withinBound_unknown (b : Int) (ok : Int → Int → Bool) :
    withinBound (.value b) none ok = .error .incomparable := rfl

end MemoryIndex

namespace Sql

/-! ## Rows -/

/-- A row of an index's table, with the engagement counters that are joined to it, if there are
any. -/
structure Row where
  author : Option Text
  kind : Option Int
  hashtags : List Text
  createdAt : Int
  engagement : Option Signals

/-- The value of a column. A counter that is missing counts as zero. -/
def Row.value (row : Row) : Column → Parameter
  | .author => (row.author.map Parameter.text).getD .null
  | .kind => (row.kind.map Parameter.int).getD .null
  | .hashtags => .texts row.hashtags
  | .createdAt => .int row.createdAt
  | .likes => .int ((row.engagement.bind Signals.likes).getD 0)
  | .loops => .int ((row.engagement.bind Signals.loops).getD 0)

/-- Whether a comparison is true of two values. None is true of null. -/
def Comparison.Holds : Comparison → Parameter → Parameter → Prop
  | .equals, .int a, .int b => a = b
  | .equals, .text a, .text b => a = b
  | .includes, .texts a, .texts b => ∀ x ∈ b, x ∈ a
  | .atLeast, .int a, .int b => b ≤ a
  | .atMost, .int a, .int b => a ≤ b
  | _, _, _ => False

@[simp] theorem Comparison.not_holds_null (comparison : Comparison) (a : Parameter) :
    ¬ comparison.Holds a .null := by
  cases comparison <;> cases a <;> exact id

@[simp] theorem Comparison.not_null_holds (comparison : Comparison) (b : Parameter) :
    ¬ comparison.Holds .null b := by
  cases comparison <;> exact id

/-- Whether a condition is true of a row. -/
def Condition.Holds (row : Row) (c : Condition) : Prop :=
  c.comparison.Holds (row.value c.column) c.parameter

/-! ## Predicates with placeholders -/

/-- A conjunct of a statement. -/
inductive Predicate where
  | kindAmong (kinds : List Int)
  | compares (column : Column) (comparison : Comparison) (placeholder : Nat)

/-- What a comparison looks at, as it is written. A row without counters counts as having none. -/
def subject : Column → String
  | .author => "d.pubkey"
  | .kind => "d.kind"
  | .hashtags => "d.hashtags"
  | .createdAt => "d.created_at"
  | .likes => "COALESCE(s.likes, 0)"
  | .loops => "COALESCE(s.loops, 0)"

/-- How a comparison with a placeholder is written. -/
def comparisonText (column : Column) (placeholder : Nat) : Comparison → String
  | .equals => subject column ++ " = $" ++ toString placeholder
  | .includes => subject column ++ " @> $" ++ toString placeholder ++ "::text[]"
  | .atLeast => subject column ++ " >= $" ++ toString placeholder
  | .atMost => subject column ++ " <= $" ++ toString placeholder

/-- How a predicate is written. -/
def Predicate.text : Predicate → Text
  | .kindAmong kinds => "d.kind IN (" ++ ", ".intercalate (kinds.map toString) ++ ")"
  | .compares column comparison placeholder => comparisonText column placeholder comparison

/-- Whether a predicate is true of a row when its placeholder is bound to a parameter. -/
def Predicate.Holds (row : Row) (bound : Nat → Option Parameter) : Predicate → Prop
  | .kindAmong kinds => ∃ kind ∈ kinds, row.kind = some kind
  | .compares column comparison placeholder =>
    ∃ parameter, bound placeholder = some parameter ∧
      comparison.Holds (row.value column) parameter

/-- How a conjunction is written behind other conjuncts. -/
def conjunctionText (predicates : List Predicate) : Text :=
  predicates.flatMap fun p => " AND " ++ p.text

/-- The parameter to which a placeholder is bound, if `used` placeholders stand before those of the
statement's own parameters. -/
def Statement.bound (s : Statement) (used placeholder : Nat) : Option Parameter :=
  if used < placeholder then s.parameters[placeholder - (used + 1)]? else none

/-- Conditions as predicates whose placeholders are numbered from a number on. -/
def numbered : Nat → List Condition → List Predicate
  | _, [] => []
  | number, c :: rest => .compares c.column c.comparison number :: numbered (number + 1) rest

/-- The predicates of the restrictions that filters set for a type. -/
def predicates (d : Descriptor) (f : Filters) (used : Nat) : List Predicate :=
  (if (kindRestriction d).isEmpty then [] else [.kindAmong (kindRestriction d)]) ++
    numbered (used + 1) (conditions d f)

theorem comparisonText_eq (c : Condition) (number : Nat) :
    comparisonText c.column number c.comparison = c.text number := by
  have hsubject : subject c.column = c.column.text := by cases c.column <;> rfl
  unfold comparisonText Condition.text
  cases c.comparison <;>
    simp only [hsubject, ← String.append_assoc, String.reduceAppend]

theorem conditionsText_eq (number : Nat) (cs : List Condition) :
    conditionsText number cs = conjunctionText (numbered number cs) := by
  induction cs generalizing number with
  | nil => rfl
  | cons c rest ih =>
    rw [conditionsText, ih, ← comparisonText_eq]
    rfl

/-- The restrictions are written as the conjunction of their predicates. -/
theorem restrictions_text (d : Descriptor) (f : Filters) (used : Nat) :
    (restrictions d f used).text = conjunctionText (predicates d f used) := by
  have hand : Text.ofString " AND d.kind IN (" =
      Text.ofString " AND " ++ Text.ofString "d.kind IN (" :=
    Text.ofString_append " AND " "d.kind IN ("
  unfold restrictions predicates kindsText
  rw [conditionsText_eq]
  split
  · rfl
  · simp [conjunctionText, Predicate.text, Text.ofString_append, hand]

/-- Each placeholder is bound to the parameter of its own condition. -/
theorem forall_numbered_iff {row : Row} {bound : Nat → Option Parameter} (cs : List Condition)
    (number : Nat)
    (hbound : ∀ i, bound (number + i) = (cs.map Condition.parameter)[i]?) :
    (∀ p ∈ numbered number cs, p.Holds row bound) ↔ ∀ c ∈ cs, c.Holds row := by
  induction cs generalizing number with
  | nil => simp [numbered]
  | cons c rest ih =>
    have hrest : ∀ i, bound (number + 1 + i) = (rest.map Condition.parameter)[i]? := by
      intro i
      rw [Nat.add_assoc, Nat.add_comm 1 i, hbound (i + 1)]
      simp
    have hfirst : bound number = some c.parameter := by simpa using hbound 0
    rw [numbered, List.forall_mem_cons, List.forall_mem_cons, ih (number + 1) hrest]
    simp [Predicate.Holds, Condition.Holds, hfirst]

theorem forall_predicates_iff {row : Row} (d : Descriptor) (f : Filters) (used : Nat) :
    (∀ p ∈ predicates d f used, p.Holds row ((restrictions d f used).bound used)) ↔
      (kindRestriction d = [] ∨ ∃ kind ∈ kindRestriction d, row.kind = some kind) ∧
      ∀ c ∈ conditions d f, c.Holds row := by
  have hbound : ∀ i, (restrictions d f used).bound used (used + 1 + i) =
      ((conditions d f).map Condition.parameter)[i]? := by
    intro i
    have hown : used < used + 1 + i := by omega
    simp [Statement.bound, restrictions, hown]
  rw [predicates, List.forall_mem_append, forall_numbered_iff _ _ hbound]
  refine and_congr_left fun _ => ?_
  by_cases hnone : kindRestriction d = []
  · simp [hnone]
  · simp [hnone, Predicate.Holds]

/-! ## Filters -/

@[simp] theorem condition?_absent {β : Type} (column : Column) (comparison : Comparison)
    (encode : β → Parameter) : condition? column comparison encode .absent = none := rfl

@[simp] theorem condition?_null {β : Type} (column : Column) (comparison : Comparison)
    (encode : β → Parameter) :
    condition? column comparison encode .null = some ⟨column, comparison, .null⟩ := rfl

@[simp] theorem condition?_value {β : Type} (column : Column) (comparison : Comparison)
    (encode : β → Parameter) (a : β) :
    condition? column comparison encode (.value a) = some ⟨column, comparison, encode a⟩ := rfl

section Filters

variable {row : Row} {column : Column}

/-- A filter for a value is passed if its condition is true, unless null is asked for and there is no
value. -/
theorem equal_iff_condition {β : Type} [BEq β] [LawfulBEq β] {encode : β → Parameter}
    (hencode : ∀ a b, Comparison.equals.Holds (encode a) (encode b) ↔ a = b) {x : Option β}
    (hvalue : row.value column = (x.map encode).getD .null) {filter : Given β}
    (hnull : filter = .null → x ≠ none) :
    (!filter.isGiven || x == filter.value?) = true ↔
      ∀ c ∈ condition? column .equals encode filter, c.Holds row := by
  cases filter with
  | absent => simp [Given.isGiven]
  | null =>
    have hx := hnull rfl
    simp [Given.isGiven, Given.value?, Condition.Holds, hx]
  | value a =>
    cases x with
    | none => simp [Given.isGiven, Given.value?, Condition.Holds, hvalue]
    | some b => simp [Given.isGiven, Given.value?, Condition.Holds, hvalue, hencode]

/-- A bound is kept if its condition is true. -/
theorem withinBound_iff_condition {comparison : Comparison} {ok : Int → Int → Bool}
    (hok : ∀ n b, comparison.Holds (.int n) (.int b) ↔ ok n b = true) {n : Int}
    (hvalue : row.value column = .int n) (bound : Given Int) :
    MemoryIndex.withinBound bound (some n) ok = .ok true ↔
      ∀ c ∈ condition? column comparison Parameter.int bound, c.Holds row := by
  cases bound with
  | absent => simp
  | null => simp [Condition.Holds]
  | value b => simp [Condition.Holds, hvalue, hok]

/-- A least count is kept if its condition is true, unless the count is unknown and nothing is asked
for. -/
theorem leastCount_iff_condition {x : Option Int} (hvalue : row.value column = .int (x.getD 0))
    {bound : Given Int} (hknown : ∀ b ≤ 0, bound = .value b → x ≠ none) :
    MemoryIndex.withinBound bound x (fun n b => decide (b ≤ n)) = .ok true ↔
      ∀ c ∈ condition? column .atLeast Parameter.int bound, c.Holds row := by
  cases x with
  | some n =>
    refine withinBound_iff_condition ?_ hvalue bound
    simp [Comparison.Holds]
  | none =>
    cases bound with
    | absent => simp
    | null => simp [Condition.Holds]
    | value b =>
      have hb : 0 < b := by
        by_contra hle
        exact hknown b (by omega) rfl rfl
      simp [Condition.Holds, Comparison.Holds, hvalue, hb]

theorem all_contains_iff_condition {tags : List Text} (hvalue : row.value column = .texts tags)
    (filter : Option (List Text)) :
    (filter.getD []).all tags.contains = true ↔
      ∀ c ∈ filter.map fun wanted => Condition.mk column .includes (.texts wanted),
        c.Holds row := by
  cases filter <;> simp [Condition.Holds, Comparison.Holds, hvalue]

end Filters

theorem forall_filterConditions_iff {row : Row} (f : Filters) :
    (∀ c ∈ filterConditions f, c.Holds row) ↔
      (∀ c ∈ condition? .author .equals Parameter.text f.author, c.Holds row) ∧
      (∀ c ∈ condition? .kind .equals Parameter.int f.kind, c.Holds row) ∧
      (∀ c ∈ f.hashtags.map fun tags => Condition.mk .hashtags .includes (.texts tags),
        c.Holds row) ∧
      (∀ c ∈ condition? .createdAt .atLeast Parameter.int f.since, c.Holds row) ∧
      (∀ c ∈ condition? .createdAt .atMost Parameter.int f.til, c.Holds row) ∧
      (∀ c ∈ condition? .likes .atLeast Parameter.int f.minLikes, c.Holds row) ∧
      (∀ c ∈ condition? .loops .atLeast Parameter.int f.minLoops, c.Holds row) := by
  have hgiven : ∀ os : List (Option Condition),
      (∀ c ∈ os.filterMap id, c.Holds row) ↔ ∀ o ∈ os, ∀ c ∈ o, c.Holds row := by
    intro os
    simp only [List.mem_filterMap, id_eq]
    constructor
    · intro h o ho c hc
      exact h c ⟨o, ho, hc⟩
    · rintro h c ⟨o, ho, hc⟩
      exact h o ho c hc
  rw [filterConditions, hgiven]
  simp only [List.forall_mem_cons, List.not_mem_nil, false_implies, implies_true, and_true]

end Sql

namespace MemoryIndex

open Sql (Row Condition Comparison Parameter)

theorem andThen_eq_ok_true_iff {first second : Except StoreError Bool} :
    andThen first second = .ok true ↔ first = .ok true ∧ second = .ok true := by
  unfold andThen
  cases first with
  | error e => simp [bind, Except.bind]
  | ok passed => cases passed <;> simp [bind, Except.bind, pure, Except.pure]

/-- The row that corresponds to a document. -/
def rowOf (m : MemoryIndex) (doc : Document) : Row where
  author := doc.author
  kind := doc.kind
  hashtags := doc.hashtags
  createdAt := doc.createdAt
  engagement := m.engagement.get? doc.entityId

/-- The filters ask for nothing that is compared differently where it is unknown: not for a null
author of a document that has none, and not for a count of zero or less where the count is unknown. -/
structure Comparable (f : Filters) (doc : Document) (signals : Signals) : Prop where
  author : f.author = .null → doc.author ≠ none
  likes : ∀ bound ≤ 0, f.minLikes = .value bound → signals.likes ≠ none
  loops : ∀ bound ≤ 0, f.minLoops = .value bound → signals.loops ≠ none

theorem passesIn_iff_conditions {m : MemoryIndex} {d : Descriptor} {doc : Document} {f : Filters}
    (hd : d.entityType ≠ .hashtag) (hkind : doc.kind ≠ none)
    (hcomparable : Comparable f doc (m.signals doc.entityId)) :
    m.passesIn d f doc = .ok true ↔ ∀ c ∈ Sql.conditions d f, c.Holds (m.rowOf doc) := by
  have hcounter : ∀ counter : Signals → Option Int, counter {} = some 0 →
      ((m.rowOf doc).engagement.bind counter).getD 0 =
        (counter (m.signals doc.entityId)).getD 0 := by
    intro counter hzero
    unfold signals rowOf
    cases m.engagement.get? doc.entityId <;> simp [hzero]
  have hlikes : (m.rowOf doc).value .likes =
      .int ((m.signals doc.entityId).likes.getD 0) :=
    congrArg Parameter.int (hcounter Signals.likes rfl)
  have hloops : (m.rowOf doc).value .loops =
      .int ((m.signals doc.entityId).loops.getD 0) :=
    congrArg Parameter.int (hcounter Signals.loops rfl)
  have hpure : ∀ b : Bool, (pure b : Except StoreError Bool) = .ok true ↔ b = true := by
    intro b
    simp [pure, Except.pure]
  rw [passesIn, passes, if_neg hd, Sql.conditions, if_neg hd, Sql.forall_filterConditions_iff]
  simp only [andThen_eq_ok_true_iff, hpure]
  -- filter by filter
  refine and_congr ?author (and_congr ?kind (and_congr ?hashtags (and_congr ?since (and_congr ?til
    (and_congr ?likes ?loops)))))
  case author => exact Sql.equal_iff_condition (fun _ _ => Iff.rfl) rfl hcomparable.author
  case kind => exact Sql.equal_iff_condition (fun _ _ => Iff.rfl) rfl fun _ => hkind
  case hashtags => exact Sql.all_contains_iff_condition rfl f.hashtags
  case since => exact Sql.withinBound_iff_condition (by simp [Comparison.Holds]) rfl f.since
  case til => exact Sql.withinBound_iff_condition (by simp [Comparison.Holds]) rfl f.til
  case likes => exact Sql.leastCount_iff_condition hlikes hcomparable.likes
  case loops => exact Sql.leastCount_iff_condition hloops hcomparable.loops

/-- The restrictions that filters set for a type are written as a conjunction of predicates with
placeholders, and a document of the index passes the filters if and only if these are true of its
row when each placeholder is bound to its parameter. -/
theorem passesIn_iff_restrictions (changes : List Change) {t : EntityType} {d : Descriptor}
    (hd : Descriptor.of? t = some d) {doc : Document}
    (hdoc : doc ∈ (after changes).documentsOf t) (hkind : doc.kind = none → t = .hashtag)
    (f : Filters)
    (hcomparable : t ≠ .hashtag → Comparable f doc ((after changes).signals doc.entityId))
    (used : Nat) :
    (Sql.restrictions d f used).text = Sql.conjunctionText (Sql.predicates d f used) ∧
    ((after changes).passesIn d f doc = .ok true ↔
      ∀ p ∈ Sql.predicates d f used,
        p.Holds ((after changes).rowOf doc) ((Sql.restrictions d f used).bound used)) := by
  refine ⟨Sql.restrictions_text d f used, ?_⟩
  rw [Sql.forall_predicates_iff]
  have htype : d.entityType = t := Descriptor.entityType_of? hd
  by_cases hhashtag : t = .hashtag
  · -- neither a test nor a restriction
    rw [← htype] at hhashtag
    simp [passesIn, passes, Sql.kindRestriction, Sql.conditions, hhashtag, pure, Except.pure]
  · have hgiven : doc.kind ≠ none := fun hnone => hhashtag (hkind hnone)
    rw [passesIn_iff_conditions (htype ▸ hhashtag) hgiven (hcomparable hhashtag)]
    -- the index holds no kind that the statement rules out
    have hrestriction : Sql.kindRestriction d = [] ∨
        ∃ kind ∈ Sql.kindRestriction d, ((after changes).rowOf doc).kind = some kind := by
      obtain ⟨kind, hk⟩ := Option.ne_none_iff_exists'.mp hgiven
      obtain ⟨d', hd', hdescribes⟩ := described_of_get? ((after_keyed changes).get?_of_mem hdoc)
      rw [hd] at hd'
      cases hd'
      have haccepts := hdescribes.kind kind hk
      simp only [Descriptor.acceptsKind, Bool.or_eq_true, List.isEmpty_iff,
        List.contains_iff_mem] at haccepts
      rw [Sql.kindRestriction, if_neg (htype ▸ hhashtag)]
      exact haccepts.imp id fun hmem => ⟨kind, hmem, hk⟩
    simp [hrestriction]

/-- A film with an author and two tags. -/
def film : Document where
  entityId := "a"
  fields := [("title", "bit")]
  createdAt := 5
  author := some "ana"
  kind := some 34235
  hashtags := ["art", "news"]

/-- The filters that a film of at least three likes passes. -/
def asked : Filters where
  author := .value "ana"
  hashtags := some ["news", "art", "news"]
  minLikes := .value 3
  minLoops := .value (-1)
  since := .value 5
  til := .value 9

theorem film_restrictions :
    ∃ d doc, Descriptor.of? .video = some d ∧
      doc ∈ (after [.add .video film { likes := some 3 }]).documentsOf .video ∧
      (Sql.restrictions d asked 2).text = Sql.conjunctionText (Sql.predicates d asked 2) ∧
      ∀ p ∈ Sql.predicates d asked 2,
        p.Holds ((after [.add .video film { likes := some 3 }]).rowOf doc)
          ((Sql.restrictions d asked 2).bound 2) := by
  have hfilm : (Change.add .video film { likes := some 3 }).Accepted :=
    ⟨_, rfl, by decide +kernel⟩
  have hdoc : film.kept ∈ (after [.add .video film { likes := some 3 }]).documentsOf .video :=
    kept_mem_documentsOf {} hfilm
  have hsignals : (after [.add .video film { likes := some 3 }]).signals film.kept.entityId =
      { likes := some 3 } := by decide +kernel
  have hcomparable : Comparable asked film.kept
      ((after [.add .video film { likes := some 3 }]).signals film.kept.entityId) := by
    rw [hsignals]
    constructor <;> intros <;> decide +kernel
  refine ⟨_, film.kept, rfl, hdoc, ?_⟩
  obtain ⟨htext, hpasses⟩ := passesIn_iff_restrictions [.add .video film { likes := some 3 }]
    rfl hdoc (by decide) asked (fun _ => hcomparable) 2
  refine ⟨htext, hpasses.mp ?_⟩
  decide +kernel

/-- A film of which nobody is named as author. -/
def unsigned : Document where
  entityId := "a"
  fields := [("title", "bit")]
  kind := some 34235

/-- In memory a document without author has the null author that is asked for, and an unknown count
is not zero. The restrictions of a statement say the opposite of both. -/
theorem passesIn_null :
    (∃ d doc, Descriptor.of? .video = some d ∧
      doc ∈ (after [.add .video unsigned {}]).documentsOf .video ∧ doc.kind = some 34235 ∧
      (after [.add .video unsigned {}]).passesIn d { author := .null } doc = .ok true ∧
      ¬ ∀ p ∈ Sql.predicates d { author := .null } 2,
        p.Holds ((after [.add .video unsigned {}]).rowOf doc)
          ((Sql.restrictions d { author := .null } 2).bound 2)) ∧
    ∃ d doc, Descriptor.of? .video = some d ∧
      doc ∈ (after [.add .video unsigned { likes := none, loops := some 1 }]).documentsOf .video ∧
      doc.kind = some 34235 ∧
      (after [.add .video unsigned { likes := none, loops := some 1 }]).passesIn d
        { minLikes := .value 0 } doc ≠ .ok true ∧
      ∀ p ∈ Sql.predicates d { minLikes := .value 0 } 2,
        p.Holds ((after [.add .video unsigned { likes := none, loops := some 1 }]).rowOf doc)
          ((Sql.restrictions d { minLikes := .value 0 } 2).bound 2) := by
  have hunsigned : ∀ signals, (Change.add .video unsigned signals).Accepted :=
    fun _ => ⟨_, rfl, by decide +kernel⟩
  have hdoc : ∀ signals, unsigned.kept ∈ (after [.add .video unsigned signals]).documentsOf
      .video := fun signals => kept_mem_documentsOf {} (hunsigned signals)
  constructor
  · refine ⟨_, unsigned.kept, rfl, hdoc _, rfl, by decide +kernel, ?_⟩
    rw [Sql.forall_predicates_iff]
    rintro ⟨-, hconditions⟩
    exact hconditions ⟨.author, .equals, .null⟩ (by decide)
  · refine ⟨_, unsigned.kept, rfl, hdoc _, rfl, by decide +kernel, ?_⟩
    rw [Sql.forall_predicates_iff]
    refine ⟨.inr ⟨34235, by decide, rfl⟩, ?_⟩
    intro c hc
    have honly : c = ⟨.likes, .atLeast, .int 0⟩ := List.mem_singleton.mp hc
    have hlikes : ((after [.add .video unsigned { likes := none, loops := some 1 }]).rowOf
        unsigned.kept).value .likes = .int 0 := by decide +kernel
    simp [honly, Condition.Holds, Comparison.Holds, hlikes]

end MemoryIndex

end EntitySearch

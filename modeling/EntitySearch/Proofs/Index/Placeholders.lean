import EntitySearch.Index.Sql
import Mathlib
/-!
# Placeholders of statements

Clients say which filters there are and what their values are. The text of a statement knows of the
former only: it is written from the description of a type and the keys of the filters, and it refers
to the values by placeholders. These are numbered through behind those that every statement has, and
the statement's parameters are the values in the same order (`Sql.statements_prepared`).
-/

namespace EntitySearch

namespace Sql

/-! ## Placeholders of a text -/

/-- The number in decimal digits that a text begins with. -/
def leadingNumber (text : Text) : Nat :=
  Nat.ofDigitChars 10 ((text.takeWhile fun c => c.is Char.isDigit).filterMap CodePoint.char?) 0

/-- The numbers behind the dollar signs of a text, from left to right. A dollar sign without a
number counts as zero. -/
def placeholders : Text → List Nat
  | [] => []
  | c :: rest => if c = '$' then leadingNumber rest :: placeholders rest else placeholders rest

/-- A text does not continue a number. -/
def Detached (text : Text) : Prop := ∀ c ∈ text.head?, c.is Char.isDigit = false

theorem detached_nil : Detached [] := by simp [Detached]

theorem Detached.leadingNumber_append {behind : Text} (h : Detached behind) (text : Text) :
    leadingNumber (text ++ behind) = leadingNumber text := by
  have hnone : behind.takeWhile (fun c => c.is Char.isDigit) = [] := by
    cases behind with
    | nil => rfl
    | cons c rest => rw [List.takeWhile_cons_of_neg (by simp [h c rfl])]
  unfold leadingNumber
  rw [List.takeWhile_append, hnone]
  split
  · next hall => rw [List.append_nil, (List.takeWhile_prefix _).eq_of_length hall]
  · rfl

theorem Detached.placeholders_append {behind : Text} (h : Detached behind) (text : Text) :
    placeholders (text ++ behind) = placeholders text ++ placeholders behind := by
  induction text with
  | nil => rfl
  | cons c rest ih =>
    simp only [List.cons_append, placeholders, ih, h.leadingNumber_append]
    split <;> rfl

theorem placeholders_append_of_none {text : Text} (h : CodePoint.char '$' ∉ text)
    (behind : Text) : placeholders (text ++ behind) = placeholders behind := by
  induction text with
  | nil => rfl
  | cons c rest ih =>
    rw [List.mem_cons, not_or] at h
    rw [List.cons_append, placeholders, if_neg (Ne.symm h.1), ih h.2]

theorem isDigit_of_mem_ofString {n : Nat} :
    ∀ c ∈ Text.ofString (toString n), c.is Char.isDigit = true := by
  intro c hc
  obtain ⟨digit, hdigit, rfl⟩ := List.mem_map.mp hc
  rw [Nat.toString_eq_repr, Nat.toList_repr] at hdigit
  exact Nat.isDigit_of_mem_toDigits (by decide) (by decide) hdigit

/-- What a number is written as is read as this number. -/
theorem leadingNumber_ofString (n : Nat) : leadingNumber (Text.ofString (toString n)) = n := by
  have hchars : (Text.ofString (toString n)).filterMap CodePoint.char? = Nat.toDigits 10 n := by
    rw [Text.ofString, Text.ofChars, List.filterMap_map, Nat.toString_eq_repr, Nat.toList_repr]
    exact List.filterMap_some
  rw [leadingNumber, List.takeWhile_eq_self_iff.mpr isDigit_of_mem_ofString, hchars]
  exact Nat.ofDigitChars_ten_toDigits

/-- A dollar sign and a number are a placeholder. -/
theorem Detached.placeholders_number {behind : Text} (h : Detached behind) (n : Nat) :
    placeholders ("$" ++ (Text.ofString (toString n) ++ behind)) = n :: placeholders behind := by
  have hdollar : ∀ text : Text,
      placeholders ("$" ++ text) = leadingNumber text :: placeholders text := fun _ => rfl
  have hnone : CodePoint.char '$' ∉ Text.ofString (toString n) := by
    intro hmem
    cases isDigit_of_mem_ofString _ hmem
  rw [hdollar, h.leadingNumber_append, leadingNumber_ofString, placeholders_append_of_none hnone]

/-! ## Keys of filters -/

/-- What a filter is called by. -/
inductive FilterKey where
  | author | kind | hashtags | since | til | minLikes | minLoops
  deriving Repr, DecidableEq

namespace FilterKey

/-- All keys, in the order of the clauses that they stand for. -/
def every : List FilterKey := [author, kind, hashtags, since, til, minLikes, minLoops]

/-- What stands in front of the number in the clause of a filter. -/
def opening : FilterKey → String
  | author => "d.pubkey = $"
  | kind => "d.kind = $"
  | hashtags => "d.hashtags @> $"
  | since => "d.created_at >= $"
  | til => "d.created_at <= $"
  | minLikes => "COALESCE(s.likes, 0) >= $"
  | minLoops => "COALESCE(s.loops, 0) >= $"

/-- What stands behind the number in the clause of a filter. -/
def ending : FilterKey → String
  | hashtags => "::text[]"
  | _ => ""

/-- The clause of a filter, with the number of its placeholder. -/
def clause (key : FilterKey) (number : Nat) : String := key.opening ++ toString number ++ key.ending

/-- The value of a filter as a parameter, if the filter was given. -/
def parameter? (f : Filters) : FilterKey → Option Parameter
  | author => Sql.parameter? Parameter.text f.author
  | kind => Sql.parameter? Parameter.int f.kind
  | hashtags => f.hashtags.map Parameter.texts
  | since => Sql.parameter? Parameter.int f.since
  | til => Sql.parameter? Parameter.int f.til
  | minLikes => Sql.parameter? Parameter.int f.minLikes
  | minLoops => Sql.parameter? Parameter.int f.minLoops

/-- The keys of the filters that were given. -/
def given (f : Filters) : List FilterKey := every.filter fun key => (key.parameter? f).isSome

/-- The condition that a filter with a value sets. -/
def condition (key : FilterKey) (p : Parameter) : Condition :=
  match key with
  | author => ⟨.author, .equals, p⟩
  | kind => ⟨.kind, .equals, p⟩
  | hashtags => ⟨.hashtags, .includes, p⟩
  | since => ⟨.createdAt, .atLeast, p⟩
  | til => ⟨.createdAt, .atMost, p⟩
  | minLikes => ⟨.likes, .atLeast, p⟩
  | minLoops => ⟨.loops, .atLeast, p⟩

@[simp] theorem condition_parameter (key : FilterKey) (p : Parameter) :
    (key.condition p).parameter = p := by
  cases key <;> rfl

theorem condition_text (key : FilterKey) (p : Parameter) (number : Nat) :
    (key.condition p).text number = key.clause number := by
  cases key <;>
    simp only [condition, clause, opening, ending, Condition.text, Column.text,
      ← String.append_assoc, String.append_empty, String.reduceAppend]

theorem exists_opening_eq (key : FilterKey) : ∃ stem : Text,
    Text.ofString key.opening = stem ++ ("$" : Text) ∧ CodePoint.char '$' ∉ stem := by
  refine ⟨(Text.ofString key.opening).dropLast, ?_⟩
  cases key <;> decide +kernel

theorem detached_ending (key : FilterKey) {behind : Text} (h : Detached behind) :
    Detached (Text.ofString key.ending ++ behind) := by
  cases key
  case hashtags => exact fun c hc => Option.some.inj hc ▸ rfl
  all_goals exact h

theorem placeholders_clause (key : FilterKey) (number : Nat) {behind : Text}
    (h : Detached behind) :
    placeholders (Text.ofString (key.clause number) ++ behind) = number :: placeholders behind := by
  obtain ⟨stem, hopening, hstem⟩ := key.exists_opening_eq
  have hending : CodePoint.char '$' ∉ Text.ofString key.ending := by cases key <;> decide +kernel
  rw [clause, Text.ofString_append, Text.ofString_append, hopening]
  simp only [List.append_assoc]
  rw [placeholders_append_of_none hstem, (key.detached_ending h).placeholders_number,
    placeholders_append_of_none hending]

end FilterKey

open FilterKey (given)

/-! ## Clauses -/

/-- The clauses of filters whose placeholders are numbered from a number on. -/
def clausesText (number : Nat) (keys : List FilterKey) : Text :=
  (keys.zipIdx number).flatMap fun e => " AND " ++ Text.ofString (e.1.clause e.2)

theorem detached_clausesText (number : Nat) (keys : List FilterKey) {behind : Text}
    (h : Detached behind) : Detached (clausesText number keys ++ behind) := by
  cases keys with
  | nil => exact h
  | cons key rest =>
    intro c hc
    cases hc
    rfl

/-- The placeholders of clauses are numbered through. -/
theorem placeholders_clausesText (number : Nat) (keys : List FilterKey) :
    placeholders (clausesText number keys) = List.range' number keys.length := by
  induction keys generalizing number with
  | nil => rfl
  | cons key rest ih =>
    have hand : CodePoint.char '$' ∉ Text.ofString " AND " := by decide
    have hrest : Detached (clausesText (number + 1) rest) := by
      simpa using detached_clausesText (number + 1) rest detached_nil
    have hcons : clausesText number (key :: rest) =
        " AND " ++ (Text.ofString (key.clause number) ++ clausesText (number + 1) rest) := by
      simp [clausesText, List.append_assoc]
    rw [hcons, placeholders_append_of_none hand, key.placeholders_clause number hrest, ih]
    rfl

/-- The conditions of filters are written as the clauses of their keys. -/
theorem conditionsText_eq_clausesText (f : Filters) (number : Nat) (keys : List FilterKey) :
    conditionsText number
      (keys.filterMap fun key => (key.parameter? f).map key.condition) =
    clausesText number (keys.filter fun key => (key.parameter? f).isSome) := by
  induction keys generalizing number with
  | nil => rfl
  | cons key rest ih =>
    cases hp : key.parameter? f with
    | none => simpa [hp] using ih number
    | some p => simp [hp, conditionsText, clausesText, ih, FilterKey.condition_text]

theorem filterConditions_eq (f : Filters) : filterConditions f =
    FilterKey.every.filterMap fun key => (key.parameter? f).map key.condition := by
  have hhashtags : (f.hashtags.map fun tags => Condition.mk .hashtags .includes (.texts tags)) =
      (FilterKey.hashtags.parameter? f).map FilterKey.hashtags.condition := by
    rw [FilterKey.parameter?, Option.map_map]
    rfl
  rw [filterConditions, hhashtags]
  rfl

/-! ## Statements -/

/-- The keys of the filters that restrict a type. Tags are not filtered. -/
def restricting (d : Descriptor) (f : Filters) : List FilterKey :=
  if d.entityType = .hashtag then [] else given f

/-- The part of a statement in which it is restricted, if `used` placeholders stand before those of
the filters. -/
def filterPart (d : Descriptor) (used : Nat) (keys : List FilterKey) : Text :=
  Text.ofString (kindsText (kindRestriction d)) ++ clausesText (used + 1) keys

theorem filterPart_of_hashtag {d : Descriptor} (h : d.entityType = .hashtag) (f : Filters)
    (used : Nat) : filterPart d used (restricting d f) = [] := by
  rw [filterPart, restricting, kindRestriction, if_pos h, if_pos h]
  rfl

theorem conditions_eq (d : Descriptor) (f : Filters) : conditions d f =
    (if d.entityType = .hashtag then [] else FilterKey.every).filterMap fun key =>
      (key.parameter? f).map key.condition := by
  rw [conditions, filterConditions_eq]
  split <;> rfl

theorem restricting_eq (d : Descriptor) (f : Filters) : restricting d f =
    (if d.entityType = .hashtag then [] else FilterKey.every).filter fun key =>
      (key.parameter? f).isSome := by
  rw [restricting, given]
  split <;> rfl

theorem restrictions_text_eq (d : Descriptor) (f : Filters) (used : Nat) :
    (restrictions d f used).text = filterPart d used (restricting d f) := by
  rw [filterPart, restricting_eq, ← conditionsText_eq_clausesText, ← conditions_eq]
  rfl

/-- The parameters are the values of the filters, in the order of their clauses. -/
theorem restrictions_parameters (d : Descriptor) (f : Filters) (used : Nat) :
    (restrictions d f used).parameters.map some =
      (restricting d f).map fun key => key.parameter? f := by
  have hkeys : ∀ keys : List FilterKey,
      ((keys.filterMap fun key => (key.parameter? f).map key.condition).map
        Condition.parameter).map some =
      (keys.filter fun key => (key.parameter? f).isSome).map fun key => key.parameter? f := by
    intro keys
    induction keys with
    | nil => rfl
    | cons key rest ih =>
      cases hp : key.parameter? f with
      | none => simpa [hp] using ih
      | some p => simpa [hp] using ih
  rw [restricting_eq, ← hkeys, ← conditions_eq]
  rfl

theorem detached_filterPart (d : Descriptor) (used : Nat) (keys : List FilterKey) {behind : Text}
    (h : Detached behind) : Detached (filterPart d used keys ++ behind) := by
  rw [filterPart, List.append_assoc]
  by_cases hnone : (kindRestriction d).isEmpty
  · rw [kindsText, if_pos hnone]
    exact detached_clausesText (used + 1) keys h
  · rw [kindsText, if_neg hnone]
    intro c hc
    simp only [Text.ofString_append] at hc
    cases hc
    rfl

theorem placeholders_filterPart {d : Descriptor} (hd : d ∈ Descriptor.registered) (used : Nat)
    (keys : List FilterKey) :
    placeholders (filterPart d used keys) = List.range' (used + 1) keys.length := by
  have hkinds : ∀ d ∈ Descriptor.registered,
      CodePoint.char '$' ∉ Text.ofString (kindsText (kindRestriction d)) := by decide +kernel
  rw [filterPart, placeholders_append_of_none (hkinds d hd), placeholders_clausesText]

/-- A search up to its filters. -/
def searchOpening (d : Descriptor) : Text :=
  let document := documentText d
  let selected : List Text := ["",
    "        SELECT d.entity_id,",
    "               d.created_at,",
    "               ts_rank(to_tsvector('simple', " ++ document
      ++ "), to_tsquery('simple', $1)) AS rank,",
    "               ts_headline('simple', " ++ document ++ ", to_tsquery('simple', $1),",
    "                           'StartSel=<mark>, StopSel=</mark>, MaxFragments=1, "
      ++ "MaxWords=24') AS snippet"]
  let matched : List Text := [
    "        WHERE to_tsvector('simple', " ++ document ++ ") @@ to_tsquery('simple', $1)",
    "    "]
  Text.join "\n" (selected ++ source d ++ matched)

/-- A search behind its filters. -/
def searchClosing : Text := " ORDER BY rank DESC, d.created_at DESC LIMIT $2"

/-- A check of ids up to its filters. -/
def matchOpening (d : Descriptor) : Text :=
  let selected : List Text := ["", "        SELECT d.entity_id"]
  let matched : List Text := ["        WHERE d.entity_id = ANY($1::text[])", "    "]
  Text.join "\n" (selected ++ source d ++ matched)

/-- A statement refers to the values of filters by the placeholders of their clauses. The
placeholders are numbered through behind the `used` ones of the statement itself, and its parameters
are the values. -/
structure Prepared (s : Statement) (d : Descriptor) (f : Filters) (used : Nat)
    (opening closing : Text) : Prop where
  text : s.text = opening ++ filterPart d used (restricting d f) ++ closing
  numbered : placeholders (filterPart d used (restricting d f)) =
    List.range' (used + 1) s.parameters.length
  overall : placeholders s.text = placeholders opening ++
    List.range' (used + 1) s.parameters.length ++ placeholders closing
  values : s.parameters.map some = (restricting d f).map fun key => key.parameter? f

theorem prepared {d : Descriptor} (hd : d ∈ Descriptor.registered) (f : Filters) (used : Nat)
    (opening : Text) {closing : Text} (hclosing : Detached closing) :
    Prepared ⟨opening ++ (restrictions d f used).text ++ closing,
      (restrictions d f used).parameters⟩ d f used opening closing := by
  have hparameters := restrictions_parameters d f used
  have hlength : (restricting d f).length = (restrictions d f used).parameters.length := by
    simpa using (congrArg List.length hparameters).symm
  have hpart := placeholders_filterPart hd used (restricting d f)
  rw [hlength] at hpart
  refine ⟨?_, hpart, ?_, hparameters⟩
  · rw [restrictions_text_eq]
  · have hdetached := detached_filterPart d used (restricting d f) hclosing
    rw [restrictions_text_eq, List.append_assoc, hdetached.placeholders_append,
      hclosing.placeholders_append, hpart, List.append_assoc]

theorem prepared_searchStatement {d : Descriptor} (hd : d ∈ Descriptor.registered) (f : Filters) :
    Prepared (searchStatement d f) d f 2 (searchOpening d) searchClosing :=
  prepared hd f 2 (searchOpening d) fun _ hc => Option.some.inj hc ▸ rfl

theorem prepared_matchStatement {d : Descriptor} (hd : d ∈ Descriptor.registered) (f : Filters) :
    Prepared (matchStatement d f) d f 1 (matchOpening d) [] := by
  have h := prepared hd f 1 (matchOpening d) detached_nil
  rw [List.append_nil] at h
  exact h

theorem restricting_congr {d : Descriptor} {f g : Filters} (h : given g = given f) :
    restricting d g = restricting d f := by
  rw [restricting, restricting, h]

/-- The text of a statement is made of the description of a type and the keys of the filters that
were given. Its placeholders are its own, which are the query and the limit of a search and the ids
of a check, and those of the filters: these are numbered through behind its own, in the order of the
clauses, and the parameters are the values of the filters in the same order. Nothing restricts a
search for tags. -/
theorem statements_prepared {d : Descriptor} (hd : d ∈ Descriptor.registered) (f : Filters) :
    Prepared (searchStatement d f) d f 2 (searchOpening d) searchClosing ∧
    Prepared (matchStatement d f) d f 1 (matchOpening d) [] ∧
    (placeholders (searchOpening d) = [1, 1, 1] ∧ placeholders searchClosing = [2] ∧
      placeholders (matchOpening d) = [1]) ∧
    (∀ g, given g = given f → (searchStatement d g).text = (searchStatement d f).text ∧
      (matchStatement d g).text = (matchStatement d f).text) ∧
    (d.entityType = .hashtag →
      (searchStatement d f).parameters = [] ∧ (matchStatement d f).parameters = [] ∧
      (searchStatement d f).text = searchOpening d ++ searchClosing ∧
      (matchStatement d f).text = matchOpening d) := by
  have hsearch := prepared_searchStatement hd
  have hmatch := prepared_matchStatement hd
  refine ⟨hsearch f, hmatch f, ?own, ?keys, ?tags⟩
  case own =>
    have hown : ∀ d ∈ Descriptor.registered, placeholders (searchOpening d) = [1, 1, 1] ∧
        placeholders searchClosing = [2] ∧ placeholders (matchOpening d) = [1] := by decide +kernel
    exact hown d hd
  case keys =>
    intro g hsame
    rw [(hsearch g).text, (hsearch f).text, (hmatch g).text, (hmatch f).text,
      restricting_congr hsame]
    exact ⟨rfl, rfl⟩
  case tags =>
    intro htype
    have hnone : conditions d f = [] := if_pos htype
    refine ⟨congrArg (List.map Condition.parameter) hnone,
      congrArg (List.map Condition.parameter) hnone, ?_, ?_⟩
    · rw [(hsearch f).text, filterPart_of_hashtag htype, List.append_nil]
    · rw [(hmatch f).text, filterPart_of_hashtag htype, List.append_nil, List.append_nil]

/-- Filters with a value that looks like a part of a statement. -/
def quoting : Filters where
  author := .value "x' OR d.kind = $7 --"
  since := .value 5
  minLoops := .null

/-- Filters with the same keys. -/
def harmless : Filters where
  author := .value "x"
  since := .null
  minLoops := .value 1

theorem quoting_prepared :
    ∃ d ∈ Descriptor.registered, d.entityType = .video ∧
      (searchStatement d quoting).text = (searchStatement d harmless).text ∧
      placeholders (searchStatement d quoting).text = [1, 1, 1, 3, 4, 5, 2] ∧
      (searchStatement d quoting).parameters =
        [.text "x' OR d.kind = $7 --", .int 5, .null] := by
  obtain ⟨d, hd, hvideo⟩ : ∃ d ∈ Descriptor.registered, d.entityType = .video := by decide
  have hconditions : conditions d quoting = filterConditions quoting :=
    if_neg (by rw [hvideo]; decide)
  have hparameters : (searchStatement d quoting).parameters =
      [.text "x' OR d.kind = $7 --", .int 5, .null] :=
    congrArg (List.map Condition.parameter) hconditions
  obtain ⟨hsearch, -, ⟨hopening, hclosing, -⟩, hsame, -⟩ := statements_prepared hd quoting
  refine ⟨d, hd, hvideo, (hsame harmless (by decide)).1.symm, ?_, hparameters⟩
  rw [hsearch.overall, hopening, hclosing, hparameters]
  rfl

end Sql

end EntitySearch

import EntitySearch.Proofs.Text.Lowercase
import EntitySearch.Query.Parser
import Mathlib
/-!
# What a search string means

A search string is the list of its maximal runs of characters that are not blank. `TokenClass.of?`
sorts such a run by the first directive whose word it begins with, and `Means` says what the runs
of each class set: names by the last one, tags by all, numeric filters by the last one that spells a
proper number. This determines the query, and `parse` yields it (`parse_eq_iff`).

The numbers are described by what is written (`Spells`), as positional notation to the base ten.
-/

namespace EntitySearch.Query

open Text (Runs Solid)

/-! ## Whole numbers -/

/-- Decimal digits of any script, at least one and at most 4300, and the number they spell. -/
def Decimal (digits : Text) (n : Nat) : Prop :=
  digits ≠ [] ∧ digits.length ≤ 4300 ∧
    ∃ values : List Nat,
      digits.map Text.digitValue? = values.map some ∧ n = Nat.ofDigits 10 values.reverse

/-- A text spells a whole number: digits with an optional sign in front. -/
inductive Spells : Text → Int → Prop where
  | unsigned {digits : Text} {n : Nat} (h : Decimal digits n) : Spells digits n
  | plus {digits : Text} {n : Nat} (h : Decimal digits n) : Spells (.char '+' :: digits) n
  | minus {digits : Text} {n : Nat} (h : Decimal digits n) : Spells (.char '-' :: digits) (-n)

theorem ofDigits_eq (values : List Nat) :
    Text.ofDigits values = Nat.ofDigits 10 values.reverse := by
  rw [Text.ofDigits, Nat.ofDigits_eq_foldr, List.foldr_reverse]
  simp only [Nat.cast_id, Nat.add_comm]

theorem mapM_eq_some_iff {α β : Type} {f : α → Option β} {items : List α} {values : List β} :
    items.mapM f = some values ↔ items.map f = values.map some := by
  induction items generalizing values with
  | nil => cases values <;> simp
  | cons a items ih =>
    cases values with
    | nil => simp [Option.bind_eq_some_iff]
    | cons b values => simp [Option.bind_eq_some_iff, ih]

theorem decimal_iff {digits : Text} {n : Nat} : Decimal digits n ↔
    ∃ values, digits.mapM Text.digitValue? = some values ∧ values ≠ [] ∧
      values.length ≤ Number.maxDigits ∧ n = Text.ofDigits values := by
  unfold Decimal
  constructor
  · rintro ⟨hne, hlength, values, hvalues, rfl⟩
    have hsame : digits.length = values.length := by simpa using congrArg List.length hvalues
    refine ⟨values, mapM_eq_some_iff.mpr hvalues, ?_, hsame ▸ hlength, (ofDigits_eq values).symm⟩
    rintro rfl
    exact hne (List.length_eq_zero_iff.mp hsame)
  · rintro ⟨values, hvalues, hne, hlength, rfl⟩
    rw [mapM_eq_some_iff] at hvalues
    have hsame : digits.length = values.length := by simpa using congrArg List.length hvalues
    refine ⟨?_, hsame ▸ hlength, values, hvalues, ofDigits_eq values⟩
    rintro rfl
    exact hne (List.length_eq_zero_iff.mp hsame.symm)

/-- Signs are no digits. -/
theorem not_decimal_sign {c : Char} (hc : c = '+' ∨ c = '-') (rest : Text) (n : Nat) :
    ¬ Decimal (.char c :: rest) n := by
  rintro ⟨_, _, values, hvalues, _⟩
  have hsign : Text.digitValue? (.char c) = none := by
    rcases hc with rfl | rfl <;> decide
  cases values <;> simp [hsign] at hvalues

theorem splitSign_of_decimal {digits : Text} {n : Nat} (h : Decimal digits n) :
    Number.splitSign digits = (false, digits) := by
  unfold Number.splitSign
  split
  · exact absurd h (not_decimal_sign (Or.inr rfl) _ n)
  · exact absurd h (not_decimal_sign (Or.inl rfl) _ n)
  · rfl

theorem integer?_eq_some_iff_decimal {text : Text} {n : Int} : integer? text = some n ↔
    ∃ m : Nat, Decimal (Number.splitSign text).2 m ∧
      n = if (Number.splitSign text).1 then -(m : Int) else m := by
  simp only [decimal_iff, integer?]
  generalize Number.maxDigits = most
  cases hdigits : (Number.splitSign text).2.mapM Text.digitValue? with
  | none => simp
  | some values =>
    cases values with
    | nil => simp
    | cons d rest =>
      by_cases hlong : most < rest.length + 1
      · have hnot : ¬ rest.length < most := by omega
        simp [hlong, hnot]
      · have hfits : rest.length < most := by omega
        simpa [hlong, hfits] using eq_comm

theorem integer?_eq_some_iff {text : Text} {n : Int} : integer? text = some n ↔ Spells text n := by
  rw [integer?_eq_some_iff_decimal]
  constructor
  · rintro ⟨m, hm, rfl⟩
    unfold Number.splitSign at hm ⊢
    split at hm
    · exact .minus hm
    · exact .plus hm
    · exact .unsigned hm
  · rintro (⟨h⟩ | ⟨h⟩ | ⟨h⟩)
    · rw [splitSign_of_decimal h]
      exact ⟨_, h, rfl⟩
    · exact ⟨_, h, rfl⟩
    · exact ⟨_, h, rfl⟩

/-! ## Classes of tokens -/

/-- A proper value of a numeric filter; counters have no negative ones. -/
def Proper (filter : NumericFilter) (text : Text) (n : Int) : Prop :=
  Spells text n ∧ (filter = .minLikes ∨ filter = .minLoops → 0 ≤ n)

/-- The directives. -/
inductive TokenClass where
  | entityType | author | hashtag
  | number (filter : NumericFilter)
  deriving DecidableEq

namespace TokenClass

/-- The word that a directive begins with. -/
def word : TokenClass → Text
  | entityType => "type:"
  | author => "author:"
  | hashtag => "#"
  | number .kind => "kind:"
  | number .minLikes => "min_likes:"
  | number .minLoops => "min_loops:"
  | number .since => "since:"
  | number .til => "until:"

/-- The directives in the order in which they are tried. -/
def ordered : List TokenClass :=
  [entityType, author, number .kind, hashtag, number .minLikes, number .minLoops, number .since,
    number .til]

/-- The first directive whose word a token begins with; a token without one is free. -/
def of? (token : Text) : Option TokenClass := ordered.find? fun k => k.word.isPrefixOf token

/-- What the tokens of a class say behind its word, in order. -/
def values (k : TokenClass) (tokens : List Text) : List Text :=
  (tokens.filter fun token => of? token = some k).map fun token => token.drop k.word.length

/-- The value of a numeric filter that a text spells. -/
def properValue? : NumericFilter → Text → Option Int
  | .minLikes | .minLoops => natural?
  | .kind | .since | .til => integer?

/-- The directive of a class with a value. -/
def directive : TokenClass → Text → Directive
  | entityType, value => .entityType value
  | author, value => .author value
  | hashtag, value =>
    match Text.lower value with
    | [] => .dropped
    | tag => .hashtag tag
  | number filter, value => numeric filter (properValue? filter value)

theorem properValue?_eq_some_iff {filter : NumericFilter} {text : Text} {n : Int} :
    properValue? filter text = some n ↔ Proper filter text n := by
  cases filter <;>
    simp [properValue?, Proper, natural?, Option.filter_eq_some_iff, integer?_eq_some_iff]

theorem directive_hashtag (value : Text) :
    hashtag.directive value = if value = [] then .dropped else .hashtag (Text.lower value) := by
  by_cases hnil : value = []
  · subst hnil
    rfl
  · have hlower := mt Text.lower_eq_nil_iff.mp hnil
    rw [if_neg hnil]
    cases h : Text.lower value with
    | nil => exact absurd h hlower
    | cons c rest => simp only [directive, h]

theorem ofToken_eq (token : Text) :
    Directive.ofToken token =
      match of? token with
      | none => .term token
      | some k => k.directive (token.drop k.word.length) := by
  simp only [Directive.ofToken, after?, of?, ordered, List.find?_cons, word]
  -- both sides try the same words one after the other
  cases List.isPrefixOf ("type:" : Text) token with | true => rfl | false => ?_
  cases List.isPrefixOf ("author:" : Text) token with | true => rfl | false => ?_
  cases List.isPrefixOf ("kind:" : Text) token with | true => rfl | false => ?_
  cases List.isPrefixOf ("#" : Text) token with | true => rfl | false => ?_
  cases List.isPrefixOf ("min_likes:" : Text) token with | true => rfl | false => ?_
  cases List.isPrefixOf ("min_loops:" : Text) token with | true => rfl | false => ?_
  cases List.isPrefixOf ("since:" : Text) token with | true => rfl | false => ?_
  cases List.isPrefixOf ("until:" : Text) token with | true => rfl | false => rfl

theorem values_snoc {k : TokenClass} {token : Text} (h : of? token = some k) (tokens : List Text) :
    k.values (tokens ++ [token]) = k.values tokens ++ [token.drop k.word.length] := by
  simp [values, h]

theorem values_snoc_other {k : TokenClass} {token : Text} (h : of? token ≠ some k)
    (tokens : List Text) : k.values (tokens ++ [token]) = k.values tokens := by
  simp [values, h]

end TokenClass

/-! ## What tokens set -/

/-- What texts set that may each give a value: the last value that is given, if any is. -/
inductive LastGiven {α : Type} (gives : Text → α → Prop) : List Text → Given α → Prop where
  | absent {texts : List Text} (h : ∀ text ∈ texts, ∀ a, ¬ gives text a) :
      LastGiven gives texts .absent
  | value {before after : List Text} {text : Text} {a : α} (h : gives text a)
      (hafter : ∀ text ∈ after, ∀ b, ¬ gives text b) :
      LastGiven gives (before ++ text :: after) (.value a)

namespace LastGiven

variable {α : Type} {gives : Text → α → Prop} {texts : List Text} {given : Given α}

theorem snoc {text : Text} {a : α} (texts : List Text) (h : gives text a) :
    LastGiven gives (texts ++ [text]) (.value a) :=
  .value h (by simp)

theorem snoc_nothing (h : LastGiven gives texts given) {text : Text} (hnot : ∀ a, ¬ gives text a) :
    LastGiven gives (texts ++ [text]) given := by
  cases h with
  | absent h => exact .absent (List.forall_mem_append.mpr ⟨h, List.forall_mem_singleton.mpr hnot⟩)
  | value h hafter =>
    rw [List.append_assoc, List.cons_append]
    exact .value h (List.forall_mem_append.mpr ⟨hafter, List.forall_mem_singleton.mpr hnot⟩)

/-- Where each text gives at most one value, so do all together. -/
theorem eq_getLast {value? : Text → Option α} (hvalue : ∀ text a, value? text = some a ↔ gives text a)
    (h : LastGiven gives texts given) :
    given = (((texts.filterMap value?).getLast?).map .value).getD .absent := by
  have hnone : ∀ {idle : List Text}, (∀ text ∈ idle, ∀ a, ¬ gives text a) →
      idle.filterMap value? = [] := by
    intro idle hidle
    rw [List.filterMap_eq_nil_iff]
    intro text htext
    rw [Option.eq_none_iff_forall_ne_some]
    intro a ha
    exact hidle text htext a ((hvalue text a).mp ha)
  cases h with
  | absent h => simp [hnone h]
  | value h hafter => simp [(hvalue _ _).mpr h, hnone hafter]

end LastGiven

/-- The value of a numeric filter. -/
def number (f : Filters) : NumericFilter → Given Int
  | .kind => f.kind
  | .minLikes => f.minLikes
  | .minLoops => f.minLoops
  | .since => f.since
  | .til => f.til

/-- What the values of a class, in the order of their tokens, set in a query. -/
def Sets (q : Query) (values : List Text) : TokenClass → Prop
  | .entityType => q.entityType = values.getLast?
  | .author => q.filters.author = (values.getLast?.map .value).getD .absent
  | .hashtag =>
    let tags := (values.filter (· ≠ [])).map Text.lower
    q.filters.hashtags = if tags = [] then none else some tags
  | .number filter => LastGiven (Proper filter) values (number q.filters filter)

/-- A query is what tokens say: each class sets its part, and the other tokens are the terms. -/
structure Reads (tokens : List Text) (q : Query) : Prop where
  terms : q.terms = tokens.filter fun token => TokenClass.of? token = none
  classes : ∀ k : TokenClass, Sets q (k.values tokens) k
  others : q.filters.others = []

/-- A query is what a search string means. -/
def Means (raw : Text) (q : Query) : Prop :=
  q.raw = raw ∧ ∃ tokens, Runs raw tokens ∧ Reads tokens q

/-! ## Reading tokens one by one -/

@[simp] theorem number_setNumber (f : Filters) (filter other : NumericFilter) (n : Int) :
    number (setNumber f filter n) other = if other = filter then .value n else number f other := by
  cases filter <;> cases other <;> rfl

@[simp] theorem setNumber_others (f : Filters) (filter : NumericFilter) (n : Int) :
    (setNumber f filter n).others = f.others := by
  cases filter <;> rfl

@[simp] theorem setNumber_author (f : Filters) (filter : NumericFilter) (n : Int) :
    (setNumber f filter n).author = f.author := by
  cases filter <;> rfl

@[simp] theorem setNumber_hashtags (f : Filters) (filter : NumericFilter) (n : Int) :
    (setNumber f filter n).hashtags = f.hashtags := by
  cases filter <;> rfl

/-- A directive adds no term and no filter with another name. -/
theorem extend_directive (q : Query) (k : TokenClass) (value : Text) :
    (extend q (k.directive value)).terms = q.terms ∧
      (extend q (k.directive value)).filters.others = q.filters.others := by
  cases k with
  | entityType => exact ⟨rfl, rfl⟩
  | author => exact ⟨rfl, rfl⟩
  | hashtag =>
    rw [TokenClass.directive_hashtag]
    split <;> exact ⟨rfl, rfl⟩
  | number filter =>
    simp only [TokenClass.directive]
    cases TokenClass.properValue? filter value with
    | none => exact ⟨rfl, rfl⟩
    | some n => exact ⟨rfl, setNumber_others q.filters filter n⟩

/-- A directive changes its own part of a query only. -/
theorem Sets.directive_other {q : Query} {values : List Text} {j k : TokenClass}
    (h : Sets q values j) (hother : j ≠ k) (value : Text) :
    Sets (extend q (k.directive value)) values j := by
  cases k with
  | entityType =>
    cases j with
    | entityType => exact absurd rfl hother
    | _ => exact h
  | author =>
    cases j with
    | author => exact absurd rfl hother
    | _ => exact h
  | hashtag =>
    rw [TokenClass.directive_hashtag]
    split
    · exact h
    · cases j with
      | hashtag => exact absurd rfl hother
      | _ => exact h
  | number filter =>
    simp only [TokenClass.directive]
    cases TokenClass.properValue? filter value with
    | none => exact h
    | some n =>
      cases j with
      | entityType => exact h
      | author => simpa [Sets, numeric, extend] using h
      | hashtag => simpa [Sets, numeric, extend] using h
      | number other =>
        have hne : other ≠ filter := fun heq => hother (heq ▸ rfl)
        simpa [Sets, numeric, extend, hne] using h

theorem Sets.hashtags_eq {q : Query} {values : List Text} (h : Sets q values .hashtag) :
    q.hashtags = (values.filter (· ≠ [])).map Text.lower := by
  rw [hashtags, h]
  split
  · next hnone => rw [hnone, Option.getD_none]
  · rw [Option.getD_some]

theorem Sets.directive {q : Query} {values : List Text} {k : TokenClass} (h : Sets q values k)
    (value : Text) : Sets (extend q (k.directive value)) (values ++ [value]) k := by
  cases k with
  | entityType => simp [Sets, TokenClass.directive, extend]
  | author => simp [Sets, TokenClass.directive, extend]
  | hashtag =>
    rw [TokenClass.directive_hashtag]
    split
    · next hnil => simpa [Sets, extend, hnil] using h
    · next hne => simp [Sets, extend, h.hashtags_eq, List.filter_append, hne]
  | number filter =>
    simp only [TokenClass.directive]
    cases hvalue : TokenClass.properValue? filter value with
    | none =>
      -- a token without a proper number leaves the number of an earlier one
      refine LastGiven.snoc_nothing h fun n hn => ?_
      rw [TokenClass.properValue?_eq_some_iff.mpr hn] at hvalue
      cases hvalue
    | some n =>
      simpa [Sets, numeric, extend] using
        LastGiven.snoc values (TokenClass.properValue?_eq_some_iff.mp hvalue)

theorem Sets.term {q : Query} {values : List Text} {k : TokenClass} (h : Sets q values k)
    (text : Text) : Sets (extend q (.term text)) values k := by
  cases k <;> exact h

theorem reads_nil (raw : Text) : Reads [] { raw := raw } := by
  refine ⟨rfl, fun k => ?_, rfl⟩
  cases k with
  | entityType => rfl
  | author => rfl
  | hashtag => rfl
  | number filter =>
    have hnone : number {} filter = .absent := by cases filter <;> rfl
    simp only [Sets, hnone]
    exact .absent (by simp [TokenClass.values])

theorem Reads.snoc {tokens : List Text} {q : Query} (h : Reads tokens q) (token : Text) :
    Reads (tokens ++ [token]) (extend q (Directive.ofToken token)) := by
  rw [TokenClass.ofToken_eq]
  cases hclass : TokenClass.of? token with
  | none =>
    refine ⟨?_, fun k => ?_, h.others⟩
    · simp [extend, h.terms, List.filter_append, hclass]
    · rw [TokenClass.values_snoc_other (by simp [hclass])]
      exact (h.classes k).term token
  | some k =>
    obtain ⟨hterms, hothers⟩ := extend_directive q k (token.drop k.word.length)
    refine ⟨?_, fun j => ?_, hothers.trans h.others⟩
    · simpa [List.filter_append, hclass] using hterms.trans h.terms
    · by_cases hj : j = k
      · subst hj
        rw [TokenClass.values_snoc hclass]
        exact (h.classes j).directive _
      · rw [TokenClass.values_snoc_other (by simpa [hclass] using Ne.symm hj)]
        exact (h.classes j).directive_other hj _

theorem reads_directives (raw : Text) (tokens : List Text) :
    Reads tokens ((tokens.map Directive.ofToken).foldl extend { raw := raw }) := by
  induction tokens using List.reverseRecOn with
  | nil => exact reads_nil raw
  | append_singleton tokens token ih =>
    rw [List.map_append, List.foldl_append]
    exact ih.snoc token

theorem raw_extend (q : Query) (directive : Directive) : (extend q directive).raw = q.raw := by
  cases directive <;> rfl

theorem parse_raw (raw : Text) : (parse raw).raw = raw := by
  have hfold : ∀ (found : List Directive) (q : Query), (found.foldl extend q).raw = q.raw := by
    intro found
    induction found with
    | nil => exact fun q => rfl
    | cons d found ih => exact fun q => (ih _).trans (raw_extend q d)
  exact hfold (directives raw) { raw := raw }

theorem reads_parse (raw : Text) : Reads (tokenize raw) (parse raw) :=
  reads_directives raw (tokenize raw)

/-! ## The meaning of a search string -/

/-- Tokens determine the query. -/
theorem Reads.unique {tokens : List Text} {q r : Query} (hq : Reads tokens q) (hr : Reads tokens r)
    (hraw : q.raw = r.raw) : q = r := by
  have hnumber : ∀ filter, number q.filters filter = number r.filters filter := fun filter =>
    ((hq.classes (.number filter)).eq_getLast fun _ _ => TokenClass.properValue?_eq_some_iff).trans
      ((hr.classes (.number filter)).eq_getLast fun _ _ => TokenClass.properValue?_eq_some_iff).symm
  have hterms := hq.terms.trans hr.terms.symm
  have htype : q.entityType = r.entityType :=
    (hq.classes .entityType).trans (hr.classes .entityType).symm
  have hauthor : q.filters.author = r.filters.author :=
    (hq.classes .author).trans (hr.classes .author).symm
  have htags : q.filters.hashtags = r.filters.hashtags :=
    (hq.classes .hashtag).trans (hr.classes .hashtag).symm
  have hothers := hq.others.trans hr.others.symm
  obtain ⟨_, _, _, filters⟩ := q
  obtain ⟨_, _, _, filters'⟩ := r
  cases filters
  cases filters'
  rw [Query.mk.injEq, Filters.mk.injEq]
  exact ⟨hraw, hterms, htype, hauthor, hnumber .kind, htags, hnumber .minLikes, hnumber .minLoops,
    hnumber .since, hnumber .til, hothers⟩

/-- Every search string has one meaning, and parsing finds it. -/
theorem parse_eq_iff (raw : Text) (q : Query) : parse raw = q ↔ Means raw q := by
  constructor
  · rintro rfl
    exact ⟨parse_raw raw, tokenize raw, Text.runs_iff.mpr rfl, reads_parse raw⟩
  · rintro ⟨hraw, tokens, hruns, hreads⟩
    rw [← Text.runs_iff.mp hruns] at hreads
    exact (reads_parse raw).unique hreads ((parse_raw raw).trans hraw.symm)

example : (parse "kind:7 +kind:8 kind:x kind:1.5").filters.kind = .value 7 := by decide

end EntitySearch.Query

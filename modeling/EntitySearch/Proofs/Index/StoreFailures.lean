import EntitySearch.Proofs.Fallible
import EntitySearch.Proofs.Index.SharedPool
/-!
# How operations fail

An operation on a relational index gets no pool, or its statement fails, or the rows that come back
are read. The first two are reported as errors of the store's own, a failure to read is not: what
the rows must hold is said by `Operation.Readable`, and reading comes to a value exactly then
(`Operation.readsIf_read`). So an operation fails with an error that is not the store's own
exactly if its rows came back and cannot be read (`RelationalIndex.errors_own_iff`).
-/

namespace EntitySearch

/-- Whether an error is one of the store's own, which it reports. -/
def StoreError.isOwn (e : StoreError) : Bool := e.message?.isSome

/-! ## Readings -/

/-- A reading that fails does so with an error that is not the store's own. -/
def Foreign {β : Type} (reading : Except StoreError β) : Prop :=
  ∀ e, reading = .error e → e.isOwn = false

/-- A reading comes to a value exactly under a condition, and fails otherwise, though not with an
error of the store's own. -/
structure ReadsIf {β : Type} (reading : Except StoreError β) (condition : Prop) : Prop where
  exists_iff : (∃ value, reading = .ok value) ↔ condition
  foreign : Foreign reading

theorem Foreign.readsIf {β : Type} {reading : Except StoreError β} (h : Foreign reading) :
    ReadsIf reading (∃ value, reading = .ok value) :=
  ⟨Iff.rfl, h⟩

namespace ReadsIf

variable {β γ : Type} {reading : Except StoreError β} {p q : Prop}

theorem cases (h : ReadsIf reading p) :
    (p ∧ ∃ value, reading = .ok value) ∨ (¬ p ∧ ∃ e, reading = .error e ∧ e.isOwn = false) := by
  cases hreading : reading with
  | ok value => exact .inl ⟨h.exists_iff.mp ⟨value, hreading⟩, value, rfl⟩
  | error e =>
    refine .inr ⟨fun hp => ?_, e, rfl, h.foreign e hreading⟩
    obtain ⟨value, hvalue⟩ := h.exists_iff.mpr hp
    rw [hreading] at hvalue
    cases hvalue

theorem congr (h : ReadsIf reading p) (hpq : p ↔ q) : ReadsIf reading q :=
  ⟨h.exists_iff.trans hpq, h.foreign⟩

theorem ok (value : β) : ReadsIf (.ok value) True :=
  ⟨⟨fun _ => trivial, fun _ => ⟨value, rfl⟩⟩, fun _ h => by cases h⟩

theorem error {e : StoreError} (he : e.isOwn = false) :
    ReadsIf (.error e : Except StoreError β) False := by
  refine ⟨⟨?_, False.elim⟩, ?_⟩
  · rintro ⟨value, h⟩
    cases h
  · intro e' h
    cases h
    exact he

/-- One reading after another. -/
theorem bind {next : β → Except StoreError γ} {r : β → Prop} (h : ReadsIf reading p)
    (hnext : ∀ value, reading = .ok value → ReadsIf (next value) (r value)) :
    ReadsIf (reading >>= next) (∃ value, reading = .ok value ∧ r value) := by
  cases hreading : reading with
  | error e =>
    refine (error (h.foreign e hreading)).congr ⟨False.elim, ?_⟩
    rintro ⟨value, hvalue, -⟩
    cases hvalue
  | ok value =>
    refine (hnext value hreading).congr ⟨fun hr => ⟨value, rfl, hr⟩, ?_⟩
    rintro ⟨value', hvalue, hr⟩
    cases hvalue
    exact hr

theorem and {next : β → Except StoreError γ} (h : ReadsIf reading p)
    (hnext : ∀ value, ReadsIf (next value) q) : ReadsIf (reading >>= next) (p ∧ q) := by
  refine (h.bind fun value _ => hnext value).congr ?_
  rw [← h.exists_iff]
  exact exists_and_right

/-- What is made of a value that was read adds no failure. -/
theorem map (h : ReadsIf reading p) (make : β → γ) :
    ReadsIf (reading >>= fun value => pure (make value)) p :=
  (h.and fun value => ok (make value)).congr (Iff.of_eq (and_true p))

/-- The readings of all items. -/
theorem mapM {step : β → Except StoreError γ} {r : β → Prop} {items : List β}
    (h : ∀ item ∈ items, ReadsIf (step item) (r item)) :
    ReadsIf (items.mapM step) (∀ item ∈ items, r item) := by
  induction items with
  | nil =>
    rw [List.mapM_nil]
    exact (ok []).congr (by simp)
  | cons item rest ih =>
    have hfirst := h item List.mem_cons_self
    have hrest := ih fun other hother => h other (List.mem_cons_of_mem _ hother)
    rw [List.mapM_cons]
    exact (hfirst.and fun value => hrest.map (value :: ·)).congr List.forall_mem_cons.symm

end ReadsIf

namespace Foreign

variable {β γ : Type} {reading : Except StoreError β}

theorem bind {next : β → Except StoreError γ} (h : Foreign reading)
    (hnext : ∀ value, Foreign (next value)) : Foreign (reading >>= next) :=
  (h.readsIf.bind fun value _ => (hnext value).readsIf).foreign

theorem mapM {step : β → Except StoreError γ} {items : List β}
    (h : ∀ item ∈ items, Foreign (step item)) : Foreign (items.mapM step) :=
  (ReadsIf.mapM fun item hitem => (h item hitem).readsIf).foreign

end Foreign

/-- What comes of a statement that is answered: an error, or what was asked for. -/
def DatabaseAnswer.received : DatabaseAnswer → FetchMode → Except StoreError Json
  | .failed cause, _ => .error (.query cause)
  | .answered rows row, mode => .ok (match mode with | .all => rows | _ => row)

namespace RelationalIndex

/-! ## What a statement brings back -/

section Execution

variable {x : RelationalIndex} {cause : Text}

/-- Why the next operation gets no pool, if it gets none. -/
def denial? (x : RelationalIndex) : Option Text :=
  if x.pool.current = none then x.refusal? else none

theorem denial?_eq_some : x.denial? = some cause ↔
    x.pool.current = none ∧ x.refusal? = some cause := by
  unfold denial?
  split
  · next hnone => simp [hnone]
  · next hpool => simp [hpool]

theorem denial?_eq_none : x.denial? = none ↔ (x.pool.current = none → x.refusal? = none) := by
  unfold denial?
  split
  · next hnone => simp [hnone]
  · next hpool => simp [hpool]

/-- The next answer of the database. -/
def answer (x : RelationalIndex) : DatabaseAnswer := x.answers.headD (.answered .null .null)

theorem execute_outcome (x : RelationalIndex) (mode : FetchMode) (text : Text)
    (arguments : List Json) :
    (x.execute mode text arguments).outcome = match x.denial? with
      | some cause => .error (.connection cause)
      | none => x.answer.received mode := by
  cases hc : x.pool.current with
  | some n =>
    have hdenial : x.denial? = none := denial?_eq_none.mpr (by simp [hc])
    simp only [execute, acquire_current hc, hdenial, answer]
    split <;> next h => rw [h]; rfl
  | none =>
    cases hr : x.refusal? with
    | some cause =>
      rw [denial?_eq_some.mpr ⟨hc, hr⟩]
      simp [execute, acquire_refused hc hr]
    | none =>
      have hdenial : x.denial? = none := denial?_eq_none.mpr fun _ => hr
      simp only [execute, acquire_granted hc hr, hdenial, answer]
      split <;> next h => rw [h]; rfl

end Execution

/-! ## What rows must hold -/

/-- A row has a column, with a value as required. -/
def HasColumn (row : Json) (name : Text) (required : Json → Prop) : Prop :=
  ∃ members v, row = .obj members ∧ Ledger.get? members name = some v ∧ required v

/-- Any value will do. -/
def IsAny (_ : Json) : Prop := True

/-- A value stands for a double. -/
def IsDouble (v : Json) : Prop := ∃ y, v.toFloat = .ok y

/-- A value stands for a whole number. -/
def IsWhole (v : Json) : Prop := ∃ n, v.toInt = .ok n

/-- A value has no parts. -/
def IsAtom (v : Json) : Prop := ∃ a, v = .atom a

/-- The rows that come back can be gone through, and each is as required. -/
def AllRows (result : Json) (required : Json → Prop) : Prop :=
  ∃ rows, rowsOf result = .ok rows ∧ ∀ row ∈ rows, required row

/-- No row comes back, or one that is as required. -/
def NoRowOr (result : Json) (required : Json → Prop) : Prop := result = .atom .null ∨ required result

variable {β : Type} {row v : Json} {name : Text} {required : Json → Prop}

theorem column_eq_ok : column row name = .ok v ↔
    ∃ members, row = .obj members ∧ Ledger.get? members name = some v := by
  unfold column
  split
  · next members =>
    split
    · next w hw => simp [hw, pure, Except.pure]
    · next hmissing => simp [hmissing, throw, throwThe, MonadExceptOf.throw]
  · next hrow =>
    constructor
    · intro h
      cases h
    · rintro ⟨members, rfl, -⟩
      exact absurd rfl (hrow members)

theorem hasColumn_iff : HasColumn row name required ↔
    ∃ v, column row name = .ok v ∧ required v := by
  constructor
  · rintro ⟨members, v, hrow, hget, hv⟩
    exact ⟨v, column_eq_ok.mpr ⟨members, hrow, hget⟩, hv⟩
  · rintro ⟨v, hcolumn, hv⟩
    obtain ⟨members, hrow, hget⟩ := column_eq_ok.mp hcolumn
    exact ⟨members, v, hrow, hget, hv⟩

theorem foreign_column (row : Json) (name : Text) : Foreign (column row name) := by
  intro e h
  unfold column at h
  split at h
  · split at h <;> cases h
    rfl
  · cases h
    rfl

theorem readsIf_converted (conversion : Except Json.ConversionError β) :
    ReadsIf (converted conversion) (∃ value, conversion = .ok value) := by
  cases conversion with
  | ok value => exact (ReadsIf.ok value).congr (by simp)
  | error cause =>
    have hnone : ¬ ∃ value, (.error cause : Except Json.ConversionError β) = .ok value := by simp
    refine ReadsIf.congr ?_ ⟨False.elim, hnone⟩
    cases cause with
    | notConvertible => exact .error rfl
    | unreadable => exact .error rfl
    | arithmetic e => cases e <;> exact .error rfl

theorem foreign_rowsOf (result : Json) : Foreign (rowsOf result) := by
  intro e h
  unfold rowsOf at h
  split at h <;> cases h
  rfl

/-- Rows are read one by one. -/
theorem readsIf_rows {step : Json → Except StoreError β}
    (h : ∀ row, ReadsIf (step row) (required row)) (result : Json) :
    ReadsIf (rowsOf result >>= fun rows => rows.mapM step) (AllRows result required) :=
  (foreign_rowsOf result).readsIf.bind fun _ _ => ReadsIf.mapM fun row _ => h row

/-- A column is read, and then the rest of the row. -/
theorem readsIf_column_bind {next : Json → Except StoreError β} {p : Prop}
    (h : ∀ v, ReadsIf (next v) (required v ∧ p)) :
    ReadsIf (column row name >>= next) (HasColumn row name required ∧ p) := by
  refine ((foreign_column row name).readsIf.bind fun v _ => h v).congr ?_
  simp only [hasColumn_iff, ← and_assoc, exists_and_right]

theorem readsIf_present {next : Json → Except StoreError β} {p : Prop}
    (h : ∀ v, ReadsIf (next v) p) :
    ReadsIf (column row name >>= next) (HasColumn row name IsAny ∧ p) :=
  readsIf_column_bind fun v => (h v).congr (Iff.of_eq (true_and p)).symm

/-- A column that is read last. -/
theorem readsIf_last (row : Json) (name : Text) (make : Json → β) :
    ReadsIf (column row name >>= fun v => pure (make v)) (HasColumn row name IsAny) :=
  (readsIf_present fun v => ReadsIf.ok (make v)).congr (Iff.of_eq (and_true _))

/-! ## Reading rows -/

theorem foreign_pairOf (item : Json) : Foreign (pairOf item) := by
  intro e h
  unfold pairOf at h
  split at h <;> cases h
  all_goals rfl

theorem foreign_keyedPair (item : Json) : Foreign (keyedPair item) := by
  refine (foreign_pairOf item).bind fun pair => ?_
  split
  · exact (ReadsIf.ok _).foreign
  · exact (ReadsIf.error rfl).foreign

theorem foreign_membersOf (row : Json) : Foreign (membersOf row) := by
  unfold membersOf
  split
  · exact (ReadsIf.ok _).foreign
  · refine (foreign_rowsOf row).bind fun rows => ?_
    exact (Foreign.mapM fun item _ => foreign_keyedPair item).bind fun keyed =>
      (ReadsIf.ok _).foreign

theorem readsIf_readHit (row : Json) : ReadsIf (readHit row)
    (HasColumn row "entity_id" IsAny ∧ HasColumn row "rank" IsDouble ∧
      HasColumn row "snippet" IsAny ∧ HasColumn row "created_at" IsWhole) := by
  refine readsIf_present fun id => readsIf_column_bind fun rank => ?_
  refine (readsIf_converted rank.toFloat).and fun score => readsIf_present fun snippet => ?_
  refine (readsIf_column_bind fun createdAt => ?_).congr (Iff.of_eq (and_true _))
  exact (readsIf_converted createdAt.toInt).and fun time => ReadsIf.ok _

theorem readsIf_readId (row : Json) : ReadsIf (readId row) (HasColumn row "entity_id" IsAtom) := by
  refine (readsIf_column_bind fun id => ?_).congr (Iff.of_eq (and_true _))
  cases id with
  | atom a => exact (ReadsIf.ok a).congr (by simp [IsAtom])
  | arr items => exact (ReadsIf.error rfl).congr (by simp [IsAtom])
  | obj members => exact (ReadsIf.error rfl).congr (by simp [IsAtom])

/-- Without a row nothing is read, and any row is read as it is. -/
theorem readsIf_readRowOr {absent : β} {read : Json → Except StoreError β}
    (h : ∀ row, ReadsIf (read row) (required row)) (result : Json) :
    ReadsIf (readRowOr absent read result) (NoRowOr result required) := by
  unfold readRowOr
  split
  · exact (ReadsIf.ok absent).congr (by simp [NoRowOr])
  · next hrow =>
    have hnull : result ≠ .atom .null := hrow
    exact (h result).congr (by simp [NoRowOr, hnull])

theorem readsIf_readRecord (row : Json) : ReadsIf (readRecord row)
    (∃ members, membersOf row = .ok members ∧ ∀ s, Ledger.get? members "tags" = some (.text s) →
      ∃ tags, Json.parse maxNesting s = .ok tags) := by
  refine (foreign_membersOf row).readsIf.bind fun members _ => ?_
  split
  · next s hs =>
    split
    · next tags htags => exact (ReadsIf.ok _).congr (by simp [hs, htags])
    · next htags => exact (ReadsIf.error rfl).congr (by simp [hs, htags])
    · next htags => exact (ReadsIf.error rfl).congr (by simp [hs, htags])
    · next htags => exact (ReadsIf.error rfl).congr (by simp [hs, htags])
  · next hother =>
    exact (ReadsIf.ok _).congr (iff_of_true trivial fun s hs => absurd hs (hother s))

end RelationalIndex

namespace Operation

open RelationalIndex

/-- What an operation returns. -/
def Result : Operation → Type
  | .search .. => List RowHit
  | .filterMatching .. => List Atom
  | .signals _ => Json × Json
  | .tagUsage _ => Option RowUsage
  | .entity _ => Option Json
  | .health => Bool

/-- Serves an operation. -/
def perform (x : RelationalIndex) : (o : Operation) → Served o.Result
  | .search d compiled f limit => x.search d compiled f limit
  | .filterMatching d ids f => x.filterMatching d ids f
  | .signals id => x.signals id
  | .tagUsage tag => x.tagUsage tag
  | .entity id => x.entity id
  | .health => x.health

/-- Reads what a statement brings back. -/
def read : (o : Operation) → Json → Except StoreError o.Result
  | .search .. => readHits
  | .filterMatching .. => readIds
  | .signals _ => readSignals
  | .tagUsage _ => readTagUsage
  | .entity _ => readEntity
  | .health => readHealth

/-- What must come back so that an operation can read it. -/
def Readable : Operation → Json → Prop
  | .search .., result => AllRows result fun row =>
    HasColumn row "entity_id" IsAny ∧ HasColumn row "rank" IsDouble ∧
      HasColumn row "snippet" IsAny ∧ HasColumn row "created_at" IsWhole
  | .filterMatching .., result => AllRows result fun row => HasColumn row "entity_id" IsAtom
  | .signals _, result => NoRowOr result fun row =>
    HasColumn row "likes" IsAny ∧ HasColumn row "loops" IsAny
  | .tagUsage _, result => NoRowOr result fun row =>
    HasColumn row "hashtag" IsAny ∧ HasColumn row "total_usage" IsAny ∧
      HasColumn row "first_seen" IsAny ∧ HasColumn row "last_seen" IsAny
  | .entity _, result => NoRowOr result fun row =>
    ∃ members, membersOf row = .ok members ∧
      ∀ s, Ledger.get? members "tags" = some (.text s) → ∃ tags, Json.parse maxNesting s = .ok tags
  | .health, _ => True

/-- What comes back is read if it is as required, and any failure to read it is not the store's
own. -/
theorem readsIf_read (o : Operation) (result : Json) :
    ReadsIf (o.read result) (o.Readable result) := by
  cases o with
  | search d compiled f limit => exact readsIf_rows readsIf_readHit result
  | filterMatching d ids f =>
    exact (foreign_rowsOf result).readsIf.bind fun rows _ =>
      (ReadsIf.mapM fun row _ => readsIf_readId row).map Atom.distinct
  | signals id =>
    simp only [read, Readable, readSignals]
    exact readsIf_readRowOr
      (fun row => readsIf_present fun likes => readsIf_last row "loops" _) result
  | tagUsage tag =>
    simp only [read, Readable, readTagUsage]
    refine readsIf_readRowOr (fun row => ?_) result
    exact readsIf_present fun name => readsIf_present fun count => readsIf_present fun first =>
      readsIf_last row "last_seen" _
  | entity id => exact readsIf_readRowOr (fun row => (readsIf_readRecord row).map some) result
  | health =>
    exact (readsIf_readRowOr (fun row => ReadsIf.ok true) result).congr
      (iff_of_true (Or.inr trivial) trivial)

/-! ## Serving an operation -/

variable {x : RelationalIndex} {o : Operation} {s : Statement}

/-- What comes back for an operation, if anything does. -/
def result? (x : RelationalIndex) (o : Operation) : Option Json :=
  match o.statement?, x.denial? with
  | some s, none => (x.answer.received s.mode).toOption
  | _, _ => none

theorem perform_serve (x : RelationalIndex) (o : Operation) :
    ((o.perform x).index, (o.perform x).calls) = o.serve x := by
  cases o <;> rfl

/-- An operation that has nothing to ask returns something. -/
theorem perform_unasked (hs : o.statement? = none) : ∃ value, (o.perform x).outcome = .ok value := by
  cases o with
  | search d compiled f limit =>
    simp only [statement?] at hs
    split at hs
    · next h => exact ⟨[], by simp only [perform, RelationalIndex.search, h]; rfl⟩
    · cases hs
  | filterMatching d ids f =>
    simp only [statement?] at hs
    split at hs
    · next h => exact ⟨[], by simp only [perform, RelationalIndex.filterMatching, h]; rfl⟩
    · cases hs
  | _ => cases hs

/-- An operation that asks goes on to read what comes back. -/
theorem perform_asked (hs : o.statement? = some s) (hother : o ≠ .health) :
    (o.perform x).outcome = (x.execute s.mode s.text s.arguments).outcome >>= o.read := by
  cases o with
  | search d compiled f limit =>
    simp only [statement?] at hs
    split at hs
    · cases hs
    · next h =>
      cases hs
      simp only [perform, RelationalIndex.search, h]
      rfl
  | filterMatching d ids f =>
    simp only [statement?] at hs
    split at hs
    · cases hs
    · next h =>
      cases hs
      simp only [perform, RelationalIndex.filterMatching, h]
      rfl
  | health => exact absurd rfl hother
  | _ =>
    cases hs
    rfl

/-- What an operation that asks leaves behind and calls is up to its statement. -/
theorem perform_execute (hs : o.statement? = some s) :
    (o.perform x).index = (x.execute s.mode s.text s.arguments).index ∧
      (o.perform x).calls = (x.execute s.mode s.text s.arguments).calls := by
  have hserve := o.serve_eq x
  rw [← o.perform_serve, hs] at hserve
  exact Prod.mk.inj hserve

/-- How an operation ends, by how far it comes. -/
theorem perform_cases (x : RelationalIndex) (hother : o ≠ .health) :
    (o.statement? = none ∧ ∃ value, (o.perform x).outcome = .ok value) ∨
    (∃ s cause, o.statement? = some s ∧ x.denial? = some cause ∧
      (o.perform x).outcome = .error (.connection cause)) ∨
    (∃ s cause, o.statement? = some s ∧ x.denial? = none ∧ x.answer = .failed cause ∧
      (o.perform x).outcome = .error (.query cause)) ∨
    ∃ s rows row result, o.statement? = some s ∧ x.denial? = none ∧
      x.answer = .answered rows row ∧ o.result? x = some result ∧
      (o.perform x).outcome = o.read result := by
  cases hs : o.statement? with
  | none => exact .inl ⟨rfl, perform_unasked hs⟩
  | some s =>
    right
    have houtcome := perform_asked (x := x) hs hother
    rw [execute_outcome] at houtcome
    cases hd : x.denial? with
    | some cause =>
      rw [hd] at houtcome
      exact .inl ⟨s, cause, rfl, rfl, houtcome⟩
    | none =>
      right
      rw [hd] at houtcome
      cases ha : x.answer with
      | failed cause =>
        rw [ha] at houtcome
        exact .inl ⟨s, cause, rfl, rfl, rfl, houtcome⟩
      | answered rows row =>
        rw [ha] at houtcome
        refine .inr ⟨s, rows, row, _, rfl, rfl, rfl, ?_, houtcome⟩
        simp only [result?, hs, hd, ha]
        rfl

/-- A check of health always answers. -/
theorem perform_health (x : RelationalIndex) :
    ∃ healthy, (Operation.health.perform x).outcome = .ok healthy :=
  ⟨_, rfl⟩

end Operation

namespace RelationalIndex

variable {x : RelationalIndex}

/-- The pool in use after a statement was to be sent. -/
theorem execute_current (x : RelationalIndex) (mode : FetchMode) (text : Text)
    (arguments : List Json) :
    (x.execute mode text arguments).index.pool.current =
      if x.denial? = none then some x.next else none := by
  rw [execute_pool]
  cases hc : x.pool.current with
  | some n =>
    have hdenial : x.denial? = none := denial?_eq_none.mpr (by simp [hc])
    simp [turns, hc, hdenial, next, Pool.run, Pool.step, Ledger.get?_put]
  | none =>
    cases hr : x.refusal? with
    | some cause =>
      have hdenial := denial?_eq_some.mpr ⟨hc, hr⟩
      simp [turns, hc, hr, hdenial, Pool.run, Pool.step, Ledger.get?_put]
    | none =>
      have hdenial : x.denial? = none := denial?_eq_none.mpr fun _ => hr
      simp [turns, hc, hr, hdenial, next, Pool.run, Pool.step, Ledger.get?_put]

/-- Whatever is asked, the settings stay. -/
theorem execute_settings (x : RelationalIndex) (mode : FetchMode) (text : Text)
    (arguments : List Json) : (x.execute mode text arguments).index.settings = x.settings := by
  cases hc : x.pool.current with
  | some n =>
    simp only [execute, acquire_current hc]
    split <;> rfl
  | none =>
    cases hr : x.refusal? with
    | some cause => simp [execute, acquire_refused hc hr]
    | none =>
      simp only [execute, acquire_granted hc hr]
      split <;> rfl

/-- An operation sends a request for a pool first exactly if no pool is in use. -/
theorem calls_asked {o : Operation} {s : Statement} (hs : o.statement? = some s) :
    (x.pool.current = none → (o.perform x).calls.head? = some (.createPool x.settings)) ∧
      ∀ n, x.pool.current = some n →
        (o.perform x).calls = [.statement s.mode s.text s.arguments] := by
  rw [(o.perform_execute hs).2]
  refine ⟨fun hnone => ?_, fun n hn => ?_⟩
  · cases hr : x.refusal? with
    | some cause =>
      rw [execute_refused hnone hr, creation, if_pos hnone]
      rfl
    | none =>
      rw [(execute_runs (fun _ => hr) s.mode s.text s.arguments).2.2, creation, if_pos hnone]
      rfl
  · have hgranted : x.pool.current = none → x.refusal? = none := by
      intro hnone
      rw [hnone] at hn
      cases hn
    rw [(execute_runs hgranted s.mode s.text s.arguments).2.2, creation, if_neg (by simp [hn])]
    rfl

/-- When an operation fails, and with what errors. -/
theorem errors_iff (x : RelationalIndex) (o : Operation) :
    ((∀ e, (o.perform x).outcome = .error e → e.isOwn = true) ↔
      ∀ result, o.result? x = some result → o.Readable result) ∧
    ((∃ value, (o.perform x).outcome = .ok value) ↔
      o = .health ∨ o.statement? = none ∨
        ∃ result, o.result? x = some result ∧ o.Readable result) ∧
    (∀ cause, (o.perform x).outcome = .error (.connection cause) ↔
      o ≠ .health ∧ o.statement? ≠ none ∧ x.denial? = some cause) ∧
    (∀ cause, (o.perform x).outcome = .error (.query cause) ↔
      o ≠ .health ∧ o.statement? ≠ none ∧ x.denial? = none ∧ x.answer = .failed cause) := by
  by_cases hhealth : o = .health
  · subst hhealth
    obtain ⟨healthy, hvalue⟩ := Operation.perform_health x
    simp [hvalue, Operation.Readable]
  · rcases o.perform_cases x hhealth with ⟨hs, value, hvalue⟩ | ⟨s, cause, hs, hdenial, hfails⟩ |
      ⟨s, cause, hs, hdenial, ha, hfails⟩ | ⟨s, rows, row, result, hs, hdenial, ha, hresult, hread⟩
    · have hnone : o.result? x = none := by simp [Operation.result?, hs]
      simp [hvalue, hs, hnone]
    · have hnone : o.result? x = none := by simp [Operation.result?, hs, hdenial]
      simp [hfails, hs, hnone, hdenial, hhealth, StoreError.isOwn, StoreError.message?]
    · have hnone : o.result? x = none := by
        simp [Operation.result?, hs, hdenial, ha, DatabaseAnswer.received, Except.toOption]
      simp [hfails, hs, hnone, hdenial, ha, hhealth, StoreError.isOwn, StoreError.message?]
    · rcases (o.readsIf_read result).cases with ⟨hreadable, value, hvalue⟩ |
        ⟨hunreadable, e, herror, hforeign⟩
      · simp [hread, hvalue, hs, hresult, hdenial, ha, hreadable]
      · have hconnection : ∀ cause, e ≠ .connection cause := by
          rintro cause rfl
          cases hforeign
        have hquery : ∀ cause, e ≠ .query cause := by
          rintro cause rfl
          cases hforeign
        simp [hread, herror, hs, hresult, hdenial, ha, hunreadable, hforeign, hconnection, hquery,
          hhealth]

/-- An operation fails only with errors of the store's own exactly if what comes back for it, if
anything does, is as it must be: rows that can be gone through, or a single row or none, in which
each column that is read is there and converts, and tags that are a text spell JSON.

It returns a value if it checks the health of the store, or has nothing to ask, or something comes
back that is as it must be. It fails for want of a connection if it gets no pool, and it reports a
failed query if it gets one and its statement fails.

If no pool can be created, none is in use afterwards and the next operation asks for one again. If
there is a pool, the operation leaves it in use, however it ends, and the next one sends its
statement over it. -/
theorem errors_own_iff (x : RelationalIndex) (o : Operation) :
    ((∀ e, (o.perform x).outcome = .error e → e.isOwn = true) ↔
      ∀ result, o.result? x = some result → o.Readable result) ∧
    ((∃ value, (o.perform x).outcome = .ok value) ↔
      o = .health ∨ o.statement? = none ∨
        ∃ result, o.result? x = some result ∧ o.Readable result) ∧
    (∀ cause, (o.perform x).outcome = .error (.connection cause) ↔
      o ≠ .health ∧ o.statement? ≠ none ∧ x.denial? = some cause) ∧
    (∀ cause, (o.perform x).outcome = .error (.query cause) ↔
      o ≠ .health ∧ o.statement? ≠ none ∧ x.denial? = none ∧ x.answer = .failed cause) ∧
    let after := (o.perform x).index
    (o.statement? = none → after = x) ∧
    (o.statement? ≠ none → ∀ cause, x.denial? = some cause →
      after.pool.current = none ∧ ∀ next : Operation, next.statement? ≠ none →
        (next.perform after).calls.head? = some (.createPool x.settings)) ∧
    (o.statement? ≠ none → x.denial? = none →
      after.pool.current = some x.next ∧ ∀ (next : Operation) s, next.statement? = some s →
        (next.perform after).calls = [.statement s.mode s.text s.arguments]) := by
  obtain ⟨hown, hvalue, hconnection, hquery⟩ := errors_iff x o
  refine ⟨hown, hvalue, hconnection, hquery, fun hnone => ?_, fun hasks cause hdenial => ?_,
    fun hasks hdenial => ?_⟩
  · have hserve := o.serve_eq x
    rw [← o.perform_serve, hnone] at hserve
    exact (Prod.mk.inj hserve).1
  · obtain ⟨s, hs⟩ := Option.ne_none_iff_exists'.mp hasks
    have hindex : (o.perform x).index = (x.execute s.mode s.text s.arguments).index :=
      (o.perform_execute hs).1
    have hcurrent : (o.perform x).index.pool.current = none := by
      rw [hindex, execute_current, if_neg (by simp [hdenial])]
    refine ⟨hcurrent, fun next hnext => ?_⟩
    obtain ⟨s', hs'⟩ := Option.ne_none_iff_exists'.mp hnext
    rw [(calls_asked hs').1 hcurrent, hindex, execute_settings]
  · obtain ⟨s, hs⟩ := Option.ne_none_iff_exists'.mp hasks
    have hcurrent : (o.perform x).index.pool.current = some x.next := by
      rw [(o.perform_execute hs).1, execute_current, if_pos hdenial]
    exact ⟨hcurrent, fun next s' hs' => (calls_asked hs').2 x.next hcurrent⟩

/-- A pool cannot be created, a row lacks its columns when one can, and a query fails. -/
theorem errors_own_iff_signals :
    let x : RelationalIndex :=
      { settings := { dsn := .null }
        creations := [some ("down" : Text)]
        answers := [.answered .null (.obj [])] }
    let y : RelationalIndex := { settings := { dsn := .null }, answers := [.failed "deadlock"] }
    let refused := (Operation.signals "a").perform x
    let lacking := (Operation.signals "a").perform refused.index
    let failed := (Operation.signals "a").perform y
    refused.outcome = .error (.connection "down") ∧ refused.index.pool.current = none ∧
      lacking.outcome = .error (.missingColumn "likes") ∧
      ¬ (Operation.signals "a").Readable (.obj []) ∧ lacking.index.pool.current = some 0 ∧
      failed.outcome = .error (.query "deadlock") ∧ failed.index.pool.current = some 0 := by
  intro x y refused lacking failed
  have hasks : (Operation.signals "a").statement? ≠ none := by simp [Operation.statement?]
  have hother : Operation.signals "a" ≠ .health := by simp
  obtain ⟨-, -, hconnection, -, -, hdenied, -⟩ := errors_own_iff x (.signals "a")
  obtain ⟨hown, -, -, -, -, -, hread⟩ := errors_own_iff refused.index (.signals "a")
  obtain ⟨-, -, -, hquery, -, -, hfailed⟩ := errors_own_iff y (.signals "a")
  have hlacking : lacking.outcome = .error (.missingColumn "likes") := rfl
  have hresult : (Operation.signals "a").result? refused.index = some (.obj []) := rfl
  have hunreadable : ¬ (Operation.signals "a").Readable (.obj []) := by
    intro hreadable
    have hmissing : (StoreError.missingColumn "likes").isOwn = true := by
      refine hown.mpr (fun result h => ?_) _ hlacking
      rw [hresult, Option.some.injEq] at h
      rw [← h]
      exact hreadable
    exact absurd hmissing (by decide)
  have hgranted : refused.index.denial? = none := by decide +kernel
  have hfirst : some refused.index.next = some 0 := by decide +kernel
  exact ⟨(hconnection "down").mpr ⟨hother, hasks, rfl⟩, (hdenied hasks "down" rfl).1, hlacking,
    hunreadable, (hread hasks hgranted).1.trans hfirst,
    (hquery "deadlock").mpr ⟨hother, hasks, rfl, rfl⟩, (hfailed hasks rfl).1⟩

end RelationalIndex

end EntitySearch

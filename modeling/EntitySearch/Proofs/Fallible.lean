import Mathlib
/-!
# Computations that may fail

A computation in steps comes to a value only if each step does (`bind_eq_ok`), and a filter whose
test may fail keeps the items that pass (`filterM_eq_ok`).
-/

namespace EntitySearch

section Steps

variable {β γ ε : Type}

theorem bind_eq_ok {first : Except ε β} {next : β → Except ε γ} {c : γ} :
    (first >>= next) = .ok c ↔ ∃ b, first = .ok b ∧ next b = .ok c := by
  cases first with
  | error e =>
    constructor
    · intro h
      cases h
    · rintro ⟨b, h, _⟩
      cases h
  | ok b =>
    constructor
    · intro h
      exact ⟨b, rfl, h⟩
    · rintro ⟨b', h, hnext⟩
      cases h
      exact hnext

/-- Steps for the items of a list come to values one by one. -/
theorem mapM_eq_ok {step : β → Except ε γ} {items : List β} {values : List γ}
    (h : items.mapM step = .ok values) : List.Forall₂ (fun x y => step x = .ok y) items values := by
  induction items generalizing values with
  | nil =>
    rw [List.mapM_nil] at h
    cases h
    exact List.Forall₂.nil
  | cons x rest ih =>
    rw [List.mapM_cons] at h
    obtain ⟨y, hy, h⟩ := bind_eq_ok.mp h
    obtain ⟨later, hlater, h⟩ := bind_eq_ok.mp h
    cases h
    exact List.Forall₂.cons hy (ih hlater)

/-- Each of the values is what the step makes of an item. -/
theorem exists_of_mem_mapM {step : β → Except ε γ} {items : List β} {values : List γ}
    (h : items.mapM step = .ok values) {y : γ} (hy : y ∈ values) : ∃ x ∈ items, step x = .ok y := by
  induction mapM_eq_ok h with
  | nil => cases hy
  | cons hstep hrest ih =>
    rw [List.mapM_cons] at h
    obtain ⟨first, _, h⟩ := bind_eq_ok.mp h
    obtain ⟨later, hlater, h⟩ := bind_eq_ok.mp h
    cases h
    rcases List.mem_cons.mp hy with rfl | hin
    · exact ⟨_, List.mem_cons_self, hstep⟩
    · obtain ⟨x, hx, hstep⟩ := ih hlater hin
      exact ⟨x, List.mem_cons_of_mem _ hx, hstep⟩

/-- Each item comes to one of the values. -/
theorem exists_mem_mapM {step : β → Except ε γ} {items : List β} {values : List γ}
    (h : items.mapM step = .ok values) {x : β} (hx : x ∈ items) : ∃ y ∈ values, step x = .ok y := by
  have hall := mapM_eq_ok h
  clear h
  induction hall with
  | nil => cases hx
  | cons hstep hrest ih =>
    rcases List.mem_cons.mp hx with rfl | hin
    · exact ⟨_, List.mem_cons_self, hstep⟩
    · obtain ⟨y, hy, hstep⟩ := ih hin
      exact ⟨y, List.mem_cons_of_mem _ hy, hstep⟩

/-- Steps that all come to a value come to these values. -/
theorem mapM_eq_map {step : β → Except ε γ} {value : β → γ} {items : List β}
    (h : ∀ x ∈ items, step x = .ok (value x)) : items.mapM step = .ok (items.map value) := by
  induction items with
  | nil => exact List.mapM_nil
  | cons x rest ih =>
    rw [List.mapM_cons, h x List.mem_cons_self, ih fun z hz => h z (List.mem_cons_of_mem _ hz)]
    rfl

theorem exists_mapM_eq_ok {step : β → Except ε γ} {items : List β}
    (h : ∀ x ∈ items, ∃ y, step x = .ok y) : ∃ values, items.mapM step = .ok values := by
  induction items with
  | nil => exact ⟨[], List.mapM_nil⟩
  | cons x rest ih =>
    obtain ⟨y, hy⟩ := h x List.mem_cons_self
    obtain ⟨later, hlater⟩ := ih fun z hz => h z (List.mem_cons_of_mem _ hz)
    refine ⟨y :: later, ?_⟩
    rw [List.mapM_cons, hy, hlater]
    rfl

end Steps

section Tests

variable {β ε : Type} {test : β → Except ε Bool}

/-- Whether a test has been passed; one that fails has not. -/
def isPassed : Except ε Bool → Bool
  | .ok answer => answer
  | .error _ => false

theorem isPassed_iff {answer : Except ε Bool} : isPassed answer = true ↔ answer = .ok true := by
  cases answer with
  | error e => simp [isPassed]
  | ok b => simp [isPassed]

theorem filterAuxM_eq_ok {items held kept : List β}
    (h : items.filterAuxM test held = .ok kept) :
    kept = (items.filter fun x => isPassed (test x)).reverse ++ held := by
  induction items generalizing held with
  | nil =>
    cases h
    rfl
  | cons x rest ih =>
    rw [List.filterAuxM] at h
    cases hx : test x with
    | error e =>
      rw [hx] at h
      cases h
    | ok passes =>
      rw [hx] at h
      rw [ih h]
      cases passes <;> simp [hx, isPassed]

/-- What a filter with a test that may fail keeps, if it does not fail. -/
theorem filterM_eq_ok {items kept : List β} (h : items.filterM test = .ok kept) :
    kept = items.filter fun x => isPassed (test x) := by
  unfold List.filterM at h
  cases haux : items.filterAuxM test [] with
  | error e =>
    rw [haux] at h
    cases h
  | ok held =>
    rw [haux] at h
    cases h
    rw [filterAuxM_eq_ok haux]
    simp

/-- A filter fails with the failure of a test. -/
theorem exists_of_filterM_eq_error {items : List β} {e : ε} (h : items.filterM test = .error e) :
    ∃ x ∈ items, test x = .error e := by
  have haux : ∀ held, items.filterAuxM test held = .error e → ∃ x ∈ items, test x = .error e := by
    clear h
    induction items with
    | nil =>
      intro held h
      cases h
    | cons x rest ih =>
      intro held h
      rw [List.filterAuxM] at h
      cases hx : test x with
      | error e' =>
        rw [hx] at h
        cases h
        exact ⟨x, List.mem_cons_self, hx⟩
      | ok passes =>
        rw [hx] at h
        obtain ⟨y, hy, htest⟩ := ih _ h
        exact ⟨y, List.mem_cons_of_mem _ hy, htest⟩
  unfold List.filterM at h
  cases hheld : items.filterAuxM test [] with
  | error e' =>
    rw [hheld] at h
    cases h
    exact haux [] hheld
  | ok held =>
    rw [hheld] at h
    cases h

/-- A filter that comes to a list has had an answer to each test. -/
theorem answered_of_filterM {items kept : List β} (h : items.filterM test = .ok kept) :
    ∀ x ∈ items, ∃ answer, test x = .ok answer := by
  have haux : ∀ held all, items.filterAuxM test held = .ok all →
      ∀ x ∈ items, ∃ answer, test x = .ok answer := by
    clear h
    induction items with
    | nil => simp
    | cons x rest ih =>
      intro held all h
      rw [List.filterAuxM] at h
      obtain ⟨passes, hx, h⟩ := bind_eq_ok.mp h
      rw [List.forall_mem_cons]
      exact ⟨⟨passes, hx⟩, ih _ _ h⟩
  unfold List.filterM at h
  obtain ⟨held, hheld, -⟩ := bind_eq_ok.mp h
  exact haux [] held hheld

/-- A filter whose tests are all answered keeps what passes. -/
theorem filterM_answered {items : List β} (h : ∀ x ∈ items, ∃ answer, test x = .ok answer) :
    items.filterM test = .ok (items.filter fun x => isPassed (test x)) := by
  cases hkept : items.filterM test with
  | ok kept => rw [filterM_eq_ok hkept]
  | error e =>
    obtain ⟨x, hx, hfails⟩ := exists_of_filterM_eq_error hkept
    obtain ⟨answer, hanswer⟩ := h x hx
    rw [hanswer] at hfails
    cases hfails

/-- A filter with a test that fails does so too, in the only way in which tests fail. -/
theorem filterM_eq_error {items : List β} {e : ε}
    (honly : ∀ x ∈ items, ∀ e', test x = .error e' → e' = e) {x : β} (hx : x ∈ items)
    (hfails : test x = .error e) : items.filterM test = .error e := by
  cases hkept : items.filterM test with
  | ok kept =>
    obtain ⟨answer, hanswer⟩ := answered_of_filterM hkept x hx
    rw [hanswer] at hfails
    cases hfails
  | error e' =>
    obtain ⟨y, hy, herror⟩ := exists_of_filterM_eq_error hkept
    rw [honly y hy e' herror]

/-- A filter keeps everything if every item passes the test. -/
theorem filterM_eq_self {items : List β} (h : ∀ x ∈ items, test x = .ok true) :
    items.filterM test = .ok items := by
  rw [filterM_answered fun x hx => ⟨true, h x hx⟩,
    List.filter_eq_self.mpr fun x hx => isPassed_iff.mpr (h x hx)]

end Tests

end EntitySearch

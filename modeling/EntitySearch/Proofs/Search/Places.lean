import EntitySearch.Search.Fanout
import Mathlib
/-!
# Places

Jobs begin as places become free. `Fanout.place?` lists the moments at which there is a place: those
that are there from the start, and one more whenever a job ends. Each job that has begun has taken
the next of them (`Fanout.Seated`), and while a job stands in line all of them are taken
(`Fanout.Seated.place?_eq_none`).
-/

namespace EntitySearch.Fanout

variable {ι : Type} {start now : Float} {called running : ℕ} {x : Fanout ι}

/-- The moments at which there is a place, one after another. Without a bound there is one for every
job from the start. -/
def place? (start : Float) (x : Fanout ι) (k : ℕ) : Option Float :=
  match x.bound with
  | none => some start
  | some b => (List.replicate b start ++ x.ended.reverse.map Prod.fst)[k]?

/-- Jobs have a place one after another: so many have been called to theirs and so many have begun
and not ended; those that have begun took the places in their order, and those in line wait because
all places are taken. -/
structure Seated (start : Float) (called running : ℕ) (x : Fanout ι) : Prop where
  inside : x.inside = called + running
  started : x.ended.length + running = x.started.length
  room : ∀ b, x.bound = some b → x.inside ≤ b
  line : x.line ≠ [] → x.bound = some x.inside
  begins : ∀ k entry, x.started.reverse[k]? = some entry → x.place? start k = some entry.1

/-- The places that are left have become free now. -/
def Fresh (start now : Float) (x : Fanout ι) : Prop :=
  ∀ k, x.started.length ≤ k → ∀ t, x.place? start k = some t → t = now

/-! ## Places that are left -/

/-- A job that has been called has a place left. -/
theorem Seated.place?_isSome (h : x.Seated start (called + 1) running) :
    (x.place? start x.started.length).isSome = true := by
  have hinside := h.inside
  have hstarted := h.started
  unfold place?
  cases hbound : x.bound with
  | none => rfl
  | some b =>
    have hroom := h.room b hbound
    have hlt : x.started.length <
        (List.replicate b start ++ x.ended.reverse.map Prod.fst).length := by
      simp only [List.length_append, List.length_replicate, List.length_map, List.length_reverse]
      omega
    simp only [List.getElem?_eq_getElem hlt, Option.isSome_some]

/-- While a job stands in line and none has been called, no place is left. -/
theorem Seated.place?_eq_none (h : x.Seated start 0 running) (hline : x.line ≠ []) {k : ℕ}
    (hk : x.started.length ≤ k) : x.place? start k = none := by
  have hinside := h.inside
  have hstarted := h.started
  unfold place?
  rw [h.line hline]
  simp only [List.getElem?_eq_none_iff, List.length_append, List.length_replicate, List.length_map,
    List.length_reverse]
  omega

/-- The end of a job adds a place after the others. -/
theorem place?_ended (start : Float) (x : Fanout ι) (e : Float × ι) {k : ℕ} {t : Float}
    (h : ({ x with ended := e :: x.ended } : Fanout ι).place? start k = some t) :
    x.place? start k = some t ∨ t = e.1 := by
  unfold place? at h ⊢
  cases hbound : x.bound with
  | none =>
    simp only [hbound] at h
    exact Or.inl h
  | some b =>
    simp only [hbound, List.reverse_cons, List.map_append, List.map_singleton,
      ← List.append_assoc] at h ⊢
    rw [List.getElem?_append] at h
    split at h
    · exact Or.inl h
    · rw [List.getElem?_singleton] at h
      split at h
      · exact Or.inr (Option.some.inj h).symm
      · cases h

/-- What has been a place before the end of a job is one after it. -/
theorem place?_ended_of_some (start : Float) (x : Fanout ι) (e : Float × ι) {k : ℕ} {t : Float}
    (h : x.place? start k = some t) :
    ({ x with ended := e :: x.ended } : Fanout ι).place? start k = some t := by
  unfold place? at h ⊢
  cases hbound : x.bound with
  | none =>
    simp only [hbound] at h
    exact h
  | some b =>
    simp only [hbound] at h ⊢
    rw [List.reverse_cons, List.map_append, ← List.append_assoc, List.getElem?_append_left]
    · exact h
    · exact (List.getElem?_eq_some_iff.mp h).1

/-! ## Steps -/

/-- A job finds a place. -/
theorem Seated.enter (h : x.Seated start called running) (hroom : x.hasRoom = true) :
    x.enter.Seated start (called + 1) running := by
  have hinside := h.inside
  unfold hasRoom at hroom
  refine ⟨?_, h.started, ?_, ?_, h.begins⟩
  · simp only [Fanout.enter]
    omega
  · intro b hb
    simp only [Fanout.enter] at hb ⊢
    simp only [hb, Bool.and_eq_true, decide_eq_true_eq] at hroom
    omega
  · intro hline
    have hbound := h.line hline
    rw [hbound] at hroom
    simp at hroom

/-- A job stands in line. -/
theorem Seated.queue (h : x.Seated start called running) (hroom : x.hasRoom = false) (job : ι) :
    (x.queue job).Seated start called running := by
  refine ⟨h.inside, h.started, h.room, ?_, h.begins⟩
  intro _
  by_cases hline : x.line = []
  · -- the bound is reached
    simp only [hasRoom, hline, List.isEmpty_nil, Bool.and_true] at hroom
    cases hbound : x.bound with
    | none => simp [hbound] at hroom
    | some b =>
      have hle := h.room b hbound
      simp only [hbound, decide_eq_false_iff_not, not_lt] at hroom
      have heq : b = x.inside := le_antisymm hroom hle
      simp [Fanout.queue, hbound, heq]
  · exact h.line hline

/-- A job that has been called begins, at the next of the places. -/
theorem Seated.starts (h : x.Seated start (called + 1) running) (hfresh : x.Fresh start now)
    (job : ι) : (x.start now job).Seated start called (running + 1) := by
  have hinside := h.inside
  have hstarted := h.started
  refine ⟨?_, ?_, h.room, h.line, ?_⟩
  · simp only [Fanout.start]
    omega
  · simp only [Fanout.start, List.length_cons]
    omega
  · intro k entry hentry
    simp only [Fanout.start, List.reverse_cons] at hentry ⊢
    obtain ⟨t, ht⟩ := Option.isSome_iff_exists.mp h.place?_isSome
    rcases Nat.lt_trichotomy k x.started.length with hlt | rfl | hgt
    · rw [List.getElem?_append_left (by simpa using hlt)] at hentry
      exact h.begins k entry hentry
    · rw [List.getElem?_append_right (by simp)] at hentry
      simp only [List.length_reverse, Nat.sub_self, List.getElem?_cons_zero,
        Option.some.injEq] at hentry
      have hnow := hfresh _ (le_refl _) t ht
      rw [← hentry, ← hnow]
      exact ht
    · rw [List.getElem?_eq_none (by simp; omega)] at hentry
      cases hentry

theorem Fresh.starts (h : x.Fresh start now) (job : ι) : (x.start now job).Fresh start now := by
  intro k hk t ht
  simp only [Fanout.start, List.length_cons] at hk
  exact h k (by omega) t ht

/-- A job ends, and the first in line is called, or its place is free again. -/
theorem Seated.leave (h : x.Seated start called (running + 1)) (job : ι) :
    (x.leave now job).2.Seated start
      (called + if (x.leave now job).1.isSome then 1 else 0) running := by
  have hinside := h.inside
  have hstarted := h.started
  have hbegins : ∀ k entry, x.started.reverse[k]? = some entry →
      ({ x with ended := (now, job) :: x.ended } : Fanout ι).place? start k = some entry.1 :=
    fun k entry hentry => place?_ended_of_some start x (now, job) (h.begins k entry hentry)
  obtain ⟨bound, inside, line, begun, ended⟩ := x
  cases line with
  | nil =>
    simp only at hinside hstarted
    refine ⟨?_, ?_, ?_, ?_, hbegins⟩
    · simp only [Fanout.leave, Option.isSome_none, Bool.false_eq_true, if_false]
      omega
    · simp only [Fanout.leave, List.length_cons]
      omega
    · intro b hb
      have hle := h.room b hb
      simp only [Fanout.leave] at hle ⊢
      omega
    · simp [Fanout.leave]
  | cons first rest =>
    simp only at hinside hstarted
    refine ⟨?_, ?_, h.room, ?_, hbegins⟩
    · simp only [Fanout.leave, Option.isSome_some, if_true]
      omega
    · simp only [Fanout.leave, List.length_cons]
      omega
    · intro _
      exact h.line (by simp)

theorem Fresh.leave (h : x.Fresh start now) (job : ι) :
    (x.leave now job).2.Fresh start now := by
  have hended : ({ x with ended := (now, job) :: x.ended } : Fanout ι).Fresh start now := by
    intro k hk t ht
    rcases place?_ended start x (now, job) ht with hold | hnew
    · exact h k hk t hold
    · exact hnew
  obtain ⟨bound, inside, line, begun, ended⟩ := x
  cases line <;> exact hended

end EntitySearch.Fanout

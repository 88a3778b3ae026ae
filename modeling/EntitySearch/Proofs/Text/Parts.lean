import EntitySearch.Text.Basic
import Mathlib
/-!
# Cutting at a separator

`parts` cuts a text at every occurrence of a separator, from left to right. Texts in which the
separator cannot begin are found again when they are joined by it (`parts_join`).
-/

namespace EntitySearch.Text

/-- The parts of a text between occurrences of a separator. So many of the next characters still
belong to the separator that was found last. -/
def partsFrom (separator : Text) : Nat → Text → List Text
  | _, [] => [[]]
  | skip + 1, _ :: rest => partsFrom separator skip rest
  | 0, c :: rest =>
    if separator.isPrefixOf (c :: rest) then
      [] :: partsFrom separator (separator.length - 1) rest
    else (partsFrom separator 0 rest).modifyHead (c :: ·)

/-- The parts of a text between occurrences of a separator, from left to right. -/
def parts (separator text : Text) : List Text := partsFrom separator 0 text

variable {mark : CodePoint} {tail : Text}

theorem partsFrom_eq_drop (separator : Text) (skip : Nat) (text : Text) :
    partsFrom separator skip text = parts separator (text.drop skip) := by
  induction text generalizing skip with
  | nil =>
    rw [List.drop_nil]
    cases skip <;> rfl
  | cons c rest ih =>
    cases skip with
    | zero => rfl
    | succ skip => exact ih skip

/-- A separator ends a part. -/
theorem parts_separator_append (rest : Text) :
    parts (mark :: tail) (mark :: tail ++ rest) = [] :: parts (mark :: tail) rest := by
  have hfound : (mark :: tail).isPrefixOf (mark :: (tail ++ rest)) = true := by
    rw [List.isPrefixOf_iff_prefix]
    exact List.prefix_append (mark :: tail) rest
  rw [List.cons_append, parts, partsFrom, if_pos hfound, partsFrom_eq_drop]
  simp

/-- A character belongs to a part where no separator begins. -/
theorem parts_cons_of_not_prefix {separator : Text} {c : CodePoint} {text : Text}
    (h : ¬ separator <+: c :: text) :
    parts separator (c :: text) = (parts separator text).modifyHead (c :: ·) := by
  rw [← List.isPrefixOf_iff_prefix] at h
  rw [parts, partsFrom, if_neg h]
  rfl

/-- A character with which no separator begins belongs to a part. -/
theorem parts_cons_of_ne {c : CodePoint} (hc : c ≠ mark) (text : Text) :
    parts (mark :: tail) (c :: text) = (parts (mark :: tail) text).modifyHead (c :: ·) := by
  apply parts_cons_of_not_prefix
  rw [List.cons_prefix_cons]
  exact fun h => hc h.1.symm

theorem parts_ne_nil {separator : Text} (text : Text) : parts separator text ≠ [] := by
  induction text with
  | nil => simp [parts, partsFrom]
  | cons c rest ih =>
    rw [parts, partsFrom]
    split
    · exact List.cons_ne_nil _ _
    · exact fun h => ih (List.modifyHead_eq_nil_iff.mp h)

theorem parts_append {part : Text} (hpart : mark ∉ part) (rest : Text) :
    parts (mark :: tail) (part ++ (mark :: tail ++ rest)) = part :: parts (mark :: tail) rest := by
  induction part with
  | nil => exact parts_separator_append rest
  | cons c part ih =>
    rw [List.mem_cons, not_or] at hpart
    rw [List.cons_append, parts_cons_of_ne (Ne.symm hpart.1), ih hpart.2]
    rfl

theorem parts_eq_self {part : Text} (hpart : mark ∉ part) : parts (mark :: tail) part = [part] := by
  induction part with
  | nil => rfl
  | cons c part ih =>
    rw [List.mem_cons, not_or] at hpart
    rw [parts_cons_of_ne (Ne.symm hpart.1), ih hpart.2]
    rfl

/-- Cutting undoes joining. -/
theorem parts_join {items : List Text} (hne : items ≠ []) (h : ∀ item ∈ items, mark ∉ item) :
    parts (mark :: tail) (join (mark :: tail) items) = items := by
  induction items with
  | nil => exact absurd rfl hne
  | cons item rest ih =>
    rw [List.forall_mem_cons] at h
    cases rest with
    | nil =>
      have hjoin : join (mark :: tail) [item] = item := by simp [join, List.intercalate]
      rw [hjoin, parts_eq_self h.1]
    | cons next rest =>
      have hjoin : join (mark :: tail) (item :: next :: rest) =
          item ++ (mark :: tail ++ join (mark :: tail) (next :: rest)) := by
        simp [join, List.intercalate]
      rw [hjoin, parts_append h.1, ih (List.cons_ne_nil _ _) h.2]

end EntitySearch.Text

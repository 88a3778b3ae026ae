import EntitySearch.Proofs.Index.Holdings
/-!
# The counters of tags

The counters of a tag sum up the times at which it was recorded, in whatever case it was written:
how many there are, the first one made and the latest (`MemoryIndex.usage?_after`). Right after a tag
was recorded its document shows the first of these times (`MemoryIndex.after_usage`).
-/

namespace EntitySearch

/-- The counters that sum up the times of a tag's uses, in the order in which they were counted. -/
def TagUsage.ofTimes? (name : Text) : List Int → Option TagUsage
  | [] => none
  | first :: rest => some ⟨name, rest.length + 1, first, rest.foldl max first⟩

/-- One more use is one more time. -/
theorem TagUsage.record_ofTimes? (name : Text) (times : List Int) (now : Int) :
    some (record (ofTimes? name times) name now) = ofTimes? name (times ++ [now]) := by
  cases times with
  | nil => rfl
  | cons first rest =>
    have hcount : ¬ ((rest.length : Int) + 1 ≤ 0) := by omega
    simp [record, ofTimes?, hcount]

namespace MemoryIndex

/-- The times at which a history records a tag, in any case of its letters. -/
def recordTimes (tag : Text) (changes : List Change) : List Int :=
  changes.filterMap fun
    | .recordTag other now => if Text.lower other = Text.lower tag then some now else none
    | _ => none

theorem recordTimes_concat_record {tag other : Text} (h : Text.lower other = Text.lower tag)
    (changes : List Change) (now : Int) :
    recordTimes tag (changes ++ [.recordTag other now]) = recordTimes tag changes ++ [now] := by
  simp [recordTimes, h]

theorem recordTimes_concat_other {tag : Text} {change : Change}
    (h : change.tag? ≠ some (Text.lower tag)) (changes : List Change) :
    recordTimes tag (changes ++ [change]) = recordTimes tag changes := by
  cases change with
  | recordTag other now =>
    have hother : Text.lower other ≠ Text.lower tag := fun heq => h (congrArg some heq)
    simp [recordTimes, hother]
  | add t doc signals => simp [recordTimes]
  | remove t id => simp [recordTimes]
  | setEngagement id signals => simp [recordTimes]

/-- The counters of a tag sum up the times at which it was recorded. -/
theorem usage?_after (changes : List Change) (tag : Text) :
    (after changes).usage? tag =
      TagUsage.ofTimes? (Text.lower tag) (recordTimes tag changes) := by
  induction changes using List.reverseRecOn with
  | nil => rfl
  | append_singleton changes change ih =>
    rw [after_concat]
    by_cases h : change.tag? = some (Text.lower tag)
    · cases change with
      | recordTag other now =>
        have hother : Text.lower other = Text.lower tag := Option.some.inj h
        rw [recordTimes_concat_record hother, ← TagUsage.record_ofTimes?, ← ih]
        simp [apply, recordTag, place, usage?, Ledger.get?_put, hother]
      | add t doc signals => cases h
      | remove t id => cases h
      | setEngagement id signals => cases h
    · rw [recordTimes_concat_other h, ← ih]
      exact tagUsage_apply_other h

/-- Right after a tag was recorded there is a document for it, which shows when it was recorded
first. -/
theorem tag_after_record (changes : List Change) (tag : Text) (now : Int) :
    ∃ usage, (after (changes ++ [.recordTag tag now])).usage? tag = some usage ∧
      (after (changes ++ [.recordTag tag now])).documents.get? (.hashtag, Text.lower tag) =
        some (.ofTag (Text.lower tag) usage.firstSeen) := by
  classical
  refine ⟨((after changes).recordTag tag now).2, ?_, ?_⟩
  · simp [after_concat, apply, recordTag, place, usage?, Ledger.get?_put]
  · rw [after_concat, get?_apply]
    simp [Change.key?, Change.Accepted, Change.entered?]

/-- A tag has counters if it was recorded in any case of its letters. They carry its name in lower
case, the number of times, the one made first and the latest, which is never before the first; and
right after the tag was recorded its document shows the first. -/
theorem after_usage (changes : List Change) (tag : Text) :
    ((after changes).usage? tag = none ↔ recordTimes tag changes = []) ∧
    (∀ usage, (after changes).usage? tag = some usage →
      usage.tag = Text.lower tag ∧ usage.usageCount = (recordTimes tag changes).length ∧
      (recordTimes tag changes).head? = some usage.firstSeen ∧
      (recordTimes tag changes).max? = some usage.lastSeen ∧ usage.firstSeen ≤ usage.lastSeen) ∧
    (∀ other now, Text.lower other = Text.lower tag →
      ∃ usage doc,
        (after (changes ++ [.recordTag other now])).usage? tag = some usage ∧
        (after (changes ++ [.recordTag other now])).documents.get? (.hashtag, Text.lower tag) =
          some doc ∧
        doc.entityId = Text.lower tag ∧ doc.createdAt = usage.firstSeen) := by
  refine ⟨?_, ?_, ?_⟩
  · rw [usage?_after]
    cases recordTimes tag changes <;> simp [TagUsage.ofTimes?]
  · intro usage husage
    rw [usage?_after] at husage
    cases htimes : recordTimes tag changes with
    | nil => simp [htimes, TagUsage.ofTimes?] at husage
    | cons first rest =>
      rw [htimes] at husage
      cases husage
      have hmax : (first :: rest).max? = some (rest.foldl max first) := List.max?_cons'
      have hlast : first ≤ rest.foldl max first :=
        (List.max?_eq_some_iff.mp hmax).2 first List.mem_cons_self
      exact ⟨rfl, by simp, rfl, hmax, hlast⟩
  · intro other now hother
    obtain ⟨usage, husage, hdoc⟩ := tag_after_record changes other now
    rw [hother] at hdoc
    refine ⟨usage, _, ?_, hdoc, rfl, rfl⟩
    unfold usage? at husage ⊢
    rwa [← hother]

/-- A tag that is recorded with a clock that goes back, its document removed in between and then
replaced by another one. -/
def backdated : List Change :=
  [.recordTag "Bit" 50, .remove .hashtag "bit", .recordTag "BIT" 20,
    .add .hashtag { entityId := "bit", fields := [("hashtag", "bit")], createdAt := 7 } {}]

set_option maxRecDepth 10000 in
theorem backdated_usage :
    (∃ usage, (after backdated).usage? "bIT" = some usage ∧ usage.usageCount = 2 ∧
      usage.firstSeen = 50 ∧ usage.lastSeen = 50) ∧
    Text.lower "bit" = Text.lower "bIT" ∧
    ∃ doc, (after (backdated ++ [.recordTag "bit" 30])).documents.get? (.hashtag, "bit") =
      some doc ∧ doc.createdAt = 50 := by
  have htimes : recordTimes "bIT" backdated = [50, 20] := by decide +kernel
  have hsame : Text.lower "bit" = Text.lower "bIT" := by decide +kernel
  obtain ⟨hnone, hsum, hdoc⟩ := after_usage backdated "bIT"
  refine ⟨?_, hsame, ?_⟩
  · cases husage : (after backdated).usage? "bIT" with
    | none =>
      have hempty := hnone.mp husage
      rw [htimes] at hempty
      cases hempty
    | some usage =>
      obtain ⟨-, hcount, hfirst, hlast, -⟩ := hsum usage husage
      rw [htimes] at hcount hfirst hlast
      exact ⟨usage, rfl, hcount, (Option.some.inj hfirst).symm, (Option.some.inj hlast).symm⟩
  · obtain ⟨usage, doc, husage, hget, -, hcreated⟩ := hdoc "bit" 30 hsame
    have hlower : Text.lower "bIT" = "bit" := by decide +kernel
    have hlater : recordTimes "bIT" (backdated ++ [.recordTag "bit" 30]) = [50, 20, 30] := by
      decide +kernel
    have hfirst := ((after_usage (backdated ++ [.recordTag "bit" 30]) "bIT").2.1 usage husage).2.2.1
    rw [hlater] at hfirst
    rw [hlower] at hget
    exact ⟨doc, hget, hcreated.trans (Option.some.inj hfirst).symm⟩

end MemoryIndex

end EntitySearch

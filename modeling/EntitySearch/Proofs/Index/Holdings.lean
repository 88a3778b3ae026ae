import EntitySearch.Proofs.Index.Hits
/-!
# What an index in memory holds

Whether a change is accepted depends on the change alone (`MemoryIndex.add_eq_ok_iff`). One that is
accepted has the last word on what stands under its key (`MemoryIndex.get?_apply`), and no change
reaches beyond its own key, id and tag. So the index holds, after any history, exactly the documents
that were entered and not removed since, each as it was entered last (`MemoryIndex.after_represents`).
-/

namespace EntitySearch

/-- A document as an index keeps it: its tags are in lower case. -/
def Document.kept (doc : Document) : Document :=
  { doc with hashtags := doc.hashtags.map Text.lower }

/-- The document that makes a tag searchable. -/
def Document.ofTag (name : Text) (firstSeen : Int) : Document :=
  { entityId := name, fields := [("hashtag", name)], createdAt := firstSeen }

/-- A document is one of a type: all its fields are searchable, and its kind, if it has one, belongs
to the type. -/
structure Descriptor.Describes (d : Descriptor) (doc : Document) : Prop where
  fields : ∀ name ∈ doc.fields.keys, name ∈ d.fields
  kind : ∀ kind, doc.kind = some kind → d.acceptsKind kind = true

namespace MemoryIndex

variable {m : MemoryIndex} {t : EntityType} {doc : Document} {signals : Signals}

/-! ## Accepted documents -/

theorem unknownFields_eq_nil_iff {d : Descriptor} {names : List Text} :
    unknownFields d names = [] ↔ ∀ name ∈ names, name ∈ d.fields := by
  have hmem : ∀ name, name ∈ unknownFields d names ↔ name ∈ names ∧ name ∉ d.fields := by
    intro name
    simp [unknownFields]
  constructor
  · intro hnil name hname
    by_contra hunknown
    have hin := (hmem name).mpr ⟨hname, hunknown⟩
    rw [hnil] at hin
    exact List.not_mem_nil hin
  · intro hknown
    rw [List.eq_nil_iff_forall_not_mem]
    intro name hin
    exact ((hmem name).mp hin).2 (hknown name ((hmem name).mp hin).1)

theorem describes_iff {d : Descriptor} :
    d.Describes doc ↔ unknownFields d doc.fields.keys = [] ∧
      doc.kind.filter (fun k => !d.acceptsKind k) = none := by
  have hkind : doc.kind.filter (fun k => !d.acceptsKind k) = none ↔
      ∀ kind, doc.kind = some kind → d.acceptsKind kind = true := by
    cases doc.kind <;> simp [Option.filter]
  rw [unknownFields_eq_nil_iff, hkind]
  constructor
  · intro h
    exact ⟨h.fields, h.kind⟩
  · rintro ⟨hfields, hkinds⟩
    exact ⟨hfields, hkinds⟩

instance (d : Descriptor) (doc : Document) : Decidable (d.Describes doc) :=
  decidable_of_iff' _ describes_iff

/-- The index after a document was accepted. -/
def entered (m : MemoryIndex) (t : EntityType) (doc : Document) (signals : Signals) : MemoryIndex :=
  if counts signals.likes || counts signals.loops then
    (m.place t doc.kept).setEngagement doc.entityId signals
  else m.place t doc.kept

/-- Whether a document is accepted depends on its type, its fields and its kind. -/
theorem add_eq_ok_iff {added : MemoryIndex} :
    m.add t doc signals = .ok added ↔
      (∃ d, Descriptor.of? t = some d ∧ d.Describes doc) ∧ added = m.entered t doc signals := by
  unfold MemoryIndex.add
  cases hd : Descriptor.of? t with
  | none => simp [throw, throwThe, MonadExceptOf.throw]
  | some d =>
    simp only [Option.some.injEq, exists_eq_left', describes_iff]
    by_cases hfields : unknownFields d doc.fields.keys = []
    · cases hkind : doc.kind.filter fun k => !d.acceptsKind k with
      | none =>
        simp only [hfields, List.isEmpty_nil, Bool.not_true, Bool.false_eq_true, if_false, true_and]
        constructor
        · intro hadded
          cases hadded
          rfl
        · rintro rfl
          rfl
      | some k => simp [hfields, throw, throwThe, MonadExceptOf.throw]
    · simp [hfields, throw, throwThe, MonadExceptOf.throw]

theorem exists_add_eq_error_iff :
    (∃ e, m.add t doc signals = .error e) ↔
      ¬ ∃ d, Descriptor.of? t = some d ∧ d.Describes doc := by
  cases hadd : m.add t doc signals with
  | error e =>
    have hrefused : ¬ ∃ d, Descriptor.of? t = some d ∧ d.Describes doc := by
      intro haccepted
      have hok : m.add t doc signals = .ok (m.entered t doc signals) :=
        add_eq_ok_iff.mpr ⟨haccepted, rfl⟩
      rw [hadd] at hok
      cases hok
    simp [hrefused]
  | ok added => simp [(add_eq_ok_iff.mp hadd).1]

theorem remove_eq_ok_iff {id : Text} {outcome : MemoryIndex × Bool} :
    m.remove t id = .ok outcome ↔ (Descriptor.of? t).isSome ∧
      outcome = ({ m with documents := m.documents.erase (t, id) }, m.documents.has (t, id)) := by
  unfold MemoryIndex.remove
  cases Descriptor.of? t with
  | none => simp [throw, throwThe, MonadExceptOf.throw]
  | some d => simp [pure, Except.pure, eq_comm]

/-! ## One change -/

namespace Change

/-- The type and id of the document that a change is about. -/
def key? : Change → Option (EntityType × Text)
  | .add t doc _ => some (t, doc.entityId)
  | .remove t id => some (t, id)
  | .setEngagement _ _ => none
  | .recordTag tag _ => some (.hashtag, Text.lower tag)

/-- The entity whose counters a change may set. -/
def counted? : Change → Option Text
  | .add _ doc _ => some doc.entityId
  | .remove _ _ => none
  | .setEngagement id _ => some id
  | .recordTag _ _ => none

/-- The tag whose use a change counts. -/
def tag? : Change → Option Text
  | .recordTag tag _ => some (Text.lower tag)
  | _ => none

/-- Whether a change is accepted: a document has to be one of its type, and a document is removed
from a type that has an index. -/
def Accepted : Change → Prop
  | .add t doc _ => ∃ d, Descriptor.of? t = some d ∧ d.Describes doc
  | .remove t _ => (Descriptor.of? t).isSome
  | .setEngagement _ _ => True
  | .recordTag _ _ => True

/-- The document that a change enters under its key, if it is accepted. -/
def entered? (m : MemoryIndex) : Change → Option Document
  | .add _ doc _ => some doc.kept
  | .recordTag tag now => some (.ofTag (Text.lower tag) (m.recordTag tag now).2.firstSeen)
  | _ => none

end Change

/-- A change that is refused leaves the index as it was. -/
theorem apply_of_not_accepted {change : Change} (h : ¬ change.Accepted) : m.apply change = m := by
  cases change with
  | add t doc signals =>
    simp only [apply]
    split
    · next hadd => exact absurd (add_eq_ok_iff.mp hadd).1 h
    · rfl
  | remove t id =>
    simp only [apply]
    split
    · next hremove => exact absurd (remove_eq_ok_iff.mp hremove).1 h
    · rfl
  | setEngagement id signals => exact absurd trivial h
  | recordTag tag now => exact absurd trivial h

@[simp] theorem entered_documents :
    (m.entered t doc signals).documents = m.documents.put (t, doc.entityId) doc.kept := by
  unfold entered
  split <;> rfl

@[simp] theorem entered_tagUsage : (m.entered t doc signals).tagUsage = m.tagUsage := by
  unfold entered
  split <;> rfl

theorem entered_engagement_other {id : Text} (h : doc.entityId ≠ id) :
    (m.entered t doc signals).engagement.get? id = m.engagement.get? id := by
  unfold entered
  split
  · exact (Ledger.get?_put ..).trans (if_neg h)
  · rfl

theorem apply_add (h : (Change.add t doc signals).Accepted) :
    m.apply (.add t doc signals) = m.entered t doc signals := by
  simp only [apply, add_eq_ok_iff.mpr ⟨h, rfl⟩]

theorem apply_remove {id : Text} (h : (Change.remove t id).Accepted) :
    m.apply (.remove t id) = { m with documents := m.documents.erase (t, id) } := by
  simp only [apply, remove_eq_ok_iff.mpr ⟨h, rfl⟩]

/-- A change that is accepted decides what stands under its key; all else stands as before. -/
theorem get?_apply (m : MemoryIndex) (change : Change) (key : EntityType × Text)
    [Decidable (change.key? = some key ∧ change.Accepted)] :
    (m.apply change).documents.get? key =
      if change.key? = some key ∧ change.Accepted then change.entered? m
      else m.documents.get? key := by
  by_cases haccepted : change.Accepted
  · cases change with
    | add t doc signals =>
      rw [apply_add haccepted, entered_documents, Ledger.get?_put]
      simp [Change.key?, Change.entered?, haccepted]
    | remove t id =>
      rw [apply_remove haccepted, Ledger.get?_erase]
      simp [Change.key?, Change.entered?, haccepted]
    | setEngagement id signals =>
      simp [Change.key?, apply, setEngagement]
    | recordTag tag now =>
      simp only [apply, recordTag, place, Ledger.get?_put]
      simp [Change.key?, Change.entered?, Change.Accepted, recordTag, Document.ofTag]
  · rw [apply_of_not_accepted haccepted, if_neg fun h => haccepted h.2]

theorem engagement_apply_other {change : Change} {id : Text} (h : change.counted? ≠ some id) :
    (m.apply change).engagement.get? id = m.engagement.get? id := by
  by_cases haccepted : change.Accepted
  · cases change with
    | add t doc signals =>
      rw [apply_add haccepted]
      exact entered_engagement_other fun heq => h (congrArg some heq)
    | remove t id => rw [apply_remove haccepted]
    | setEngagement other signals =>
      exact (Ledger.get?_put ..).trans (if_neg fun heq => h (congrArg some heq))
    | recordTag tag now => rfl
  · rw [apply_of_not_accepted haccepted]

theorem tagUsage_apply_other {change : Change} {name : Text} (h : change.tag? ≠ some name) :
    (m.apply change).tagUsage.get? name = m.tagUsage.get? name := by
  by_cases haccepted : change.Accepted
  · cases change with
    | add t doc signals => rw [apply_add haccepted, entered_tagUsage]
    | remove t id => rw [apply_remove haccepted]
    | setEngagement other signals => rfl
    | recordTag tag now =>
      exact (Ledger.get?_put ..).trans (if_neg fun heq => h (congrArg some heq))
  · rw [apply_of_not_accepted haccepted]

/-- A document that is accepted is among those of its type. -/
theorem kept_mem_documentsOf (m : MemoryIndex) (h : (Change.add t doc signals).Accepted) :
    doc.kept ∈ (m.apply (.add t doc signals)).documentsOf t := by
  classical
  have hget : (m.apply (.add t doc signals)).documents.get? (t, doc.entityId) =
      some doc.kept := by
    rw [get?_apply, if_pos ⟨rfl, h⟩]
    rfl
  exact mem_documentsOf.mpr ⟨doc.entityId, Ledger.mem_of_get? hget⟩

/-! ## Histories -/

/-- In a history something began with a change, in the light of what was before it, and no later
change has ended it. -/
def Since (begins : List Change → Change → Prop) (ends : Change → Prop)
    (changes : List Change) : Prop :=
  ∃ before change rest, changes = before ++ change :: rest ∧ begins before change ∧
    ∀ later ∈ rest, ¬ ends later

theorem not_since_nil {begins : List Change → Change → Prop} {ends : Change → Prop} :
    ¬ Since begins ends [] := by
  rintro ⟨before, change, rest, hsplit, -⟩
  simp at hsplit

theorem since_concat_iff {begins : List Change → Change → Prop} {ends : Change → Prop}
    {changes : List Change} {change : Change} :
    Since begins ends (changes ++ [change]) ↔
      begins changes change ∨ (¬ ends change ∧ Since begins ends changes) := by
  constructor
  · rintro ⟨before, first, rest, hsplit, hbegins, hlater⟩
    -- it began with the last change or before it
    rcases List.eq_nil_or_concat rest with rfl | ⟨middle, last, rfl⟩
    · obtain ⟨rfl, hlast⟩ := List.append_inj' hsplit rfl
      cases hlast
      exact Or.inl hbegins
    · rw [List.concat_eq_append] at hsplit hlater
      rw [← List.cons_append, ← List.append_assoc] at hsplit
      obtain ⟨rfl, hlast⟩ := List.append_inj' hsplit rfl
      cases hlast
      rw [List.forall_mem_append] at hlater
      exact Or.inr ⟨hlater.2 change List.mem_cons_self, before, first, middle, rfl, hbegins,
        hlater.1⟩
  · rintro (hbegins | ⟨hends, before, first, rest, rfl, hbegins, hlater⟩)
    · exact ⟨changes, change, [], rfl, hbegins, by simp⟩
    · refine ⟨before, first, rest ++ [change], by simp, hbegins, ?_⟩
      rw [List.forall_mem_append]
      exact ⟨hlater, by simpa using hends⟩

/-- In a history a document was entered under a key and not removed since. -/
def Held (key : EntityType × Text) : List Change → Prop :=
  Since (fun before change => change.key? = some key ∧ change.Accepted ∧
      (change.entered? (after before)).isSome)
    (fun change => change = .remove key.1 key.2)

/-- In a history the last change that was accepted under a key entered this document. -/
def EnteredLast (key : EntityType × Text) (doc : Document) : List Change → Prop :=
  Since (fun before change => change.key? = some key ∧ change.Accepted ∧
      change.entered? (after before) = some doc)
    (fun change => change.key? = some key ∧ change.Accepted)

/-- What stands under a key is the document that was entered there last. -/
theorem get?_after_iff (changes : List Change) (key : EntityType × Text) (doc : Document) :
    (after changes).documents.get? key = some doc ↔ EnteredLast key doc changes := by
  classical
  induction changes using List.reverseRecOn with
  | nil => simp [after, Ledger.get?, EnteredLast, not_since_nil]
  | append_singleton changes change ih =>
    rw [after_concat, get?_apply, EnteredLast, since_concat_iff, ← EnteredLast, ← ih]
    by_cases h : change.key? = some key ∧ change.Accepted
    · simp [h]
    · simp only [h, if_false, not_false_eq_true, true_and]
      tauto

/-- A document of the index is one of the type that it stands under. -/
theorem described_of_get? {changes : List Change} {key : EntityType × Text} {doc : Document}
    (h : (after changes).documents.get? key = some doc) :
    ∃ d, Descriptor.of? key.1 = some d ∧ d.Describes doc := by
  obtain ⟨before, change, -, -, ⟨hkey, haccepted, hentered⟩, -⟩ := (get?_after_iff ..).mp h
  cases change with
  | add t given signals =>
    cases hkey
    cases hentered
    obtain ⟨d, hd, hdescribes⟩ := haccepted
    exact ⟨d, hd, hdescribes.fields, hdescribes.kind⟩
  | remove t id => cases hentered
  | setEngagement id signals => cases hentered
  | recordTag tag now =>
    cases hkey
    cases hentered
    refine ⟨_, rfl, ?_, ?_⟩
    · simp [Document.ofTag, Ledger.keys]
    · simp [Document.ofTag]

/-- The keys of an index are those that are held. -/
theorem exists_get?_after_iff (changes : List Change) (key : EntityType × Text) :
    (∃ doc, (after changes).documents.get? key = some doc) ↔ Held key changes := by
  classical
  induction changes using List.reverseRecOn with
  | nil => simp [after, Ledger.get?, Held, not_since_nil]
  | append_singleton changes change ih =>
    rw [after_concat, get?_apply, Held, since_concat_iff, ← Held, ← ih]
    by_cases h : change.key? = some key ∧ change.Accepted
    · rw [if_pos h]
      cases change with
      | add t doc signals => simp [h, Change.entered?]
      | remove t id =>
        obtain ⟨hkey, -⟩ := h
        cases hkey
        simp [Change.entered?]
      | setEngagement id signals => cases h.1
      | recordTag tag now => simp [h, Change.entered?]
    · -- a removal is refused only where no document can be
      have hstays : (∃ doc, (after changes).documents.get? key = some doc) →
          change ≠ .remove key.1 key.2 := by
        rintro ⟨doc, hdoc⟩ rfl
        obtain ⟨d, hd, -⟩ := described_of_get? hdoc
        exact h ⟨rfl, by simp [Change.Accepted, hd]⟩
      rw [if_neg h]
      tauto

/-! ## Counting -/

theorem mem_keys_after_iff (changes : List Change) (key : EntityType × Text) :
    key ∈ (after changes).documents.keys ↔ Held key changes := by
  rw [← Ledger.has_iff, ← exists_get?_after_iff, Ledger.has, Option.isSome_iff_exists]

theorem size_after (changes : List Change) :
    (after changes).size = {key | Held key changes}.ncard := by
  have hset : {key | Held key changes} = ((after changes).documents.keys.toFinset : Set _) := by
    ext key
    simp [mem_keys_after_iff]
  rw [hset, Set.ncard_coe_finset, List.toFinset_card_of_nodup (after_keyed changes).nodup]
  simp [size, Ledger.keys]

theorem length_documentsOf_after (changes : List Change) (t : EntityType) :
    ((after changes).documentsOf t).length = {id | Held (t, id) changes}.ncard := by
  have hset : {id | Held (t, id) changes} =
      (((after changes).documentsOf t).map Document.entityId).toFinset := by
    ext id
    rw [Set.mem_ofPred_eq, ← exists_get?_after_iff]
    simp only [List.coe_toFinset, List.mem_map, Set.mem_ofPred_eq]
    constructor
    · rintro ⟨doc, hdoc⟩
      have hmem := Ledger.mem_of_get? hdoc
      exact ⟨doc, mem_documentsOf.mpr ⟨id, hmem⟩, (after_keyed changes).ownId _ hmem⟩
    · rintro ⟨doc, hdoc, rfl⟩
      exact ⟨doc, (after_keyed changes).get?_of_mem hdoc⟩
  rw [hset, Set.ncard_coe_finset,
    List.toFinset_card_of_nodup ((after_keyed changes).ids_nodup t), List.length_map]

/-! ## The index and its history -/

/-- What an index shows of the changes that led to it. -/
structure Represents (m : MemoryIndex) (changes : List Change) : Prop where
  /-- No two documents stand under the same type and id. -/
  nodup : m.documents.keys.Nodup
  /-- A document stands under its own id and is one of the type. -/
  described : ∀ key doc, (key, doc) ∈ m.documents →
    doc.entityId = key.2 ∧ ∃ d, Descriptor.of? key.1 = some d ∧ d.Describes doc
  /-- A document stands as it was entered last, with its tags in lower case. -/
  entered : ∀ key doc, m.documents.get? key = some doc ↔ EnteredLast key doc changes
  /-- A document is there if it was entered and not removed since. -/
  held : ∀ key, m.documents.has key = true ↔ Held key changes
  size : m.size = {key | Held key changes}.ncard
  sizeOf : ∀ t, (Descriptor.of? t).isSome → m.sizeOf? t = .ok {id | Held (t, id) changes}.ncard

/-- After any history the index represents it. One more change touches no other document, no other
entity's counters and no other tag's, and a document is refused if it is not one of its type, which
leaves the whole index as it was. -/
theorem after_represents (changes : List Change) :
    (after changes).Represents changes ∧
    (∀ change : Change,
      (∀ key, change.key? ≠ some key →
        (after (changes ++ [change])).documents.get? key = (after changes).documents.get? key) ∧
      (∀ id, change.counted? ≠ some id →
        (after (changes ++ [change])).engagement.get? id = (after changes).engagement.get? id) ∧
      (∀ name, change.tag? ≠ some name →
        (after (changes ++ [change])).tagUsage.get? name = (after changes).tagUsage.get? name)) ∧
    (∀ t doc signals,
      ((∃ e, (after changes).add t doc signals = .error e) ↔
        ¬ ∃ d, Descriptor.of? t = some d ∧ d.Describes doc) ∧
      ∀ e, (after changes).add t doc signals = .error e →
        after (changes ++ [.add t doc signals]) = after changes) := by
  classical
  refine ⟨?_, fun change => ?_, fun t doc signals => ?_⟩
  · have hkeyed := after_keyed changes
    refine ⟨hkeyed.nodup, ?_, get?_after_iff changes, ?_, size_after changes, ?_⟩
    · intro key doc hmem
      exact ⟨hkeyed.ownId _ hmem, described_of_get? (Ledger.get?_of_mem hkeyed.nodup hmem)⟩
    · intro key
      rw [Ledger.has_iff, mem_keys_after_iff]
    · intro t ht
      obtain ⟨d, hd⟩ := Option.isSome_iff_exists.mp ht
      simp only [sizeOf?, hd, length_documentsOf_after]
      rfl
  · rw [after_concat]
    refine ⟨fun key hkey => ?_, fun id => engagement_apply_other, fun name => tagUsage_apply_other⟩
    rw [get?_apply, if_neg fun h => hkey h.1]
  · refine ⟨exists_add_eq_error_iff, fun e he => ?_⟩
    rw [after_concat]
    exact apply_of_not_accepted (exists_add_eq_error_iff.mp ⟨e, he⟩)

/-- A video that is entered, removed and entered again, beside a note of the same id. -/
def reentered : List Change :=
  [.add .video { entityId := "a", fields := [("title", "bit")], hashtags := ["Bit"] }
      { likes := some 1 },
    .add .note { entityId := "a", fields := [("content", "bit")] } {},
    .remove .video "a",
    .add .video { entityId := "a", fields := [("title", "coin")], hashtags := ["Coin", "COIN"] } {}]

theorem reentered_represented :
    (∃ doc, EnteredLast (.video, "a") doc reentered ∧ doc.hashtags = ["coin", "coin"]) ∧
    {key | Held key reentered}.ncard = 2 ∧
    (Change.remove .video "a").key? ≠ some (EntityType.note, ("a" : Text)) ∧
    ((after (reentered ++ [.remove .video "a"])).documents.get? (.note, "a")).isSome ∧
    ¬ ∃ d, Descriptor.of? .video = some d ∧
      d.Describes { entityId := "b", fields := [("name", "bit")] } := by
  obtain ⟨hrepresents, hothers, hrefused⟩ := after_represents reentered
  have hkey : (Change.remove .video "a").key? ≠ some (EntityType.note, ("a" : Text)) := by decide
  refine ⟨?_, ?_, hkey, ?_, ?_⟩
  · have htags : ((after reentered).documents.get? (.video, "a")).map Document.hashtags =
        some (["coin", "coin"] : List Text) := by decide +kernel
    obtain ⟨doc, hdoc, heq⟩ := Option.map_eq_some_iff.mp htags
    exact ⟨doc, (hrepresents.entered _ doc).mp hdoc, heq⟩
  · rw [← hrepresents.size]
    decide +kernel
  · rw [(hothers (.remove .video "a")).1 _ hkey]
    decide +kernel
  · have hadd : ((after reentered).add .video { entityId := "b", fields := [("name", "bit")] }
        {}).toOption.isNone := by decide +kernel
    apply (hrefused .video { entityId := "b", fields := [("name", "bit")] } {}).1.mp
    cases h : (after reentered).add .video { entityId := "b", fields := [("name", "bit")] } {} with
    | error e => exact ⟨e, rfl⟩
    | ok added =>
      rw [h] at hadd
      cases hadd

end MemoryIndex

end EntitySearch

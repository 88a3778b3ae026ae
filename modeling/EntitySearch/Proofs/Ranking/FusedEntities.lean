import EntitySearch.Proofs.Fallible
import EntitySearch.Proofs.Ledger
import EntitySearch.Proofs.Ranking.Rearrangement
import EntitySearch.Ranking.Fusion
/-!
# The entities of a fused list

A fused list shows entities of the two lists that were fused, and none of them twice: an entity of
both lists is shown as the primary list has it (`RankFusion.key_mem_of_mem_fuse`,
`RankFusion.ids_fuse_nodup`).
-/

namespace EntitySearch.RankFusion

variable {α : Type} [Scalar α] {k : Int} {weight : α}

/-! ## First occurrences -/

/-- The ranks of a list whose first result has been seen are those of the rest; otherwise the first
result has an entry, and its entity counts as seen in the rest. -/
theorem rankedFrom_cons {seen : List Text} {rank : Int} {r : SearchResult α}
    {rest : List (SearchResult α)} {ledger : Ledger Text (Ranked α)}
    (h : rankedFrom k weight seen rank (r :: rest) = .ok ledger) :
    (r.entityId ∈ seen ∧ rankedFrom k weight seen (rank + 1) rest = .ok ledger) ∨
      (r.entityId ∉ seen ∧ ∃ contribution later,
        Scalar.divInt weight (k + rank + 1) = .ok contribution ∧
        rankedFrom k weight (r.entityId :: seen) (rank + 1) rest = .ok later ∧
        ledger = (r.entityId, ⟨contribution, r⟩) :: later) := by
  unfold rankedFrom at h
  split at h
  · rename_i hseen
    exact Or.inl ⟨by simpa using hseen, h⟩
  · rename_i hseen
    obtain ⟨contribution, hdiv, h⟩ := bind_eq_ok.mp h
    obtain ⟨later, hlater, h⟩ := bind_eq_ok.mp h
    cases h
    exact Or.inr ⟨by simpa using hseen, contribution, later, hdiv, hlater, rfl⟩

/-- An entry of the ranks of a list is a result of the list under its id, which has not been seen
before. -/
theorem mem_rankedFrom {seen : List Text} {rank : Int} {results : List (SearchResult α)}
    {ledger : Ledger Text (Ranked α)} (h : rankedFrom k weight seen rank results = .ok ledger)
    {id : Text} {entry : Ranked α} (hmem : (id, entry) ∈ ledger) :
    entry.result ∈ results ∧ entry.result.entityId = id ∧ id ∉ seen := by
  induction results generalizing seen rank ledger with
  | nil =>
    cases h
    simp at hmem
  | cons r rest ih =>
    rcases rankedFrom_cons h with ⟨_, hrest⟩ | ⟨hseen, contribution, later, _, hrest, rfl⟩
    · obtain ⟨hin, hid, hnew⟩ := ih hrest hmem
      exact ⟨List.mem_cons_of_mem _ hin, hid, hnew⟩
    · rcases List.mem_cons.mp hmem with heq | hlater
      · cases heq
        exact ⟨List.mem_cons_self, rfl, hseen⟩
      · obtain ⟨hin, hid, hnew⟩ := ih hrest hlater
        exact ⟨List.mem_cons_of_mem _ hin, hid, fun hold => hnew (List.mem_cons_of_mem _ hold)⟩

theorem keys_rankedFrom_nodup {seen : List Text} {rank : Int} {results : List (SearchResult α)}
    {ledger : Ledger Text (Ranked α)} (h : rankedFrom k weight seen rank results = .ok ledger) :
    ledger.keys.Nodup := by
  induction results generalizing seen rank ledger with
  | nil =>
    cases h
    exact List.nodup_nil
  | cons r rest ih =>
    rcases rankedFrom_cons h with ⟨_, hrest⟩ | ⟨_, contribution, later, _, hrest, rfl⟩
    · exact ih hrest
    · refine List.nodup_cons.mpr ⟨?_, ih hrest⟩
      intro hkey
      obtain ⟨⟨id, entry⟩, hmem, heq⟩ := List.mem_map.mp hkey
      -- the ids that follow have not been seen, and this one has
      have hnew := (mem_rankedFrom hrest hmem).2.2
      simp only at heq
      rw [heq] at hnew
      exact hnew List.mem_cons_self

/-! ## Joined entries -/

@[simp] theorem key_join (p : Ranked α) (s : Option (Ranked α)) :
    (join p s).2.key = p.result.key := by
  cases s <;> rfl

/-- The candidates of two ranked lists are, by key and in order, the entries of the primary one and
those of the secondary one that it lacks. -/
theorem keys_candidates (primary secondary : Ledger Text (Ranked α)) :
    (candidates primary secondary).map (fun c => c.2.key) =
      (primary ++ secondary.filter fun e => !primary.has e.1).map fun e => e.2.result.key := by
  simp [candidates, Function.comp_def]

/-- The candidates of two ledgers that hold results under their ids show, in order, the entities of
the primary one and those of the secondary one that it lacks. -/
theorem ids_candidates {primary secondary : Ledger Text (Ranked α)}
    (hprimary : ∀ e ∈ primary, e.2.result.entityId = e.1)
    (hsecondary : ∀ e ∈ secondary, e.2.result.entityId = e.1) :
    (candidates primary secondary).map (fun c => c.2.entityId) =
      (primary ++ secondary.filter fun e => !primary.has e.1 : Ledger Text (Ranked α)).keys := by
  have hkeys := congrArg (List.map Prod.snd) (keys_candidates primary secondary)
  rw [List.map_map, List.map_map] at hkeys
  refine hkeys.trans (List.map_congr_left fun e he => ?_)
  rcases List.mem_append.mp he with hin | hin
  · exact hprimary e hin
  · exact hsecondary e (List.mem_of_mem_filter hin)

/-! ## Fused lists -/

variable {f : RankFusion α} {primary secondary fused : List (SearchResult α)} {limit : Int}

/-- A fused list consists of the candidates of the first occurrences in the two lists, rearranged
and cut. -/
theorem fuse_eq_ok (h : f.fuse primary secondary limit = .ok fused) :
    ∃ (first second : Ledger Text (Ranked α)) (sorted : List (α × SearchResult α)),
      ranked f.k (Scalar.ofNat 1) primary = .ok first ∧
      ranked f.k f.secondaryBoost secondary = .ok second ∧
      sorted.Perm (candidates first second) ∧ fused = cut limit (sorted.map Prod.snd) := by
  unfold fuse at h
  obtain ⟨first, hfirst, h⟩ := bind_eq_ok.mp h
  obtain ⟨second, hsecond, h⟩ := bind_eq_ok.mp h
  cases h
  exact ⟨first, second, _, hfirst, hsecond, sortDescending_perm _ _ _ _, rfl⟩

/-- A fused result stands for an entity of one of the two lists, type and all. -/
theorem key_mem_of_mem_fuse (h : f.fuse primary secondary limit = .ok fused)
    {r : SearchResult α} (hr : r ∈ fused) :
    r.key ∈ primary.map SearchResult.key ∨ r.key ∈ secondary.map SearchResult.key := by
  obtain ⟨first, second, sorted, hfirst, hsecond, hperm, rfl⟩ := fuse_eq_ok h
  have hsorted := (cut_sublist limit _).subset hr
  obtain ⟨c, hc, rfl⟩ := List.mem_map.mp hsorted
  have hkey := List.mem_map_of_mem (f := fun c : α × SearchResult α => c.2.key)
    (hperm.mem_iff.mp hc)
  rw [keys_candidates] at hkey
  obtain ⟨⟨id, entry⟩, hentry, heq⟩ := List.mem_map.mp hkey
  simp only at heq
  rw [← heq]
  rcases List.mem_append.mp hentry with hin | hin
  · exact Or.inl (List.mem_map_of_mem (mem_rankedFrom hfirst hin).1)
  · exact Or.inr (List.mem_map_of_mem (mem_rankedFrom hsecond (List.mem_of_mem_filter hin)).1)

/-- No id occurs twice in a fused list. -/
theorem ids_fuse_nodup (h : f.fuse primary secondary limit = .ok fused) :
    (fused.map SearchResult.entityId).Nodup := by
  obtain ⟨first, second, sorted, hfirst, hsecond, hperm, rfl⟩ := fuse_eq_ok h
  have hids := ids_candidates (fun e he => (mem_rankedFrom hfirst he).2.1)
    fun e he => (mem_rankedFrom hsecond he).2.1
  have hsorted : (sorted.map fun c => c.2.entityId).Nodup := by
    rw [(hperm.map _).nodup_iff, hids]
    exact Ledger.keys_append_new_nodup (keys_rankedFrom_nodup hfirst)
      (keys_rankedFrom_nodup hsecond)
  have hcut := (cut_sublist limit (sorted.map Prod.snd)).map SearchResult.entityId
  rw [List.map_map] at hcut
  exact hsorted.sublist hcut

theorem length_fuse_le (h : f.fuse primary secondary limit = .ok fused) :
    (fused.length : Int) ≤ max limit 0 := by
  obtain ⟨first, second, sorted, _, _, _, rfl⟩ := fuse_eq_ok h
  exact length_cut_le limit _

end EntitySearch.RankFusion

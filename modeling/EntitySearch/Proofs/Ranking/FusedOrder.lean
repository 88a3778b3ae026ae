import EntitySearch.Proofs.Number.Exact
import EntitySearch.Proofs.Ranking.FusedEntities
import EntitySearch.Proofs.Ranking.Stability
/-!
# What fusing comes to

Without rounding, fusing two lists never fails if the rank constant is not negative. The fused list
has one entry for every entity of the two lists, with the shares that its first ranks give it, in
the descending order of their sums; equal sums stand in the order in which the entities first occur,
the primary list before the secondary one (`RankFusion.fuse_inOrder`).
-/

namespace EntitySearch

namespace SearchResult

variable {α : Type}

/-- The ids of results, in their order. -/
def ids (results : List (SearchResult α)) : List Text := results.map entityId

/-- The rank at which an entity first occurs, counted from zero. An entity that does not occur has
the number of all results, which is behind every rank. -/
def firstRank (results : List (SearchResult α)) (id : Text) : Nat := (ids results).idxOf id

/-- The first result of an entity. -/
def first? (results : List (SearchResult α)) (id : Text) : Option (SearchResult α) :=
  results.find? fun r => r.entityId = id

variable {r : SearchResult α} {results others : List (SearchResult α)} {id : Text}

theorem firstRank_lt_iff : firstRank results id < results.length ↔ id ∈ ids results := by
  have hlength : (ids results).length = results.length := List.length_map _
  rw [← hlength]
  exact List.idxOf_lt_length_iff

theorem firstRank_le (results : List (SearchResult α)) (id : Text) :
    firstRank results id ≤ results.length := by
  have hlength : (ids results).length = results.length := List.length_map _
  rw [← hlength]
  exact List.idxOf_le_length

theorem firstRank_eq_length (h : id ∉ ids results) : firstRank results id = results.length :=
  (firstRank_le results id).eq_of_not_lt fun hlt => h (firstRank_lt_iff.mp hlt)

theorem firstRank_cons_self (r : SearchResult α) (rest : List (SearchResult α)) :
    firstRank (r :: rest) r.entityId = 0 := List.idxOf_cons_self

theorem firstRank_cons_ne (h : id ≠ r.entityId) :
    firstRank (r :: results) id = firstRank results id + 1 :=
  List.idxOf_cons_ne _ h.symm

theorem firstRank_append_of_mem (h : id ∈ ids results) :
    firstRank (results ++ others) id = firstRank results id := by
  unfold firstRank ids at *
  rw [List.map_append, List.idxOf_append_of_mem h]

theorem firstRank_append_of_notMem (h : id ∉ ids results) :
    firstRank (results ++ others) id = results.length + firstRank others id := by
  unfold firstRank ids at *
  rw [List.map_append, List.idxOf_append_of_notMem h, List.length_map]

theorem first?_cons_self (r : SearchResult α) (rest : List (SearchResult α)) :
    first? (r :: rest) r.entityId = some r := by simp [first?]

theorem first?_cons_ne (h : id ≠ r.entityId) : first? (r :: results) id = first? results id := by
  simp [first?, h.symm]

theorem first?_isSome_iff : (first? results id).isSome ↔ id ∈ ids results := by
  simp [first?, ids]

theorem entityId_of_first? (h : first? results id = some r) : r.entityId = id := by
  simpa using List.find?_some h

end SearchResult

namespace RankFusion

open SearchResult (ids firstRank first?)

/-! ## What is expected of a fused list -/

/-- What a list with a weight gives to an entity: the weight divided by the rank counted from one
and the constant, and nothing if the entity does not occur. -/
def share (k : Int) (weight : ℚ) (results : List (SearchResult ℚ)) (id : Text) : ℚ :=
  if firstRank results id < results.length then weight / (k + firstRank results id + 1) else 0

variable (f : RankFusion ℚ) (primary secondary : List (SearchResult ℚ))

/-- The combined score of an entity: the sum of its two shares. -/
def total (id : Text) : ℚ := share f.k 1 primary id + share f.k f.secondaryBoost secondary id

/-- The entry of an entity, made of its first results: an entity of both lists is shown as the
primary list has it, with the mean of its two scores. -/
def entry? (id : Text) : Option (SearchResult ℚ) :=
  match first? primary id, first? secondary id with
  | some p, some s => some { p with
      score := (p.score + s.score) / 2, fusionScore := some (f.total primary secondary id) }
  | some r, none | none, some r =>
    some { r with fusionScore := some (f.total primary secondary id) }
  | none, none => none

/-- A list shows every entity of two lists once, by descending combined scores. Entities with equal
ones stand in the order in which they first occur. -/
structure Fused (all : List (SearchResult ℚ)) : Prop where
  once : (ids all).Nodup
  mem_iff : ∀ id, id ∈ ids all ↔ id ∈ ids primary ∨ id ∈ ids secondary
  entry : ∀ r ∈ all, f.entry? primary secondary r.entityId = some r
  inOrder : (ids all).Pairwise (Before (f.total primary secondary) fun a b =>
    firstRank (primary ++ secondary) a < firstRank (primary ++ secondary) b)

/-! ## Ranks -/

section Ranks

variable {k : Int} (weight : ℚ) (results : List (SearchResult ℚ))

/-- An entity that has not been seen before is entered with its first result and the share of its
rank, and entities are entered in the order of their ranks. -/
theorem exists_rankedFrom (seen : List Text) (rank : Int) (hrank : 0 ≤ k + rank) :
    ∃ ledger : Ledger Text (Ranked ℚ), rankedFrom k weight seen rank results = .ok ledger ∧
      (∀ id, ledger.get? id = if id ∈ seen then none else (first? results id).map fun r =>
        ⟨weight / ((k + rank + firstRank results id + 1 : Int) : ℚ), r⟩) ∧
      ledger.keys.Pairwise fun a b => firstRank results a < firstRank results b := by
  induction results generalizing seen rank with
  | nil => exact ⟨[], rfl, fun id => by simp [Ledger.get?, first?], List.Pairwise.nil⟩
  | cons r rest ih =>
    have hshift : ∀ n : ℕ, k + (rank + 1) + n + 1 = k + rank + (n + 1 : ℕ) + 1 := by
      intro n
      push_cast
      ring
    unfold rankedFrom
    -- a repeated entity is not entered again, but it takes up a rank all the same
    by_cases hseen : r.entityId ∈ seen
    · obtain ⟨ledger, hledger, hget, hkeys⟩ := ih seen (rank + 1) (by omega)
      have hnew : ∀ id ∈ ledger.keys, id ≠ r.entityId := by
        rintro id hid rfl
        obtain ⟨e, he, heq⟩ := List.mem_map.mp hid
        exact (mem_rankedFrom hledger he).2.2 (heq ▸ hseen)
      rw [if_pos (by simpa using hseen)]
      refine ⟨ledger, hledger, fun id => ?_, hkeys.imp_of_mem fun ha hb hab => ?_⟩
      · rw [hget id]
        by_cases hid : id ∈ seen
        · rw [if_pos hid, if_pos hid]
        · have hne : id ≠ r.entityId := fun heq => hid (heq ▸ hseen)
          rw [if_neg hid, if_neg hid, SearchResult.first?_cons_ne hne,
            SearchResult.firstRank_cons_ne hne, hshift]
      · rw [SearchResult.firstRank_cons_ne (hnew _ ha), SearchResult.firstRank_cons_ne (hnew _ hb)]
        omega
    · obtain ⟨later, hlater, hget, hkeys⟩ := ih (r.entityId :: seen) (rank + 1) (by omega)
      have hnew : ∀ id ∈ later.keys, id ≠ r.entityId := by
        rintro id hid rfl
        obtain ⟨e, he, heq⟩ := List.mem_map.mp hid
        exact (mem_rankedFrom hlater he).2.2 (heq ▸ List.mem_cons_self)
      have hdivide : Scalar.divInt weight (k + rank + 1) =
          .ok (weight / ((k + rank + 1 : Int) : ℚ)) := if_neg (by omega)
      rw [if_neg (by simpa using hseen), hdivide, hlater]
      refine ⟨_, rfl, fun id => ?_, List.pairwise_cons.mpr ⟨fun id hid => ?_,
        hkeys.imp_of_mem fun ha hb hab => ?_⟩⟩
      · by_cases hid : id = r.entityId
        · subst hid
          rw [if_neg hseen, SearchResult.first?_cons_self, SearchResult.firstRank_cons_self]
          simp [Ledger.get?]
        · rw [Ledger.get?, if_neg (Ne.symm hid), hget id, SearchResult.first?_cons_ne hid,
            SearchResult.firstRank_cons_ne hid, hshift]
          simp only [List.mem_cons, hid, false_or]
      · rw [SearchResult.firstRank_cons_self, SearchResult.firstRank_cons_ne (hnew _ hid)]
        omega
      · rw [SearchResult.firstRank_cons_ne (hnew _ ha), SearchResult.firstRank_cons_ne (hnew _ hb)]
        omega

/-- The ranks of a list hold the first result of every entity with its share, in the order of the
ranks. -/
structure RanksOf (k : Int) (weight : ℚ) (results : List (SearchResult ℚ))
    (ledger : Ledger Text (Ranked ℚ)) : Prop where
  once : ledger.keys.Nodup
  get? : ∀ id, ledger.get? id = (first? results id).map fun r => ⟨share k weight results id, r⟩
  inOrder : ledger.keys.Pairwise fun a b => firstRank results a < firstRank results b

theorem exists_ranked_exact (hk : 0 ≤ k) :
    ∃ ledger, ranked k weight results = .ok ledger ∧ RanksOf k weight results ledger := by
  obtain ⟨ledger, hledger, hget, hkeys⟩ :=
    exists_rankedFrom weight results [] 0 (show 0 ≤ k + 0 by omega)
  refine ⟨ledger, hledger, keys_rankedFrom_nodup hledger, fun id => ?_, hkeys⟩
  rw [hget id, if_neg List.not_mem_nil]
  refine Option.map_congr fun r hr => ?_
  have hrank : firstRank results id < results.length :=
    SearchResult.firstRank_lt_iff.mpr (SearchResult.first?_isSome_iff.mp (Option.isSome_of_mem hr))
  unfold share
  rw [if_pos hrank]
  push_cast
  rw [add_zero]

end Ranks

namespace RanksOf

variable {k : Int} {weight : ℚ} {results : List (SearchResult ℚ)}
  {ledger : Ledger Text (Ranked ℚ)} (h : RanksOf k weight results ledger) {id : Text}

include h

theorem mem_keys_iff : id ∈ ledger.keys ↔ id ∈ ids results := by
  rw [← Ledger.has_iff, Ledger.has, h.get?, Option.isSome_map, SearchResult.first?_isSome_iff]

theorem of_mem {entry : Ranked ℚ} (hmem : (id, entry) ∈ ledger) :
    entry.contribution = share k weight results id ∧ first? results id = some entry.result := by
  have hentry := Ledger.get?_of_mem h.once hmem
  rw [h.get?, Option.map_eq_some_iff] at hentry
  obtain ⟨r, hr, rfl⟩ := hentry
  exact ⟨rfl, hr⟩

end RanksOf

/-! ## Candidates -/

section Candidates

variable {f : RankFusion ℚ} {primary secondary : List (SearchResult ℚ)}
  {first second : Ledger Text (Ranked ℚ)} (hfirst : RanksOf f.k 1 primary first)
  (hsecond : RanksOf f.k f.secondaryBoost secondary second)

theorem share_of_notMem {k : Int} {weight : ℚ} {results : List (SearchResult ℚ)} {id : Text}
    (h : id ∉ ids results) : share k weight results id = 0 :=
  if_neg (mt SearchResult.firstRank_lt_iff.mp h)

include hfirst hsecond

/-- Joining the entries of an entity gives its combined score and its entry. -/
theorem entry?_of_mem_candidates {c : ℚ × SearchResult ℚ} (hc : c ∈ candidates first second) :
    c.1 = f.total primary secondary c.2.entityId ∧
      f.entry? primary secondary c.2.entityId = some c.2 := by
  rcases List.mem_append.mp hc with hin | hin
  · obtain ⟨⟨id, p⟩, hp, rfl⟩ := List.mem_map.mp hin
    obtain ⟨hshare, hfound⟩ := hfirst.of_mem hp
    have hid := SearchResult.entityId_of_first? hfound
    simp only [hsecond.get?]
    cases hother : first? secondary id with
    | none =>
      have hnot : id ∉ ids secondary := by
        rw [← SearchResult.first?_isSome_iff, hother]
        simp
      simp [join, entry?, total, hid, hfound, hother, hshare, share_of_notMem hnot]
    | some s =>
      simp only [join, entry?, total, Option.map_some, hid, hfound, hother, hshare, true_and]
      rfl
  · obtain ⟨⟨id, s⟩, hs, rfl⟩ := List.mem_map.mp hin
    obtain ⟨hkept, hnew⟩ := List.mem_filter.mp hs
    obtain ⟨hshare, hfound⟩ := hsecond.of_mem hkept
    have hid := SearchResult.entityId_of_first? hfound
    have hnot : id ∉ ids primary := by
      rw [← hfirst.mem_keys_iff, ← Ledger.has_iff]
      simpa using hnew
    have hother : first? primary id = none := by
      rw [← Option.not_isSome_iff_eq_none, SearchResult.first?_isSome_iff]
      exact hnot
    simp [join, entry?, total, hid, hfound, hother, hshare, share_of_notMem hnot]

/-- The candidates stand in the order in which their entities first occur. -/
theorem pairwise_ids_candidates :
    ((candidates first second).map fun c => c.2.entityId).Pairwise fun a b =>
      firstRank (primary ++ secondary) a < firstRank (primary ++ secondary) b := by
  have hkept : ∀ id ∈ Ledger.keys (second.filter fun e => !first.has e.1),
      id ∈ second.keys ∧ id ∉ ids primary := by
    intro id hid
    obtain ⟨e, he, rfl⟩ := List.mem_map.mp hid
    obtain ⟨hin, hnew⟩ := List.mem_filter.mp he
    refine ⟨List.mem_map_of_mem hin, ?_⟩
    rw [← hfirst.mem_keys_iff, ← Ledger.has_iff]
    simpa using hnew
  have hsorted : (Ledger.keys (second.filter fun e => !first.has e.1)).Pairwise fun a b =>
      firstRank secondary a < firstRank secondary b :=
    hsecond.inOrder.sublist (List.filter_sublist.map _)
  rw [ids_candidates (fun _ he => SearchResult.entityId_of_first? (hfirst.of_mem he).2)
    fun _ he => SearchResult.entityId_of_first? (hsecond.of_mem he).2, Ledger.keys, List.map_append]
  refine List.pairwise_append.mpr ⟨?_, ?_, ?_⟩
  · refine hfirst.inOrder.imp_of_mem fun ha hb hab => ?_
    rwa [SearchResult.firstRank_append_of_mem (hfirst.mem_keys_iff.mp ha),
      SearchResult.firstRank_append_of_mem (hfirst.mem_keys_iff.mp hb)]
  · refine hsorted.imp_of_mem fun ha hb hab => ?_
    rw [SearchResult.firstRank_append_of_notMem (hkept _ ha).2,
      SearchResult.firstRank_append_of_notMem (hkept _ hb).2]
    omega
  · intro a ha b hb
    have hin := hfirst.mem_keys_iff.mp ha
    have hrank := SearchResult.firstRank_lt_iff.mpr hin
    rw [SearchResult.firstRank_append_of_mem hin,
      SearchResult.firstRank_append_of_notMem (hkept b hb).2]
    omega

theorem mem_ids_candidates_iff (id : Text) :
    id ∈ (candidates first second).map (fun c => c.2.entityId) ↔
      id ∈ ids primary ∨ id ∈ ids secondary := by
  rw [ids_candidates (fun _ he => SearchResult.entityId_of_first? (hfirst.of_mem he).2)
    fun _ he => SearchResult.entityId_of_first? (hsecond.of_mem he).2, Ledger.keys, List.map_append,
    List.mem_append, ← hfirst.mem_keys_iff, ← hsecond.mem_keys_iff]
  -- an entity that the primary list lacks is not left out of the secondary entries
  refine or_congr_right' fun hnot => ?_
  have hnew : first.has id = false := by
    rw [← Bool.not_eq_true, Ledger.has_iff]
    exact hnot
  constructor
  · intro hid
    exact (List.filter_sublist.map _).subset hid
  · intro hid
    obtain ⟨e, he, rfl⟩ := List.mem_map.mp hid
    exact List.mem_map_of_mem (List.mem_filter.mpr ⟨he, by rw [hnew]; rfl⟩)

/-! ## Fused lists -/

omit hfirst hsecond in
theorem Scalar.less_goesBy_exact :
    GoesBy (Scalar.less (α := ℚ)) Scalar.isOrderly fun score => score := fun _ _ _ _ => rfl

/-- Sorting the candidates gives the list that is expected. -/
theorem fused_sortDescending :
    f.Fused primary secondary ((sortDescending Scalar.less Scalar.isOrderly Prod.fst
      (candidates first second)).map Prod.snd) := by
  have hperm := sortDescending_perm Scalar.less Scalar.isOrderly Prod.fst (candidates first second)
  have hentries : ∀ c ∈ sortDescending Scalar.less Scalar.isOrderly Prod.fst
      (candidates first second), c.1 = f.total primary secondary c.2.entityId ∧
        f.entry? primary secondary c.2.entityId = some c.2 := fun c hc =>
    entry?_of_mem_candidates hfirst hsecond (hperm.mem_iff.mp hc)
  have hids := pairwise_ids_candidates hfirst hsecond
  -- sorting keeps candidates with equal sums in their order
  have hsorted : (sortDescending Scalar.less Scalar.isOrderly Prod.fst
      (candidates first second)).Pairwise (Before (fun c => c.1) fun c c' =>
        firstRank (primary ++ secondary) c.2.entityId <
          firstRank (primary ++ secondary) c'.2.entityId) := by
    rw [List.pairwise_map] at hids
    rw [sortDescending_eq Scalar.less_goesBy_exact Prod.fst fun _ _ => decide_eq_true rfl]
    exact insertionSort_before hids
  have hmap : ids ((sortDescending Scalar.less Scalar.isOrderly Prod.fst
      (candidates first second)).map Prod.snd) =
      (sortDescending Scalar.less Scalar.isOrderly Prod.fst (candidates first second)).map
        fun c => c.2.entityId := List.map_map
  have hpermIds := hperm.map fun c : ℚ × SearchResult ℚ => c.2.entityId
  constructor
  · rw [hmap, hpermIds.nodup_iff]
    exact hids.imp fun hlt heq => hlt.ne (congrArg _ heq)
  · intro id
    rw [hmap, hpermIds.mem_iff, mem_ids_candidates_iff hfirst hsecond]
  · intro r hr
    obtain ⟨c, hc, rfl⟩ := List.mem_map.mp hr
    exact (hentries c hc).2
  · rw [hmap, List.pairwise_map]
    refine hsorted.imp_of_mem fun {c c'} hc hc' hbefore => ?_
    simpa only [Before, (hentries c hc).1, (hentries c' hc').1] using hbefore

end Candidates

variable {f : RankFusion ℚ} (hk : 0 ≤ f.k) (primary secondary : List (SearchResult ℚ))

include hk

/-- Both lists can be ranked, and what is shown are the sorted candidates. -/
theorem exists_ranksOf : ∃ first second, RanksOf f.k 1 primary first ∧
    RanksOf f.k f.secondaryBoost secondary second ∧
    ∀ limit, f.fuse primary secondary limit = .ok (cut limit
      ((sortDescending Scalar.less Scalar.isOrderly Prod.fst (candidates first second)).map
        Prod.snd)) := by
  obtain ⟨first, hfirst, hprimary⟩ := exists_ranked_exact 1 primary hk
  obtain ⟨second, hsecond, hsecondary⟩ := exists_ranked_exact f.secondaryBoost secondary hk
  refine ⟨first, second, hprimary, hsecondary, fun limit => ?_⟩
  have hone : (Scalar.ofNat 1 : ℚ) = 1 := by
    show ((1 : ℕ) / 10 ^ 0 : ℚ) = 1
    norm_num
  unfold fuse
  rw [hone, hfirst, hsecond]
  rfl

/-- Without rounding, fusing two lists gives the first entries of one list, whatever the limit:
every entity of the two lists once, with the sum of its shares and the mean of its scores, by
descending sums and, where these are equal, in the order of first occurrences. -/
theorem fuse_inOrder : ∃ all, f.Fused primary secondary all ∧
    ∀ limit, f.fuse primary secondary limit = .ok (cut limit all) := by
  obtain ⟨first, second, hfirst, hsecond, hfuse⟩ := exists_ranksOf hk primary secondary
  exact ⟨_, fused_sortDescending hfirst hsecond, hfuse⟩

omit hk

/-- Ranked films, each with its id and its score. -/
def ranking (entries : List (Text × ℚ)) : List (SearchResult ℚ) :=
  entries.map fun e => ⟨.video, e.1, e.2, .null, [], 0, none⟩

theorem fuse_inOrder_repeated :
    (0 : Int) ≤ 60 ∧ ∃ all, (⟨60, 3 / 2⟩ : RankFusion ℚ).Fused
        (ranking [("a", 4), ("b", 3), ("a", 1), ("d", 0)]) (ranking [("c", 1), ("c", 2), ("b", 5)])
        all ∧
      (⟨60, 3 / 2⟩ : RankFusion ℚ).fuse (ranking [("a", 4), ("b", 3), ("a", 1), ("d", 0)])
        (ranking [("c", 1), ("c", 2), ("b", 5)]) 2 = .ok (cut 2 all) := by
  have hk : (0 : Int) ≤ 60 := by decide
  obtain ⟨all, hall, hfuse⟩ := fuse_inOrder (f := ⟨60, 3 / 2⟩) hk
    (ranking [("a", 4), ("b", 3), ("a", 1), ("d", 0)]) (ranking [("c", 1), ("c", 2), ("b", 5)])
  exact ⟨hk, all, hall, hfuse 2⟩

end RankFusion

end EntitySearch

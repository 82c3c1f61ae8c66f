import Mathlib.Algebra.Order.Field.Rat
import Mathlib.Combinatorics.SimpleGraph.Connectivity.Connected
import Mathlib.Data.List.Sort
import Mathlib.Data.Set.Card
import Mathlib.Order.CompletePartialOrder
import Mempal.Clusters.UnionFind
import Mempal.Drawers.Basic

set_option autoImplicit false

/-! `find_similar_clusters` joins the drawers of every pair above the threshold, groups the drawers it met by their
root and keeps the groups that are large enough. -/

namespace Mempal.Clusters

open Foundation Mempal.Drawers

structure SimilarPair where
  leftId : String
  rightId : String
  similarity : ℚ
deriving DecidableEq, Repr

structure SimilarityTotal where
  id : String
  total : ℚ
  count : Nat
deriving DecidableEq, Repr

structure Group where
  root : String
  members : List String
deriving DecidableEq, Repr

structure Iteration where
  keys : List String → List String
  keys_perm : ∀ l, (keys l).Perm l
  values : List (List String) → List (List String)
  values_perm : ∀ l, (values l).Perm l

structure Scan where
  unionFind : UnionFind
  totals : Table SimilarityTotal.id

def addSimilarity (id : String) (similarity : ℚ) (totals : Table SimilarityTotal.id) : Table SimilarityTotal.id :=
  totals.upsert ⟨id, similarity, 1⟩
    (fun total => { total with total := total.total + similarity, count := total.count + 1 }) fun _ => rfl

def scanPair (threshold : ℚ) (fuel : Nat) (scan : Scan) (pair : SimilarPair) : Option Scan :=
  if pair.similarity ≤ threshold then some scan
  else (scan.unionFind.union fuel pair.leftId pair.rightId).map fun unionFind =>
    ⟨unionFind, addSimilarity pair.rightId pair.similarity (addSimilarity pair.leftId pair.similarity scan.totals)⟩

structure Grouping where
  unionFind : UnionFind
  grouped : Table Group.root

def pushMember (root drawerId : String) (grouped : Table Group.root) : Table Group.root :=
  grouped.upsert ⟨root, [drawerId]⟩ (fun group => { group with members := group.members ++ [drawerId] }) fun _ => rfl

def groupId (fuel : Nat) (grouping : Grouping) (drawerId : String) : Option Grouping :=
  (grouping.unionFind.find fuel drawerId).map fun found =>
    ⟨found.2, pushMember found.1 drawerId grouping.grouped⟩

def averageOf (totals : Table SimilarityTotal.id) (drawerId : String) : ℚ :=
  match totals.find? drawerId with
  | some total => total.total / total.count
  | none => 0 / 1

def clusterOf (totals : Table SimilarityTotal.id) (component : List String) : List (String × ℚ) :=
  let cluster := (component.insertionSort (· ≤ ·)).map fun drawerId => (drawerId, averageOf totals drawerId)
  cluster.insertionSort fun left right => right.2 < left.2 ∨ right.2 = left.2 ∧ left.1 ≤ right.1

def clusterAverageSimilarity (cluster : List (String × ℚ)) : ℚ :=
  if cluster.isEmpty then 0 else (cluster.map Prod.snd).sum / cluster.length

def clusterBefore (left right : List (String × ℚ)) : Prop :=
  right.length < left.length ∨ right.length = left.length ∧
    (clusterAverageSimilarity right < clusterAverageSimilarity left ∨
      clusterAverageSimilarity right = clusterAverageSimilarity left ∧
        (left.head?.map Prod.fst).getD "" ≤ (right.head?.map Prod.fst).getD "")

instance (left right : List (String × ℚ)) : Decidable (clusterBefore left right) := by
  unfold clusterBefore
  infer_instance

/-- The body of `find_similar_clusters` after its query. -/
def clusterPairs (fuel : Nat) (iteration : Iteration) (threshold : ℚ) (minClusterSize : Nat)
    (pairs : List SimilarPair) : Option (List (List (String × ℚ))) :=
  (pairs.foldlM (scanPair threshold fuel) ⟨.empty, Table.empty⟩).bind fun scan =>
    ((iteration.keys (scan.totals.rows.map SimilarityTotal.id)).foldlM (groupId fuel)
      ⟨scan.unionFind, Table.empty⟩).map fun grouping =>
        ((((iteration.values (grouping.grouped.rows.map Group.members)).filter
          fun component => minClusterSize ≤ component.length).map (clusterOf scan.totals)).insertionSort clusterBefore)

/-- `find_similar_clusters`; a threshold that is not finite is `none`. -/
def findSimilarClusters (fuel : Nat) (iteration : Iteration) (threshold : Option ℚ) (minClusterSize : Nat)
    (pairs : List SimilarPair) : Option (Except DbError (List (List (String × ℚ)))) :=
  match threshold.filter fun value => 0 ≤ value ∧ value ≤ 1 with
  | none =>
    some (.error (.invalidDrawerMetadata "compaction threshold must be finite and between 0.0 and 1.0"))
  | some value =>
    if minClusterSize < 2 then
      some (.error (.invalidDrawerMetadata "minimum compaction cluster size must be at least 2"))
    else (clusterPairs fuel iteration value minClusterSize pairs).map .ok

def Similar (threshold : ℚ) (pairs : List SimilarPair) (x y : String) : Prop :=
  ∃ pair ∈ pairs, threshold < pair.similarity ∧
    (pair.leftId = x ∧ pair.rightId = y ∨ pair.leftId = y ∧ pair.rightId = x)

variable {pair : SimilarPair} {scan : Scan} {grouped : Table Group.root} {root x y : String} {grouping : Grouping}
  {ids component : List String} {totals : Table SimilarityTotal.id} {minClusterSize : Nat}

section Pairs
variable {threshold : ℚ} {pairs : List SimilarPair}

theorem Similar.symm (h : Similar threshold pairs x y) : Similar threshold pairs y x := by
  obtain ⟨pair, hPair, hAbove, hEnds⟩ := h
  exact ⟨pair, hPair, hAbove, hEnds.symm⟩

theorem similar_append_skipped (pairs : List SimilarPair) (h : pair.similarity ≤ threshold) :
    Similar threshold (pairs ++ [pair]) = Similar threshold pairs := by
  funext x y
  apply propext
  constructor
  · rintro ⟨other, hOther, hAbove, hEnds⟩
    rcases List.mem_append.mp hOther with hOther | hOther
    · exact ⟨other, hOther, hAbove, hEnds⟩
    · cases List.mem_singleton.mp hOther
      exact absurd hAbove (not_lt_of_ge h)
  · rintro ⟨other, hOther, hRest⟩
    exact ⟨other, List.mem_append_left _ hOther, hRest⟩

theorem similar_append (pairs : List SimilarPair) (h : threshold < pair.similarity) (x y : String) :
    Similar threshold (pairs ++ [pair]) x y ↔ Similar threshold pairs x y ∨
      pair.leftId = x ∧ pair.rightId = y ∨ pair.leftId = y ∧ pair.rightId = x := by
  constructor
  · rintro ⟨other, hOther, hAbove, hEnds⟩
    rcases List.mem_append.mp hOther with hOther | hOther
    · exact Or.inl ⟨other, hOther, hAbove, hEnds⟩
    · cases List.mem_singleton.mp hOther
      exact Or.inr hEnds
  · rintro (⟨other, hOther, hRest⟩ | hEnds)
    · exact ⟨other, List.mem_append_left _ hOther, hRest⟩
    · exact ⟨pair, List.mem_append_right _ List.mem_cons_self, h, hEnds⟩

theorem transGen_similar_symm (h : Relation.TransGen (Similar threshold pairs) x y) :
    Relation.TransGen (Similar threshold pairs) y x := by
  induction h with
  | single h => exact .single h.symm
  | tail _ h ih => exact .head h.symm ih

structure Scanned (threshold : ℚ) (pairs : List SimilarPair) (scan : Scan) : Prop where
  forest : Forest scan.unionFind.next
  joined : ∀ x y, Joined scan.unionFind.next x y ↔ Relation.TransGen (Similar threshold pairs) x y
  met : ∀ x, x ∈ scan.totals.rows.map SimilarityTotal.id ↔ ∃ y, Similar threshold pairs x y

theorem mem_addSimilarity {similarity : ℚ} {id : String} :
    x ∈ (addSimilarity id similarity totals).rows.map SimilarityTotal.id ↔
      x = id ∨ x ∈ totals.rows.map SimilarityTotal.id := by
  have hKnown (t : Table SimilarityTotal.id) : x ∈ t.rows.map SimilarityTotal.id ↔ ∃ total, t.find? x = some total := by
    simp only [List.mem_map, Table.find?_eq_some_iff]
    rfl
  rw [hKnown, hKnown, addSimilarity, Table.find?_upsert]
  by_cases hx : x = id
  · simp [hx]
  · rw [if_neg (fun h => hx h.symm)]
    simp [hx]

theorem scanned_step (h : Scanned threshold pairs scan) :
    ∃ scan', Returns (fun fuel => scanPair threshold fuel scan pair) scan' ∧
      Scanned threshold (pairs ++ [pair]) scan' := by
  by_cases hAbove : pair.similarity ≤ threshold
  · refine ⟨scan, ?_, ?_⟩
    · simp only [scanPair, if_pos hAbove]
      exact Returns.pure scan
    · have hSame := similar_append_skipped pairs hAbove
      exact ⟨h.forest, by rw [hSame]; exact h.joined, by rw [hSame]; exact h.met⟩
  · have hSimilar := similar_append pairs (lt_of_not_ge hAbove)
    have hEnds : Similar threshold (pairs ++ [pair]) pair.leftId pair.rightId :=
      (hSimilar _ _).mpr (Or.inr (Or.inl ⟨rfl, rfl⟩))
    obtain ⟨uf', hReturns, hForest, hOld, hPair, hLeast⟩ := UnionFind.union_returns h.forest pair.leftId pair.rightId
    refine ⟨⟨uf', addSimilarity pair.rightId pair.similarity
      (addSimilarity pair.leftId pair.similarity scan.totals)⟩, ?_, hForest, ?_, ?_⟩
    · simp only [scanPair, if_neg hAbove]
      exact hReturns.map _
    · intro x y
      constructor
      · -- what is joined is joined by the closure, which is symmetric and transitive
        apply hLeast (Relation.TransGen (Similar threshold (pairs ++ [pair])))
        · exact fun x y => transGen_similar_symm
        · exact fun x y z => Relation.TransGen.trans
        · intro x y hJoined
          exact Relation.TransGen.mono (fun x y hOldPair => (hSimilar x y).mpr (Or.inl hOldPair)) x y
            ((h.joined x y).mp hJoined)
        · exact .single hEnds
      · have hStep : ∀ {x y}, Similar threshold (pairs ++ [pair]) x y → Joined uf'.next x y := by
          intro x y hxy
          rcases (hSimilar x y).mp hxy with hxy | ⟨rfl, rfl⟩ | ⟨rfl, rfl⟩
          · exact hOld x y ((h.joined x y).mpr (.single hxy))
          · exact hPair
          · exact hPair.symm
        intro hChain
        induction hChain with
        | single hxy => exact hStep hxy
        | tail _ hyz ih => exact ih.trans (hStep hyz)
    · intro x
      rw [mem_addSimilarity, mem_addSimilarity, h.met]
      constructor
      · rintro (rfl | rfl | ⟨y, hxy⟩)
        · exact ⟨_, hEnds.symm⟩
        · exact ⟨_, hEnds⟩
        · exact ⟨y, (hSimilar x y).mpr (Or.inl hxy)⟩
      · rintro ⟨y, hxy⟩
        rcases (hSimilar x y).mp hxy with hxy | ⟨rfl, _⟩ | ⟨_, rfl⟩
        · exact Or.inr (Or.inr ⟨y, hxy⟩)
        · exact Or.inr (Or.inl rfl)
        · exact Or.inl rfl

theorem scan_returns (threshold : ℚ) (pairs : List SimilarPair) :
    ∃ scan, Returns (fun fuel => pairs.foldlM (scanPair threshold fuel) ⟨.empty, Table.empty⟩) scan ∧
      Scanned threshold pairs scan := by
  refine Returns.foldlM (P := Scanned threshold) (fun done pair rest scan _ h => scanned_step h) ?_
  have hNone : ∀ k r, ¬Leads UnionFind.empty.next k r := by
    intro k r h
    obtain ⟨v, hv⟩ := h.isNode
    cases hv
  refine ⟨?_, fun x y => ?_, fun x => ?_⟩
  · intro k v hk
    cases hk
  · constructor
    · rintro ⟨r, hx, _⟩
      exact absurd hx (hNone x r)
    · intro h
      obtain ⟨y, ⟨pair, hPair, _⟩, _⟩ := Relation.TransGen.head'_iff.mp h
      cases hPair
  · constructor
    · intro hx
      cases hx
    · rintro ⟨y, pair, hPair, _⟩
      cases hPair

end Pairs

def membersAt (grouped : Table Group.root) (root : String) : List String :=
  ((grouped.find? root).map Group.members).getD []

theorem membersAt_of_mem {group : Group} (h : group ∈ grouped) : membersAt grouped group.root = group.members := by
  rw [membersAt, Table.find?_of_mem h]
  rfl

theorem exists_of_mem_membersAt {id : String} (h : id ∈ membersAt grouped root) :
    ∃ group ∈ grouped, group.root = root := by
  cases hFind : grouped.find? root with
  | none =>
    rw [membersAt, hFind] at h
    cases h
  | some group => exact ⟨group, Table.find?_eq_some_iff.mp hFind⟩

theorem membersAt_pushMember {r : String} (root id : String) (grouped : Table Group.root) :
    membersAt (pushMember root id grouped) r =
      if root = r then membersAt grouped r ++ [id] else membersAt grouped r := by
  rw [membersAt, membersAt, pushMember, Table.find?_upsert]
  by_cases hr : root = r
  · rw [if_pos hr, if_pos hr]
    cases grouped.find? r <;> rfl
  · rw [if_neg hr, if_neg hr]

structure Grouped (roots : String → String → Prop) (done : List String) (grouping : Grouping) : Prop where
  forest : Forest grouping.unionFind.next
  leads : ∀ k r, Leads grouping.unionFind.next k r ↔ roots k r
  members : ∀ r id, id ∈ membersAt grouping.grouped r ↔ id ∈ done ∧ roots id r
  nodup : ∀ r, (membersAt grouping.grouped r).Nodup
  inhabited : ∀ group ∈ grouping.grouped, group.members ≠ []

theorem inhabited_pushMember {id : String}
    (h : ∀ group ∈ grouped, group.members ≠ []) : ∀ group ∈ pushMember root id grouped, group.members ≠ [] := by
  intro group hMem
  rw [← membersAt_of_mem hMem, membersAt_pushMember]
  split
  · exact List.append_ne_nil_of_right_ne_nil _ (List.cons_ne_nil _ _)
  · rename_i hOther
    have hFind := Table.find?_upsert grouped ⟨root, [id]⟩
      (fun group => { group with members := group.members ++ [id] }) (fun _ => rfl) group.root
    rw [if_neg hOther] at hFind
    have hOld := (Table.find?_eq_some_iff.mp (hFind.symm.trans (Table.find?_of_mem hMem))).1
    rw [membersAt_of_mem hOld]
    exact h group hOld

theorem grouped_step {roots : String → String → Prop} {done : List String} {id : String}
    (hKnown : ∃ root, roots id root) (hNew : id ∉ done) (h : Grouped roots done grouping) :
    ∃ grouping', Returns (fun fuel => groupId fuel grouping id) grouping' ∧ Grouped roots (done ++ [id]) grouping' := by
  obtain ⟨root, hRoot⟩ := hKnown
  have hLeadsTo := (h.leads id root).mpr hRoot
  obtain ⟨uf', hReturns, hForest, hLeads⟩ := UnionFind.find_of_leads h.forest hLeadsTo
  refine ⟨⟨uf', pushMember root id grouping.grouped⟩, hReturns.map _, hForest, ?_, ?_, ?_, ?_⟩
  · exact fun k r => (hLeads k r).trans (h.leads k r)
  · intro r k
    rw [membersAt_pushMember, List.mem_append, List.mem_singleton]
    by_cases hr : root = r
    · subst hr
      rw [if_pos rfl, List.mem_append, List.mem_singleton, h.members]
      constructor
      · rintro (hk | rfl)
        · exact ⟨Or.inl hk.1, hk.2⟩
        · exact ⟨Or.inr rfl, hRoot⟩
      · rintro ⟨hk | hk, hLeadsTo⟩
        · exact Or.inl ⟨hk, hLeadsTo⟩
        · exact Or.inr hk
    · rw [if_neg hr, h.members]
      constructor
      · exact fun hk => ⟨Or.inl hk.1, hk.2⟩
      · rintro ⟨hk | rfl, hOther⟩
        · exact ⟨hk, hOther⟩
        · exact absurd (hLeadsTo.unique ((h.leads _ r).mpr hOther)) hr
  · intro r
    rw [membersAt_pushMember]
    split
    · rw [List.nodup_append]
      refine ⟨h.nodup r, List.nodup_singleton id, ?_⟩
      rintro k hk _ hk' rfl
      cases List.mem_singleton.mp hk'
      exact hNew ((h.members r _).mp hk).1
    · exact h.nodup r
  · exact inhabited_pushMember h.inhabited

theorem grouping_returns {uf : UnionFind} (hForest : Forest uf.next) (hNodup : ids.Nodup)
    (hKnown : ∀ id ∈ ids, ∃ root, Leads uf.next id root) :
    ∃ grouping, Returns (fun fuel => ids.foldlM (groupId fuel) ⟨uf, Table.empty⟩) grouping ∧
      Grouped (Leads uf.next) ids grouping := by
  refine Returns.foldlM (P := Grouped (Leads uf.next)) ?_ ?_
  · rintro done id rest grouping rfl h
    refine grouped_step (hKnown id (by simp)) ?_ h
    rw [List.nodup_append] at hNodup
    intro hDone
    exact hNodup.2.2 id hDone id List.mem_cons_self rfl
  · refine ⟨hForest, fun _ _ => Iff.rfl, ?_, fun _ => List.nodup_nil, fun group hMem => ?_⟩
    · intro r id
      constructor
      · intro h
        cases h
      · rintro ⟨h, _⟩
        cases h
    · cases hMem

def similarityGraph (threshold : ℚ) (pairs : List SimilarPair) : SimpleGraph String :=
  SimpleGraph.fromRel (Similar threshold pairs)

theorem reachable_iff {threshold : ℚ} {pairs : List SimilarPair} (hMet : ∃ y, Similar threshold pairs x y) :
    (similarityGraph threshold pairs).Reachable x y ↔ Relation.TransGen (Similar threshold pairs) x y := by
  rw [SimpleGraph.reachable_iff_reflTransGen]
  constructor
  · intro h
    induction h with
    | refl =>
      obtain ⟨z, hz⟩ := hMet
      exact .head hz (.single hz.symm)
    | tail _ hStep ih =>
      obtain ⟨_, hSimilar⟩ := (SimpleGraph.fromRel_adj _ _ _).mp hStep
      exact ih.tail (hSimilar.elim id Similar.symm)
  · have hStep : ∀ {x y}, Similar threshold pairs x y →
        Relation.ReflTransGen (similarityGraph threshold pairs).Adj x y := by
      intro x y h
      by_cases hEq : x = y
      · exact hEq ▸ .refl
      · exact .single ((SimpleGraph.fromRel_adj _ _ _).mpr ⟨hEq, Or.inl h⟩)
    intro h
    induction h with
    | single h => exact hStep h
    | tail _ h ih => exact ih.trans (hStep h)

theorem met_of_reachable {threshold : ℚ} {pairs : List SimilarPair}
    (h : (similarityGraph threshold pairs).Reachable x y) (hNe : x ≠ y) : ∃ z, Similar threshold pairs x z := by
  rw [SimpleGraph.reachable_iff_reflTransGen] at h
  rcases Relation.ReflTransGen.cases_head h with rfl | ⟨z, hStep, _⟩
  · exact absurd rfl hNe
  · obtain ⟨_, hSimilar⟩ := (SimpleGraph.fromRel_adj _ _ _).mp hStep
    exact ⟨z, hSimilar.elim id Similar.symm⟩

theorem members_eq_supp {threshold : ℚ} {pairs : List SimilarPair} (hScan : Scanned threshold pairs scan)
    (hIds : ∀ id, id ∈ ids ↔ ∃ y, Similar threshold pairs id y) (h : Grouped (Leads scan.unionFind.next) ids grouping)
    (hx : x ∈ membersAt grouping.grouped root) :
    {id | id ∈ membersAt grouping.grouped root} =
      ((similarityGraph threshold pairs).connectedComponentMk x).supp := by
  obtain ⟨hMet, hRoot⟩ := (h.members root x).mp hx
  have hReach (y : String) := reachable_iff ((hIds x).mp hMet) (y := y)
  ext y
  rw [Set.mem_ofPred_eq, SimpleGraph.ConnectedComponent.mem_supp_iff, SimpleGraph.ConnectedComponent.eq, h.members,
    SimpleGraph.reachable_comm, hReach, ← hScan.joined]
  constructor
  · exact fun hy => ⟨root, hRoot, hy.2⟩
  · intro hJoined
    have hChain := (hScan.joined y x).mp hJoined.symm
    obtain ⟨z, hz, _⟩ := Relation.TransGen.head'_iff.mp hChain
    exact ⟨(hIds y).mpr ⟨z, hz⟩, (joined_iff_leads hRoot).mp hJoined.symm⟩

def memberSet (cluster : List (String × ℚ)) : Set String := {id | id ∈ cluster.map Prod.fst}

theorem ids_clusterOf : ((clusterOf totals component).map Prod.fst).Perm component := by
  have hSorted := List.perm_insertionSort (fun left right : String × ℚ => right.2 < left.2 ∨ right.2 = left.2 ∧
    left.1 ≤ right.1) ((component.insertionSort (· ≤ ·)).map fun drawerId => (drawerId, averageOf totals drawerId))
  have hIds := hSorted.map Prod.fst
  have hFst : (Prod.fst ∘ fun drawerId => (drawerId, averageOf totals drawerId)) = id := rfl
  rw [List.map_map, hFst, List.map_id] at hIds
  exact hIds.trans (List.perm_insertionSort (· ≤ ·) component)

theorem memberSet_clusterOf : memberSet (clusterOf totals component) = {id | id ∈ component} := by
  ext id
  exact (ids_clusterOf).mem_iff

theorem ncard_of_nodup {l : List String} (h : l.Nodup) : {id | id ∈ l}.ncard = l.length := by
  rw [← List.toFinset_card_of_nodup h, ← Set.ncard_coe_finset, List.coe_toFinset]

/-- The clusters are the components with enough members, each of them once. -/
structure Components (threshold : ℚ) (minClusterSize : Nat) (pairs : List SimilarPair)
    (clusters : List (List (String × ℚ))) : Prop where
  exact : ∀ S : Set String, (∃ cluster ∈ clusters, memberSet cluster = S) ↔
    ∃ c : (similarityGraph threshold pairs).ConnectedComponent, c.supp = S ∧ minClusterSize ≤ S.ncard
  disjoint : clusters.Pairwise fun left right => Disjoint (memberSet left) (memberSet right)
  nodup : ∀ cluster ∈ clusters, (cluster.map Prod.fst).Nodup

theorem components_of_grouped {threshold : ℚ} {pairs : List SimilarPair} (hMin : 2 ≤ minClusterSize)
    (hScan : Scanned threshold pairs scan) (hIds : ∀ id, id ∈ ids ↔ ∃ y, Similar threshold pairs id y)
    (h : Grouped (Leads scan.unionFind.next) ids grouping) {clusters : List (List (String × ℚ))}
    (hClusters : clusters.Perm (((grouping.grouped.rows.map Group.members).filter
      fun component => minClusterSize ≤ component.length).map (clusterOf scan.totals))) :
    Components threshold minClusterSize pairs clusters := by
  have hMem : ∀ cluster, cluster ∈ clusters ↔ ∃ group ∈ grouping.grouped,
      minClusterSize ≤ group.members.length ∧ clusterOf scan.totals group.members = cluster := by
    intro cluster
    rw [hClusters.mem_iff]
    simp only [List.mem_map, List.mem_filter, decide_eq_true_eq]
    constructor
    · rintro ⟨_, ⟨⟨group, hGroup, rfl⟩, hSize⟩, rfl⟩
      exact ⟨group, hGroup, hSize, rfl⟩
    · rintro ⟨group, hGroup, hSize, rfl⟩
      exact ⟨_, ⟨⟨group, hGroup, rfl⟩, hSize⟩, rfl⟩
  have hNodup : ∀ group ∈ grouping.grouped, group.members.Nodup :=
    fun group hGroup => membersAt_of_mem hGroup ▸ h.nodup group.root
  refine ⟨fun S => ⟨?_, ?_⟩, ?_, ?_⟩
  · rintro ⟨cluster, hCluster, rfl⟩
    obtain ⟨group, hGroup, hSize, rfl⟩ := (hMem cluster).mp hCluster
    obtain ⟨x, hx⟩ := List.exists_mem_of_ne_nil _ (h.inhabited group hGroup)
    have hx' : x ∈ membersAt grouping.grouped group.root := by rwa [membersAt_of_mem hGroup]
    have hSupp := members_eq_supp hScan hIds h hx'
    rw [membersAt_of_mem hGroup] at hSupp
    rw [memberSet_clusterOf]
    exact ⟨_, hSupp.symm, by rwa [ncard_of_nodup (hNodup group hGroup)]⟩
  · -- a component with two members has a pair, so its drawers have been met and grouped
    rintro ⟨c, rfl, hSize⟩
    have hTwo : 1 < c.supp.ncard := by omega
    obtain ⟨x, hx, y, hy, hNe⟩ := (Set.one_lt_ncard (Set.finite_of_ncard_pos (by omega))).mp hTwo
    have hReach : (similarityGraph threshold pairs).Reachable x y :=
      SimpleGraph.ConnectedComponent.exact (hx.trans hy.symm)
    have hMet := met_of_reachable hReach hNe
    obtain ⟨root, hRoot, _⟩ := (hScan.joined x x).mpr
      (.head hMet.choose_spec (.single hMet.choose_spec.symm))
    have hIn := (h.members root x).mpr ⟨(hIds x).mpr hMet, hRoot⟩
    obtain ⟨group, hGroup, rfl⟩ := exists_of_mem_membersAt hIn
    have hSupp := members_eq_supp hScan hIds h hIn
    rw [membersAt_of_mem hGroup, hx] at hSupp
    rw [← hSupp, ncard_of_nodup (hNodup group hGroup)] at hSize
    exact ⟨_, (hMem _).mpr ⟨group, hGroup, hSize, rfl⟩, by rw [memberSet_clusterOf, hSupp]⟩
  · rw [hClusters.pairwise_iff fun hDisjoint => hDisjoint.symm, List.pairwise_map]
    refine List.Pairwise.filter _ ?_
    rw [List.pairwise_map]
    have hRoots : grouping.grouped.rows.Pairwise fun left right => left.root ≠ right.root :=
      List.pairwise_map.mp grouping.grouped.unique
    refine List.Pairwise.imp_of_mem ?_ hRoots
    intro left right hLeft hRight hNe
    rw [memberSet_clusterOf, memberSet_clusterOf, Set.disjoint_left]
    intro id hId hId'
    rw [← membersAt_of_mem hLeft] at hId
    rw [← membersAt_of_mem hRight] at hId'
    exact hNe (((h.members _ id).mp hId).2.unique ((h.members _ id).mp hId').2)
  · intro cluster hCluster
    obtain ⟨group, hGroup, _, rfl⟩ := (hMem cluster).mp hCluster
    exact (ids_clusterOf).nodup_iff.mpr (hNodup group hGroup)

theorem clusterPairs_returns {iteration : Iteration} {threshold : ℚ} {pairs : List SimilarPair}
    (hMin : 2 ≤ minClusterSize) :
    ∃ clusters, Returns (fun fuel => clusterPairs fuel iteration threshold minClusterSize pairs) clusters ∧
      Components threshold minClusterSize pairs clusters := by
  obtain ⟨scan, hReturns, hScan⟩ := scan_returns threshold pairs
  have hPerm := iteration.keys_perm (scan.totals.rows.map SimilarityTotal.id)
  have hIds : ∀ id, id ∈ iteration.keys (scan.totals.rows.map SimilarityTotal.id) ↔
      ∃ y, Similar threshold pairs id y := fun id => hPerm.mem_iff.trans (hScan.met id)
  have hKnown : ∀ id ∈ iteration.keys (scan.totals.rows.map SimilarityTotal.id),
      ∃ root, Leads scan.unionFind.next id root := by
    intro id hId
    obtain ⟨y, hy⟩ := (hIds id).mp hId
    obtain ⟨root, hRoot, _⟩ := (hScan.joined id y).mpr (.single hy)
    exact ⟨root, hRoot⟩
  obtain ⟨grouping, hReturns', hGrouped⟩ := grouping_returns hScan.forest
    (hPerm.nodup_iff.mpr scan.totals.unique) hKnown
  refine ⟨_, hReturns.bind (hReturns'.map _), components_of_grouped hMin hScan hIds hGrouped ?_⟩
  refine (List.perm_insertionSort _ _).trans ?_
  exact ((iteration.values_perm _).filter _).map _

def SamePairs (pairs pairs' : List SimilarPair) : Prop :=
  ∀ x y s, ⟨x, y, s⟩ ∈ pairs ∨ ⟨y, x, s⟩ ∈ pairs ↔ ⟨x, y, s⟩ ∈ pairs' ∨ ⟨y, x, s⟩ ∈ pairs'

theorem similar_congr {pairs pairs' : List SimilarPair} {threshold : ℚ} (h : SamePairs pairs pairs') :
    Similar threshold pairs = Similar threshold pairs' := by
  have hIff (ps : List SimilarPair) (x y : String) : Similar threshold ps x y ↔
      ∃ s, threshold < s ∧ (⟨x, y, s⟩ ∈ ps ∨ ⟨y, x, s⟩ ∈ ps) := by
    constructor
    · rintro ⟨pair, hPair, hAbove, ⟨rfl, rfl⟩ | ⟨rfl, rfl⟩⟩
      · exact ⟨_, hAbove, Or.inl hPair⟩
      · exact ⟨_, hAbove, Or.inr hPair⟩
    · rintro ⟨s, hAbove, hPair | hPair⟩
      · exact ⟨_, hPair, hAbove, Or.inl ⟨rfl, rfl⟩⟩
      · exact ⟨_, hPair, hAbove, Or.inr ⟨rfl, rfl⟩⟩
  funext x y
  rw [hIff, hIff]
  simp only [h x y]

/-- Every `find` returns, and so does the search for clusters. It returns the components of at least the asked size,
whatever the order of the pairs, of their ends and of the hash maps. -/
theorem similar_clusters_are_components (iteration : Iteration) (threshold : ℚ) (minClusterSize : Nat)
    (pairs : List SimilarPair) :
    (∀ uf, UnionFind.Built uf → ∀ id, ∃ found, Returns (fun fuel => uf.find fuel id) found) ∧
      if (0 ≤ threshold ∧ threshold ≤ 1) ∧ 2 ≤ minClusterSize then
        ∃ clusters,
          Returns (fun fuel => findSimilarClusters fuel iteration (some threshold) minClusterSize pairs)
            (.ok clusters) ∧
          Components threshold minClusterSize pairs clusters ∧
          ∀ iteration' pairs', SamePairs pairs pairs' → ∃ clusters',
            Returns (fun fuel => findSimilarClusters fuel iteration' (some threshold) minClusterSize pairs')
              (.ok clusters') ∧
            ∀ S, (∃ cluster ∈ clusters, memberSet cluster = S) ↔ ∃ cluster ∈ clusters', memberSet cluster = S
      else ∃ message,
        Returns (fun fuel => findSimilarClusters fuel iteration (some threshold) minClusterSize pairs)
          (.error (.invalidDrawerMetadata message)) := by
  constructor
  · intro uf hBuilt id
    obtain ⟨root, uf', hReturns, _⟩ := UnionFind.find_returns hBuilt.forest id
    exact ⟨_, hReturns⟩
  · by_cases hRange : 0 ≤ threshold ∧ threshold ≤ 1
    · have hFilter : (some threshold).filter (fun value => decide (0 ≤ value ∧ value ≤ 1)) = some threshold := by
        simp [Option.filter_some, hRange.1, hRange.2]
      by_cases hMin : 2 ≤ minClusterSize
      · rw [if_pos ⟨hRange, hMin⟩]
        have hOk : ∀ iteration pairs, ∃ clusters,
            Returns (fun fuel => findSimilarClusters fuel iteration (some threshold) minClusterSize pairs)
              (.ok clusters) ∧ Components threshold minClusterSize pairs clusters := by
          intro iteration pairs
          obtain ⟨clusters, hReturns, hComponents⟩ := clusterPairs_returns hMin
          refine ⟨clusters, ?_, hComponents⟩
          simp only [findSimilarClusters, hFilter, if_neg (Nat.not_lt.mpr hMin)]
          exact hReturns.map _
        obtain ⟨clusters, hReturns, hComponents⟩ := hOk iteration pairs
        refine ⟨clusters, hReturns, hComponents, fun iteration' pairs' hSame => ?_⟩
        obtain ⟨clusters', hReturns', hComponents'⟩ := hOk iteration' pairs'
        refine ⟨clusters', hReturns', fun S => ?_⟩
        rw [hComponents.exact, hComponents'.exact, similarityGraph, similarityGraph, similar_congr hSame]
      · rw [if_neg fun h => hMin h.2]
        refine ⟨"minimum compaction cluster size must be at least 2", ?_⟩
        simp only [findSimilarClusters, hFilter, if_pos (Nat.lt_of_not_ge hMin)]
        exact Returns.pure _
    · rw [if_neg fun h => hRange h.1]
      have hFilter : (some threshold).filter (fun value => decide (0 ≤ value ∧ value ≤ 1)) = none := by
        rw [Option.filter_some, if_neg (by simpa using hRange)]
      refine ⟨"compaction threshold must be finite and between 0.0 and 1.0", ?_⟩
      simp only [findSimilarClusters, hFilter]
      exact Returns.pure _

example : (clusterPairs 5 ⟨id, List.Perm.refl, id, List.Perm.refl⟩ (1 / 2) 2
    [⟨"a", "b", 9 / 10⟩, ⟨"d", "e", 1 / 5⟩, ⟨"b", "c", 3 / 4⟩]).map (List.map (List.map Prod.fst)) =
      some [["a", "b", "c"]] := by decide +kernel

end Mempal.Clusters

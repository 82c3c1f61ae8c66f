import Mempal.Drawers.VectorProject
import Mempal.Foundation.Ranking

set_option autoImplicit false

/-! A candidate is compared with the drawers nearest to its vector: a near copy is dropped, a similar one is merged
into the drawer that the decision names. -/

namespace Mempal.Drawers

open Foundation

inductive WingScope where
  | sameRoom
  | global
  | sameWing
deriving DecidableEq, Repr

structure NoveltyConfig where
  enabled : Bool
  duplicateThreshold : ℚ
  mergeThreshold : ℚ
  wingScope : WingScope
  topKCandidates : Nat
  noveltyScanLimit : Nat
deriving DecidableEq

structure NoveltyCandidate where
  wing : String
  room : Option String
  projectId : Option String
deriving DecidableEq, Repr

structure NoveltyDecision where
  action : NoveltyAction
  nearDrawerId : Option String
  cosine : Option ℚ
  shouldAudit : Bool
deriving DecidableEq

def NoveltyDecision.insert : NoveltyDecision := ⟨.insert, none, none, true⟩

/-- What the queries rely on from outside: the ids of the nearest vectors, in whatever order and number the index
gives them, the cosine similarity, the schema version as far as it can be read, and which queries fail. -/
structure VectorIndex where
  knn : Embedding → Nat → VectorTable → List String
  similarity : Embedding → Embedding → ℚ
  forkExtVersion : Option Nat
  countFails : Bool
  searchFails : Bool

/-- `ORDER BY similarity DESC LIMIT ..`. -/
def ranked (limit : Nat) (results : List (String × ℚ)) : List (String × ℚ) :=
  (results.insertionSort fun a b => b.2 ≤ a.2).take limit

def inScope (wing room projectId : Option String) (row : DrawerRow) : Bool :=
  row.isActive && wing.all (· = row.wing) && room.all (some · = row.room) && projectId.all (some · = row.projectId)

section Index
variable (index : VectorIndex) (s : Store)

def similarityTo (vector : Embedding) (row : DrawerRow) : Option (String × ℚ) :=
  (s.vectors.find? row.id).map fun v => (row.id, index.similarity v.embedding vector)

/-- `novelty_candidates`, in the form for schemas with a project column. -/
def noveltyCandidates (vector : Embedding) (wing room projectId : Option String) (limit : Nat) :
    List (String × ℚ) :=
  if s.vectors.dimension.isNone || limit = 0 then []
  else
    let matched := (index.knn vector limit s.vectors).filter fun id =>
      (s.vectors.find? id).any fun v => projectId.all (some · = v.projectId)
    ranked limit ((matched.filterMap fun id => (s.db.drawers.find? id).filter (inScope wing room projectId)).filterMap
      (similarityTo index s vector))

def novelRows (wing room projectId : Option String) : List DrawerRow :=
  s.db.drawers.rows.filter fun row => inScope wing room projectId row && (s.vectors.find? row.id).isSome

def countNoveltyCandidateDrawers (wing room projectId : Option String) : Nat :=
  if s.vectors.dimension.isNone then 0 else (novelRows s wing room projectId).length

/-- `novelty_candidates_exact`: the similarity of the most recent drawers. -/
def noveltyCandidatesExact (vector : Embedding) (wing room projectId : Option String) (limit scanLimit : Nat) :
    List (String × ℚ) :=
  if s.vectors.dimension.isNone || limit = 0 || scanLimit = 0 then []
  else
    let recent := ((novelRows s wing room projectId).insertionSort fun a b => b.rowid ≤ a.rowid).take scanLimit
    ranked limit (recent.filterMap (similarityTo index s vector))

def noveltyDecisionFromResults (results : List (String × ℚ)) (config : NoveltyConfig) : NoveltyDecision :=
  match results.head? with
  | none => .insert
  | some top =>
    if config.duplicateThreshold ≤ top.2 then ⟨.drop, some top.1, some top.2, true⟩
    else if config.mergeThreshold ≤ top.2 then ⟨.merge, some top.1, some top.2, true⟩
    else .insert

def noveltyScope (candidate : NoveltyCandidate) (config : NoveltyConfig) : Option String × Option String :=
  match config.wingScope with
  | .sameRoom => (some candidate.wing, candidate.room)
  | .global => (none, none)
  | .sameWing => (some candidate.wing, none)

/-- `novelty_vector_search_has_pushed_project_scope`. -/
def hasPushedProjectScope (candidate : NoveltyCandidate) (config : NoveltyConfig) (forkExtVersion : Nat) : Bool :=
  config.enabled && 0 < config.topKCandidates && candidate.wing ≠ "agent-diary" && candidate.projectId.isSome &&
    5 ≤ forkExtVersion

def evaluateNoProjectNovelty (candidate : NoveltyCandidate) (vector : Embedding) (config : NoveltyConfig) :
    NoveltyDecision :=
  let (wing, room) := noveltyScope candidate config
  if index.countFails then .insert
  else
    let candidateCount := countNoveltyCandidateDrawers s wing room none
    if index.searchFails then .insert
    else
      let results :=
        noveltyCandidatesExact index s vector wing room none config.topKCandidates config.noveltyScanLimit
      let decision := noveltyDecisionFromResults results config
      if decision.action = .insert && config.noveltyScanLimit < candidateCount then
        { decision with shouldAudit := false }
      else decision

/-- `evaluate`. -/
def evaluateNovelty (candidate : NoveltyCandidate) (vector : Embedding) (config : NoveltyConfig) : NoveltyDecision :=
  if !config.enabled || config.topKCandidates = 0 || candidate.wing = "agent-diary" then
    { NoveltyDecision.insert with shouldAudit := false }
  else
    match index.forkExtVersion with
    | none => .insert
    | some forkExtVersion =>
      if !hasPushedProjectScope candidate config forkExtVersion then
        if candidate.projectId.isSome then { NoveltyDecision.insert with shouldAudit := false }
        else evaluateNoProjectNovelty index s candidate vector config
      else
        let (wing, room) := noveltyScope candidate config
        if index.searchFails then .insert
        else
          noveltyDecisionFromResults
            (noveltyCandidates index s vector wing room candidate.projectId config.topKCandidates) config

end Index

def NoveltyConfig.Names (config : NoveltyConfig) (similarity : ℚ) : Prop :=
  config.duplicateThreshold ≤ similarity ∨ config.mergeThreshold ≤ similarity

variable {config : NoveltyConfig} {vector : Embedding} {near projectId : String} {candidate : NoveltyCandidate}
  {results : List (String × ℚ)} {limit : Nat} {p : Option String}

theorem nearDrawerId_fromResults_iff :
    (noveltyDecisionFromResults results config).nearDrawerId = some near ↔
      ∃ similarity, results.head? = some (near, similarity) ∧ config.Names similarity := by
  unfold noveltyDecisionFromResults NoveltyConfig.Names
  cases hHead : results.head? with
  | none => simp [NoveltyDecision.insert]
  | some top =>
    obtain ⟨id, similarity⟩ := top
    dsimp only
    split
    · rename_i hDuplicate
      simp [hDuplicate]
    · rename_i hDuplicate
      split
      · rename_i hMerge
        simp [hMerge]
      · rename_i hMerge
        simp [NoveltyDecision.insert, hDuplicate, hMerge]

theorem mem_of_head?_ranked {top : String × ℚ} (h : (ranked limit results).head? = some top) : top ∈ results :=
  (List.mem_insertionSort _).mp (List.mem_of_mem_take (List.mem_of_head? h))

section Index
variable {index : VectorIndex} {s : Store} {similarity : ℚ} {row : DrawerRow}

theorem noveltyCandidates_project {wing room : Option String}
    (h : (noveltyCandidates index s vector wing room (some projectId) limit).head? = some (near, similarity)) :
    s.rowProject near = some (some projectId) := by
  unfold noveltyCandidates at h
  split at h
  · cases h
  · have hMem := mem_of_head?_ranked h
    obtain ⟨row, hRow, hSimilar⟩ := List.mem_filterMap.mp hMem
    obtain ⟨id, _, hFind⟩ := List.mem_filterMap.mp hRow
    obtain ⟨hFound, hScope⟩ := Option.filter_eq_some_iff.mp hFind
    obtain ⟨v, _, hTop⟩ := Option.map_eq_some_iff.mp hSimilar
    have hProject : some projectId = row.projectId := by
      simpa using (Bool.and_eq_true_iff.mp hScope).2
    have hId : row.id = near := congrArg Prod.fst hTop
    rw [Store.rowProject, ← hId, (DrawerTable.find?_eq_some_iff.mp hFound).2, hFound, Option.map_some, hProject]

/-- Whether the decision is made among the drawers of all projects. -/
def comparesUnscoped (index : VectorIndex) (candidate : NoveltyCandidate) (config : NoveltyConfig) : Bool :=
  config.enabled && 0 < config.topKCandidates && candidate.wing ≠ "agent-diary" && candidate.projectId.isNone &&
    index.forkExtVersion.isSome && !index.countFails && !index.searchFails

/-- The drawers that an unscoped decision compares: the most recent ones of the wing or room, of any project. -/
def scannedRows (s : Store) (candidate : NoveltyCandidate) (config : NoveltyConfig) : List DrawerRow :=
  ((novelRows s (noveltyScope candidate config).1 (noveltyScope candidate config).2 none).insertionSort
    fun a b => b.rowid ≤ a.rowid).take config.noveltyScanLimit

def rowSimilarity (index : VectorIndex) (s : Store) (vector : Embedding) (row : DrawerRow) : ℚ :=
  ((s.vectors.find? row.id).map fun v => index.similarity v.embedding vector).getD 0

/-- The row is the most similar one of those scanned, and the most recent of several such. -/
structure MostSimilar (index : VectorIndex) (s : Store) (candidate : NoveltyCandidate) (vector : Embedding)
    (config : NoveltyConfig) (row : DrawerRow) : Prop where
  mem : row ∈ scannedRows s candidate config
  first : ∀ other ∈ scannedRows s candidate config,
    rowSimilarity index s vector other < rowSimilarity index s vector row ∨
      rowSimilarity index s vector other = rowSimilarity index s vector row ∧ other.rowid ≤ row.rowid

def unscopedResults (index : VectorIndex) (s : Store) (candidate : NoveltyCandidate) (vector : Embedding)
    (config : NoveltyConfig) : List (String × ℚ) :=
  noveltyCandidatesExact index s vector (noveltyScope candidate config).1 (noveltyScope candidate config).2 none
    config.topKCandidates config.noveltyScanLimit

theorem mem_scannedRows (h : row ∈ scannedRows s candidate config) :
    row ∈ s.db.drawers.rows ∧ (s.vectors.find? row.id).isSome = true := by
  obtain ⟨hRow, hNovel⟩ := List.mem_filter.mp ((List.mem_insertionSort _).mp (List.mem_of_mem_take h))
  exact ⟨hRow, (Bool.and_eq_true_iff.mp hNovel).2⟩

theorem unscopedResults_eq :
    unscopedResults index s candidate vector config =
      ranked config.topKCandidates
        ((scannedRows s candidate config).map fun row => (row.id, rowSimilarity index s vector row)) := by
  have hScanned : (scannedRows s candidate config).filterMap (similarityTo index s vector) =
      (scannedRows s candidate config).map fun row => (row.id, rowSimilarity index s vector row) := by
    rw [← List.filterMap_eq_map]
    apply List.filterMap_congr
    intro row hRow
    obtain ⟨v, hFind⟩ := Option.isSome_iff_exists.mp (mem_scannedRows hRow).2
    simp [similarityTo, rowSimilarity, hFind]
  rw [← hScanned, unscopedResults, noveltyCandidatesExact]
  split
  · rename_i hNone
    simp only [Bool.or_eq_true, decide_eq_true_eq] at hNone
    rcases hNone with (hNone | hNone) | hNone
    · have hNil : scannedRows s candidate config = [] := by
        refine List.eq_nil_iff_forall_not_mem.mpr fun row hRow => ?_
        obtain ⟨v, hFind⟩ := Option.isSome_iff_exists.mp (mem_scannedRows hRow).2
        rw [s.vectors.sized v (Table.find?_eq_some_iff.mp hFind).1] at hNone
        cases hNone
      rw [hNil]
      simp [ranked]
    · simp [ranked, hNone]
    · simp [scannedRows, ranked, hNone]
  · rfl

theorem mostSimilar_of_head? {near : String}
    (h : (unscopedResults index s candidate vector config).head? = some (near, similarity)) :
    ∃ row, MostSimilar index s candidate vector config row ∧ row.id = near ∧
      rowSimilarity index s vector row = similarity := by
  have hTotal : Std.Total fun a b : String × ℚ => b.2 ≤ a.2 := ⟨fun a b => le_total b.2 a.2⟩
  have hTrans : IsTrans (String × ℚ) fun a b => b.2 ≤ a.2 := ⟨fun _ _ _ hab hbc => hbc.trans hab⟩
  have hRecent : (scannedRows s candidate config).Pairwise fun a b => b.rowid ≤ a.rowid := by
    have : Std.Total fun a b : DrawerRow => b.rowid ≤ a.rowid := ⟨fun a b => le_total b.rowid a.rowid⟩
    have : IsTrans DrawerRow fun a b => b.rowid ≤ a.rowid := ⟨fun _ _ _ hab hbc => hbc.trans hab⟩
    exact (List.pairwise_insertionSort _ _).sublist (List.take_sublist _ _)
  rw [unscopedResults_eq, ranked, List.head?_take] at h
  split at h
  · cases h
  · obtain ⟨front, back, hRows, hFront, hBack⟩ := Ranking.head?_insertionSort h
    obtain ⟨frontRows, rest, hScanned, rfl, hRest⟩ := List.map_eq_append_iff.mp hRows
    obtain ⟨row, backRows, rfl, hRow, rfl⟩ := List.map_eq_cons_iff.mp hRest
    obtain ⟨rfl, rfl⟩ := Prod.mk.inj hRow
    rw [hScanned] at hRecent
    refine ⟨row, ⟨by simp [hScanned], fun other hOther => ?_⟩, rfl, rfl⟩
    rw [hScanned, List.mem_append, List.mem_cons] at hOther
    rcases hOther with hOther | rfl | hOther
    · exact .inl (not_le.mp (hFront _ (List.mem_map_of_mem hOther)))
    · exact .inr ⟨rfl, le_refl _⟩
    · rcases (hBack _ (List.mem_map_of_mem hOther)).lt_or_eq with hLess | hSame
      · exact .inl hLess
      · exact .inr ⟨hSame, (List.pairwise_cons.mp (List.pairwise_append.mp hRecent).2.1).1 other hOther⟩

theorem MostSimilar.eq {row row' : DrawerRow} (h : MostSimilar index s candidate vector config row)
    (h' : MostSimilar index s candidate vector config row') : row' = row := by
  have hRowid : row'.rowid = row.rowid := by
    rcases h.first row' h'.mem with hLess | ⟨hSame, hLe⟩
    · rcases h'.first row h.mem with hLess' | ⟨hSame', _⟩
      · exact absurd (hLess.trans hLess') (lt_irrefl _)
      · exact absurd hLess (hSame' ▸ lt_irrefl _)
    · rcases h'.first row h.mem with hLess' | ⟨_, hLe'⟩
      · exact absurd hLess' (hSame ▸ lt_irrefl _)
      · exact le_antisymm hLe hLe'
  exact List.inj_on_of_nodup_map s.db.drawers.rowids (mem_scannedRows h'.mem).1 (mem_scannedRows h.mem).1 hRowid

theorem MostSimilar.head? (h : MostSimilar index s candidate vector config row) (hTop : 0 < config.topKCandidates) :
    (unscopedResults index s candidate vector config).head? = some (row.id, rowSimilarity index s vector row) := by
  cases hHead : (unscopedResults index s candidate vector config).head? with
  | none =>
    rw [unscopedResults_eq, ranked, List.head?_take, if_neg hTop.ne', List.head?_eq_none_iff] at hHead
    have hMem := (List.mem_insertionSort fun a b : String × ℚ => b.2 ≤ a.2).mpr
      (List.mem_map_of_mem (f := fun row => (row.id, rowSimilarity index s vector row)) h.mem)
    rw [hHead] at hMem
    cases hMem
  | some top =>
    obtain ⟨near, similarity⟩ := top
    obtain ⟨row', h', rfl, rfl⟩ := mostSimilar_of_head? hHead
    rw [h.eq h']

theorem nearDrawerId_noProject :
    (evaluateNoProjectNovelty index s candidate vector config).nearDrawerId =
      if index.countFails || index.searchFails then none
      else (noveltyDecisionFromResults (unscopedResults index s candidate vector config) config).nearDrawerId := by
  unfold evaluateNoProjectNovelty
  cases index.countFails with
  | true => rfl
  | false =>
    cases index.searchFails with
    | true => rfl
    | false =>
      simp only [Bool.false_eq_true, if_false, Bool.or_self]
      split <;> rfl

theorem rowProject_of_scoped (hProject : candidate.projectId = some projectId)
    (h : (evaluateNovelty index s candidate vector config).nearDrawerId = some near) :
    s.rowProject near = some (some projectId) := by
  unfold evaluateNovelty at h
  split at h
  · cases h
  · split at h
    · cases h
    · split at h
      · rw [hProject] at h
        cases h
      · dsimp only at h
        split at h
        · cases h
        · obtain ⟨similarity, hHead, _⟩ := nearDrawerId_fromResults_iff.mp h
          rw [hProject] at hHead
          exact noveltyCandidates_project hHead

theorem nearDrawerId_unscoped (hProject : candidate.projectId = none) :
    (evaluateNovelty index s candidate vector config).nearDrawerId =
      if comparesUnscoped index candidate config then
        (noveltyDecisionFromResults (unscopedResults index s candidate vector config) config).nearDrawerId
      else none := by
  unfold evaluateNovelty
  split
  · rename_i hOff
    have hNot : comparesUnscoped index candidate config = false := by
      simp only [Bool.or_eq_true, Bool.not_eq_true', decide_eq_true_eq] at hOff
      rcases hOff with (hOff | hOff) | hOff <;> simp [comparesUnscoped, hOff]
    rw [hNot]
    rfl
  · rename_i hOn
    simp only [Bool.or_eq_true, Bool.not_eq_true', decide_eq_true_eq, not_or, Bool.not_eq_false] at hOn
    obtain ⟨⟨hEnabled, hTop⟩, hWing⟩ := hOn
    cases hVersion : index.forkExtVersion with
    | none => simp [comparesUnscoped, hVersion, NoveltyDecision.insert]
    | some version =>
      have hCompares : comparesUnscoped index candidate config = !(index.countFails || index.searchFails) := by
        simp [comparesUnscoped, hEnabled, hWing, hProject, hVersion, Nat.pos_of_ne_zero hTop]
      simp only [hasPushedProjectScope, hProject, Option.isSome_none, Bool.and_false, Bool.false_and, Bool.not_false,
        if_true, Bool.false_eq_true, if_false, nearDrawerId_noProject, hCompares]
      cases (index.countFails || index.searchFails) <;> rfl

end Index

def StoreOp.Inserts (id : String) : StoreOp → Prop
  | .insert drawer _ => drawer.id = id
  | .insertWithOwner drawer _ => drawer.id = id
  | .upsert drawer _ => drawer.id = id
  | _ => False

section Model
variable {model : TextModel} {s : Store} {k : String}

theorem rowProject_next {op : StoreOp} (hOther : ¬ op.Inserts k)
    (h : ((storeMachine model).next s op).rowProject k = some p) : s.rowProject k = some p := by
  cases hRemoves : op.removesOnly with
  | true => exact (losesOnly_next s hRemoves k).1 p h
  | false =>
    unfold Machine.next storeMachine at h
    cases op with
    | compact | softDelete | replaceSource | hardDelete | purge => cases hRemoves
    | insert drawer vector =>
      unfold insertDrawerWithVector at h
      cases hDb : insertDrawer model drawer s.db with
      | error e => simpa only [hDb] using h
      | ok db =>
        have hRow := rowProject_insertDrawer hDb k
        rw [if_neg (show ¬ drawer.id = k from hOther)] at hRow
        simp only [hDb] at h
        split at h <;> exact hRow.symm.trans h
    | insertWithOwner drawer admissionOwner =>
      dsimp only at h
      cases hDb : insertDrawerWithAdmissionOwner model drawer admissionOwner s.db with
      | error e => simpa only [hDb, transact, Except.map] using h
      | ok db =>
        have hRow := rowProject_insertWithOwner hDb k
        rw [if_neg (show ¬ drawer.id = k from hOther)] at hRow
        rw [hDb] at h
        exact hRow.symm.trans h
    | upsert drawer vector =>
      dsimp only at h
      cases hUpsert : upsertDrawerAndReplaceVector model drawer vector s with
      | error e => simpa only [hUpsert, transact] using h
      | ok s' =>
        have hRow := rowProject_upsertDrawer (upsertDrawerAndReplaceVector_spec hUpsert).1 k
        rw [if_neg (show ¬ drawer.id = k from hOther)] at hRow
        rw [hUpsert] at h
        exact hRow.symm.trans h
    | merge merge candidate =>
      dsimp only at h
      cases hMerge : mergeDrawer model merge candidate s with
      | error e => simpa only [hMerge, transact] using h
      | ok s' =>
        rw [hMerge] at h
        exact (updateDrawerAfterMerge_projects (mergeDrawer_spec model hMerge).1).2 k p h

theorem rowProject_final {ops : List StoreOp} (hOther : ∀ op ∈ ops, ¬ op.Inserts k)
    (h : ((storeMachine model).final s ops).rowProject k = some p) : s.rowProject k = some p := by
  induction ops generalizing s with
  | nil => exact h
  | cons op ops ih =>
    have hRest := ih (fun op hOp => hOther op (List.mem_cons_of_mem _ hOp)) h
    exact rowProject_next (hOther op List.mem_cons_self) hRest

end Model

/-- The drawer a decision names has the candidate's project, also when later the candidate is merged into it. -/
def StaysInProject (model : TextModel) (index : VectorIndex) (s : Store) (candidate : NoveltyCandidate)
    (vector : Embedding) (config : NoveltyConfig) : Prop :=
  ∀ near, (evaluateNovelty index s candidate vector config).nearDrawerId = some near →
    s.rowProject near = some candidate.projectId ∧
      ∀ ops, (∀ op ∈ ops, ¬ op.Inserts near) → ∀ merge consumed s', merge.drawerId = near →
        mergeDrawer model merge consumed ((storeMachine model).final s ops) = .ok s' →
          ((storeMachine model).final s ops).rowProject near = some candidate.projectId

theorem novelty_stays_in_project_iff (model : TextModel) (index : VectorIndex) (s : Store)
    (candidate : NoveltyCandidate) (vector : Embedding) (config : NoveltyConfig) :
    StaysInProject model index s candidate vector config ↔
      (comparesUnscoped index candidate config = true →
        ∀ row, MostSimilar index s candidate vector config row → config.Names (rowSimilarity index s vector row) →
          row.projectId = none) := by
  have hStored {row : DrawerRow} (h : MostSimilar index s candidate vector config row) :
      s.rowProject row.id = some row.projectId := by
    rw [Store.rowProject, DrawerTable.find?_eq_some_iff.mpr ⟨(mem_scannedRows h.mem).1, rfl⟩]
    rfl
  constructor
  · intro h hUnscoped row hRow hNames
    have hConditions := hUnscoped
    simp only [comparesUnscoped, Bool.and_eq_true, decide_eq_true_eq] at hConditions
    have hProject : candidate.projectId = none := Option.isNone_iff_eq_none.mp hConditions.1.1.1.2
    have hNear : (evaluateNovelty index s candidate vector config).nearDrawerId = some row.id := by
      rw [nearDrawerId_unscoped hProject, if_pos hUnscoped]
      exact nearDrawerId_fromResults_iff.mpr ⟨_, hRow.head? hConditions.1.1.1.1.1.2, hNames⟩
    have hSame := (h row.id hNear).1
    rw [hStored hRow, hProject] at hSame
    exact Option.some.inj hSame
  · intro h near hNear
    have hSame : s.rowProject near = some candidate.projectId := by
      cases hProject : candidate.projectId with
      | some projectId => exact rowProject_of_scoped hProject hNear
      | none =>
        rw [nearDrawerId_unscoped hProject] at hNear
        split at hNear
        · rename_i hUnscoped
          obtain ⟨similarity, hHead, hNames⟩ := nearDrawerId_fromResults_iff.mp hNear
          obtain ⟨row, hRow, rfl, rfl⟩ := mostSimilar_of_head? hHead
          rw [hStored hRow, h hUnscoped row hRow hNames]
        · cases hNear
    refine ⟨hSame, ?_⟩
    rintro ops hOther merge consumed s' rfl hMerge
    -- a merge finds the drawer, and no call in between could give its row another project
    obtain ⟨⟨row, hRow, _⟩, _⟩ := updateDrawerAfterMerge_projects (mergeDrawer_spec model hMerge).1
    have hNow : ((storeMachine model).final s ops).rowProject merge.drawerId = some row.projectId := by
      rw [Store.rowProject, hRow]
      rfl
    have hBefore := rowProject_final hOther hNow
    rw [hSame] at hBefore
    rw [hNow, Option.some.inj hBefore]

def plainIndex : VectorIndex where
  knn _ _ vectors := vectors.table.rows.map VectorRow.id
  similarity a b := if a = b then 1 else 0
  forkExtVersion := some 5
  countFails := false
  searchFails := false

def mergingConfig : NoveltyConfig := ⟨true, 2, 1, .sameWing, 5, 100⟩

/-- A drawer of project p in the wing of the candidate. -/
def foreignDrawer : Store := (storeMachine spacedWords).final .empty [.insert (scopedNote "a" "alpha" (some "p")) [0]]

theorem unscoped_merge_crosses :
    evaluateNovelty plainIndex foreignDrawer ⟨"notes", none, none⟩ [0] mergingConfig = ⟨.merge, some "a", some 1, true⟩ ∧
      foreignDrawer.rowProject "a" = some (some "p") := by
  decide +kernel

end Mempal.Drawers

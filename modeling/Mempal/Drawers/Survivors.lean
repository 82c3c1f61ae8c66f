import Mempal.Foundation.Pointers
import Mempal.Drawers.Consolidation
import Mempal.Drawers.LostUpdates

set_option autoImplicit false

/-! A compacted drawer points to the drawer it went into. No call makes a cycle or a pointer to nothing: a compaction
points from active drawers that were roots to another active root, an insert makes a root, and a drawer that is
pointed to is not deleted. -/

namespace Mempal.Drawers

open Foundation

/-- `compacted_into` by drawer id. -/
def survivor (drawers : DrawerTable) (id : String) : Option (Option String) :=
  (drawers.find? id).map DrawerRow.compactedInto

def Shelf.IsForest (shelf : Shelf) : Prop := Forest (survivor shelf.drawers)

def KeepsSurvivor (row row' : DrawerRow) : Prop := row'.compactedInto = row.compactedInto

variable {db db' : DrawerDb} {shelf shelf' : Shelf} {timestamp targetId : String} {sourceIds : List String}
  {c : Connection Shelf}

theorem survivor_eq_of_relate (h : RowsRelate KeepsSurvivor db db') :
    survivor db'.drawers = survivor db.drawers := by
  funext k
  have hRow := h k
  rw [survivor, survivor]
  revert hRow
  generalize db.drawers.find? k = row
  generalize db'.drawers.find? k = row'
  rintro (⟨hEq⟩ | _)
  · exact congrArg some hEq
  · rfl

variable {change : RowChange} {rest : Script Shelf DbError} {plan : Compaction}

theorem survivor_update (hChange : ∀ row, (change.apply row).compactedInto = row.compactedInto)
    (p : DrawerRow → Bool) (db : DrawerDb) : survivor (updateColumns p change db).drawers = survivor db.drawers :=
  survivor_eq_of_relate (rowsRelate_update (R := KeepsSurvivor) (fun _ => rfl) rfl fun row _ _ => hChange row)

theorem Shelf.IsForest.of_eq (h : shelf.IsForest)
    (hSame : survivor shelf'.drawers = survivor shelf.drawers) : shelf'.IsForest := by
  rw [IsForest, hSame]
  exact h

variable {next : Shelf → Script Shelf DbError} {guard : DrawerRow → Bool} {sourceId logId : String}
  {entry : ConsolidationRow} {strategy : CompactionStrategy} {importance : String → Int}
  {clusterDrawerIds : List String} {result : CompactionResult} {request : ClusterRequest}
  {fates : List (Fate DbError)} {c' : Connection Shelf}

section Statements
variable {model : TextModel} {Q : Shelf → Prop}

theorem safe_onDb {f : DrawerDb → Except DbError DrawerDb}
    (h : ∀ db, f shelf.store.db = .ok db → Q (shelf.setDb db) ∧ (next (shelf.setDb db)).Safe Q (shelf.setDb db)) :
    (Script.statement (onDb f) next).Safe Q shelf := by
  intro shelf' hShelf
  rw [onDb] at hShelf
  cases hRun : f shelf.store.db with
  | error e =>
    rw [hRun] at hShelf
    cases hShelf
  | ok db =>
    rw [hRun] at hShelf
    cases hShelf
    exact h db hRun

theorem updateContent_of_orFail {error : DbError} {id : String}
    (h : orFail error (updateContent model id guard change db) = .ok db') :
    updateContent model id guard change db = some db' := by
  cases hUpdate : updateContent model id guard change db with
  | none =>
    rw [hUpdate] at h
    cases h
  | some updated =>
    rw [hUpdate] at h
    cases h
    rfl

theorem survivor_updateContent {id : String}
    (hChange : ∀ row, (change.apply row).compactedInto = row.compactedInto)
    (h : updateContent model id guard change db = some db') : survivor db'.drawers = survivor db.drawers := by
  obtain ⟨_, _, _, hDrawers⟩ := drawers_updateContent h
  rw [hDrawers]
  exact survivor_update hChange _ db

theorem find?_retireSource (h : retireSource timestamp targetId sourceId db = .ok db') :
    (∃ row, db.drawers.find? sourceId = some row ∧ isCompactable row = true) ∧
      ∀ k, db'.drawers.find? k =
        if k = sourceId then (db.drawers.find? k).map (compactChange timestamp targetId).apply else db.drawers.find? k := by
  rw [retireSource] at h
  split at h
  · rename_i hAny
    cases h
    constructor
    · cases hFind : db.drawers.find? sourceId with
      | none =>
        rw [hFind] at hAny
        cases hAny
      | some row =>
        rw [hFind] at hAny
        exact ⟨row, rfl, hAny⟩
    · intro k
      show (db.drawers.update _ _).find? k = _
      rw [DrawerTable.find?_update]
      cases hFind : db.drawers.find? k with
      | none => simp
      | some row =>
        have hId := (DrawerTable.find?_eq_some_iff.mp hFind).2
        by_cases hk : k = sourceId <;> simp [hId, hk]
  · cases h

theorem forest_retireSource (h : retireSource timestamp targetId sourceId db = .ok db') (hNe : sourceId ≠ targetId)
    (hForest : Forest (survivor db.drawers)) (hTarget : survivor db.drawers targetId = some none) :
    Forest (survivor db'.drawers) ∧ survivor db'.drawers targetId = some none := by
  obtain ⟨⟨row, hRow, hCompactable⟩, hFind⟩ := find?_retireSource h
  have hKept : ∀ k ≠ sourceId, survivor db'.drawers k = survivor db.drawers k := by
    intro k hk
    rw [survivor, survivor, hFind, if_neg hk]
  constructor
  · have hOld : survivor db.drawers sourceId = some none := by
      rw [survivor, hRow, Option.map_some, Option.some.injEq]
      exact Option.isNone_iff_eq_none.mp (Bool.and_eq_true_iff.mp hCompactable).2
    refine hForest.redirect hTarget hOld hNe.symm ?_ hKept
    rw [survivor, hFind, if_pos rfl, hRow]
    rfl
  · exact (hKept targetId hNe.symm).trans hTarget

theorem safe_retireScript
    (hRest : ∀ shelf, shelf.IsForest → rest.Safe Shelf.IsForest shelf) (hForest : shelf.IsForest)
    (hTarget : survivor shelf.drawers targetId = some none) :
    (retireScript timestamp targetId rest sourceIds).Safe Shelf.IsForest shelf := by
  induction sourceIds generalizing shelf with
  | nil => exact hRest shelf hForest
  | cons sourceId sourceIds ih =>
    rw [retireScript]
    split
    · exact ih hForest hTarget
    · rename_i hNe
      apply safe_onDb
      intro db hRetire
      obtain ⟨hForest', hTarget'⟩ := forest_retireSource hRetire hNe hForest hTarget
      exact ⟨hForest', ih hForest' hTarget'⟩

theorem drawers_insertLogRow (h : insertLogRow entry shelf = .ok shelf') : shelf'.store = shelf.store := by
  rw [insertLogRow] at h
  split at h <;> cases h
  rfl

theorem safe_compactionScript (plan : Compaction) (strategy : CompactionStrategy) (timestamp logId : String)
    (hForest : shelf.IsForest) :
    (compactionScript model plan strategy timestamp logId).Safe Shelf.IsForest shelf := by
  rintro _ ⟨⟩
  refine ⟨hForest, ?_⟩
  dsimp only
  split
  · trivial
  · rename_i target hTarget
    obtain ⟨hFound, hCompactable⟩ := Option.filter_eq_some_iff.mp hTarget
    have hRoot : survivor shelf.drawers plan.targetId = some none := by
      rw [survivor, hFound, Option.map_some, Option.some.injEq]
      exact Option.isNone_iff_eq_none.mp (Bool.and_eq_true_iff.mp hCompactable).2
    apply safe_onDb
    rintro _ ⟨⟩
    refine ⟨hForest, ?_⟩
    apply safe_onDb
    intro updated hUpdate
    have hSame := survivor_updateContent (fun _ => rfl) (updateContent_of_orFail hUpdate)
    have hForest' : Forest (survivor updated.drawers) := hSame ▸ hForest
    refine ⟨hForest', ?_⟩
    apply safe_onDb
    rintro _ ⟨⟩
    refine ⟨hForest', ?_⟩
    apply safe_retireScript
    · intro shelf hShelf shelf' hLog
      have hStore := drawers_insertLogRow hLog
      exact ⟨hShelf.of_eq (by rw [Shelf.drawers, Shelf.drawers, hStore]), trivial⟩
    · exact hForest'
    · exact (congrFun hSame plan.targetId).trans hRoot

variable (drawer : NewDrawer)

theorem survivor_insertOrIgnore {k : String} (drawers : DrawerTable) :
    survivor (drawers.insertOrIgnore (drawer.row model) fun _ => rfl) k =
      if drawer.id = k then some ((survivor drawers k).getD none) else survivor drawers k := by
  have hFind : (drawers.insertOrIgnore (drawer.row model) fun _ => rfl).find? k =
      if drawer.id = k then some ((drawers.find? k).getD (drawer.row model drawers.nextRowid)) else drawers.find? k :=
    drawers.find?_insertOrIgnore (drawer.row model) (fun _ => rfl) k
  rw [survivor, survivor, hFind]
  by_cases hk : drawer.id = k
  · rw [if_pos hk, if_pos hk]
    cases drawers.find? k <;> rfl
  · rw [if_neg hk, if_neg hk]

theorem forest_insertOrIgnore (model : TextModel) (drawer : NewDrawer) {drawers : DrawerTable}
    (h : Forest (survivor drawers)) :
    Forest (survivor (drawers.insertOrIgnore (drawer.row model) fun _ => rfl)) := by
  apply h.grow
  · intro k v hk
    rw [survivor_insertOrIgnore, hk]
    split <;> rfl
  · intro k v hk
    rw [survivor_insertOrIgnore] at hk
    split at hk
    · cases hOld : survivor drawers k with
      | none =>
        rw [hOld] at hk
        cases hk
        exact Or.inr rfl
      | some v' =>
        rw [hOld] at hk
        exact Or.inl hk
    · exact Or.inl hk

theorem safe_insertScript (hRest : ∀ shelf, shelf.IsForest → rest.Safe Shelf.IsForest shelf)
    (hForest : shelf.IsForest) :
    (insertScript model drawer rest).Safe Shelf.IsForest shelf := by
  rw [insertScript]
  split
  · trivial
  · apply safe_onDb
    rintro _ ⟨⟩
    have hForest' := forest_insertOrIgnore model drawer hForest
    refine ⟨hForest', ?_⟩
    split
    · trivial
    · apply safe_onDb
      rintro _ ⟨⟩
      exact ⟨hForest', hRest _ hForest'⟩

theorem forest_deleteCandidate {candidateId owner : String} (hForest : shelf.IsForest)
    (h : deleteCandidate candidateId owner shelf = .ok shelf') : shelf'.IsForest := by
  rw [deleteCandidate] at h
  split at h
  · cases h
  · rename_i hFree
    cases h
    have hFind : ∀ k, (deleteRows (fun row => row.id = candidateId && row.admissionOwner = some owner)
        shelf.store.db).drawers.find? k =
          (shelf.drawers.find? k).filter fun row => !(row.id = candidateId && row.admissionOwner = some owner) :=
      fun k => DrawerTable.find?_delete _ _ k
    have hKept : ∀ k ≠ candidateId, survivor (deleteRows (fun row => row.id = candidateId &&
        row.admissionOwner = some owner) shelf.store.db).drawers k = survivor shelf.drawers k := by
      intro k hk
      rw [survivor, survivor, hFind]
      cases hRow : shelf.drawers.find? k with
      | none => rfl
      | some row =>
        have hId := (DrawerTable.find?_eq_some_iff.mp hRow).2
        rw [Option.filter_some, if_pos (by simp [hId, hk])]
    cases hCandidate : shelf.drawers.find? candidateId with
    | none =>
      refine hForest.of_eq (funext fun k => ?_)
      by_cases hk : k = candidateId
      · show survivor (deleteRows _ _).drawers k = _
        rw [survivor, survivor, hFind, hk, hCandidate]
        rfl
      · exact hKept k hk
    | some row =>
      obtain ⟨hMem, hId⟩ := DrawerTable.find?_eq_some_iff.mp hCandidate
      by_cases hOwner : row.admissionOwner = some owner
      · -- the row is deleted, and the foreign key has seen that nothing points to it
        have hAny : shelf.drawers.rows.any
            (fun row => row.id = candidateId && row.admissionOwner = some owner) = true :=
          List.any_eq_true.mpr ⟨row, hMem, by simp [hId, hOwner]⟩
        refine Forest.drop hForest ?_ ?_ hKept
        · intro k hPoints
          by_cases hk : k = candidateId
          · subst hk
            obtain ⟨r, hLeads⟩ := hForest k _ hPoints
            exact hLeads.not_cycle (Relation.TransGen.single hPoints)
          · obtain ⟨pointing, hPointing, hInto⟩ := Option.map_eq_some_iff.mp hPoints
            obtain ⟨hMem', hId'⟩ := DrawerTable.find?_eq_some_iff.mp hPointing
            apply hFree
            rw [Bool.and_eq_true_iff, Shelf.isReferenced]
            refine ⟨hAny, ?_⟩
            rw [Bool.or_eq_true, Bool.or_eq_true]
            exact Or.inl (Or.inl (List.any_eq_true.mpr ⟨pointing, hMem', by simp [hId', hk, hInto]⟩))
        · show survivor (deleteRows _ _).drawers candidateId = none
          rw [survivor, hFind, hCandidate, Option.filter_some, if_neg (by simp [hId, hOwner])]
          rfl
      · refine hForest.of_eq (funext fun k => ?_)
        by_cases hk : k = candidateId
        · show survivor (deleteRows _ _).drawers k = _
          rw [survivor, survivor, hFind, hk, hCandidate, Option.filter_some, if_pos (by simp [hOwner])]
        · exact hKept k hk

theorem safe_onVectors {f : VectorTable → Except DbError VectorTable} (hForest : shelf.IsForest)
    (h : ∀ shelf', shelf'.store.db = shelf.store.db → (next shelf').Safe Shelf.IsForest shelf') :
    (Script.statement (onVectors f) next).Safe Shelf.IsForest shelf := by
  intro shelf' hShelf
  rw [onVectors] at hShelf
  cases hRun : f shelf.store.vectors with
  | error e =>
    rw [hRun] at hShelf
    cases hShelf
  | ok vectors =>
    rw [hRun] at hShelf
    cases hShelf
    exact ⟨hForest.of_eq rfl, h _ rfl⟩

theorem safe_mergeScript (merge : DrawerMerge) (candidate : Option (String × String))
    (hForest : shelf.IsForest) : (mergeScript model merge candidate).Safe Shelf.IsForest shelf := by
  apply safe_onVectors hForest
  intro ensured hEnsured
  apply safe_onDb
  intro updated hUpdate
  have hSame : survivor updated.drawers = survivor ensured.drawers :=
    survivor_updateContent (fun _ => rfl) (updateContent_of_orFail hUpdate)
  have hForest' : (ensured.setDb updated).IsForest :=
    hForest.of_eq (hSame.trans (by rw [Shelf.drawers, Shelf.drawers, hEnsured]))
  refine ⟨hForest', ?_⟩
  apply safe_onVectors hForest'
  intro replaced hReplaced
  have hReplaced' : replaced.IsForest := hForest'.of_eq (by rw [Shelf.drawers, Shelf.drawers, hReplaced])
  intro audited hAudited
  have hAudited' : audited.IsForest := by
    cases hAudited
    exact hReplaced'.of_eq rfl
  refine ⟨hAudited', ?_⟩
  split
  · trivial
  · split
    · intro deleted hDelete
      exact ⟨forest_deleteCandidate hAudited' hDelete, trivial⟩
    · trivial

theorem safe_softDeleteScript (timestamp : String) (which : List SoftDelete)
    (hForest : shelf.IsForest) : (softDeleteScript timestamp which).Safe Shelf.IsForest shelf := by
  induction which generalizing shelf with
  | nil => trivial
  | cons which rest ih =>
    apply safe_onDb
    rintro _ ⟨⟩
    have hForest' : (shelf.setDb (softDelete which timestamp shelf.store.db)).IsForest := by
      have hChange : ∀ row, ((which.change timestamp).apply row).compactedInto = row.compactedInto := by
        cases which <;> exact fun _ => rfl
      exact hForest.of_eq (survivor_update hChange (fun row => row.isActive && which.takes row) shelf.store.db)
    exact ⟨hForest', ih hForest'⟩

theorem safe_script (op : ShelfOp) (hForest : shelf.IsForest) : (op.script model).Safe Shelf.IsForest shelf := by
  cases op with
  | insert drawer =>
    apply safe_insertScript drawer _ hForest
    intro _ _
    trivial
  | insertWithOwner drawer admissionOwner =>
    rintro _ ⟨⟩
    refine ⟨hForest, ?_⟩
    dsimp only
    split
    · trivial
    · apply safe_insertScript drawer _ hForest
      intro shelf hShelf
      cases admissionOwner with
      | none => trivial
      | some owner =>
        apply safe_onDb
        rintro _ ⟨⟩
        refine ⟨?_, trivial⟩
        have hChange : ∀ row, ((ownerChange (some owner)).apply row).compactedInto = row.compactedInto := fun _ => rfl
        exact hShelf.of_eq (survivor_update hChange (fun row => row.id = drawer.id) shelf.store.db)
  | merge update candidate => exact safe_mergeScript update candidate hForest
  | softDelete which timestamp => exact safe_softDeleteScript timestamp which hForest

end Statements

section Runs
variable {model : TextModel}

structure Sound (c : Connection Shelf) : Prop where
  stored : c.stored.IsForest
  visible : c.visible.IsForest

theorem Sound.transact {script : Script Shelf DbError} (hSafe : ∀ shelf, shelf.IsForest → script.Safe Shelf.IsForest shelf)
    (h : Sound c) (rollsBack : Bool) (fates : List (Fate DbError)) :
    Sound (script.transact .sqlite .sqlite rollsBack fates c).2 := by
  obtain ⟨hStored, hVisible⟩ :=
    Script.transact_contents .sqlite .sqlite rollsBack fates h.stored h.visible (hSafe _ h.visible)
  exact ⟨hStored, hVisible⟩

theorem sound_applyCompactionOn (model : TextModel) (plan : Compaction) (strategy : CompactionStrategy)
    (timestamp logId : String) (fates : List (Fate DbError)) (h : Sound c) :
    Sound (applyCompactionOn model plan strategy timestamp logId fates c).2 := by
  rw [applyCompactionOn]
  split
  · exact h
  · exact h.transact (fun _ => safe_compactionScript plan strategy timestamp logId) false fates

theorem sound_mergeCluster (request : ClusterRequest) (fates : List (Fate DbError))
    (h : Sound c) : Sound (mergeCluster model request fates c).2 := by
  rw [mergeCluster]
  split
  · exact h
  · split
    · exact h
    · rename_i plan _
      have hApplied :=
        sound_applyCompactionOn model plan request.strategy request.timestamp request.logId fates h
      split
      · exact h
      · split
        · rename_i hEq
          rwa [hEq] at hApplied
        · rename_i hEq
          rwa [hEq] at hApplied

theorem sound_run {scope : Scope} (op : ShelfOp) (fates : List (Fate DbError)) (h : Sound c) :
    Sound (op.run model scope fates c).2 := by
  cases scope with
  | statements =>
    obtain ⟨hStored, hVisible⟩ := Script.run_contents fates h.stored h.visible (safe_script op h.visible)
    exact ⟨hStored, hVisible⟩
  | transaction rollsBack => exact h.transact (fun _ => safe_script op) rollsBack fates

theorem Sound.begin (fate : Fate DbError) (h : Sound c) : Sound (c.begin .sqlite fate).2 := by
  cases fate with
  | fails error => exact h
  | cancels error => exact ⟨h.stored, h.stored⟩
  | runs =>
    rw [Connection.begin]
    split
    · exact h
    · exact ⟨h.stored, h.stored⟩

theorem Sound.commit (fate : Fate DbError) (h : Sound c) : Sound (c.commit .sqlite fate).2 := by
  cases fate with
  | fails error => exact h
  | cancels error => exact ⟨h.stored, h.stored⟩
  | runs =>
    have hVisible := h.visible
    rw [Connection.commit]
    split
    · exact h
    · rename_i content hWorking
      rw [Connection.visible, hWorking, Option.getD_some] at hVisible
      exact ⟨hVisible, hVisible⟩

theorem sound_step (c : Connection Shelf) (action : ShelfAction) (h : Sound c) :
    Sound ((shelfMachine model).next c action) := by
  cases action with
  | mergeCluster request fates => exact sound_mergeCluster request fates h
  | write op scope fates => exact sound_run op fates h
  | begin fate => exact h.begin fate
  | commit fate => exact h.commit fate
  | rollback => exact ⟨h.stored, h.stored⟩

def Shelf.Uncompacted (shelf : Shelf) : Prop := ∀ row ∈ shelf.drawers, row.compactedInto = none

theorem Shelf.Uncompacted.isForest (h : shelf.Uncompacted) : shelf.IsForest := by
  intro k v hk
  obtain ⟨row, hRow, hInto⟩ := Option.map_eq_some_iff.mp hk
  rw [h row (DrawerTable.find?_eq_some_iff.mp hRow).1] at hInto
  exact ⟨k, .root (hk.trans (congrArg some hInto.symm))⟩

theorem sound_final {actions : List ShelfAction} {start : Shelf} (h : start.Uncompacted) :
    Sound ((shelfMachine model).final ⟨start, none⟩ actions) :=
  Machine.invariant sound_step (s := ⟨start, none⟩) ⟨h.isForest, h.isForest⟩ actions

end Runs

section Effects
variable {model : TextModel}

theorem retireSources_cons (timestamp targetId sourceId : String) (sourceIds : List String) (db : DrawerDb) :
    retireSources timestamp targetId (sourceId :: sourceIds) db =
      if sourceId = targetId then retireSources timestamp targetId sourceIds db
      else (retireSource timestamp targetId sourceId db).bind (retireSources timestamp targetId sourceIds) := by
  rw [retireSources, retireSource]
  split
  · rfl
  · split <;> rfl

theorem apply_retireScript :
    (retireScript timestamp targetId rest sourceIds).apply shelf =
      (retireSources timestamp targetId sourceIds shelf.store.db).bind fun db => rest.apply (shelf.setDb db) := by
  induction sourceIds generalizing shelf with
  | nil => rfl
  | cons sourceId sourceIds ih =>
    rw [retireScript, retireSources_cons]
    split
    · exact ih
    · rw [Script.apply, onDb]
      cases retireSource timestamp targetId sourceId shelf.store.db with
      | error e => rfl
      | ok db => exact ih

theorem apply_compactionScript (hSources : plan.sourceIds.isEmpty = false)
    (h : (compactionScript model plan strategy timestamp logId).apply shelf = .ok shelf') :
    ∃ db entry, applyCompaction model plan.targetId plan.sourceIds plan.mergedContent timestamp shelf.store.db = .ok db ∧
      entry.targetDrawerId = plan.targetId ∧ insertLogRow entry (shelf.setDb db) = .ok shelf' := by
  cases hTarget : (shelf.drawers.find? plan.targetId).filter isCompactable with
  | none =>
    simp only [compactionScript, Script.apply, hTarget] at h
    cases h
  | some target =>
    cases hUpdate : updateContent model plan.targetId isCompactable
        (mergeChange model plan.mergedContent (plan.sourceIds.length - 1))
        (ftsDelete model target.rowid (ftsTokenizeContent model target.content) shelf.store.db) with
    | none =>
      simp only [compactionScript, Script.apply, hTarget, onDb, Except.map, Shelf.setDb, hUpdate, orFail] at h
      cases h
    | some updated =>
      simp only [compactionScript, Script.apply, hTarget, onDb, Except.map, Shelf.setDb, hUpdate, orFail,
        apply_retireScript] at h
      cases hRetire : retireSources timestamp plan.targetId plan.sourceIds
          (ftsInsert model target.rowid (ftsTokenizeContent model plan.mergedContent) updated) with
      | error e =>
        rw [hRetire] at h
        cases h
      | ok db =>
        rw [hRetire] at h
        refine ⟨db, ⟨logId, target.wing, target.room, target.projectId, plan.sourceIds.length, strategy, plan.targetId,
          plan.sourceIds⟩, ?_, rfl, ?_⟩
        · have hTarget' : (shelf.store.db.drawers.find? plan.targetId).filter isCompactable = some target := hTarget
          simp only [applyCompaction, hSources, hTarget', hUpdate, hRetire, Bool.false_eq_true, if_false]
        · simp only [Except.bind] at h
          split at h
          · cases h
          · rename_i hLog
            cases h
            exact hLog

theorem find?_retireSources (h : retireSources timestamp targetId sourceIds db = .ok db') :
    (∀ id ∈ sourceIds, id ≠ targetId → ∃ row, db.drawers.find? id = some row) ∧
      ∀ k, db'.drawers.find? k =
        if k ∈ sourceIds ∧ k ≠ targetId then (db.drawers.find? k).map (compactChange timestamp targetId).apply
        else db.drawers.find? k := by
  induction sourceIds generalizing db with
  | nil =>
    cases h
    exact ⟨fun id hId => absurd hId List.not_mem_nil, fun k => by simp⟩
  | cons sourceId sourceIds ih =>
    rw [retireSources_cons] at h
    by_cases hTarget : sourceId = targetId
    · rw [if_pos hTarget] at h
      obtain ⟨hFound, hFind⟩ := ih h
      constructor
      · intro id hId hNe
        rcases List.mem_cons.mp hId with rfl | hId
        · exact absurd hTarget hNe
        · exact hFound id hId hNe
      · intro k
        rw [hFind]
        by_cases hk : k = targetId <;> simp [hk, hTarget]
    · rw [if_neg hTarget] at h
      cases hRetire : retireSource timestamp targetId sourceId db with
      | error e =>
        rw [hRetire] at h
        cases h
      | ok retired =>
        rw [hRetire] at h
        obtain ⟨⟨row, hRow, _⟩, hHead⟩ := find?_retireSource hRetire
        obtain ⟨hFound, hFind⟩ := ih h
        constructor
        · intro id hId hNe
          by_cases hSame : id = sourceId
          · exact ⟨row, hSame ▸ hRow⟩
          · obtain ⟨row', hRow'⟩ := hFound id ((List.mem_cons.mp hId).resolve_left hSame) hNe
            rw [hHead, if_neg hSame] at hRow'
            exact ⟨row', hRow'⟩
        · intro k
          rw [hFind, hHead]
          by_cases hk : k = sourceId
          · -- a drawer listed twice would be retired to the same row
            subst hk
            by_cases hAgain : k ∈ sourceIds <;> simp [hAgain, hTarget, hRow, compactChange]
          · simp [hk]

theorem survivors_applyCompaction {mergedContent : String}
    (h : applyCompaction model targetId sourceIds mergedContent timestamp db = .ok db') :
    (∃ row, db'.drawers.find? targetId = some row ∧ row.isActive = true ∧ row.compactedInto = none) ∧
      ∀ id ∈ sourceIds, id ≠ targetId →
        ∃ row, db'.drawers.find? id = some row ∧ row.deletedAt.isSome = true ∧ row.compactedInto = some targetId := by
  obtain ⟨_, target, updated, hTarget, hCompactable, hUpdate, hRetire⟩ := exists_of_applyCompaction h
  obtain ⟨hActive, hInto⟩ := Bool.and_eq_true_iff.mp hCompactable
  obtain ⟨hFound, hFind⟩ := find?_retireSources hRetire
  constructor
  · refine ⟨(mergeChange model mergedContent (sourceIds.length - 1)).apply target, ?_, hActive,
      Option.isNone_iff_eq_none.mp hInto⟩
    rw [hFind, if_neg (fun hBoth => hBoth.2 rfl)]
    show updated.drawers.find? targetId = _
    rw [find?_updateContent hUpdate, if_pos rfl]
    exact congrArg (Option.map _) hTarget
  · intro id hId hNe
    obtain ⟨row, hRow⟩ := hFound id hId hNe
    refine ⟨(compactChange timestamp targetId).apply row, ?_, rfl, rfl⟩
    rw [hFind, if_pos ⟨hId, hNe⟩, hRow]
    rfl

/-- A cluster has been merged: the target survives, every other listed drawer is retired into it, and the log has one
row more. -/
structure Merged (clusterDrawerIds : List String) (result : CompactionResult) (before after : Shelf) : Prop where
  listed : result.targetId ∈ clusterDrawerIds
  target : ∃ row, after.drawers.find? result.targetId = some row ∧ row.isActive = true ∧ row.compactedInto = none
  retired : ∀ id ∈ clusterDrawerIds, id ≠ result.targetId → ∃ row, after.drawers.find? id = some row ∧
    row.deletedAt.isSome = true ∧ row.compactedInto = some result.targetId
  logged : ∃ entry, after.log.rows = before.log.rows ++ [entry] ∧ entry.targetDrawerId = result.targetId

theorem rows_insertLogRow
    (h : insertLogRow entry shelf = .ok shelf') : shelf'.log.rows = shelf.log.rows ++ [entry] := by
  rw [insertLogRow] at h
  split at h
  · cases h
  · rename_i hFree
    cases h
    have hFresh := Table.contains_eq_false_iff.mp (Bool.eq_false_iff.mpr hFree)
    exact Table.insertOrIgnore_of_fresh hFresh

theorem merged_of_apply {before after : Shelf}
    (hPlan : planCompaction importance clusterDrawerIds before.store = .ok plan)
    (hSources : plan.sourceIds.isEmpty = false) (hResult : result.targetId = plan.targetId)
    (h : (compactionScript model plan strategy timestamp logId).apply before = .ok after) :
    Merged clusterDrawerIds result before after := by
  obtain ⟨hIds, hListed, _⟩ := planCompaction_spec hPlan
  obtain ⟨db, entry, hApply, hEntry, hLog⟩ := apply_compactionScript hSources h
  obtain ⟨hTarget, hRetired⟩ := survivors_applyCompaction hApply
  have hStore := drawers_insertLogRow hLog
  have hRows := rows_insertLogRow hLog
  have hDrawers : after.drawers = db.drawers := by
    rw [Shelf.drawers, hStore]
    rfl
  refine ⟨hResult ▸ hListed, ?_, ?_, entry, hRows, hEntry.trans hResult.symm⟩
  · rw [hDrawers, hResult]
    exact hTarget
  · intro id hId hNe
    rw [hDrawers, hResult]
    exact hRetired id (hIds ▸ List.mem_eraseDups.mpr hId) (hResult ▸ hNe)

/-- The call reaches its `COMMIT`, which fails and leaves the transaction open. -/
def CommitFails (model : TextModel) (request : ClusterRequest) (fates : List (Fate DbError)) (c : Connection Shelf) :
    Prop :=
  request.strategy = .richestContent ∧ request.dryRun = false ∧
    ∃ plan, planCompaction request.importance request.clusterDrawerIds c.visible.store = .ok plan ∧
      plan.sourceIds.isEmpty = false ∧
      (compactionScript model plan request.strategy request.timestamp request.logId).CommitRefused fates c

def Unaffected (c c' : Connection Shelf) : Prop := c'.stored = c.stored ∧ c'.visible = c.visible

theorem mergeCluster_ok (h : mergeCluster model request fates c = (.ok result, c')) :
    if request.dryRun then c' = c else Merged request.clusterDrawerIds result c.visible c'.visible := by
  rw [mergeCluster] at h
  split at h
  · cases h
  · split at h
    · cases h
    · rename_i plan hPlan
      split at h
      · rename_i hDry
        cases h
        rw [if_pos hDry]
      · rename_i hWet
        rw [if_neg hWet]
        split at h
        · cases h
        · rename_i hApply
          cases h
          rw [applyCompactionOn] at hApply
          split at hApply
          · cases hApply
          · rename_i hSources
            have hOk := Script.transact_ok (congrArg Prod.fst hApply)
            rw [hApply] at hOk
            exact merged_of_apply hPlan (Bool.eq_false_iff.mpr hSources) rfl hOk

theorem mergeCluster_error
    {error : CompactionError} (hIdle : c.working = none) (h : mergeCluster model request fates c = (.error error, c')) :
    Unaffected c c' ↔ ¬CommitFails model request fates c := by
  have hVisible : c.visible = c.stored := by rw [Connection.visible, hIdle, Option.getD_none]
  rw [mergeCluster] at h
  split at h
  · rename_i hStrategy
    cases h
    refine iff_of_true ⟨rfl, rfl⟩ fun hFails => ?_
    cases hStrategy.symm.trans hFails.1
  · rename_i hStrategy
    split at h
    · rename_i e hPlan
      cases h
      refine iff_of_true ⟨rfl, rfl⟩ ?_
      rintro ⟨_, _, plan, hOther, _⟩
      rw [hPlan] at hOther
      cases hOther
    · rename_i plan hPlan
      split at h
      · cases h
      · rename_i hWet
        split at h
        · rename_i e c'' hApply
          cases h
          have hSame : CommitFails model request fates c ↔ plan.sourceIds.isEmpty = false ∧
              (compactionScript model plan request.strategy request.timestamp request.logId).CommitRefused fates c := by
            constructor
            · rintro ⟨_, _, plan', hPlan', hRefused⟩
              rw [hPlan] at hPlan'
              cases hPlan'
              exact hRefused
            · rintro hRefused
              exact ⟨hStrategy, Bool.eq_false_iff.mpr hWet, plan, hPlan, hRefused⟩
          rw [hSame]
          rw [applyCompactionOn] at hApply
          split at hApply
          · rename_i hEmpty
            cases hApply
            refine iff_of_true ⟨rfl, rfl⟩ fun hRefused => ?_
            cases hEmpty.symm.trans hRefused.1
          · rename_i hSources
            obtain ⟨content, _, hEq⟩ | ⟨error, hEq, hKept⟩ | ⟨error, content, _, hRefused, hContent, hEq⟩ :=
              Script.transact_cases (compactionScript model plan request.strategy request.timestamp request.logId)
                .sqlite .sqlite false fates hIdle
            · rw [hEq] at hApply
              cases hApply
            · rw [hEq] at hApply
              cases hApply
              exact iff_of_true ⟨rfl, rfl⟩ fun hRefused => (hKept.resolve_left Bool.false_ne_true) hRefused.2
            · -- the transaction is still open, and the row it logged can be seen in it
              rw [hEq] at hApply
              cases hApply
              refine iff_of_false ?_ (not_not_intro ⟨Bool.eq_false_iff.mpr hSources, hRefused⟩)
              rintro ⟨_, hSeen⟩
              rw [hVisible] at hPlan hSeen
              have hMerged : Merged request.clusterDrawerIds ⟨plan.targetId, plan.sourceIds, request.strategy,
                  plan.sourceIds.length, false⟩ c.stored content :=
                merged_of_apply hPlan (Bool.eq_false_iff.mpr hSources) rfl hContent
              obtain ⟨entry, hRows, _⟩ := hMerged.logged
              have hLength := congrArg List.length hRows
              have hSeen' : content = c.stored := hSeen
              rw [hSeen', List.length_append] at hLength
              simp at hLength
        · cases h

end Effects

/-- From every drawer, `compacted_into` leads to a drawer that was not compacted, and never back. -/
def Survives (drawers : DrawerTable) : Prop :=
  ∀ row ∈ drawers, ¬Relation.TransGen (Points (survivor drawers)) row.id row.id ∧
    ∃ root, Relation.ReflTransGen (Points (survivor drawers)) row.id root ∧ survivor drawers root = some none

theorem Shelf.IsForest.survives (h : shelf.IsForest) : Survives shelf.drawers := by
  intro row hRow
  have hNode : survivor shelf.drawers row.id = some row.compactedInto := by
    rw [survivor, DrawerTable.find?_eq_some_iff.mpr ⟨hRow, rfl⟩]
    rfl
  obtain ⟨root, hLeads⟩ := h row.id _ hNode
  exact ⟨hLeads.not_cycle, root, hLeads.path, hLeads.isRoot⟩

theorem cluster_merges_keep_forest (model : TextModel) {start : Shelf} (hStart : start.Uncompacted)
    (actions : List ShelfAction) {c : Connection Shelf} (hRun : (shelfMachine model).final ⟨start, none⟩ actions = c) :
    Survives c.stored.drawers ∧ Survives c.visible.drawers ∧
      ∀ request fates result c', mergeCluster model request fates c = (result, c') →
        (∀ done, result = .ok done →
          if request.dryRun then c' = c else Merged request.clusterDrawerIds done c.visible c'.visible) ∧
        ∀ error, result = .error error → c.working = none →
          (Unaffected c c' ↔ ¬CommitFails model request fates c) := by
  have hSound : Sound c := hRun ▸ sound_final hStart
  refine ⟨hSound.stored.survives, hSound.visible.survives, ?_⟩
  intro request fates result c' hMerge
  constructor
  · rintro done rfl
    exact mergeCluster_ok hMerge
  · rintro error rfl hIdle
    exact mergeCluster_error hIdle hMerge

def pairShelf : Shelf := ⟨pairStore, Table.empty⟩

def pairRequest : ClusterRequest where
  clusterDrawerIds := ["a", "b", "a"]
  strategy := .richestContent
  dryRun := false
  importance _ := 0
  timestamp := "1776045600"
  logId := "consolidation_0123456789abcdef"

theorem pairRequest_keeps_forest :
    pairShelf.Uncompacted ∧ Survives ((shelfMachine spacedWords).final ⟨pairShelf, none⟩
      [.mergeCluster pairRequest []]).stored.drawers := by
  have hStart : pairShelf.Uncompacted := by
    have hAll : pairShelf.drawers.rows.all (fun row => row.compactedInto.isNone) = true := by decide +kernel
    exact fun row hRow => Option.isNone_iff_eq_none.mp (List.all_eq_true.mp hAll row hRow)
  exact ⟨hStart, (cluster_merges_keep_forest spacedWords hStart [.mergeCluster pairRequest []] rfl).1⟩

/-- Six statements run after `BEGIN`, and the `COMMIT` finds the database busy. -/
def busyCommit : List (Fate DbError) := List.replicate 7 .runs ++ [.fails .sqlite]

theorem failed_commit_stays_visible :
    (mergeCluster spacedWords pairRequest busyCommit ⟨pairShelf, none⟩).1.toOption = none ∧
      (mergeCluster spacedWords pairRequest busyCommit ⟨pairShelf, none⟩).2.stored.log.rows = [] ∧
      (mergeCluster spacedWords pairRequest busyCommit ⟨pairShelf, none⟩).2.visible.log.rows.length = 1 ∧
      (mergeCluster spacedWords pairRequest busyCommit ⟨pairShelf, none⟩).2.visible.drawers.rows.map
        (fun row => (row.id, row.isActive, row.compactedInto)) = [("a", true, none), ("b", false, some "a")] := by
  decide +kernel

end Mempal.Drawers

import Mempal.Drawers.StoreWriters

set_option autoImplicit false

/-! `hard_delete_drawers_by_ids` and `purge_deleted` clear what hangs on an id before they delete its row. -/

namespace Mempal.Drawers

open Foundation Foundation.Postings

variable {row : DrawerRow} {s : Store} {ids : List String} {db : DrawerDb} {triple : Triple}

section Model
variable (model : TextModel)

/-- One turn of `hard_delete_drawers_by_ids`, with `deleted_total`. -/
def Store.hardDeleteTurn (acc : Store × Nat) (id : String) : Store × Nat :=
  (acc.1.hardDeleteDrawer model id, acc.2 + acc.1.db.drawers.rows.countP fun row => row.id = id && row.isActive)

def Store.hardDeleteCounted (ids : List String) (s : Store) : Store × Nat :=
  ids.foldl (Store.hardDeleteTurn model) (s, 0)

theorem Store.hardDeleteCounted_fst (ids : List String) (s : Store) :
    (s.hardDeleteCounted model ids).1 = s.hardDeleteDrawersByIds model ids := by
  have hFold (n : Nat) : (ids.foldl (Store.hardDeleteTurn model) (s, n)).1 = s.hardDeleteDrawersByIds model ids := by
    induction ids generalizing s n with
    | nil => rfl
    | cons id ids ih => exact ih _ _
  exact hFold 0

/-- What is deleted is what is listed and active, and nothing else loses anything. -/
structure HardDeletesOnly (ids : List String) (s : Store) (result : Store × Nat) : Prop where
  rows : ∀ row, row ∈ result.1.db.drawers ↔ row ∈ s.db.drawers ∧ ¬(row.id ∈ ids ∧ row.isActive = true)
  count : result.2 + result.1.db.drawers.rows.length = s.db.drawers.rows.length
  kept : ∀ row ∈ result.1.db.drawers, result.1.vectors.find? row.id = s.vectors.find? row.id ∧
    tokensOf row.rowid result.1.db.postings = tokensOf row.rowid s.db.postings ∧
      ∀ triple ∈ s.triples, triple.sourceDrawer = some row.id → triple ∈ result.1.triples

variable {model}

theorem drawers_hardDeleteDrawer (db : DrawerDb) (id : String) :
    (hardDeleteDrawer model db id).drawers = db.drawers.delete fun row => row.id = id && row.isActive := by
  rw [hardDeleteDrawer, deleteRows]
  split
  · rfl
  · rw [drawers_deleteDrawerFtsRow]

theorem mem_hardDeleteDrawer {id : String} :
    row ∈ (hardDeleteDrawer model db id).drawers ↔ row ∈ db.drawers ∧ ¬(row.id = id ∧ row.isActive = true) := by
  rw [drawers_hardDeleteDrawer, DrawerTable.mem_delete]
  simp

theorem tokensOf_hardDeleteDrawer {id : String} (h : row ∈ (hardDeleteDrawer model db id).drawers) :
    tokensOf row.rowid (hardDeleteDrawer model db id).postings = tokensOf row.rowid db.postings := by
  obtain ⟨hRow, hKept⟩ := mem_hardDeleteDrawer.mp h
  rw [hardDeleteDrawer, deleteRows]
  split
  · rfl
  · rename_i target hTarget
    obtain ⟨hFind, hActive⟩ := Option.filter_eq_some_iff.mp hTarget
    obtain ⟨hMem, hId⟩ := DrawerTable.find?_eq_some_iff.mp hFind
    have hOther : target.rowid ≠ row.rowid := by
      intro hSame
      cases DrawerTable.eq_of_rowid_eq hMem hRow hSame
      exact hKept ⟨hId, hActive⟩
    rw [deleteDrawerFtsRow]
    split
    · exact tokensOf_sub_of_ne hOther _ _
    · rfl

theorem mem_detachTriples {triples : List Triple} {id k : String} (hSource : triple.sourceDrawer = some k) :
    triple ∈ Store.detachTriples id triples ↔ triple ∈ triples ∧ k ≠ id := by
  rw [Store.detachTriples, List.mem_map]
  constructor
  · rintro ⟨old, hOld, hEq⟩
    split at hEq
    · rw [← hEq] at hSource
      cases hSource
    · rename_i hOther
      subst hEq
      refine ⟨hOld, fun hId => hOther ?_⟩
      rw [hSource, hId]
  · rintro ⟨hTriple, hOther⟩
    refine ⟨triple, hTriple, if_neg fun hSame => hOther ?_⟩
    rw [hSource] at hSame
    exact Option.some.inj hSame

theorem mem_hardDelete :
    row ∈ (s.hardDeleteDrawersByIds model ids).db.drawers ↔
      row ∈ s.db.drawers ∧ ¬(row.id ∈ ids ∧ row.isActive = true) := by
  induction ids generalizing s with
  | nil => simp [Store.hardDeleteDrawersByIds]
  | cons id ids ih =>
    refine ih.trans ?_
    rw [Store.hardDeleteDrawer, mem_hardDeleteDrawer, List.mem_cons]
    tauto

theorem tokensOf_hardDelete (h : row ∈ (s.hardDeleteDrawersByIds model ids).db.drawers) :
    tokensOf row.rowid (s.hardDeleteDrawersByIds model ids).db.postings = tokensOf row.rowid s.db.postings := by
  induction ids generalizing s with
  | nil => rfl
  | cons id ids ih =>
    have hRest : row ∈ ((s.hardDeleteDrawer model id).hardDeleteDrawersByIds model ids).db.drawers := h
    exact (ih hRest).trans (tokensOf_hardDeleteDrawer (mem_hardDelete.mp hRest).1)

variable {k : String}

theorem vectors_hardDelete (ids : List String) (s : Store) :
    (s.hardDeleteDrawersByIds model ids).vectors.find? k = if k ∈ ids then none else s.vectors.find? k := by
  induction ids generalizing s with
  | nil => rfl
  | cons id ids ih =>
    refine (ih (s.hardDeleteDrawer model id)).trans ?_
    rw [Store.hardDeleteDrawer, VectorTable.find?_delete_id]
    by_cases hHead : k = id <;> simp [hHead]

theorem mem_triples_hardDelete (hSource : triple.sourceDrawer = some k) :
    triple ∈ (s.hardDeleteDrawersByIds model ids).triples ↔ triple ∈ s.triples ∧ k ∉ ids := by
  induction ids generalizing s with
  | nil => simp [Store.hardDeleteDrawersByIds]
  | cons id ids ih =>
    refine ih.trans ?_
    rw [Store.hardDeleteDrawer, mem_detachTriples hSource, List.mem_cons]
    tauto

theorem count_hardDelete (ids : List String) (s : Store) :
    (s.hardDeleteCounted model ids).2 + (s.hardDeleteDrawersByIds model ids).db.drawers.rows.length =
      s.db.drawers.rows.length := by
  have hFold (n : Nat) : (ids.foldl (Store.hardDeleteTurn model) (s, n)).2 +
      (s.hardDeleteDrawersByIds model ids).db.drawers.rows.length = n + s.db.drawers.rows.length := by
    induction ids generalizing s n with
    | nil => rfl
    | cons id ids ih =>
      refine (ih (s.hardDeleteDrawer model id) _).trans ?_
      have hRows : (s.hardDeleteDrawer model id).db.drawers.rows =
          s.db.drawers.rows.filter fun row => !(row.id = id && row.isActive) :=
        congrArg (fun drawers : DrawerTable => drawers.rows) (drawers_hardDeleteDrawer s.db id)
      have hSplit := s.db.drawers.rows.length_eq_length_filter_add fun row => row.id = id && row.isActive
      rw [hRows, List.countP_eq_length_filter]
      dsimp only
      omega
  exact (hFold 0).trans (Nat.zero_add _)

theorem hard_delete_frames_iff (model : TextModel) (ids : List String) (s : Store) :
    HardDeletesOnly ids s (s.hardDeleteCounted model ids) ↔
      ∀ row ∈ s.db.drawers, row.id ∈ ids → row.isActive = false →
        s.vectors.find? row.id = none ∧ ∀ triple ∈ s.triples, triple.sourceDrawer ≠ some row.id := by
  constructor
  · intro h row hRow hListed hDeleted
    have hKept : row ∈ (s.hardDeleteCounted model ids).1.db.drawers := by
      refine (h.rows row).mpr ⟨hRow, fun hActive => ?_⟩
      rw [hDeleted] at hActive
      cases hActive.2
    obtain ⟨hVectors, _, hTriples⟩ := h.kept row hKept
    rw [Store.hardDeleteCounted_fst] at hVectors hTriples
    rw [vectors_hardDelete, if_pos hListed] at hVectors
    refine ⟨hVectors.symm, fun triple hTriple hSource => ?_⟩
    exact ((mem_triples_hardDelete hSource).mp (hTriples triple hTriple hSource)).2 hListed
  · intro h
    constructor
    · intro row
      rw [Store.hardDeleteCounted_fst]
      exact mem_hardDelete
    · rw [Store.hardDeleteCounted_fst]
      exact count_hardDelete ids s
    · intro row hRow
      rw [Store.hardDeleteCounted_fst] at hRow ⊢
      obtain ⟨hMem, hSpared⟩ := mem_hardDelete.mp hRow
      refine ⟨?_, tokensOf_hardDelete hRow, fun triple hTriple hSource => ?_⟩
      · rw [vectors_hardDelete]
        split
        · rename_i hListed
          exact (h row hMem hListed (Bool.eq_false_iff.mpr fun hActive => hSpared ⟨hListed, hActive⟩)).1.symm
        · rfl
      · refine (mem_triples_hardDelete hSource).mpr ⟨hTriple, fun hListed => ?_⟩
        exact (h row hMem hListed (Bool.eq_false_iff.mpr fun hActive => hSpared ⟨hListed, hActive⟩)).2 triple hTriple
          hSource

end Model

def notedThenDeleted : Store :=
  { noted with db := softDelete (.drawer "a") "2026-01-02T00:00:00Z" noted.db }

theorem hard_delete_strips_deleted :
    (notedThenDeleted.hardDeleteCounted spacedWords ["a"]).2 = 0 ∧
      ((notedThenDeleted.hardDeleteCounted spacedWords ["a"]).1.db.drawers.find? "a").isSome = true ∧
      notedThenDeleted.vectors.find? "a" = some ⟨"a", [0], none⟩ ∧
      (notedThenDeleted.hardDeleteCounted spacedWords ["a"]).1.vectors.find? "a" = none ∧
      (notedThenDeleted.hardDeleteCounted spacedWords ["a"]).1.triples = [⟨"t", none⟩] := by
  decide +kernel

/-- What `purge_deleted` read before its transaction. -/
structure Selection where
  rows : List DrawerRow
  distinct : (rows.map DrawerRow.id).Nodup

def selectPurged (before : Option String) (s : Store) : Selection where
  rows := s.db.drawers.rows.filter (isPurged before)
  distinct := s.db.drawers.unique.sublist (List.filter_sublist.map DrawerRow.id)

structure PurgeState where
  store : Store
  selected : Nat → Option Selection

inductive PurgeStep where
  | select (connection : Nat) (before : Option String)
  | delete (connection : Nat)
  | write (op : StoreOp)

section Model
variable (model : TextModel)

/-- The transaction of `purge_deleted`, with the count it returns. -/
def Selection.purge (selection : Selection) (s : Store) : Store × Nat :=
  (selection.rows.foldl (Store.purgeRow model) s, selection.rows.length)

def purgeMachine : Machine PurgeState PurgeStep (Option Nat) where
  step state
    | .select connection before =>
      ({ state with selected := Function.update state.selected connection (some (selectPurged before state.store)) }, none)
    | .delete connection =>
      match state.selected connection with
      | none => (state, none)
      | some selection =>
        let result := selection.purge model state.store
        (⟨result.1, Function.update state.selected connection none⟩, some result.2)
    | .write op => ({ state with store := (storeMachine model).next state.store op }, none)

/-- No active drawer loses its row or its vector, and the count is that of the rows deleted. -/
structure SparesActive (selection : Selection) (s : Store) : Prop where
  active : ∀ row ∈ s.db.drawers, row.isActive = true → row ∈ (selection.purge model s).1.db.drawers ∧
    (selection.purge model s).1.vectors.find? row.id = s.vectors.find? row.id
  count : (selection.purge model s).2 + (selection.purge model s).1.db.drawers.rows.length = s.db.drawers.rows.length

/-- What was read is still there, and still deleted. -/
def Selection.Fresh (selection : Selection) (s : Store) : Prop :=
  ∀ row ∈ selection.rows, ∃ current ∈ s.db.drawers, current.id = row.id ∧ current.isActive = false

def PurgeStep.Deletes (P : Selection → Store → Prop) (state : PurgeState) : PurgeStep → Prop
  | .delete connection => ∀ selection, state.selected connection = some selection → P selection state.store
  | _ => True

variable {model}

theorem rows_purgeRows (rows : List DrawerRow) (s : Store) :
    (rows.foldl (Store.purgeRow model) s).db.drawers.rows =
      s.db.drawers.rows.filter fun row => decide (row.id ∉ rows.map DrawerRow.id) := by
  induction rows generalizing s with
  | nil => simp
  | cons row rows ih =>
    rw [List.foldl_cons, ih, rows_purgeRow, List.filter_filter]
    apply List.filter_congr
    intro r _
    by_cases hHead : r.id = row.id <;> simp [hHead]

theorem mem_purge {selection : Selection} :
    row ∈ (selection.purge model s).1.db.drawers ↔ row ∈ s.db.drawers ∧ row.id ∉ selection.rows.map DrawerRow.id := by
  rw [DrawerTable.mem_rows, Selection.purge, rows_purgeRows, List.mem_filter, decide_eq_true_eq]
  rfl

theorem sparesActive_iff (selection : Selection) (s : Store) : SparesActive model selection s ↔ selection.Fresh s := by
  let read := selection.rows.map DrawerRow.id
  let gone := (s.db.drawers.rows.filter fun row => decide (row.id ∈ read)).map DrawerRow.id
  have hGone : gone.Nodup := s.db.drawers.unique.sublist (List.filter_sublist.map DrawerRow.id)
  have hMem (id : String) : id ∈ gone ↔ ∃ row ∈ s.db.drawers, row.id = id ∧ id ∈ read := by
    simp only [gone, List.mem_map, List.mem_filter, decide_eq_true_eq]
    constructor
    · rintro ⟨row, ⟨hRow, hRead⟩, rfl⟩
      exact ⟨row, hRow, rfl, hRead⟩
    · rintro ⟨row, hRow, rfl, hRead⟩
      exact ⟨row, ⟨hRow, hRead⟩, rfl⟩
  have hSubset : gone ⊆ read := fun id hId => ((hMem id).mp hId).elim fun _ h => h.2.2
  have hCount : (selection.purge model s).2 + (selection.purge model s).1.db.drawers.rows.length =
      s.db.drawers.rows.length ↔ read.length = gone.length := by
    have hSplit := s.db.drawers.rows.length_eq_length_filter_add fun row => decide (row.id ∈ read)
    simp only [Selection.purge, rows_purgeRows, gone, read, List.length_map, decide_not] at hSplit ⊢
    omega
  constructor
  · intro h row hRow
    have hPerm := (hGone.subperm hSubset).perm_of_length_le (hCount.mp h.count).le
    obtain ⟨current, hCurrent, hId, hRead⟩ := (hMem row.id).mp (hPerm.mem_iff.mpr (List.mem_map_of_mem hRow))
    refine ⟨current, hCurrent, hId, Bool.eq_false_iff.mpr fun hActive => ?_⟩
    exact (mem_purge.mp (h.active current hCurrent hActive).1).2 (hId ▸ hRead)
  · intro h
    have hDeleted : ∀ row ∈ s.db.drawers, row.isActive = true → row.id ∉ read := by
      intro row hRow hActive hRead
      obtain ⟨old, hOld, hId⟩ := List.mem_map.mp hRead
      obtain ⟨current, hCurrent, hSame, hInactive⟩ := h old hOld
      cases DrawerTable.eq_of_id_eq hCurrent hRow (hSame.trans hId)
      rw [hActive] at hInactive
      cases hInactive
    constructor
    · intro row hRow hActive
      refine ⟨mem_purge.mpr ⟨hRow, hDeleted row hRow hActive⟩, ?_⟩
      exact (find?_purgeRows model selection.rows s row.id).2.trans (if_neg (hDeleted row hRow hActive))
    · have hAll : read ⊆ gone := by
        intro id hId
        obtain ⟨row, hRow, rfl⟩ := List.mem_map.mp hId
        obtain ⟨current, hCurrent, hSame, _⟩ := h row hRow
        exact (hMem row.id).mpr ⟨current, hCurrent, hSame, hId⟩
      exact hCount.mpr (le_antisymm (selection.distinct.subperm hAll).length_le (hGone.subperm hSubset).length_le)

theorem purges_spare_active_iff (model : TextModel) (start : PurgeState) (steps : List PurgeStep) :
    (purgeMachine model).Along (PurgeStep.Deletes (SparesActive model)) start steps ↔
      (purgeMachine model).Along (PurgeStep.Deletes Selection.Fresh) start steps := by
  constructor
  · apply Machine.along_mono
    rintro state (_ | connection | _) h
    · trivial
    · exact fun selection hSelected => (sparesActive_iff selection _).mp (h selection hSelected)
    · trivial
  · apply Machine.along_mono
    rintro state (_ | connection | _) h
    · trivial
    · exact fun selection hSelected => (sparesActive_iff selection _).mpr (h selection hSelected)
    · trivial

end Model

def purgedTwice : PurgeState := (purgeMachine spacedWords).final ⟨notedThenDeleted, fun _ => none⟩
  [.select 1 none, .select 2 none, .delete 1, .write (.insert (evidence "a" "beta") [1])]

/-- The second purge still holds the id that the first one freed and an insert took. -/
theorem purge_removes_active :
    (purgedTwice.store.db.drawers.find? "a").map (fun row => (row.content, row.isActive)) = some ("beta", true) ∧
      purgedTwice.store.vectors.find? "a" = some ⟨"a", [1], none⟩ ∧
      ((purgeMachine spacedWords).next purgedTwice (.delete 2)).store.db.drawers.find? "a" = none ∧
      ((purgeMachine spacedWords).next purgedTwice (.delete 2)).store.vectors.find? "a" = none := by
  decide +kernel

end Mempal.Drawers

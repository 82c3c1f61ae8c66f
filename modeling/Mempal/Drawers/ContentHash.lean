import Mathlib.Data.List.Sort
import Mempal.Foundation.Fuel
import Mempal.Drawers.IndexAgreement

set_option autoImplicit false

/-! A drawer is looked up by the hash of its content. Every statement that sets `content` sets `content_hash` with it, and
the drawers that were stored before the column existed are hashed in batches when the database is opened. -/

namespace Mempal.Drawers

open Foundation

structure DrawerScope where
  wing : String
  room : Option String
  projectId : Option String
deriving DecidableEq, Repr

def DrawerScope.holds (scope : DrawerScope) (row : DrawerRow) : Bool :=
  row.wing = scope.wing && row.room = scope.room && row.projectId = scope.projectId

structure DrawerSummary where
  id : String
  wing : String
  room : Option String
  sourceFile : Option String
  projectId : Option String
  addedAt : String
deriving DecidableEq, Repr

def DrawerRow.summary (row : DrawerRow) : DrawerSummary :=
  ⟨row.id, row.wing, row.room, row.sourceFile, row.projectId, row.addedAt⟩

section Model
variable (model : TextModel)

def findActiveDrawersByContent (text : String) (scope : DrawerScope) (db : DrawerDb) : List DrawerSummary :=
  let found := db.drawers.rows.filter fun row => row.isActive && row.contentHash = some (model.contentHashHex text) &&
    row.content = text && scope.holds row
  (found.map DrawerRow.summary).insertionSort fun a b => b.addedAt < a.addedAt ∨ b.addedAt = a.addedAt ∧ a.id ≤ b.id

/-- The smallest id among the drawers with the hash of the content. -/
def findActiveDrawerIdByIdentity (content : String) (scope : DrawerScope) (db : DrawerDb) : Option String :=
  let found := db.drawers.rows.filter fun row => row.isActive &&
    row.contentHash = some (model.contentHashHex content) && scope.holds row
  ((found.map DrawerRow.id).insertionSort (· ≤ ·)).head?

def hashChange (contentHash : String) : RowChange where
  apply row := { row with contentHash := some contentHash }
  id _ := rfl
  rowid _ := rfl

def contentHashBackfillBatch : Nat := 1000

def unhashed (db : DrawerDb) : List DrawerRow := db.drawers.rows.filter fun row => row.contentHash.isNone

def hashRow (db : DrawerDb) (row : DrawerRow) : DrawerDb :=
  updateColumns (fun r => r.id = row.id) (hashChange (model.contentHashHex row.content)) db

def backfillBatch (limit : Nat) (db : DrawerDb) : DrawerDb := ((unhashed db).take limit).foldl (hashRow model) db

def backfillContentHash : Nat → DrawerDb → Option DrawerDb
  | 0, _ => none
  | fuel + 1, db =>
    if ((unhashed db).take contentHashBackfillBatch).length = 0 then some (backfillBatch model contentHashBackfillBatch db)
    else backfillContentHash fuel (backfillBatch model contentHashBackfillBatch db)

inductive HashAction where
  | write (op : DrawerOp)
  | backfill

def hashMachine : Machine DrawerDb HashAction (Except DbError Unit) where
  step db
    | .write op => (drawerMachine model).step db op
    | .backfill => (backfillBatch model contentHashBackfillBatch db, .ok ())

end Model

structure KeptByWriters (model : TextModel) (P : DrawerRow → Prop) : Prop where
  fresh : ∀ (drawer : NewDrawer) rowid, P (drawer.row model rowid)
  upsert : ∀ drawer row, P row → P ((upsertChange model drawer).apply row)
  merge : ∀ content added row, P row → P ((mergeChange model content added).apply row)
  close : ∀ content row, P row → P ((closeChange model content).apply row)
  delete : ∀ timestamp row, P row → P ((softDeleteChange timestamp).apply row)
  supersede : ∀ timestamp row, P row → P ((supersedeChange timestamp).apply row)
  compact : ∀ timestamp targetId row, P row → P ((compactChange timestamp targetId).apply row)
  owner : ∀ owner row, P row → P ((ownerChange owner).apply row)

def AllRows (P : DrawerRow → Prop) (db : DrawerDb) : Prop := ∀ row ∈ db.drawers, P row

variable {db db' : DrawerDb} {change : RowChange} {op : DrawerOp} {rows : List DrawerRow} {row : DrawerRow}

section Rows
variable {model : TextModel} {P : DrawerRow → Prop}

theorem AllRows.of_drawers_eq (h : AllRows P db) (hEq : db'.drawers = db.drawers) : AllRows P db' := by
  intro row hRow
  rw [hEq] at hRow
  exact h row hRow

theorem AllRows.updateColumns (h : AllRows P db)
    (hChange : ∀ row, P row → P (change.apply row)) (p : DrawerRow → Bool) : AllRows P (updateColumns p change db) := by
  intro row hRow
  obtain ⟨old, hOld, rfl⟩ := DrawerTable.mem_update.mp hRow
  split
  · exact hChange old (h old hOld)
  · exact h old hOld

theorem AllRows.updateContent (h : AllRows P db)
    (hChange : ∀ row, P row → P (change.apply row)) {id : String} {guard : DrawerRow → Bool}
    (hUpdate : updateContent model id guard change db = some db') : AllRows P db' := by
  obtain ⟨row, _, _, rfl⟩ := updateContent_ok hUpdate
  exact (h.updateColumns hChange (fun row => row.id = id)).of_drawers_eq rfl

theorem AllRows.deleteRows (h : AllRows P db) (p : DrawerRow → Bool) : AllRows P (deleteRows p db) := by
  intro row hRow
  exact h row (DrawerTable.mem_delete.mp hRow).1

theorem AllRows.foldl {α : Type} {f : DrawerDb → α → DrawerDb} (hStep : ∀ db a, AllRows P db → AllRows P (f db a))
    (l : List α) (h : AllRows P db) : AllRows P (l.foldl f db) := by
  induction l generalizing db with
  | nil => exact h
  | cons a l ih => exact ih (hStep db a h)

theorem AllRows.deleteDrawerFtsRow (h : AllRows P db) (rowid : Nat) (content : String) :
    AllRows P (deleteDrawerFtsRow model rowid content db) := by
  unfold Drawers.deleteDrawerFtsRow
  split
  · exact h.of_drawers_eq rfl
  · exact h

variable (hP : KeptByWriters model P)
include hP

theorem AllRows.insertDrawer (h : AllRows P db) {drawer : NewDrawer}
    (hInsert : insertDrawer model drawer db = .ok db') : AllRows P db' := by
  intro row hRow
  rw [drawers_insertDrawer hInsert] at hRow
  rcases Table.mem_insertOrIgnore hRow with hOld | rfl
  · exact h row hOld
  · exact hP.fresh drawer _

theorem AllRows.softDelete (h : AllRows P db) (which : SoftDelete) (timestamp : String) :
    AllRows P (softDelete which timestamp db) := by
  apply h.updateColumns
  cases which with
  | supersede id => exact hP.supersede timestamp
  | drawer | inProject | drawers | since | rejectedAdmission => exact hP.delete timestamp

theorem AllRows.run (h : AllRows P db) (hRun : run model op db = .ok db') : AllRows P db' := by
  cases op with
  | insert drawer => exact h.insertDrawer hP hRun
  | insertWithOwner drawer admissionOwner =>
    obtain ⟨_, rfl⟩ | ⟨_, inserted, hInsert, rfl | rfl⟩ := insertDrawerWithAdmissionOwner_ok hRun
    · exact h
    · exact h.insertDrawer hP hInsert
    · exact (h.insertDrawer hP hInsert).updateColumns (hP.owner _) _
  | finalizeAdmission id =>
    cases hRun
    exact h.updateColumns (hP.owner none) _
  | merge drawerId mergedContent expectedMergeCount candidate =>
    obtain ⟨updated, hUpdate, rfl | ⟨_, _, _, _, rfl⟩⟩ := updateDrawerAfterMerge_ok hRun
    · exact h.updateContent (hP.merge mergedContent 1) hUpdate
    · exact (h.updateContent (hP.merge mergedContent 1) hUpdate).deleteRows _
  | upsert drawer =>
    obtain ⟨_, hUpdate | ⟨_, hInsert⟩⟩ := upsertDrawer_ok hRun
    · exact h.updateContent (hP.upsert drawer) hUpdate
    · exact h.insertDrawer hP hInsert
  | compact targetId sourceIds mergedContent timestamp =>
    obtain ⟨_, target, updated, _, _, hUpdate, hRetire⟩ := exists_of_applyCompaction hRun
    have hCleared : AllRows P (ftsDelete model target.rowid (ftsTokenizeContent model target.content) db) :=
      h.of_drawers_eq rfl
    have hPosted : AllRows P (ftsInsert model target.rowid (ftsTokenizeContent model mergedContent) updated) :=
      (hCleared.updateContent (hP.merge mergedContent _) hUpdate).of_drawers_eq rfl
    exact retireSources_invariant (fun _ _ _ _ _ h => h.updateColumns (hP.compact timestamp targetId) _) hRetire hPosted
  | closeCase caseId closed =>
    obtain ⟨row, content, updated, _, _, _, hUpdate, rfl⟩ := closeCase_ok hRun
    exact (h.updateContent (hP.close content) hUpdate).of_drawers_eq rfl
  | softDelete which timestamp =>
    cases hRun
    exact h.softDelete hP which timestamp
  | replaceSource | purge =>
    cases hRun
    exact AllRows.foldl (fun db row hDb => (hDb.deleteDrawerFtsRow row.rowid row.content).deleteRows _) _ h
  | hardDelete ids =>
    cases hRun
    apply AllRows.foldl _ ids h
    intro db id hDb
    rw [hardDeleteDrawer]
    split
    · exact hDb.deleteRows _
    · exact (hDb.deleteDrawerFtsRow _ _).deleteRows _

theorem AllRows.next (h : AllRows P db) : AllRows P ((drawerMachine model).next db op) := by
  rw [Machine.next, drawerMachine]
  dsimp only
  split
  · exact h
  · rename_i hRun
    exact h.run hP hRun

end Rows

/-- A drawer that was merged into another one is soft-deleted, whatever is written afterwards. -/
theorem compacted_drawers_deleted (model : TextModel) (ops : List DrawerOp) :
    ∀ row ∈ ((drawerMachine model).final ⟨.empty, 0⟩ ops).drawers,
      row.compactedInto ≠ none → row.isActive = false := by
  have hKept : KeptByWriters model fun row => row.compactedInto ≠ none → row.isActive = false :=
    ⟨fun _ _ h => absurd rfl h, fun _ _ h => h, fun _ _ _ h => h, fun _ _ h => h, fun _ _ _ _ => rfl,
      fun _ _ _ _ => rfl, fun _ _ _ _ _ => rfl, fun _ _ h => h⟩
  exact Machine.invariant (I := AllRows _) (fun _ _ h => h.next hKept) (fun _ hMem => by cases hMem) ops

theorem compactedPair_deleted :
    ∃ row ∈ (settled compactedPair).drawers, row.compactedInto ≠ none ∧ row.isActive = false := by
  have ⟨row, hRow, hInto⟩ : ∃ row ∈ (settled compactedPair).drawers, row.compactedInto ≠ none := by decide +kernel
  exact ⟨row, hRow, hInto, compacted_drawers_deleted _ _ row hRow hInto⟩

section Hashes
variable {model : TextModel}

def Current (model : TextModel) (row : DrawerRow) : Prop := row.contentHash = some (model.contentHashHex row.content)

/-- The drawer was stored before hashes were, or its hash is current. -/
def CurrentOrNone (model : TextModel) (row : DrawerRow) : Prop := row.contentHash = none ∨ Current model row

theorem current_keptByWriters : KeptByWriters model (Current model) where
  fresh _ _ := rfl
  upsert _ _ _ := rfl
  merge _ _ _ _ := rfl
  close _ _ _ := rfl
  delete _ _ h := h
  supersede _ _ h := h
  compact _ _ _ h := h
  owner _ _ h := h

theorem hashRow_unhashed (db : DrawerDb) (row : DrawerRow) :
    unhashed (hashRow model db row) = (unhashed db).filter fun r => r.id ≠ row.id := by
  show ((db.drawers.rows.map _).filter _) = (db.drawers.rows.filter _).filter _
  induction db.drawers.rows with
  | nil => rfl
  | cons r rows ih =>
    by_cases hId : r.id = row.id <;> cases hHash : r.contentHash <;> simp_all [hashChange]

def Reads (rows : List DrawerRow) (db : DrawerDb) : Prop :=
  ∀ row ∈ rows, ∀ r ∈ db.drawers, r.id = row.id → r.content = row.content

theorem reads_hashRow (h : Reads rows db) (row : DrawerRow) : Reads rows (hashRow model db row) := by
  intro read hRead r hr hId
  obtain ⟨old, hOld, rfl⟩ := DrawerTable.mem_update.mp hr
  split at hId
  · rename_i hSame
    rw [if_pos hSame]
    exact h read hRead old hOld hId
  · rename_i hOther
    rw [if_neg hOther]
    exact h read hRead old hOld hId

theorem currentOrNone_hashRow (h : AllRows (CurrentOrNone model) db)
    (hRead : ∀ r ∈ db.drawers, r.id = row.id → r.content = row.content) :
    AllRows (CurrentOrNone model) (hashRow model db row) := by
  intro r hr
  obtain ⟨old, hOld, rfl⟩ := DrawerTable.mem_update.mp hr
  split
  · rename_i hId
    refine Or.inr ?_
    show some (model.contentHashHex row.content) = some (model.contentHashHex old.content)
    rw [hRead old hOld (of_decide_eq_true hId)]
  · exact h old hOld

theorem currentOrNone_foldl (h : AllRows (CurrentOrNone model) db)
    (hReads : Reads rows db) : AllRows (CurrentOrNone model) (rows.foldl (hashRow model) db) := by
  induction rows generalizing db with
  | nil => exact h
  | cons row rows ih =>
    refine ih (currentOrNone_hashRow h (hReads row List.mem_cons_self)) ?_
    exact reads_hashRow (fun read hRead => hReads read (List.mem_cons_of_mem _ hRead)) row

variable {limit : Nat}

theorem reads_unhashed (db : DrawerDb) : Reads ((unhashed db).take limit) db := by
  intro row hRow r hr hId
  have hMem := List.mem_of_mem_filter (List.mem_of_mem_take hRow)
  rw [DrawerTable.eq_of_id_eq hr hMem hId]

theorem length_unhashed_foldl_le (rows : List DrawerRow) (db : DrawerDb) :
    (unhashed (rows.foldl (hashRow model) db)).length ≤ (unhashed db).length := by
  induction rows generalizing db with
  | nil => exact Nat.le_refl _
  | cons row rows ih =>
    refine Nat.le_trans (ih (hashRow model db row)) ?_
    rw [hashRow_unhashed]
    exact List.length_filter_le _ _

theorem length_unhashed_backfillBatch (model : TextModel) (h : ((unhashed db).take limit).length ≠ 0) :
    (unhashed (backfillBatch model limit db)).length < (unhashed db).length := by
  rw [backfillBatch]
  cases hRows : (unhashed db).take limit with
  | nil => exact absurd (by rw [hRows]; rfl) h
  | cons row rows =>
    have hMem : row ∈ unhashed db := List.mem_of_mem_take (hRows ▸ List.mem_cons_self)
    refine Nat.lt_of_le_of_lt (length_unhashed_foldl_le rows (hashRow model db row)) ?_
    rw [hashRow_unhashed, List.length_filter_lt_length_iff_exists]
    exact ⟨row, hMem, by simp⟩

theorem current_of_unhashed_nil (h : AllRows (CurrentOrNone model) db) (hNil : unhashed db = []) :
    AllRows (Current model) db := by
  intro row hRow
  refine (h row hRow).resolve_left fun hNone => ?_
  have hMem : row ∈ unhashed db := List.mem_filter.mpr ⟨hRow, by rw [hNone]; rfl⟩
  rw [hNil] at hMem
  cases hMem

theorem backfill_returns (h : AllRows (CurrentOrNone model) db) :
    ∃ db', Returns (fun fuel => backfillContentHash model fuel db) db' ∧ AllRows (Current model) db' := by
  induction hLength : (unhashed db).length using Nat.strong_induction_on generalizing db with
  | h n ih =>
    by_cases hEmpty : ((unhashed db).take contentHashBackfillBatch).length = 0
    · have hTake := List.eq_nil_of_length_eq_zero hEmpty
      have hBatch : backfillBatch model contentHashBackfillBatch db = db := by rw [backfillBatch, hTake, List.foldl_nil]
      have hNil : unhashed db = [] := by
        rw [List.take_eq_nil_iff] at hTake
        exact hTake.resolve_left (by decide)
      refine ⟨db, Returns.succ ?_, current_of_unhashed_nil h hNil⟩
      simp only [backfillContentHash, if_pos hEmpty, hBatch]
      exact Returns.pure db
    · have hBatch : AllRows (CurrentOrNone model) (backfillBatch model contentHashBackfillBatch db) :=
        currentOrNone_foldl h (reads_unhashed db)
      have hFewer := length_unhashed_backfillBatch model hEmpty
      obtain ⟨db', hReturns, hCurrent⟩ := ih _ (hLength ▸ hFewer) hBatch rfl
      refine ⟨db', Returns.succ ?_, hCurrent⟩
      simp only [backfillContentHash, if_neg hEmpty]
      exact hReturns

theorem current_step (db : DrawerDb) (action : HashAction) (h : AllRows (Current model) db) :
    AllRows (Current model) ((hashMachine model).next db action) := by
  cases action with
  | write op => exact h.next current_keptByWriters
  | backfill =>
    have hNil : unhashed db = [] := by
      rw [unhashed, List.filter_eq_nil_iff]
      intro row hRow hNone
      rw [h row hRow] at hNone
      cases hNone
    have hSame : (hashMachine model).next db .backfill = db := by
      show backfillBatch model _ db = db
      rw [backfillBatch, hNil, List.take_nil, List.foldl_nil]
    rw [hSame]
    exact h

/-- An active drawer in the scope has just this content. -/
def StoresContent (content : String) (scope : DrawerScope) (db : DrawerDb) : Prop :=
  ∃ row ∈ db.drawers, row.isActive = true ∧ row.content = content ∧ scope.holds row = true

theorem findActiveDrawersByContent_iff {scope : DrawerScope} (h : AllRows (Current model) db) (content : String) :
    findActiveDrawersByContent model content scope db ≠ [] ↔ StoresContent content scope db := by
  rw [findActiveDrawersByContent, ← List.length_pos_iff, List.length_insertionSort, List.length_map,
    List.length_pos_iff_exists_mem]
  simp only [List.mem_filter, Bool.and_eq_true, decide_eq_true_eq]
  constructor
  · rintro ⟨row, hRow, ⟨⟨hActive, _⟩, hContent⟩, hScope⟩
    exact ⟨row, hRow, hActive, hContent, hScope⟩
  · rintro ⟨row, hRow, hActive, rfl, hScope⟩
    exact ⟨row, hRow, ⟨⟨hActive, h row hRow⟩, rfl⟩, hScope⟩

theorem mem_identity (hInjective : Function.Injective model.contentHashHex)
    (h : AllRows (Current model) db) {content : String} {scope : DrawerScope} :
    row ∈ db.drawers.rows.filter (fun row => row.isActive &&
        row.contentHash = some (model.contentHashHex content) && scope.holds row) ↔
      row ∈ db.drawers ∧ row.isActive = true ∧ row.content = content ∧ scope.holds row = true := by
  simp only [List.mem_filter, Bool.and_eq_true, decide_eq_true_eq]
  constructor
  · rintro ⟨hRow, ⟨hActive, hHash⟩, hScope⟩
    rw [h row hRow, Option.some.injEq] at hHash
    exact ⟨hRow, hActive, hInjective hHash, hScope⟩
  · rintro ⟨hRow, hActive, rfl, hScope⟩
    exact ⟨hRow, ⟨hActive, h row hRow⟩, hScope⟩

theorem findActiveDrawerIdByIdentity_spec (hInjective : Function.Injective model.contentHashHex)
    (h : AllRows (Current model) db) (content : String) (scope : DrawerScope) :
    match findActiveDrawerIdByIdentity model content scope db with
    | some id => ∃ row ∈ db.drawers, row.id = id ∧ row.isActive = true ∧ row.content = content ∧
        scope.holds row = true
    | none => ¬StoresContent content scope db := by
  rw [findActiveDrawerIdByIdentity]
  split
  · rename_i id hHead
    have hMem := List.mem_of_mem_head? (Option.mem_def.mpr hHead)
    obtain ⟨row, hRow, rfl⟩ := List.mem_map.mp ((List.mem_insertionSort _).mp hMem)
    obtain ⟨hMem, hStored⟩ := (mem_identity hInjective h).mp hRow
    exact ⟨row, hMem, rfl, hStored⟩
  · rename_i hHead
    rintro ⟨row, hRow, hStored⟩
    have hMem := List.mem_map_of_mem (f := DrawerRow.id) ((mem_identity hInjective h).mpr ⟨hRow, hStored⟩)
    rw [List.head?_eq_none_iff] at hHead
    have hSorted := (List.mem_insertionSort (· ≤ ·)).mpr hMem
    rw [hHead] at hSorted
    cases hSorted

theorem stored_hashes_current (model : TextModel) {start : DrawerDb} (hStart : AllRows (CurrentOrNone model) start) :
    ∃ opened, Returns (fun fuel => backfillContentHash model fuel start) opened ∧
      ∀ actions db, (hashMachine model).final opened actions = db →
        (∀ row ∈ db.drawers, row.contentHash = some (model.contentHashHex row.content)) ∧
          ∀ content scope,
            (findActiveDrawersByContent model content scope db ≠ [] ↔ StoresContent content scope db) ∧
            (Function.Injective model.contentHashHex →
              ((findActiveDrawerIdByIdentity model content scope db).isSome = true ↔ StoresContent content scope db)) := by
  obtain ⟨opened, hReturns, hOpened⟩ := backfill_returns hStart
  refine ⟨opened, hReturns, ?_⟩
  rintro actions db rfl
  have hCurrent : AllRows (Current model) ((hashMachine model).final opened actions) :=
    Machine.invariant current_step hOpened actions
  refine ⟨hCurrent, fun content scope => ⟨findActiveDrawersByContent_iff hCurrent content, ?_⟩⟩
  intro hInjective
  have hSpec := findActiveDrawerIdByIdentity_spec hInjective hCurrent content scope
  cases hFound : findActiveDrawerIdByIdentity model content scope ((hashMachine model).final opened actions) with
  | none =>
    rw [hFound] at hSpec
    exact iff_of_false Bool.false_ne_true hSpec
  | some id =>
    rw [hFound] at hSpec
    obtain ⟨row, hRow, _, hStored⟩ := hSpec
    exact iff_of_true rfl ⟨row, hRow, hStored⟩

end Hashes

def legacyDrawer : DrawerDb :=
  ⟨⟨⟨[{ (evidence "a" "alpha").row spacedWords 1 with contentHash := none }], by decide⟩, by decide⟩, 0⟩

def laterWrites : List HashAction := [.write (.insert (evidence "b" "beta")), .write (.merge "a" "alpha beta" 0 none)]

theorem legacyDrawer_hashed :
    ((backfillContentHash spacedWords 2 legacyDrawer).map fun opened =>
        ((hashMachine spacedWords).final opened laterWrites).drawers.rows.map DrawerRow.content) =
      some ["alpha beta", "beta"] ∧
    ∃ opened, Returns (fun fuel => backfillContentHash spacedWords fuel legacyDrawer) opened ∧
      ∀ row ∈ ((hashMachine spacedWords).final opened laterWrites).drawers,
        row.contentHash = some (spacedWords.contentHashHex row.content) := by
  have hStart : AllRows (CurrentOrNone spacedWords) legacyDrawer := by
    intro row hRow
    cases List.mem_singleton.mp hRow
    exact Or.inl rfl
  obtain ⟨opened, hReturns, hRuns⟩ := stored_hashes_current spacedWords hStart
  exact ⟨by decide +kernel, opened, hReturns, (hRuns laterWrites _ rfl).1⟩

end Mempal.Drawers

import Mempal.Drawers.Basic

set_option autoImplicit false

/-! Each operation is one call of the store. An error leaves the tables as they were: the checks stand before the
first write, or the call runs in a transaction that rolls back. -/

namespace Mempal.Drawers

open Foundation Foundation.Postings

structure NewDrawer where
  id : String
  content : String
  wing : String
  room : Option String
  sourceFile : Option String
  sourceRoot : Option String
  projectId : Option String
  addedAt : String
  memoryKind : MemoryKind
  domain : MemoryDomain
  anchorKind : AnchorKind
  status : Option KnowledgeStatus
deriving DecidableEq, Repr

section Model
variable (model : TextModel)

def NewDrawer.row (drawer : NewDrawer) (rowid : Nat) : DrawerRow where
  rowid := rowid
  id := drawer.id
  content := drawer.content
  contentHash := some (model.contentHashHex drawer.content)
  wing := drawer.wing
  room := drawer.room
  sourceFile := drawer.sourceFile
  sourceRoot := drawer.sourceRoot
  projectId := drawer.projectId
  addedAt := drawer.addedAt
  memoryKind := drawer.memoryKind
  status := drawer.status
  mergeCount := 0
  admissionOwner := none
  compactedInto := none
  deletedAt := none

def upsertChange (drawer : NewDrawer) : RowChange where
  apply row :=
    { row with
      content := drawer.content, contentHash := some (model.contentHashHex drawer.content), wing := drawer.wing
      room := drawer.room, sourceFile := drawer.sourceFile, addedAt := drawer.addedAt
      memoryKind := drawer.memoryKind, status := drawer.status }
  id _ := rfl
  rowid _ := rfl

def mergeChange (mergedContent : String) (addedMerges : Nat) : RowChange where
  apply row :=
    { row with
      content := mergedContent, contentHash := some (model.contentHashHex mergedContent)
      mergeCount := row.mergeCount + addedMerges }
  id _ := rfl
  rowid _ := rfl

def closeChange (content : String) : RowChange where
  apply row :=
    { row with
      content := content, contentHash := some (model.contentHashHex content), status := some .active }
  id _ := rfl
  rowid _ := rfl

end Model

def softDeleteChange (timestamp : String) : RowChange where
  apply row := { row with deletedAt := some timestamp }
  id _ := rfl
  rowid _ := rfl

def supersedeChange (timestamp : String) : RowChange where
  apply row := { row with deletedAt := some timestamp, status := some .superseded }
  id _ := rfl
  rowid _ := rfl

def compactChange (timestamp targetId : String) : RowChange where
  apply row := { row with deletedAt := some timestamp, compactedInto := some targetId }
  id _ := rfl
  rowid _ := rfl

def ownerChange (admissionOwner : Option String) : RowChange where
  apply row := { row with admissionOwner := admissionOwner }
  id _ := rfl
  rowid _ := rfl

section Model
variable (model : TextModel)

def ftsInsert (rowid : Nat) (text : String) (db : DrawerDb) : DrawerDb :=
  { db with postings := db.postings + entries rowid (model.tokenize text) }

def ftsDelete (rowid : Nat) (text : String) (db : DrawerDb) : DrawerDb :=
  { db with postings := db.postings - entries rowid (model.tokenize text) }

def drawerFtsRowIndexed (rowid : Nat) (db : DrawerDb) : Bool := decide (rowid ∈ db.postings.map Prod.fst)

def deleteDrawerFtsRow (rowid : Nat) (content : String) (db : DrawerDb) : DrawerDb :=
  if drawerFtsRowIndexed rowid db then ftsDelete model rowid (ftsTokenizeContent model content) db else db

/-- `UPDATE drawers SET content = .. WHERE id = .. AND ..` with the trigger `drawers_au_fts`; nothing if no row is
changed. -/
def updateContent (id : String) (guard : DrawerRow → Bool) (change : RowChange) (db : DrawerDb) : Option DrawerDb :=
  match db.drawers.find? id with
  | none => none
  | some row =>
    if guard row then
      some (ftsInsert model row.rowid (change.apply row).content (ftsDelete model row.rowid row.content
        { db with drawers := db.drawers.update (fun r => r.id = id) change }))
    else none

/-- An `UPDATE` that does not set `content`. -/
def updateColumns (p : DrawerRow → Bool) (change : RowChange) (db : DrawerDb) : DrawerDb :=
  { db with drawers := db.drawers.update p change }

def deleteRows (p : DrawerRow → Bool) (db : DrawerDb) : DrawerDb := { db with drawers := db.drawers.delete p }

/-- `insert_drawer_with_project_validity_once`. -/
def insertDrawer (drawer : NewDrawer) (db : DrawerDb) : Except DbError DrawerDb :=
  match validateAnchorDomain drawer.domain drawer.anchorKind with
  | .error e => .error e
  | .ok () =>
    let inserted := { db with drawers := db.drawers.insertOrIgnore (drawer.row model) fun _ => rfl }
    match inserted.drawers.find? drawer.id with
    | none => .error .sqlite
    | some row => .ok (ftsInsert model row.rowid (ftsTokenizeContent model drawer.content) inserted)

/-- `insert_drawer_with_admission_owner`, for the drawers of hooks. -/
def insertDrawerWithAdmissionOwner (drawer : NewDrawer) (admissionOwner : Option String) (db : DrawerDb) :
    Except DbError DrawerDb :=
  if (db.drawers.find? drawer.id).any DrawerRow.isActive then .ok db
  else
    match insertDrawer model drawer db with
    | .error e => .error e
    | .ok db' =>
      match admissionOwner with
      | none => .ok db'
      | some owner => .ok (updateColumns (fun row => row.id = drawer.id) (ownerChange (some owner)) db')

/-- `upsert_drawer_and_replace_vector_fenced`. -/
def upsertDrawer (drawer : NewDrawer) (db : DrawerDb) : Except DbError DrawerDb :=
  match validateAnchorDomain drawer.domain drawer.anchorKind with
  | .error e => .error e
  | .ok () =>
    match updateContent model drawer.id DrawerRow.isActive (upsertChange model drawer) db with
    | some db' => .ok db'
    | none => insertDrawer model { drawer with projectId := none, sourceRoot := none } db

/-- `update_drawer_after_merge` and its variants; a candidate that was merged is consumed. -/
def updateDrawerAfterMerge (drawerId mergedContent : String) (expectedMergeCount : Nat)
    (candidate : Option (String × String)) (db : DrawerDb) : Except DbError DrawerDb :=
  match updateContent model drawerId (fun row => row.isActive && row.mergeCount = expectedMergeCount)
      (mergeChange model mergedContent 1) db with
  | none => .error (.drawerMergeConflict drawerId expectedMergeCount)
  | some db' =>
    match candidate with
    | none => .ok db'
    | some (candidateId, owner) =>
      if candidateId ≠ drawerId then
        .ok (deleteRows (fun row => row.id = candidateId && row.admissionOwner = some owner) db')
      else .ok db'

def isCompactable (row : DrawerRow) : Bool := row.isActive && row.compactedInto.isNone

def retireSources (timestamp targetId : String) : List String → DrawerDb → Except DbError DrawerDb
  | [], db => .ok db
  | sourceId :: sourceIds, db =>
    if sourceId = targetId then retireSources timestamp targetId sourceIds db
    else if (db.drawers.find? sourceId).any isCompactable then
      retireSources timestamp targetId sourceIds
        (updateColumns (fun row => row.id = sourceId) (compactChange timestamp targetId) db)
    else .error (.compactionDrawerNotFound sourceId)

def applyCompaction (targetId : String) (sourceIds : List String) (mergedContent timestamp : String)
    (db : DrawerDb) : Except DbError DrawerDb :=
  if sourceIds.isEmpty then .error .compactionClusterEmpty
  else
    match (db.drawers.find? targetId).filter isCompactable with
    | none => .error (.compactionDrawerNotFound targetId)
    | some target =>
      let cleared := ftsDelete model target.rowid (ftsTokenizeContent model target.content) db
      match updateContent model targetId isCompactable (mergeChange model mergedContent (sourceIds.length - 1))
          cleared with
      | none => .error (.compactionDrawerNotFound targetId)
      | some updated =>
        retireSources timestamp targetId sourceIds
          (ftsInsert model target.rowid (ftsTokenizeContent model mergedContent) updated)

variable {model} in
theorem exists_of_applyCompaction {targetId mergedContent timestamp : String} {sourceIds : List String}
    {db db' : DrawerDb} (h : applyCompaction model targetId sourceIds mergedContent timestamp db = .ok db') :
    sourceIds ≠ [] ∧ ∃ target updated, db.drawers.find? targetId = some target ∧ isCompactable target = true ∧
      updateContent model targetId isCompactable (mergeChange model mergedContent (sourceIds.length - 1))
        (ftsDelete model target.rowid (ftsTokenizeContent model target.content) db) = some updated ∧
      retireSources timestamp targetId sourceIds
        (ftsInsert model target.rowid (ftsTokenizeContent model mergedContent) updated) = .ok db' := by
  unfold applyCompaction at h
  split at h
  · cases h
  · rename_i hSources
    split at h
    · cases h
    · rename_i target hTarget
      obtain ⟨hFind, hCompactable⟩ := Option.filter_eq_some_iff.mp hTarget
      dsimp only at h
      split at h
      · cases h
      · rename_i updated hUpdate
        exact ⟨fun hNil => hSources (by rw [hNil]; rfl), target, updated, hFind, hCompactable, hUpdate, h⟩

def syncFtsContent (rowid : Nat) (oldContent newContent : String) (db : DrawerDb) : DrawerDb :=
  ftsInsert model rowid (ftsTokenizeContent model newContent)
    (ftsDelete model rowid (ftsTokenizeContent model oldContent) db)

/-- `close_case`. What closing makes of the stored document is given; it fails on a document that is not that of
an open case. -/
def closeCase (caseId : String) (closed : String → Option String) (db : DrawerDb) : Except DbError DrawerDb :=
  match (db.drawers.find? caseId).filter DrawerRow.isActive with
  | none => .error (.caseNotFound caseId)
  | some row =>
    if row.memoryKind ≠ .case then .error (.notCase caseId)
    else
      match closed row.content with
      | none => .error (.caseNotClosable caseId)
      | some content =>
        let isOpen := fun (r : DrawerRow) => r.isActive && r.memoryKind = .case &&
          r.status = some .pendingReview && r.contentHash = some (model.contentHashHex row.content)
        match updateContent model caseId isOpen (closeChange model content) db with
        | none => .error (.caseAlreadyClosed caseId)
        | some db' => .ok (syncFtsContent model row.rowid row.content content db')

/-- Which drawers a soft delete takes. -/
inductive SoftDelete where
  | drawer (id : String)
  | inProject (id : String) (projectId : Option String)
  | drawers (ids : List String)
  | since (start : String) (wing room projectId : Option String)
  | supersede (id : String)
  | rejectedAdmission (id admissionOwner : String)
deriving DecidableEq, Repr

def SoftDelete.takes : SoftDelete → DrawerRow → Bool
  | .drawer id, row => row.id = id
  | .inProject id projectId, row => row.id = id && row.projectId = projectId
  | .drawers ids, row => row.id ∈ ids
  | .since start wing room projectId, row =>
    start < row.addedAt && wing.all (· = row.wing) && room.all (some · = row.room) &&
      projectId.all (some · = row.projectId)
  | .supersede id, row => row.id = id
  | .rejectedAdmission id admissionOwner, row => row.id = id && row.admissionOwner = some admissionOwner

def SoftDelete.change (timestamp : String) : SoftDelete → RowChange
  | .supersede _ => supersedeChange timestamp
  | _ => softDeleteChange timestamp

def softDelete (which : SoftDelete) (timestamp : String) (db : DrawerDb) : DrawerDb :=
  updateColumns (fun row => row.isActive && which.takes row) (which.change timestamp) db

/-- One turn of `delete_source_drawer_rows_tx`. -/
def deleteSourceRow (projectId sourceRoot : Option String) (db : DrawerDb) (row : DrawerRow) : DrawerDb :=
  deleteRows (fun r => r.rowid = row.rowid && r.projectId = projectId && r.sourceRoot = sourceRoot)
    (deleteDrawerFtsRow model row.rowid row.content db)

/-- `replace_active_source_drawers`; without a room, across all rooms. -/
def replaceActiveSourceDrawers (sourceFile wing : String) (room : Option (Option String))
    (projectId sourceRoot : Option String) (db : DrawerDb) : DrawerDb :=
  (db.drawers.rows.filter fun row => row.isActive && row.sourceFile = some sourceFile && row.wing = wing &&
    room.all (· = row.room) && row.projectId = projectId && row.sourceRoot = sourceRoot).foldl
      (deleteSourceRow model projectId sourceRoot) db

/-- One turn of `hard_delete_drawers_by_ids`. -/
def hardDeleteDrawer (db : DrawerDb) (id : String) : DrawerDb :=
  let unposted :=
    match (db.drawers.find? id).filter DrawerRow.isActive with
    | none => db
    | some row => deleteDrawerFtsRow model row.rowid row.content db
  deleteRows (fun row => row.id = id && row.isActive) unposted

def hardDeleteDrawersByIds (ids : List String) (db : DrawerDb) : DrawerDb := ids.foldl (hardDeleteDrawer model) db

/-- One turn of `purge_deleted`. -/
def purgeRow (db : DrawerDb) (row : DrawerRow) : DrawerDb :=
  deleteRows (fun r => r.id = row.id) (deleteDrawerFtsRow model row.rowid row.content db)

def purgeDeleted (before : Option String) (db : DrawerDb) : DrawerDb :=
  (db.drawers.rows.filter fun row => row.deletedAt.any fun deletedAt => before.all (deletedAt < ·)).foldl
    (purgeRow model) db

end Model

inductive DrawerOp where
  | insert (drawer : NewDrawer)
  | insertWithOwner (drawer : NewDrawer) (admissionOwner : Option String)
  | finalizeAdmission (id : String)
  | merge (drawerId mergedContent : String) (expectedMergeCount : Nat) (candidate : Option (String × String))
  | upsert (drawer : NewDrawer)
  | compact (targetId : String) (sourceIds : List String) (mergedContent timestamp : String)
  | closeCase (caseId : String) (closed : String → Option String)
  | softDelete (which : SoftDelete) (timestamp : String)
  | replaceSource (sourceFile wing : String) (room : Option (Option String)) (projectId sourceRoot : Option String)
  | hardDelete (ids : List String)
  | purge (before : Option String)

def run (model : TextModel) (op : DrawerOp) (db : DrawerDb) : Except DbError DrawerDb :=
  match op with
  | .insert drawer => insertDrawer model drawer db
  | .insertWithOwner drawer admissionOwner => insertDrawerWithAdmissionOwner model drawer admissionOwner db
  | .finalizeAdmission id => .ok (updateColumns (fun row => row.id = id) (ownerChange none) db)
  | .merge drawerId mergedContent expectedMergeCount candidate =>
    updateDrawerAfterMerge model drawerId mergedContent expectedMergeCount candidate db
  | .upsert drawer => upsertDrawer model drawer db
  | .compact targetId sourceIds mergedContent timestamp =>
    applyCompaction model targetId sourceIds mergedContent timestamp db
  | .closeCase caseId closed => closeCase model caseId closed db
  | .softDelete which timestamp => .ok (softDelete which timestamp db)
  | .replaceSource sourceFile wing room projectId sourceRoot =>
    .ok (replaceActiveSourceDrawers model sourceFile wing room projectId sourceRoot db)
  | .hardDelete ids => .ok (hardDeleteDrawersByIds model ids db)
  | .purge before => .ok (purgeDeleted model before db)

def drawerMachine (model : TextModel) : Machine DrawerDb DrawerOp (Except DbError Unit) where
  step db op :=
    match run model op db with
    | .error e => (db, .error e)
    | .ok db' => (db', .ok ())

/-- `repopulate_fts_contentless`, after which the migrations leave the index. -/
def repopulateFts (model : TextModel) (drawers : DrawerTable) : DrawerDb :=
  (drawers.rows.filter DrawerRow.isActive).foldl
    (fun db row => ftsInsert model row.rowid (ftsTokenizeContent model row.content) db) ⟨drawers, 0⟩

end Mempal.Drawers

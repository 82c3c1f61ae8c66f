import Mempal.Drawers.Purge
import Mempal.Drawers.Upsert

set_option autoImplicit false

/-! Each operation is one call on the whole store. An insert stores the row and the vector in two transactions, so that
a refused vector leaves the row; every other call changes all its tables or none. -/

namespace Mempal.Drawers

open Foundation

section Model
variable (model : TextModel)

/-- `insert_drawer_with_project` followed by `insert_vector_with_project`. -/
def insertDrawerWithVector (drawer : NewDrawer) (vector : Embedding) (s : Store) : Store × Except DbError Unit :=
  match insertDrawer model drawer s.db with
  | .error e => (s, .error e)
  | .ok db =>
    match insertVectorWithProject drawer.id vector drawer.projectId s.vectors with
    | .error e => ({ s with db }, .error e)
    | .ok vectors => ({ s with db, vectors }, .ok ())

structure DrawerMerge where
  drawerId : String
  mergedContent : String
  vector : Embedding
  expectedMergeCount : Nat
  audit : NoveltyAudit
deriving DecidableEq, Repr

/-- `update_drawer_after_merge_and_record_novelty_audit_fenced_inner`; the candidate is a drawer and its owner. -/
def mergeDrawer (merge : DrawerMerge) (candidate : Option (String × String)) (s : Store) : Except DbError Store :=
  match s.vectors.ensure merge.vector.length with
  | .error e => .error e
  | .ok _ =>
    match updateDrawerAfterMerge model merge.drawerId merge.mergedContent merge.expectedMergeCount candidate s.db with
    | .error e => .error e
    | .ok db =>
      match replaceVector merge.drawerId merge.vector ((s.getDrawer merge.drawerId).bind DrawerRow.projectId)
          s.vectors with
      | .error e => .error e
      | .ok vectors => .ok { s with db, vectors, noveltyAudit := s.noveltyAudit ++ [merge.audit] }

theorem mergeDrawer_spec {merge : DrawerMerge} {candidate : Option (String × String)} {s s' : Store}
    (h : mergeDrawer model merge candidate s = .ok s') :
    updateDrawerAfterMerge model merge.drawerId merge.mergedContent merge.expectedMergeCount candidate s.db =
        .ok s'.db ∧
      replaceVector merge.drawerId merge.vector ((s.getDrawer merge.drawerId).bind DrawerRow.projectId) s.vectors =
        .ok s'.vectors ∧
      s'.triples = s.triples ∧ s'.noveltyAudit = s.noveltyAudit ++ [merge.audit] := by
  unfold mergeDrawer at h
  split at h
  · cases h
  · split at h
    · cases h
    · rename_i db hUpdate
      split at h
      · cases h
      · rename_i vectors hVectors
        cases h
        exact ⟨hUpdate, hVectors, rfl, rfl⟩

/-- One turn of `delete_source_drawer_rows_tx`. -/
def Store.deleteSourceRow (projectId sourceRoot : Option String) (s : Store) (row : DrawerRow) : Store :=
  { s with
    db := Drawers.deleteSourceRow model projectId sourceRoot s.db row
    vectors := s.vectors.delete fun vector =>
      vector.id = row.id && vector.projectId = projectId &&
        s.db.drawers.rows.any fun r =>
          r.rowid = row.rowid && r.id = row.id && r.projectId = projectId && r.sourceRoot = sourceRoot
    triples := detachTriples row.id s.triples }

def isSourceDrawer (sourceFile wing : String) (room : Option (Option String)) (projectId sourceRoot : Option String)
    (row : DrawerRow) : Bool :=
  row.isActive && row.sourceFile = some sourceFile && row.wing = wing && room.all (· = row.room) &&
    row.projectId = projectId && row.sourceRoot = sourceRoot

/-- `replace_active_source_drawers`; without a room, across all rooms. -/
def Store.replaceActiveSourceDrawers (sourceFile wing : String) (room : Option (Option String))
    (projectId sourceRoot : Option String) (s : Store) : Store :=
  (s.db.drawers.rows.filter (isSourceDrawer sourceFile wing room projectId sourceRoot)).foldl
    (Store.deleteSourceRow model projectId sourceRoot) s

/-- One turn of `hard_delete_drawers_by_ids`. -/
def Store.hardDeleteDrawer (s : Store) (id : String) : Store :=
  { s with
    db := Drawers.hardDeleteDrawer model s.db id
    vectors := s.vectors.delete fun vector => vector.id = id
    triples := detachTriples id s.triples }

def Store.hardDeleteDrawersByIds (ids : List String) (s : Store) : Store := ids.foldl (Store.hardDeleteDrawer model) s

inductive StoreOp where
  | insert (drawer : NewDrawer) (vector : Embedding)
  | insertWithOwner (drawer : NewDrawer) (admissionOwner : Option String)
  | upsert (drawer : NewDrawer) (vector : Embedding)
  | merge (merge : DrawerMerge) (candidate : Option (String × String))
  | compact (targetId : String) (sourceIds : List String) (mergedContent timestamp : String)
  | softDelete (which : SoftDelete) (timestamp : String)
  | replaceSource (sourceFile wing : String) (room : Option (Option String)) (projectId sourceRoot : Option String)
  | hardDelete (ids : List String)
  | purge (before : Option String)

def transact (s : Store) (result : Except DbError Store) : Store × Except DbError Unit :=
  match result with
  | .error e => (s, .error e)
  | .ok s' => (s', .ok ())

def storeMachine : Machine Store StoreOp (Except DbError Unit) where
  step s
    | .insert drawer vector => insertDrawerWithVector model drawer vector s
    | .insertWithOwner drawer admissionOwner =>
      transact s ((insertDrawerWithAdmissionOwner model drawer admissionOwner s.db).map fun db => { s with db })
    | .upsert drawer vector => transact s (upsertDrawerAndReplaceVector model drawer vector s)
    | .merge merge candidate => transact s (mergeDrawer model merge candidate s)
    | .compact targetId sourceIds mergedContent timestamp =>
      transact s ((applyCompaction model targetId sourceIds mergedContent timestamp s.db).map fun db => { s with db })
    | .softDelete which timestamp => ({ s with db := Drawers.softDelete which timestamp s.db }, .ok ())
    | .replaceSource sourceFile wing room projectId sourceRoot =>
      (s.replaceActiveSourceDrawers model sourceFile wing room projectId sourceRoot, .ok ())
    | .hardDelete ids => (s.hardDeleteDrawersByIds model ids, .ok ())
    | .purge before => (s.purgeDeleted model before, .ok ())

end Model

end Mempal.Drawers

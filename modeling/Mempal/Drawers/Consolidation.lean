import Mempal.Foundation.Script
import Mempal.Drawers.ContentWriters

set_option autoImplicit false

/-! `merge_cluster` reads the listed drawers, and `apply_compaction` then writes in the transaction that is open or in
one of its own. -/

namespace Mempal.Drawers

open Foundation

inductive CompactionStrategy where
  | richestContent
  | llmSummary
deriving DecidableEq, Repr

structure ConsolidationRow where
  id : String
  wing : String
  room : Option String
  projectId : Option String
  clusterSize : Nat
  strategy : CompactionStrategy
  targetDrawerId : String
  sourceDrawerIds : List String
deriving DecidableEq, Repr

structure Shelf where
  store : Store
  log : Table ConsolidationRow.id

namespace Shelf

def drawers (shelf : Shelf) : DrawerTable := shelf.store.db.drawers

def setDb (shelf : Shelf) (db : DrawerDb) : Shelf := { shelf with store := { shelf.store with db } }

/-- Another row names the drawer: the foreign keys `drawers.compacted_into`, `consolidation_log.target_drawer_id` and
`triples.source_drawer` keep it from being deleted. -/
def isReferenced (shelf : Shelf) (id : String) : Bool :=
  shelf.drawers.rows.any (fun row => row.id ≠ id && row.compactedInto = some id) ||
    shelf.log.rows.any (fun entry => entry.targetDrawerId = id) ||
    shelf.store.triples.any (fun triple => triple.sourceDrawer = some id)

end Shelf

def onDb (f : DrawerDb → Except DbError DrawerDb) (shelf : Shelf) : Except DbError Shelf :=
  (f shelf.store.db).map shelf.setDb

def orFail (error : DbError) : Option DrawerDb → Except DbError DrawerDb
  | none => .error error
  | some db => .ok db

section Model
variable (model : TextModel)

def insertLogRow (entry : ConsolidationRow) (shelf : Shelf) : Except DbError Shelf :=
  if shelf.log.contains entry.id then .error .sqlite
  else .ok { shelf with log := shelf.log.insertOrIgnore entry }

def retireSource (timestamp targetId sourceId : String) (db : DrawerDb) : Except DbError DrawerDb :=
  if (db.drawers.find? sourceId).any isCompactable then
    .ok (updateColumns (fun row => row.id = sourceId) (compactChange timestamp targetId) db)
  else .error (.compactionDrawerNotFound sourceId)

def retireScript (timestamp targetId : String) (rest : Script Shelf DbError) : List String → Script Shelf DbError
  | [] => rest
  | sourceId :: sourceIds =>
    if sourceId = targetId then retireScript timestamp targetId rest sourceIds
    else .statement (onDb (retireSource timestamp targetId sourceId)) fun _ =>
      retireScript timestamp targetId rest sourceIds

/-- The statements of `apply_compaction` between `BEGIN` and `COMMIT`. -/
def compactionScript (plan : Compaction) (strategy : CompactionStrategy) (timestamp logId : String) :
    Script Shelf DbError :=
  .statement .ok fun seen =>
    match (seen.drawers.find? plan.targetId).filter isCompactable with
    | none => .fail (.compactionDrawerNotFound plan.targetId)
    | some target =>
      .statement (onDb fun db => .ok (ftsDelete model target.rowid (ftsTokenizeContent model target.content) db))
        fun _ => .statement (onDb fun db => orFail (.compactionDrawerNotFound plan.targetId)
          (updateContent model plan.targetId isCompactable
            (mergeChange model plan.mergedContent (plan.sourceIds.length - 1)) db))
        fun _ => .statement (onDb fun db =>
          .ok (ftsInsert model target.rowid (ftsTokenizeContent model plan.mergedContent) db))
        fun _ => retireScript timestamp plan.targetId
          (.statement (insertLogRow ⟨logId, target.wing, target.room, target.projectId, plan.sourceIds.length, strategy,
            plan.targetId, plan.sourceIds⟩) fun _ => .done)
          plan.sourceIds

/-- The errors of `BEGIN` in a transaction and of `COMMIT` outside one are of SQLite. A `COMMIT` that fails is
returned without a `ROLLBACK`. -/
def applyCompactionOn (plan : Compaction) (strategy : CompactionStrategy) (timestamp logId : String)
    (fates : List (Fate DbError)) (c : Connection Shelf) : Except DbError Unit × Connection Shelf :=
  if plan.sourceIds.isEmpty then (.error .compactionClusterEmpty, c)
  else (compactionScript model plan strategy timestamp logId).transact .sqlite .sqlite false fates c

structure ClusterRequest where
  clusterDrawerIds : List String
  strategy : CompactionStrategy
  dryRun : Bool
  importance : String → Int
  timestamp : String
  logId : String

structure CompactionResult where
  targetId : String
  sourceIds : List String
  strategy : CompactionStrategy
  clusterSize : Nat
  dryRun : Bool
deriving DecidableEq, Repr

inductive CompactionError where
  | llmCompactionNotImplemented
  | db (error : DbError)
deriving DecidableEq, Repr

def mergeCluster (request : ClusterRequest) (fates : List (Fate DbError)) (c : Connection Shelf) :
    Except CompactionError CompactionResult × Connection Shelf :=
  match request.strategy with
  | .llmSummary => (.error .llmCompactionNotImplemented, c)
  | .richestContent =>
    match planCompaction request.importance request.clusterDrawerIds c.visible.store with
    | .error e => (.error (.db e), c)
    | .ok plan =>
      let result := ⟨plan.targetId, plan.sourceIds, request.strategy, plan.sourceIds.length, request.dryRun⟩
      if request.dryRun then (.ok result, c)
      else
        match applyCompactionOn model plan request.strategy request.timestamp request.logId fates c with
        | (.error e, c') => (.error (.db e), c')
        | (.ok _, c') => (.ok result, c')

inductive ShelfOp where
  | insert (drawer : NewDrawer)
  | insertWithOwner (drawer : NewDrawer) (admissionOwner : Option String)
  | merge (update : DrawerMerge) (candidate : Option (String × String))
  | softDelete (which : List SoftDelete) (timestamp : String)

theorem newRow_rowid (drawer : NewDrawer) (rowid : Nat) : (drawer.row model rowid).rowid = rowid := rfl

/-- `insert_drawer_with_project_validity_once`, with what follows it. -/
def insertScript (drawer : NewDrawer) (rest : Script Shelf DbError) : Script Shelf DbError :=
  match validateAnchorDomain drawer.domain drawer.anchorKind with
  | .error e => .fail e
  | .ok () =>
    .statement (onDb fun db => .ok
      { db with drawers := db.drawers.insertOrIgnore (drawer.row model) (newRow_rowid model drawer) }) fun seen =>
        match seen.drawers.find? drawer.id with
        | none => .fail .sqlite
        | some row =>
          .statement (onDb fun db => .ok (ftsInsert model row.rowid (ftsTokenizeContent model drawer.content) db))
            fun _ => rest

def deleteCandidate (candidateId owner : String) (shelf : Shelf) : Except DbError Shelf :=
  let isCandidate := fun (row : DrawerRow) => row.id = candidateId && row.admissionOwner = some owner
  if shelf.drawers.rows.any isCandidate && shelf.isReferenced candidateId then .error .sqlite
  else .ok (shelf.setDb (deleteRows isCandidate shelf.store.db))

def onVectors (f : VectorTable → Except DbError VectorTable) (shelf : Shelf) : Except DbError Shelf :=
  (f shelf.store.vectors).map fun vectors => { shelf with store := { shelf.store with vectors } }

def mergeScript (merge : DrawerMerge) (candidate : Option (String × String)) : Script Shelf DbError :=
  .statement (onVectors (·.ensure merge.vector.length))
    fun _ => .statement (onDb fun db => orFail (.drawerMergeConflict merge.drawerId merge.expectedMergeCount)
      (updateContent model merge.drawerId
        (fun row => row.isActive && row.mergeCount = merge.expectedMergeCount)
        (mergeChange model merge.mergedContent 1) db))
    fun seen => .statement (onVectors
      (replaceVector merge.drawerId merge.vector ((seen.store.getDrawer merge.drawerId).bind DrawerRow.projectId)))
    fun _ => .statement (fun shelf =>
      .ok { shelf with store := { shelf.store with noveltyAudit := shelf.store.noveltyAudit ++ [merge.audit] } })
    fun _ =>
      match candidate with
      | none => .done
      | some (candidateId, owner) =>
        if candidateId ≠ merge.drawerId then .statement (deleteCandidate candidateId owner) fun _ => .done else .done

def softDeleteScript (timestamp : String) : List SoftDelete → Script Shelf DbError
  | [] => .done
  | which :: rest =>
    .statement (onDb fun db => .ok (softDelete which timestamp db)) fun _ => softDeleteScript timestamp rest

def ShelfOp.script : ShelfOp → Script Shelf DbError
  | .insert drawer => insertScript model drawer .done
  | .insertWithOwner drawer admissionOwner =>
    .statement .ok fun seen =>
      if (seen.drawers.find? drawer.id).any DrawerRow.isActive then .done
      else insertScript model drawer (match admissionOwner with
        | none => .done
        | some owner => .statement (onDb fun db =>
            .ok (updateColumns (fun row => row.id = drawer.id) (ownerChange (some owner)) db)) fun _ => .done)
  | .merge update candidate => mergeScript model update candidate
  | .softDelete which timestamp => softDeleteScript timestamp which

/-- How a call runs its statements: one by one, or in a transaction that it rolls back or leaves if the commit
fails. -/
inductive Scope where
  | statements
  | transaction (rollsBack : Bool)
deriving DecidableEq, Repr

def ShelfOp.run (op : ShelfOp) (scope : Scope) (fates : List (Fate DbError)) (c : Connection Shelf) :
    Except DbError Unit × Connection Shelf :=
  match scope with
  | .statements => (((op.script model).run fates c).1, ((op.script model).run fates c).2.2)
  | .transaction rollsBack => (op.script model).transact .sqlite .sqlite rollsBack fates c

inductive ShelfAction where
  | mergeCluster (request : ClusterRequest) (fates : List (Fate DbError))
  | write (op : ShelfOp) (scope : Scope) (fates : List (Fate DbError))
  | begin (fate : Fate DbError)
  | commit (fate : Fate DbError)
  | rollback

def shelfMachine : Machine (Connection Shelf) ShelfAction (Except CompactionError Unit) where
  step c
    | .mergeCluster request fates => ((mergeCluster model request fates c).2, (mergeCluster model request fates c).1.map
        fun _ => ())
    | .write op scope fates => ((op.run model scope fates c).2, (op.run model scope fates c).1.mapError .db)
    | .begin fate => ((c.begin .sqlite fate).2, ((c.begin .sqlite fate).1.map fun _ => ()).mapError .db)
    | .commit fate => ((c.commit .sqlite fate).2, ((c.commit .sqlite fate).1.map fun _ => ()).mapError .db)
    | .rollback => (c.rollback, .ok ())

end Model

end Mempal.Drawers

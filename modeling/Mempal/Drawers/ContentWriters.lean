import Mathlib.Data.List.Sort
import Mempal.Foundation.Snapshot
import Mempal.Drawers.Diary
import Mempal.Drawers.StoreWriters

set_option autoImplicit false

/-! A novelty merge, a diary rollup and a compaction outside a transaction first read the drawer they will rewrite and
commit later. -/

namespace Mempal.Drawers

open Foundation Foundation.Snapshot Foundation.Text

structure MergeRequest where
  targetId : String
  drawerId : String
  content : String
  mergedAt : String
  admissionOwner : Option String
  projectId : Option String
  maxMergesPerDrawer : Nat
  maxContentBytesPerDrawer : Nat
deriving DecidableEq, Repr

namespace MergeRequest

def mergedContent (request : MergeRequest) (existingContent : String) : String :=
  existingContent ++ "\n---\nSUPPLEMENTARY (" ++ request.mergedAt ++ "):\n" ++ request.content

def capped (request : MergeRequest) (existingContent : String) (mergeCount : Nat) : Bool :=
  request.maxMergesPerDrawer ≤ mergeCount ||
    request.maxContentBytesPerDrawer < (request.mergedContent existingContent).utf8ByteSize

def audit (request : MergeRequest) : NoveltyAudit :=
  ⟨request.drawerId, .merge, some request.targetId, request.projectId⟩

def candidate (request : MergeRequest) : Option (String × String) :=
  request.admissionOwner.map fun owner => (request.drawerId, owner)

end MergeRequest

/-- The order of `select_richest`; the importance of a drawer is given. -/
def isRicher (importance : String → Int) (a b : DrawerRow) : Bool :=
  importance b.id < importance a.id || (importance b.id = importance a.id &&
    (b.content.utf8ByteSize < a.content.utf8ByteSize || (b.content.utf8ByteSize = a.content.utf8ByteSize &&
      (b.addedAt < a.addedAt || (b.addedAt = a.addedAt && b.id ≤ a.id)))))

def selectRichest (importance : String → Int) (first : DrawerRow) (rest : List DrawerRow) : DrawerRow :=
  rest.foldl (fun best row => if isRicher importance row best then row else best) first

def collectSourceCitations (details : List DrawerRow) : List String :=
  let sourceFiles := (details.filterMap DrawerRow.sourceFile).filter fun sourceFile => !isBlank sourceFile
  sourceFiles.eraseDups.insertionSort (· ≤ ·)

def appendConsolidatedCitations (content : String) (citations : List String) : String :=
  if citations.isEmpty then content
  else trimEnd content ++ "\n\n---\nConsolidated citations:\n" ++
    String.join (citations.map fun citation => "- " ++ citation ++ "\n")

structure Compaction where
  targetId : String
  sourceIds : List String
  citations : List String
  existingContent : String
deriving DecidableEq, Repr

def Compaction.mergedContent (plan : Compaction) : String :=
  appendConsolidatedCitations plan.existingContent plan.citations

/-- What `merge_cluster` reads and computes before it calls `apply_compaction`. -/
def planCompaction (importance : String → Int) (clusterDrawerIds : List String) (s : Store) :
    Except DbError Compaction :=
  let sourceIds := clusterDrawerIds.eraseDups
  match sourceIds.find? fun id => (s.getDrawer id).isNone with
  | some missing => .error (.compactionDrawerNotFound missing)
  | none =>
    match sourceIds.filterMap s.getDrawer with
    | [] => .error .compactionClusterEmpty
    | first :: rest =>
      let target := selectRichest importance first rest
      .ok ⟨target.id, sourceIds, collectSourceCitations (first :: rest), target.content⟩

/-- A text that a writer computed from what it read and has not yet committed. -/
inductive Draft where
  | merge (request : MergeRequest) (existingContent : String) (mergeCount : Nat)
  | rollup (entry : String) (existingContent : Option String) (prepared : PreparedDiaryRollup)
  | compaction (plan : Compaction)
deriving DecidableEq, Repr

namespace Draft

def drawerId : Draft → String
  | .merge request _ _ => request.targetId
  | .rollup _ _ prepared => prepared.drawerId
  | .compaction plan => plan.targetId

def base : Draft → Option String
  | .merge _ existingContent _ => some existingContent
  | .rollup _ existingContent _ => existingContent
  | .compaction plan => some plan.existingContent

def content : Draft → String
  | .merge request existingContent _ => request.mergedContent existingContent
  | .rollup _ _ prepared => prepared.content
  | .compaction plan => plan.mergedContent

def rewrite : Draft → Option String → Option String
  | .merge request _ _, existing => existing.map request.mergedContent
  | .rollup entry _ _, existing => some ((existing.map (· ++ diaryRollupSeparator ++ entry)).getD entry)
  | .compaction plan, existing => existing.map (appendConsolidatedCitations · plan.citations)

def check : Draft → Check
  | .merge _ _ mergeCount => .counter mergeCount
  | .rollup _ _ _ => .unchecked
  | .compaction _ => .present

def lockKey : Draft → Option String
  | .merge request _ _ => if request.targetId = request.drawerId then none else some request.targetId
  | .rollup _ _ prepared => some ("diary_rollup_" ++ prepared.room ++ "_" ++ prepared.day)
  | .compaction _ => none

def touch (draft : Draft) (id : String) : Option Touch :=
  match draft with
  | .merge request _ _ =>
    if id = request.targetId then some .counted
    else if request.admissionOwner.isSome && id = request.drawerId then some .removed
    else none
  | .rollup _ _ prepared => if id = prepared.drawerId then some .uncounted else none
  | .compaction plan =>
    if id = plan.targetId then
      if 2 ≤ plan.sourceIds.length then some .counted else some .uncounted
    else if id ∈ plan.sourceIds then some .removed
    else none

end Draft

inductive WriteError where
  | db (error : DbError)
  | ingest (error : IngestError)
deriving DecidableEq, Repr

structure CommitInput where
  vector : Embedding
  now : ℚ
  timestamp : String
deriving DecidableEq

section Model
variable (model : TextModel)

def Compaction.apply (plan : Compaction) (timestamp : String) (s : Store) : Except DbError Store :=
  (applyCompaction model plan.targetId plan.sourceIds plan.mergedContent timestamp s.db).map
    fun db => { s with db }

def Draft.commit (draft : Draft) (input : CommitInput) (s : Store) : Except WriteError Store :=
  match draft with
  | .merge request existingContent mergeCount =>
    (mergeDrawer model ⟨request.targetId, request.mergedContent existingContent, input.vector, mergeCount,
      request.audit⟩ request.candidate s).mapError .db
  | .rollup _ _ prepared => (commitPreparedDiaryRollup model prepared input.vector input.now s).mapError .ingest
  | .compaction plan => (plan.apply model input.timestamp s).mapError .db

structure Pending where
  writer : Nat
  draft : Draft
  since : List Touch
deriving DecidableEq, Repr

def Pending.reader (pending : Pending) : Reader String String :=
  ⟨pending.draft.drawerId, pending.draft.base, pending.draft.check, pending.since⟩

def Pending.undisturbed (pending : Pending) : Bool := pending.reader.undisturbed

/-- The store and the writers between their read and their commit, with what has touched their drawers since. -/
structure Workshop where
  store : Store
  pending : Table Pending.writer

namespace Workshop

def idle (store : Store) : Workshop := ⟨store, Table.empty⟩

/-- `acquire_source_lock` refuses keys that are not file names. -/
def isSourceKey (key : String) : Bool :=
  key ≠ "" && !hasText key "/" && !hasText key "\\" && !hasText key ".."

def lockFree (w : Workshop) (draft : Draft) : Bool :=
  draft.lockKey.all fun key => isSourceKey key && w.pending.rows.all fun pending => pending.draft.lockKey ≠ some key

def start (w : Workshop) (writer : Nat) (draft : Draft) : Workshop :=
  if w.lockFree draft then { w with pending := w.pending.insertOrIgnore ⟨writer, draft, []⟩ } else w

def finish (w : Workshop) (writer : Nat) : Workshop :=
  { w with pending := w.pending.delete fun pending => pending.writer = writer }

def committed (w : Workshop) (touch : String → Option Touch) (store : Store) : Workshop where
  store := store
  pending := w.pending.update (fun _ => true)
    (fun pending => { pending with since := pending.since ++ (touch pending.draft.drawerId).toList }) fun _ => rfl

end Workshop

inductive WriterAction where
  | readMerge (writer : Nat) (request : MergeRequest)
  | readRollup (writer : Nat) (entry wing : String) (options : DiaryRollupOptions) (currentRollupDayUtc : String)
  | readCluster (writer : Nat) (importance : String → Int) (clusterDrawerIds : List String)
  | commit (writer : Nat) (input : CommitInput)
  | abandon (writer : Nat)
  | compactFenced (importance : String → Int) (clusterDrawerIds : List String) (timestamp : String)
  | closeCase (caseId : String) (closed : String → Option String)

def touchCase (caseId id : String) : Option Touch := if id = caseId then some .uncounted else none

/-- The result of an action that writes; a read has none. -/
def workshopMachine : Machine Workshop WriterAction (Option (Except WriteError Unit)) where
  step w
    | .readMerge writer request =>
      match w.store.getDrawer request.targetId with
      | none => (w, none)
      | some row =>
        if request.capped row.content row.mergeCount then (w, none)
        else (w.start writer (.merge request row.content row.mergeCount), none)
    | .readRollup writer entry wing options today =>
      match prepareDiaryRollup entry wing options today w.store with
      | .error _ => (w, none)
      | .ok prepared =>
        (w.start writer (.rollup entry ((w.store.getDrawer prepared.drawerId).map DrawerRow.content) prepared), none)
    | .readCluster writer importance clusterDrawerIds =>
      match planCompaction importance clusterDrawerIds w.store with
      | .error _ => (w, none)
      | .ok plan => (w.start writer (.compaction plan), none)
    | .commit writer input =>
      match w.pending.find? writer with
      | none => (w, none)
      | some pending =>
        match pending.draft.commit model input w.store with
        | .error e => (w.finish writer, some (.error e))
        | .ok store => ((w.committed pending.draft.touch store).finish writer, some (.ok ()))
    | .abandon writer => (w.finish writer, none)
    | .compactFenced importance clusterDrawerIds timestamp =>
      match planCompaction importance clusterDrawerIds w.store with
      | .error e => (w, some (.error (.db e)))
      | .ok plan =>
        match plan.apply model timestamp w.store with
        | .error e => (w, some (.error (.db e)))
        | .ok store => (w.committed (Draft.compaction plan).touch store, some (.ok ()))
    | .closeCase caseId closed =>
      match closeCase model caseId closed w.store.db with
      | .error e => (w, some (.error (.db e)))
      | .ok db => (w.committed (touchCase caseId) { w.store with db }, some (.ok ()))

end Model

end Mempal.Drawers

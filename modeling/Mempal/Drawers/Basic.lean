import Mempal.Foundation.Machine
import Mempal.Foundation.Postings
import Mempal.Foundation.Table
import Mempal.Foundation.Text

set_option autoImplicit false

/-! The `drawers` table with the columns that its writers look at, and the external-content index `drawers_fts` as a
multiset of postings. -/

namespace Mempal.Drawers

open Foundation Foundation.Text

inductive MemoryKind where
  | evidence
  | knowledge
  | atomicFact
  | decision
  | case
  | skill
  | foresight
  | profileFact
  | profileTrait
deriving DecidableEq, Repr

inductive KnowledgeStatus where
  | active
  | superseded
  | pendingReview
  | candidate
  | promoted
  | canonical
  | demoted
  | retired
deriving DecidableEq, Repr

inductive MemoryDomain where
  | project
  | user
  | agent
  | skill
  | global
deriving DecidableEq, Repr

inductive AnchorKind where
  | global
  | repo
  | worktree
deriving DecidableEq, Repr

inductive DbError where
  | invalidDrawerMetadata (message : String)
  | drawerMergeConflict (drawerId : String) (expectedMergeCount : Nat)
  | compactionClusterEmpty
  | compactionDrawerNotFound (drawerId : String)
  | caseNotFound (caseId : String)
  | notCase (caseId : String)
  | caseNotClosable (caseId : String)
  | caseAlreadyClosed (caseId : String)
  | sqlite
deriving DecidableEq, Repr

def validateAnchorDomain (domain : MemoryDomain) (anchorKind : AnchorKind) : Except DbError Unit :=
  if anchorKind = .global && domain != .global then
    .error (.invalidDrawerMetadata "global anchor requires domain=global")
  else .ok ()

/-- What the index relies on from outside: the FTS5 tokenizer, the word segmenter and the content hash. -/
structure TextModel where
  tokenize : String → Multiset String
  jiebaCutForSearch : String → List String
  contentHashHex : String → String

def containsCjk (text : String) : Bool :=
  text.toList.any fun c =>
    (0x4E00 ≤ c.toNat && c.toNat ≤ 0x9FFF) || (0x3400 ≤ c.toNat && c.toNat ≤ 0x4DBF) ||
      (0xF900 ≤ c.toNat && c.toNat ≤ 0xFAFF)

def ftsTokenizeContent (model : TextModel) (content : String) : String :=
  if !containsCjk content then content
  else " ".intercalate ((model.jiebaCutForSearch content).filter fun word => !isBlank word)

def rawTokens (model : TextModel) (content : String) : Multiset String := model.tokenize content

def ftsTokens (model : TextModel) (content : String) : Multiset String :=
  model.tokenize (ftsTokenizeContent model content)

structure DrawerRow where
  rowid : Nat
  id : String
  content : String
  contentHash : Option String
  wing : String
  room : Option String
  sourceFile : Option String
  sourceRoot : Option String
  projectId : Option String
  addedAt : String
  memoryKind : MemoryKind
  status : Option KnowledgeStatus
  mergeCount : Nat
  admissionOwner : Option String
  compactedInto : Option String
  deletedAt : Option String
deriving DecidableEq, Repr

/-- `deleted_at IS NULL`. -/
def DrawerRow.isActive (row : DrawerRow) : Bool := row.deletedAt.isNone

/-- Both the id and the row number tell the rows apart. -/
structure DrawerTable extends Table DrawerRow.id where
  rowids : (rows.map DrawerRow.rowid).Nodup

structure RowChange where
  apply : DrawerRow → DrawerRow
  id : ∀ row, (apply row).id = row.id
  rowid : ∀ row, (apply row).rowid = row.rowid

namespace DrawerTable

instance : Membership DrawerRow DrawerTable := ⟨fun drawers row => row ∈ drawers.rows⟩

variable {drawers : DrawerTable} {row : DrawerRow}

theorem mem_rows : row ∈ drawers ↔ row ∈ drawers.rows := Iff.rfl

def empty : DrawerTable := ⟨Table.empty, List.nodup_nil⟩

variable {row' : DrawerRow} {p : DrawerRow → Bool}

theorem eq_of_rowid_eq (hRow : row ∈ drawers) (hRow' : row' ∈ drawers) (h : row.rowid = row'.rowid) : row = row' :=
  List.inj_on_of_nodup_map drawers.rowids hRow hRow' h

theorem eq_of_id_eq (hRow : row ∈ drawers) (hRow' : row' ∈ drawers) (h : row.id = row'.id) : row = row' :=
  List.inj_on_of_nodup_map drawers.unique hRow hRow' h

def find? (drawers : DrawerTable) (id : String) : Option DrawerRow := drawers.toTable.find? id

theorem find?_eq_some_iff {id : String} :
    drawers.find? id = some row ↔ row ∈ drawers ∧ row.id = id := Table.find?_eq_some_iff

def update (drawers : DrawerTable) (p : DrawerRow → Bool) (change : RowChange) : DrawerTable where
  toTable := drawers.toTable.update p change.apply change.id
  rowids := by
    rw [Table.map_update change.id change.rowid]
    exact drawers.rowids

theorem mem_update {change : RowChange} :
    row ∈ drawers.update p change ↔ ∃ old ∈ drawers, (if p old then change.apply old else old) = row :=
  List.mem_map

theorem find?_update (drawers : DrawerTable) (p : DrawerRow → Bool) (change : RowChange) (id : String) :
    (drawers.update p change).find? id =
      (drawers.find? id).map fun row => if p row then change.apply row else row :=
  Table.find?_update _ _ _ change.id _

def delete (drawers : DrawerTable) (p : DrawerRow → Bool) : DrawerTable where
  toTable := drawers.toTable.delete p
  rowids := drawers.rowids.sublist (List.filter_sublist.map DrawerRow.rowid)

theorem mem_delete : row ∈ drawers.delete p ↔ row ∈ drawers ∧ p row = false := Table.mem_delete

theorem find?_delete (drawers : DrawerTable) (p : DrawerRow → Bool) (id : String) :
    (drawers.delete p).find? id = (drawers.find? id).filter fun row => !p row :=
  Table.find?_delete _ _ _

theorem mem_ids_filter (h : row ∈ drawers) (p : DrawerRow → Bool) :
    row.id ∈ (drawers.rows.filter p).map DrawerRow.id ↔ p row = true := by
  constructor
  · intro hIn
    obtain ⟨row', hRow', hId⟩ := List.mem_map.mp hIn
    obtain ⟨hMem, hp⟩ := List.mem_filter.mp hRow'
    rwa [← eq_of_id_eq hMem h hId]
  · intro hp
    exact List.mem_map_of_mem (List.mem_filter.mpr ⟨h, hp⟩)

/-- The row number an `INSERT` takes: one above the largest in use. -/
def nextRowid (drawers : DrawerTable) : Nat := (drawers.rows.map DrawerRow.rowid).foldr max 0 + 1

theorem rowid_lt_nextRowid (h : row ∈ drawers) : row.rowid < drawers.nextRowid := by
  have hLe : ∀ l : List Nat, ∀ n ∈ l, n ≤ l.foldr max 0 := by
    intro l
    induction l with
    | nil => intro n hn; cases hn
    | cons m l ih =>
      intro n hn
      rcases List.mem_cons.mp hn with rfl | hn
      · exact Nat.le_max_left _ _
      · exact Nat.le_trans (ih n hn) (Nat.le_max_right _ _)
  exact Nat.lt_succ_of_le (hLe _ _ (List.mem_map_of_mem h))

/-- `INSERT OR IGNORE` of a row that takes the next row number. -/
def insertOrIgnore (drawers : DrawerTable) (row : Nat → DrawerRow)
    (hRowid : ∀ rowid, (row rowid).rowid = rowid) : DrawerTable where
  toTable := drawers.toTable.insertOrIgnore (row drawers.nextRowid)
  rowids := Table.nodup_map_insertOrIgnore drawers.rowids fun _ hOld => by
    rw [hRowid]
    exact Nat.ne_of_lt (rowid_lt_nextRowid hOld)

theorem find?_insertOrIgnore (drawers : DrawerTable) (row : Nat → DrawerRow)
    (hRowid : ∀ rowid, (row rowid).rowid = rowid) (id : String) :
    (drawers.insertOrIgnore row hRowid).find? id =
      if (row drawers.nextRowid).id = id then some ((drawers.find? id).getD (row drawers.nextRowid))
      else drawers.find? id :=
  Table.find?_insertOrIgnore _ _ _

theorem mem_insertOrIgnore_of_fresh {row : Nat → DrawerRow}
    (hRowid : ∀ rowid, (row rowid).rowid = rowid) (h : drawers.find? (row drawers.nextRowid).id = none)
    {r : DrawerRow} : r ∈ drawers.insertOrIgnore row hRowid ↔ r ∈ drawers ∨ r = row drawers.nextRowid := by
  rw [mem_rows, insertOrIgnore, Table.insertOrIgnore_of_fresh h, List.mem_append, List.mem_singleton]
  rfl

end DrawerTable

structure DrawerDb where
  drawers : DrawerTable
  postings : Multiset (Nat × String)

end Mempal.Drawers

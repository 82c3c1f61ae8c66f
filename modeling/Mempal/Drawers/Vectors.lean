import Mempal.Drawers.Writers

set_option autoImplicit false

/-! The table `drawer_vectors` is made when the first vector is stored and then takes vectors of that one dimension
only. -/

namespace Mempal.Drawers

open Foundation

/-- The bit patterns of `f32` components. -/
abbrev Embedding := List UInt32

structure VectorRow where
  id : String
  embedding : Embedding
  projectId : Option String
deriving DecidableEq, Repr

structure VectorTable where
  dimension : Option Nat
  table : Table VectorRow.id
  sized : ∀ row ∈ table, dimension = some row.embedding.length

inductive VectorError where
  | dimensionMismatch
  | uniqueConstraint
deriving DecidableEq, Repr

namespace VectorTable

instance : Membership VectorRow VectorTable := ⟨fun vectors row => row ∈ vectors.table⟩

def empty : VectorTable := ⟨none, Table.empty, fun _ h => absurd h List.not_mem_nil⟩

def find? (vectors : VectorTable) (id : String) : Option VectorRow := vectors.table.find? id

/-- `ensure_vectors_table`; a table for vectors of no component is refused. -/
def ensure (dim : Nat) (vectors : VectorTable) : Except DbError VectorTable :=
  match h : vectors.dimension with
  | some _ => .ok vectors
  | none =>
    if dim = 0 then .error .sqlite
    else .ok ⟨some dim, vectors.table, fun row hRow => absurd (vectors.sized row hRow) (by rw [h]; nofun)⟩

/-- `INSERT INTO drawer_vectors`, which looks at the dimension first. -/
def insert (row : VectorRow) (vectors : VectorTable) : Except VectorError VectorTable :=
  if h : vectors.dimension = some row.embedding.length then
    if vectors.table.contains row.id then .error .uniqueConstraint
    else .ok ⟨vectors.dimension, vectors.table.insertOrIgnore row, fun r hr =>
      (Table.mem_insertOrIgnore hr).elim (vectors.sized r) (fun hEq => hEq ▸ h)⟩
  else .error .dimensionMismatch

def delete (p : VectorRow → Bool) (vectors : VectorTable) : VectorTable :=
  ⟨vectors.dimension, vectors.table.delete p, fun row hRow => vectors.sized row (Table.mem_delete.mp hRow).1⟩

theorem find?_delete_id (vectors : VectorTable) (id k : String) :
    (vectors.delete fun row => row.id = id).find? k = if k = id then none else vectors.find? k :=
  Table.find?_delete_key _ _ _

theorem ensure_spec {dim : Nat} {vectors vectors' : VectorTable} (h : vectors.ensure dim = .ok vectors') :
    vectors'.table = vectors.table ∧ vectors'.dimension = some (vectors.dimension.getD dim) := by
  unfold ensure at h
  split at h
  · rename_i d hDim
    cases h
    exact ⟨rfl, by rw [hDim]; rfl⟩
  · rename_i hDim
    split at h
    · cases h
    · cases h
      exact ⟨rfl, by simp only [hDim, Option.getD_none]⟩

theorem insert_spec {row : VectorRow} {vectors vectors' : VectorTable} (h : vectors.insert row = .ok vectors') :
    vectors.find? row.id = none ∧
      ∀ k, vectors'.find? k = if row.id = k then some row else vectors.find? k := by
  unfold insert at h
  split at h
  · split at h
    · cases h
    · rename_i hFree
      cases h
      have hNone := Table.contains_eq_false_iff.mp (Bool.eq_false_iff.mpr hFree)
      refine ⟨hNone, fun k => ?_⟩
      rw [find?, Table.find?_insertOrIgnore]
      split
      · rename_i hKey
        rw [← hKey, hNone]
        rfl
      · rfl
  · cases h

theorem find?_of_uniqueConstraint {row : VectorRow} {vectors : VectorTable}
    (h : vectors.insert row = .error .uniqueConstraint) : ∃ old, vectors.find? row.id = some old := by
  unfold insert at h
  split at h
  · split at h
    · rename_i hTaken
      exact Option.isSome_iff_exists.mp hTaken
    · cases h
  · cases h

end VectorTable

/-- `insert_vector_with_project`: the first vector of an id stays. -/
def insertVectorWithProject (id : String) (vector : Embedding) (projectId : Option String) (vectors : VectorTable) :
    Except DbError VectorTable :=
  match vectors.ensure vector.length with
  | .error e => .error e
  | .ok vectors =>
    match vectors.insert ⟨id, vector, projectId⟩ with
    | .ok vectors' => .ok vectors'
    | .error .uniqueConstraint => .ok vectors
    | .error .dimensionMismatch => .error .sqlite

def replaceVector (id : String) (vector : Embedding) (projectId : Option String) (vectors : VectorTable) :
    Except DbError VectorTable :=
  match vectors.ensure vector.length with
  | .error e => .error e
  | .ok vectors =>
    match (vectors.delete fun row => row.id = id).insert ⟨id, vector, projectId⟩ with
    | .ok vectors' => .ok vectors'
    | .error _ => .error .sqlite

section
variable {id : String} {vector : Embedding} {projectId : Option String} {vectors vectors' : VectorTable}

theorem find?_insertVectorWithProject (h : insertVectorWithProject id vector projectId vectors = .ok vectors')
    (k : String) :
    vectors'.find? k = if id = k then some ((vectors.find? k).getD ⟨id, vector, projectId⟩) else vectors.find? k := by
  unfold insertVectorWithProject at h
  cases hEnsure : vectors.ensure vector.length with
  | error e =>
    rw [hEnsure] at h
    cases h
  | ok ensured =>
    have hSame (k : String) : ensured.find? k = vectors.find? k := by
      rw [VectorTable.find?, (VectorTable.ensure_spec hEnsure).1]
      rfl
    rw [hEnsure] at h
    dsimp only at h
    cases hInsert : ensured.insert ⟨id, vector, projectId⟩ with
    | ok inserted =>
      rw [hInsert] at h
      cases h
      obtain ⟨hFree, hFind⟩ := VectorTable.insert_spec hInsert
      rw [hFind, hSame]
      split
      · rename_i hKey
        rw [← hKey, ← hSame, hFree]
        rfl
      · rfl
    | error fault =>
      rw [hInsert] at h
      cases fault with
      | dimensionMismatch => cases h
      | uniqueConstraint =>
        cases h
        obtain ⟨old, hOld⟩ := VectorTable.find?_of_uniqueConstraint hInsert
        rw [hSame] at hOld
        rw [hSame]
        split
        · rename_i hKey
          rw [← hKey, hOld]
          rfl
        · rfl

theorem find?_replaceVector (h : replaceVector id vector projectId vectors = .ok vectors') (k : String) :
    vectors'.find? k = if id = k then some ⟨id, vector, projectId⟩ else vectors.find? k := by
  unfold replaceVector at h
  cases hEnsure : vectors.ensure vector.length with
  | error e =>
    rw [hEnsure] at h
    cases h
  | ok ensured =>
    rw [hEnsure] at h
    dsimp only at h
    cases hInsert : (ensured.delete fun row => row.id = id).insert ⟨id, vector, projectId⟩ with
    | error fault =>
      rw [hInsert] at h
      cases h
    | ok inserted =>
      rw [hInsert] at h
      cases h
      rw [(VectorTable.insert_spec hInsert).2, VectorTable.find?_delete_id, VectorTable.find?,
        (VectorTable.ensure_spec hEnsure).1, ← VectorTable.find?]
      split
      · rfl
      · rename_i hKey
        exact if_neg (Ne.symm hKey)

end

structure Triple where
  id : String
  sourceDrawer : Option String
deriving DecidableEq, Repr

inductive NoveltyAction where
  | insert
  | merge
  | drop
deriving DecidableEq, Repr

structure NoveltyAudit where
  candidateHash : String
  action : NoveltyAction
  nearDrawerId : Option String
  projectId : Option String
deriving DecidableEq, Repr

structure Store where
  db : DrawerDb
  vectors : VectorTable
  triples : List Triple
  noveltyAudit : List NoveltyAudit

namespace Store

def empty : Store := ⟨⟨DrawerTable.empty, 0⟩, VectorTable.empty, [], []⟩

def getDrawer (s : Store) (id : String) : Option DrawerRow := (s.db.drawers.find? id).filter DrawerRow.isActive

/-- `UPDATE triples SET source_drawer = NULL WHERE source_drawer = ..`. -/
def detachTriples (id : String) (triples : List Triple) : List Triple :=
  triples.map fun triple => if triple.sourceDrawer = some id then { triple with sourceDrawer := none } else triple

end Store

end Mempal.Drawers

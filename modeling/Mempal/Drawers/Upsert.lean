import Mempal.Drawers.Rows
import Mempal.Drawers.Vectors

set_option autoImplicit false

/-! `upsert_drawer_and_replace_vector_fenced` looks for an active drawer only. -/

namespace Mempal.Drawers

variable {drawer : NewDrawer} {vector : Embedding} {s s' : Store}

section Model
variable (model : TextModel)

/-- `upsert_drawer_and_replace_vector_fenced`, one transaction. The vector of an upsert has no project. -/
def upsertDrawerAndReplaceVector (drawer : NewDrawer) (vector : Embedding) (s : Store) : Except DbError Store :=
  match upsertDrawer model drawer s.db with
  | .error e => .error e
  | .ok db =>
    match
      if (s.getDrawer drawer.id).isSome then replaceVector drawer.id vector none s.vectors
      else insertVectorWithProject drawer.id vector none s.vectors with
    | .error e => .error e
    | .ok vectors => .ok { s with db, vectors }

variable {model}

theorem upsertDrawerAndReplaceVector_spec (h : upsertDrawerAndReplaceVector model drawer vector s = .ok s') :
    upsertDrawer model drawer s.db = .ok s'.db ∧ (∀ k, s'.vectors.find? k =
        if drawer.id = k then
          some (if (s.getDrawer drawer.id).isSome then ⟨drawer.id, vector, none⟩
            else (s.vectors.find? k).getD ⟨drawer.id, vector, none⟩)
        else s.vectors.find? k) ∧
      s'.triples = s.triples ∧ s'.noveltyAudit = s.noveltyAudit := by
  unfold upsertDrawerAndReplaceVector at h
  cases hUpsert : upsertDrawer model drawer s.db with
  | error e =>
    rw [hUpsert] at h
    cases h
  | ok db =>
    rw [hUpsert] at h
    dsimp only at h
    split at h
    · cases h
    · rename_i vectors hVectors
      cases h
      refine ⟨rfl, fun k => ?_, rfl, rfl⟩
      split at hVectors
      · rename_i hActive
        rw [find?_replaceVector hVectors, if_pos hActive]
      · rename_i hNone
        rw [find?_insertVectorWithProject hVectors, if_neg hNone]

def Stored (s : Store) (id content : String) (vector : Embedding) : Prop :=
  (s.getDrawer id).map DrawerRow.content = some content ∧ (s.vectors.find? id).map VectorRow.embedding = some vector

/-- An active drawer is there, or nothing is but at most the same vector. -/
def Storable (s : Store) (id : String) (vector : Embedding) : Prop :=
  match s.db.drawers.find? id with
  | some row => row.isActive = true
  | none => ∀ row, s.vectors.find? id = some row → row.embedding = vector

theorem upsert_stored_iff (h : upsertDrawerAndReplaceVector model drawer vector s = .ok s') :
    Stored s' drawer.id drawer.content vector ↔ Storable s drawer.id vector := by
  obtain ⟨hDb, hVectors, _, _⟩ := upsertDrawerAndReplaceVector_spec h
  have hRow' := find?_upsertDrawer hDb drawer.id
  have hVector' := hVectors drawer.id
  rw [Stored, Storable, Store.getDrawer, hRow', hVector']
  cases hRow : s.db.drawers.find? drawer.id with
  | some row =>
    cases hActive : row.isActive with
    | true =>
      have hStill : ((upsertChange model drawer).apply row).isActive = true := hActive
      have hContent : ((upsertChange model drawer).apply row).content = drawer.content := rfl
      simp [Store.getDrawer, hRow, hActive, hStill, hContent]
    | false => simp [hActive]
  | none =>
    generalize hNew : { drawer with projectId := none, sourceRoot := none }.row model s.db.drawers.nextRowid = row
    have hActive : row.isActive = true := hNew ▸ rfl
    have hContent : row.content = drawer.content := hNew ▸ rfl
    cases hVector : s.vectors.find? drawer.id <;> simp [Store.getDrawer, hRow, hActive, hContent]

end Model

end Mempal.Drawers

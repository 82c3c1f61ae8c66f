import Mempal.Foundation.FreshName
import Mempal.Drawers.ContentHash

set_option autoImplicit false

/-! An id is made of the wing, the room and eight digits of a digest, all of which can collide. A new drawer takes the
first id that no row uses, soft-deleted rows included. -/

namespace Mempal.Drawers

open Foundation

/-- The first eight digits of the digest of a content and of the components after it. -/
abbrev ShortDigest := String → List String → String

def defaultRoom : String := "default"

def sanitizeComponent (value : String) : String :=
  String.ofList (value.toList.map fun c => if c.isAlphanum then c.toLower else '_')

section Ids
variable (digest : ShortDigest)

def buildBootstrapDrawerId (wing : String) (room : Option String) (content : String)
    (identityComponents : List String) : String :=
  "drawer_" ++ sanitizeComponent wing ++ "_" ++ sanitizeComponent (room.getD defaultRoom) ++ "_" ++
    digest content identityComponents

def buildScopedDrawerId (wing : String) (room : Option String) (content : String) (scopeSeed : Option String) : String :=
  buildBootstrapDrawerId digest wing room content scopeSeed.toList

def buildDrawerId (wing : String) (room : Option String) (content : String) : String :=
  buildScopedDrawerId digest wing room content none

def drawerIdInUse (db : DrawerDb) (id : String) : Bool := (db.drawers.find? id).isSome

def resolveAvailableDrawerId (fuel : Nat) (db : DrawerDb) (preferredId : String) : Option String :=
  if !drawerIdInUse db preferredId then some preferredId
  else firstFree (numbered preferredId) (drawerIdInUse db) fuel 2

def resolveIngestDrawerId (model : TextModel) (fuel : Nat) (content : String) (scope : DrawerScope) (db : DrawerDb) :
    Option (String × Bool) :=
  match findActiveDrawerIdByIdentity model content scope db with
  | some existingId => some (existingId, true)
  | none =>
    let baseId := buildDrawerId digest scope.wing scope.room content
    if !drawerIdInUse db baseId then some (baseId, false)
    else
      let scopedId := buildScopedDrawerId digest scope.wing scope.room content
        (some (scope.projectId.getD "__global_collision__"))
      if scopedId ≠ baseId && !drawerIdInUse db scopedId then some (scopedId, false)
      else (firstFree (numbered scopedId) (drawerIdInUse db) fuel 2).map fun candidate => (candidate, false)

end Ids

variable {id : String}

theorem mem_ids_of_inUse {db : DrawerDb} (h : drawerIdInUse db id = true) : id ∈ db.drawers.rows.map DrawerRow.id := by
  obtain ⟨row, hRow⟩ := Option.isSome_iff_exists.mp h
  obtain ⟨hMem, rfl⟩ := DrawerTable.find?_eq_some_iff.mp hRow
  exact List.mem_map_of_mem hMem

theorem firstFree_id_returns {db : DrawerDb} {n : Nat} (base : String) :
    ∃ id, Returns (fun fuel => firstFree (numbered base) (drawerIdInUse db) fuel n) id ∧ drawerIdInUse db id = false :=
  firstFree_returns (numbered_injective base) (fun _ => mem_ids_of_inUse) n

theorem resolveAvailableDrawerId_returns {db : DrawerDb} {preferredId : String} :
    ∃ id, Returns (fun fuel => resolveAvailableDrawerId fuel db preferredId) id ∧ drawerIdInUse db id = false := by
  cases hFree : drawerIdInUse db preferredId with
  | false =>
    refine ⟨preferredId, ?_, hFree⟩
    simp only [resolveAvailableDrawerId, hFree, Bool.not_false, if_true]
    exact Returns.pure preferredId
  | true =>
    simp only [resolveAvailableDrawerId, hFree, Bool.not_true, Bool.false_eq_true, if_false]
    exact firstFree_id_returns preferredId

def NewDrawer.scope (drawer : NewDrawer) : DrawerScope := ⟨drawer.wing, drawer.room, drawer.projectId⟩

def Inserted (model : TextModel) (drawer : NewDrawer) (db db' : DrawerDb) : Prop :=
  insertDrawer model drawer db = .ok db' ∨
    ∃ admissionOwner, insertDrawerWithAdmissionOwner model drawer admissionOwner db = .ok db'

section Insert
variable {model : TextModel} {drawer : NewDrawer} {db db' : DrawerDb}

theorem Inserted.allRows {P : DrawerRow → Prop} (hP : KeptByWriters model P) (h : Inserted model drawer db db')
    (hRows : AllRows P db) : AllRows P db' := by
  rcases h with hInsert | ⟨admissionOwner, hInsert⟩
  · exact hRows.insertDrawer hP hInsert
  · have hRun : run model (.insertWithOwner drawer admissionOwner) db = .ok db' := hInsert
    exact hRows.run hP hRun

theorem Inserted.rows_of_active {row : DrawerRow} (h : Inserted model drawer db db')
    (hRow : db.drawers.find? drawer.id = some row) (hActive : row.isActive = true) :
    db'.drawers.rows = db.drawers.rows := by
  rcases h with hInsert | ⟨admissionOwner, hInsert⟩
  · rw [drawers_insertDrawer hInsert]
    exact congrArg Table.rows (Table.insertOrIgnore_of_taken hRow)
  · rw [insertDrawerWithAdmissionOwner, hRow, Option.any_some, hActive, if_pos rfl] at hInsert
    cases hInsert
    rfl

theorem Inserted.mem_of_free (h : Inserted model drawer db db') (hFree : db.drawers.find? drawer.id = none) :
    ∃ new, new.id = drawer.id ∧ new.isActive = true ∧ new.content = drawer.content ∧
      drawer.scope.holds new = true ∧ ∀ row, row ∈ db'.drawers ↔ row ∈ db.drawers ∨ row = new := by
  have hHolds : ∀ owner,
      drawer.scope.holds { drawer.row model db.drawers.nextRowid with admissionOwner := owner } = true := by
    intro owner
    simp [DrawerScope.holds, NewDrawer.scope, NewDrawer.row]
  have hMem : ∀ inserted, insertDrawer model drawer db = .ok inserted →
      ∀ row, row ∈ inserted.drawers ↔ row ∈ db.drawers ∨ row = drawer.row model db.drawers.nextRowid := by
    intro inserted hInsert row
    rw [drawers_insertDrawer hInsert]
    exact DrawerTable.mem_insertOrIgnore_of_fresh (fun _ => rfl) hFree
  rcases h with hInsert | ⟨admissionOwner, hInsert⟩
  · exact ⟨drawer.row model db.drawers.nextRowid, rfl, rfl, rfl, hHolds none, hMem db' hInsert⟩
  · obtain ⟨hActive, _⟩ | ⟨_, inserted, hInserted, rfl | rfl⟩ := insertDrawerWithAdmissionOwner_ok hInsert
    · rw [hFree] at hActive
      cases hActive
    · exact ⟨drawer.row model db.drawers.nextRowid, rfl, rfl, rfl, hHolds none, hMem _ hInserted⟩
    · refine ⟨{ drawer.row model db.drawers.nextRowid with admissionOwner := admissionOwner }, rfl, rfl, rfl,
        hHolds admissionOwner, fun row => ?_⟩
      have hOther : ∀ old ∈ db.drawers, old.id ≠ drawer.id := by
        intro old hOld hId
        rw [DrawerTable.find?_eq_some_iff.mpr ⟨hOld, hId⟩] at hFree
        cases hFree
      rw [updateColumns, DrawerTable.mem_update]
      constructor
      · rintro ⟨old, hOld, rfl⟩
        rcases (hMem _ hInserted old).mp hOld with hOld | rfl
        · exact Or.inl (by simpa [hOther old hOld] using hOld)
        · exact Or.inr (if_pos (decide_eq_true rfl))
      · rintro (hOld | rfl)
        · exact ⟨row, (hMem _ hInserted row).mpr (Or.inl hOld), by simp [hOther row hOld]⟩
        · exact ⟨_, (hMem _ hInserted _).mpr (Or.inr rfl), if_pos (decide_eq_true rfl)⟩

end Insert

section Candidate
variable {digest : ShortDigest} {model : TextModel} {content : String} {scope : DrawerScope} {db db' : DrawerDb}

theorem resolveIngestDrawerId_existing (digest : ShortDigest)
    (h : findActiveDrawerIdByIdentity model content scope db = some id) :
    Returns (fun fuel => resolveIngestDrawerId digest model fuel content scope db) (id, true) := by
  simp only [resolveIngestDrawerId, h]
  exact Returns.pure (id, true)

theorem resolveIngestDrawerId_new (digest : ShortDigest)
    (h : findActiveDrawerIdByIdentity model content scope db = none) :
    ∃ id, Returns (fun fuel => resolveIngestDrawerId digest model fuel content scope db) (id, false) ∧
      drawerIdInUse db id = false := by
  simp only [resolveIngestDrawerId, h]
  split
  · rename_i hFree
    exact ⟨_, Returns.pure _, by simpa using hFree⟩
  · split
    · rename_i hFree
      exact ⟨_, Returns.pure _, by simpa using (Bool.and_eq_true_iff.mp hFree).2⟩
    · obtain ⟨id, hReturns, hFree⟩ := firstFree_id_returns (buildScopedDrawerId digest scope.wing scope.room content
        (some (scope.projectId.getD "__global_collision__")))
      exact ⟨id, hReturns.map _, hFree⟩

theorem findActiveDrawerIdByIdentity_unique (hInjective : Function.Injective model.contentHashHex)
    (hCurrent : AllRows (Current model) db) (hStored : StoresContent content scope db)
    (hOnly : ∀ row ∈ db.drawers, row.isActive = true → row.content = content → scope.holds row = true → row.id = id) :
    findActiveDrawerIdByIdentity model content scope db = some id := by
  have hSpec := findActiveDrawerIdByIdentity_spec hInjective hCurrent content scope
  cases hFound : findActiveDrawerIdByIdentity model content scope db with
  | none =>
    rw [hFound] at hSpec
    exact absurd hStored hSpec
  | some found =>
    rw [hFound] at hSpec
    obtain ⟨row, hRow, rfl, hActive, hContent, hScope⟩ := hSpec
    rw [hOnly row hRow hActive hContent hScope]

theorem ingest_drawer_id_stable (digest : ShortDigest) {model : TextModel}
    (hInjective : Function.Injective model.contentHashHex) {db : DrawerDb} (hCurrent : AllRows (Current model) db)
    (content : String) (scope : DrawerScope) :
    ∃ id existing, Returns (fun fuel => resolveIngestDrawerId digest model fuel content scope db) (id, existing) ∧
      (existing = true ↔ StoresContent content scope db) ∧
      (existing = true → ∃ row ∈ db.drawers, row.id = id ∧ row.isActive = true ∧ row.content = content ∧
        row.wing = scope.wing ∧ row.room = scope.room ∧ row.projectId = scope.projectId) ∧
      (existing = false → ∀ row ∈ db.drawers, row.id ≠ id) ∧
      ∀ drawer db', drawer.id = id → drawer.content = content → drawer.scope = scope → Inserted model drawer db db' →
        Returns (fun fuel => resolveIngestDrawerId digest model fuel content scope db') (id, true) := by
  have hSpec := findActiveDrawerIdByIdentity_spec hInjective hCurrent content scope
  cases hFound : findActiveDrawerIdByIdentity model content scope db with
  | some id =>
    rw [hFound] at hSpec
    obtain ⟨row, hRow, hId, hActive, hContent, hScope⟩ := hSpec
    refine ⟨id, true, resolveIngestDrawerId_existing digest hFound, ?_, ?_, by rintro ⟨⟩, ?_⟩
    · exact iff_of_true rfl ⟨row, hRow, hActive, hContent, hScope⟩
    · intro _
      simp only [DrawerScope.holds, Bool.and_eq_true, decide_eq_true_eq] at hScope
      exact ⟨row, hRow, hId, hActive, hContent, hScope.1.1, hScope.1.2, hScope.2⟩
    · rintro drawer db' hDrawer _ _ hInserted
      have hTaken : db.drawers.find? drawer.id = some row :=
        DrawerTable.find?_eq_some_iff.mpr ⟨hRow, hId.trans hDrawer.symm⟩
      have hRows := hInserted.rows_of_active hTaken hActive
      apply resolveIngestDrawerId_existing
      rw [← hFound, findActiveDrawerIdByIdentity, findActiveDrawerIdByIdentity, hRows]
  | none =>
    rw [hFound] at hSpec
    obtain ⟨id, hReturns, hFree⟩ := resolveIngestDrawerId_new digest hFound
    have hNone : db.drawers.find? id = none := Option.isSome_eq_false_iff.mp hFree |> Option.isNone_iff_eq_none.mp
    refine ⟨id, false, hReturns, iff_of_false Bool.false_ne_true hSpec, by rintro ⟨⟩, ?_, ?_⟩
    · intro _ row hRow hId
      rw [DrawerTable.find?_eq_some_iff.mpr ⟨hRow, hId⟩] at hNone
      cases hNone
    · rintro drawer db' rfl rfl rfl hInserted
      obtain ⟨new, hId, hActive, hContent, hScope, hMem⟩ := hInserted.mem_of_free hNone
      apply resolveIngestDrawerId_existing
      apply findActiveDrawerIdByIdentity_unique hInjective (hInserted.allRows current_keptByWriters hCurrent)
      · exact ⟨new, (hMem new).mpr (Or.inr rfl), hActive, hContent, hScope⟩
      · intro row hRow hRowActive hRowContent hRowScope
        rcases (hMem row).mp hRow with hOld | rfl
        · exact absurd ⟨row, hOld, hRowActive, hRowContent, hRowScope⟩ hSpec
        · exact hId

end Candidate

def collidingIds : DrawerDb :=
  ⟨⟨⟨[{ (evidence "drawer_notes_default_00000000" "beta").row spacedWords 1 with
    deletedAt := some "2026-01-02T00:00:00Z" }], by decide⟩, by decide⟩, 0⟩

theorem collidingIds_stable :
    resolveIngestDrawerId (fun _ _ => "00000000") spacedWords 1 "alpha" ⟨"Notes", none, none⟩ collidingIds =
        some ("drawer_notes_default_00000000_2", false) ∧
      ∃ id existing,
        Returns (fun fuel => resolveIngestDrawerId (fun _ _ => "00000000") spacedWords fuel "alpha" ⟨"Notes", none, none⟩
          collidingIds) (id, existing) ∧
        (existing = false → ∀ row ∈ collidingIds.drawers, row.id ≠ id) := by
  refine ⟨by decide +kernel, ?_⟩
  have hCurrent : AllRows (Current spacedWords) collidingIds := by
    intro row hRow
    cases List.mem_singleton.mp hRow
    rfl
  obtain ⟨id, existing, hReturns, _, _, hFresh, _⟩ := ingest_drawer_id_stable (fun _ _ => "00000000")
    (fun _ _ h => h) hCurrent "alpha" ⟨"Notes", none, none⟩
  exact ⟨id, existing, hReturns, hFresh⟩

end Mempal.Drawers

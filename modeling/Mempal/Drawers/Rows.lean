import Mempal.Drawers.Writers

set_option autoImplicit false

/-! Row by row: which row a lookup finds after each statement, and what relates it to the row that was there before.
-/

namespace Mempal.Drawers

def RowsRelate (R : DrawerRow → DrawerRow → Prop) (db db' : DrawerDb) : Prop :=
  ∀ k, Option.Rel R (db.drawers.find? k) (db'.drawers.find? k)

variable {change : RowChange} {db db' : DrawerDb}

section Relation
variable {R : DrawerRow → DrawerRow → Prop} (hRefl : ∀ row, R row row)
include hRefl

theorem RowsRelate.refl (db : DrawerDb) : RowsRelate R db db := by
  intro k
  cases db.drawers.find? k with
  | none => exact .none
  | some row => exact .some (hRefl row)

theorem rowsRelate_update {p : DrawerRow → Bool} (hEq : db'.drawers = db.drawers.update p change)
    (h : ∀ row ∈ db.drawers, p row = true → R row (change.apply row)) : RowsRelate R db db' := by
  intro k
  rw [hEq, DrawerTable.find?_update]
  cases hFind : db.drawers.find? k with
  | none => exact .none
  | some row =>
    refine .some ?_
    dsimp only
    split
    · rename_i hp
      exact h row (DrawerTable.find?_eq_some_iff.mp hFind).1 hp
    · exact hRefl row

omit hRefl in
theorem RowsRelate.trans (hTrans : ∀ row row' row'', R row row' → R row' row'' → R row row'') {db'' : DrawerDb}
    (h : RowsRelate R db db') (h' : RowsRelate R db' db'') : RowsRelate R db db'' := by
  intro k
  have hFirst := h k
  have hSecond := h' k
  revert hFirst hSecond
  generalize db.drawers.find? k = row
  generalize db'.drawers.find? k = row'
  generalize db''.drawers.find? k = row''
  rintro (⟨hR⟩ | _) hSecond
  · cases hSecond with
    | some hR' => exact .some (hTrans _ _ _ hR hR')
  · cases hSecond with
    | none => exact .none

end Relation

variable {guard : DrawerRow → Bool} {drawer : NewDrawer}

section Model
variable {model : TextModel} {id : String}

theorem updateContent_ok (h : updateContent model id guard change db = some db') :
    ∃ row, db.drawers.find? id = some row ∧ guard row = true ∧
      db' = ftsInsert model row.rowid (change.apply row).content (ftsDelete model row.rowid row.content
        (updateColumns (fun r => r.id = id) change db)) := by
  unfold updateContent at h
  split at h
  · cases h
  · rename_i row hFind
    split at h
    · rename_i hGuard
      exact ⟨row, hFind, hGuard, (Option.some.inj h).symm⟩
    · cases h

theorem insertDrawer_ok (h : insertDrawer model drawer db = .ok db') :
    validateAnchorDomain drawer.domain drawer.anchorKind = .ok () ∧
      ∃ row, (db.drawers.insertOrIgnore (drawer.row model) fun _ => rfl).find? drawer.id = some row ∧
        db' = ftsInsert model row.rowid (ftsTokenizeContent model drawer.content)
          { db with drawers := db.drawers.insertOrIgnore (drawer.row model) fun _ => rfl } := by
  unfold insertDrawer at h
  split at h
  · cases h
  · rename_i hAnchor
    dsimp only at h
    split at h
    · cases h
    · rename_i row hRow
      exact ⟨hAnchor, row, hRow, (Except.ok.inj h).symm⟩

theorem insertDrawerWithAdmissionOwner_ok {admissionOwner : Option String}
    (h : insertDrawerWithAdmissionOwner model drawer admissionOwner db = .ok db') :
    (db.drawers.find? drawer.id).any DrawerRow.isActive = true ∧ db' = db ∨
      (db.drawers.find? drawer.id).any DrawerRow.isActive = false ∧
        ∃ inserted, insertDrawer model drawer db = .ok inserted ∧ (db' = inserted ∨
          db' = updateColumns (fun row => row.id = drawer.id) (ownerChange admissionOwner) inserted) := by
  unfold insertDrawerWithAdmissionOwner at h
  split at h
  · rename_i hActive
    exact .inl ⟨hActive, (Except.ok.inj h).symm⟩
  · rename_i hNone
    refine .inr ⟨by simpa using hNone, ?_⟩
    split at h
    · cases h
    · rename_i inserted hInsert
      refine ⟨inserted, hInsert, ?_⟩
      split at h
      · exact .inl (Except.ok.inj h).symm
      · exact .inr (Except.ok.inj h).symm

theorem upsertDrawer_ok (h : upsertDrawer model drawer db = .ok db') :
    validateAnchorDomain drawer.domain drawer.anchorKind = .ok () ∧
      (updateContent model drawer.id DrawerRow.isActive (upsertChange model drawer) db = some db' ∨
        updateContent model drawer.id DrawerRow.isActive (upsertChange model drawer) db = none ∧
          insertDrawer model { drawer with projectId := none, sourceRoot := none } db = .ok db') := by
  unfold upsertDrawer at h
  split at h
  · cases h
  · rename_i hAnchor
    refine ⟨hAnchor, ?_⟩
    split at h
    · rename_i updated hUpdate
      exact .inl (Except.ok.inj h ▸ hUpdate)
    · rename_i hUpdate
      exact .inr ⟨hUpdate, h⟩

theorem updateDrawerAfterMerge_ok {drawerId mergedContent : String} {expectedMergeCount : Nat}
    {candidate : Option (String × String)}
    (h : updateDrawerAfterMerge model drawerId mergedContent expectedMergeCount candidate db = .ok db') :
    ∃ updated, updateContent model drawerId (fun row => row.isActive && row.mergeCount = expectedMergeCount)
        (mergeChange model mergedContent 1) db = some updated ∧
      (db' = updated ∨ ∃ candidateId owner, candidate = some (candidateId, owner) ∧ candidateId ≠ drawerId ∧
        db' = deleteRows (fun row => row.id = candidateId && row.admissionOwner = some owner) updated) := by
  unfold updateDrawerAfterMerge at h
  split at h
  · cases h
  · rename_i updated hUpdate
    refine ⟨updated, hUpdate, ?_⟩
    split at h
    · exact .inl (Except.ok.inj h).symm
    · rename_i candidateId owner
      split at h
      · rename_i hNe
        exact .inr ⟨candidateId, owner, rfl, hNe, (Except.ok.inj h).symm⟩
      · exact .inl (Except.ok.inj h).symm

theorem closeCase_ok {caseId : String} {closed : String → Option String}
    (h : closeCase model caseId closed db = .ok db') :
    ∃ row content updated, db.drawers.find? caseId = some row ∧ row.isActive = true ∧
      closed row.content = some content ∧
      updateContent model caseId (fun r => r.isActive && r.memoryKind = .case && r.status = some .pendingReview &&
        r.contentHash = some (model.contentHashHex row.content)) (closeChange model content) db = some updated ∧
      db' = syncFtsContent model row.rowid row.content content updated := by
  unfold closeCase at h
  split at h
  · cases h
  · rename_i row hCase
    obtain ⟨hFind, hActive⟩ := Option.filter_eq_some_iff.mp hCase
    split at h
    · cases h
    · split at h
      · cases h
      · rename_i content hClosed
        dsimp only at h
        split at h
        · cases h
        · rename_i updated hUpdate
          exact ⟨row, content, updated, hFind, hActive, hClosed, hUpdate, (Except.ok.inj h).symm⟩

/-- What every turn of the loop keeps, the loop keeps. -/
theorem retireSources_invariant {sourceIds : List String} {targetId timestamp : String} {I : DrawerDb → Prop}
    (hTurn : ∀ db, ∀ sourceId ∈ sourceIds, sourceId ≠ targetId →
      (db.drawers.find? sourceId).any isCompactable = true → I db →
        I (updateColumns (fun row => row.id = sourceId) (compactChange timestamp targetId) db))
    (h : retireSources timestamp targetId sourceIds db = .ok db') (hDb : I db) : I db' := by
  induction sourceIds generalizing db with
  | nil => exact Except.ok.inj h ▸ hDb
  | cons sourceId sourceIds ih =>
    have hRest := fun db id hId => hTurn db id (List.mem_cons_of_mem _ hId)
    rw [retireSources] at h
    split at h
    · exact ih hRest h hDb
    · rename_i hNe
      split at h
      · rename_i hSome
        exact ih hRest h (hTurn db sourceId List.mem_cons_self hNe hSome hDb)
      · cases h

theorem drawers_updateContent (h : updateContent model id guard change db = some db') :
    ∃ row, db.drawers.find? id = some row ∧ guard row = true ∧
      db'.drawers = db.drawers.update (fun r => r.id = id) change := by
  obtain ⟨row, hFind, hGuard, rfl⟩ := updateContent_ok h
  exact ⟨row, hFind, hGuard, rfl⟩

theorem drawers_insertDrawer (h : insertDrawer model drawer db = .ok db') :
    db'.drawers = db.drawers.insertOrIgnore (drawer.row model) fun _ => rfl := by
  obtain ⟨_, row, _, rfl⟩ := insertDrawer_ok h
  rfl

theorem find?_insertDrawer (h : insertDrawer model drawer db = .ok db') (k : String) :
    db'.drawers.find? k =
      if drawer.id = k then some ((db.drawers.find? k).getD (drawer.row model db.drawers.nextRowid))
      else db.drawers.find? k := by
  rw [drawers_insertDrawer h]
  exact DrawerTable.find?_insertOrIgnore _ _ (fun _ => rfl) _

theorem find?_updateContent (h : updateContent model id guard change db = some db') (k : String) :
    db'.drawers.find? k = if k = id then (db.drawers.find? k).map change.apply else db.drawers.find? k := by
  obtain ⟨row, _, _, hDrawers⟩ := drawers_updateContent h
  rw [hDrawers, DrawerTable.find?_update]
  cases hFind : db.drawers.find? k with
  | none => simp
  | some row =>
    have hId := (DrawerTable.find?_eq_some_iff.mp hFind).2
    by_cases hk : k = id <;> simp [hId, hk]

theorem updateContent_eq_none_iff :
    updateContent model id guard change db = none ↔ ∀ row, db.drawers.find? id = some row → guard row = false := by
  unfold updateContent
  cases hFind : db.drawers.find? id with
  | none => simp
  | some row => cases hGuard : guard row <;> simp [hGuard]

theorem find?_upsertDrawer (h : upsertDrawer model drawer db = .ok db') (k : String) :
    db'.drawers.find? k =
      if drawer.id = k then
        match db.drawers.find? k with
        | some row => some (if row.isActive then (upsertChange model drawer).apply row else row)
        | none => some ({ drawer with projectId := none, sourceRoot := none }.row model db.drawers.nextRowid)
      else db.drawers.find? k := by
  obtain ⟨_, hUpdate | ⟨hUpdate, hInsert⟩⟩ := upsertDrawer_ok h
  · obtain ⟨row, hRow, hActive, _⟩ := drawers_updateContent hUpdate
    rw [find?_updateContent hUpdate]
    by_cases hk : drawer.id = k
    · subst hk
      simp [hRow, hActive]
    · simp [hk, Ne.symm hk]
  · rw [find?_insertDrawer hInsert]
    by_cases hk : drawer.id = k
    · subst hk
      cases hFind : db.drawers.find? drawer.id with
      | none => simp
      | some row => simp [updateContent_eq_none_iff.mp hUpdate row hFind]
    · simp [hk]

theorem drawers_deleteDrawerFtsRow (rowid : Nat) (content : String) (db : DrawerDb) :
    (deleteDrawerFtsRow model rowid content db).drawers = db.drawers := by
  unfold deleteDrawerFtsRow
  split <;> rfl

section Compaction
variable {R : DrawerRow → DrawerRow → Prop} (hRefl : ∀ row, R row row)
  (hTrans : ∀ row row' row'', R row row' → R row' row'' → R row row'')
  {targetId mergedContent timestamp : String} {sourceIds : List String}
  (hRetire : ∀ row, isCompactable row = true → R row ((compactChange timestamp targetId).apply row))
include hRefl hTrans hRetire

theorem rowsRelate_retireSources (h : retireSources timestamp targetId sourceIds db = .ok db') :
    RowsRelate R db db' := by
  refine retireSources_invariant (I := RowsRelate R db) ?_ h (RowsRelate.refl hRefl db)
  intro db' sourceId _ _ hSome hDb
  refine RowsRelate.trans hTrans hDb (rowsRelate_update hRefl rfl ?_)
  intro row hRow hId
  rw [DrawerTable.find?_eq_some_iff.mpr ⟨hRow, of_decide_eq_true hId⟩] at hSome
  exact hRetire row hSome

theorem rowsRelate_applyCompaction (hMerge : ∀ row, isCompactable row = true →
      R row ((mergeChange model mergedContent (sourceIds.length - 1)).apply row))
    (h : applyCompaction model targetId sourceIds mergedContent timestamp db = .ok db') :
    RowsRelate R db db' := by
  obtain ⟨_, target, updated, hFind, hCompactable, hUpdate, hSources⟩ := exists_of_applyCompaction h
  obtain ⟨_, _, _, hDrawers⟩ := drawers_updateContent hUpdate
  have hContent : RowsRelate R db updated := by
    refine rowsRelate_update hRefl hDrawers ?_
    intro row hRow hId
    have hSame : db.drawers.find? targetId = some row :=
      DrawerTable.find?_eq_some_iff.mpr ⟨hRow, of_decide_eq_true hId⟩
    rw [hFind] at hSame
    cases hSame
    exact hMerge _ hCompactable
  have hRetired := rowsRelate_retireSources hRefl hTrans hRetire hSources
  exact RowsRelate.trans hTrans hContent fun k => hRetired k

end Compaction

end Model

end Mempal.Drawers

import Mathlib.Algebra.Order.Sub.Basic
import Mathlib.Data.Multiset.OrderedMonoid
import Mempal.Drawers.Rows

set_option autoImplicit false

/-! The index agrees with the table when every active drawer is posted once under its segmented text and no posting is
left over. -/

namespace Mempal.Drawers

open Foundation Foundation.Postings

variable {row : DrawerRow} {db db' : DrawerDb} {p guard : DrawerRow → Bool} {change : RowChange}
  {drawer : NewDrawer} {n rowid : Nat} {rows : List DrawerRow} {postings : Multiset (Nat × String)}
  {mergedContent timestamp targetId : String} {sourceIds : List String} {op : DrawerOp}

section Model
variable (model : TextModel)

/-- What readers of the index rely on. -/
def Agrees (db : DrawerDb) : Prop :=
  (∀ row ∈ db.drawers, row.isActive = true → tokensOf row.rowid db.postings = ftsTokens model row.content) ∧
  (∀ p ∈ db.postings, ∃ row ∈ db.drawers, row.rowid = p.1)

def Posted (postings : Multiset (Nat × String)) (row : DrawerRow) : Prop :=
  tokensOf row.rowid postings = ftsTokens model row.content ∨
    (row.isActive = false ∧ tokensOf row.rowid postings = 0)

structure Indexed (db : DrawerDb) : Prop where
  rows : ∀ row ∈ db.drawers, Posted model db.postings row
  docs : ∀ rowid, (∀ row ∈ db.drawers, row.rowid ≠ rowid) → tokensOf rowid db.postings = 0

variable {model}

theorem Posted.of_active (h : Posted model postings row)
    (hActive : row.isActive = true) : tokensOf row.rowid postings = ftsTokens model row.content := by
  rcases h with hPosted | ⟨hDeleted, _⟩
  · exact hPosted
  · rw [hActive] at hDeleted
    cases hDeleted

theorem Indexed.agrees (h : Indexed model db) : Agrees model db := by
  constructor
  · intro row hRow hActive
    exact (h.rows row hRow).of_active hActive
  · intro p hp
    by_contra hNone
    push Not at hNone
    exact tokensOf_ne_zero_of_mem hp (h.docs p.1 hNone)

theorem tokensOf_ftsInsert_of_ne (h : rowid ≠ n) (text : String) (db : DrawerDb) :
    tokensOf n (ftsInsert model rowid text db).postings = tokensOf n db.postings :=
  tokensOf_add_of_ne h _ _

theorem tokensOf_ftsDelete_of_ne (h : rowid ≠ n) (text : String) (db : DrawerDb) :
    tokensOf n (ftsDelete model rowid text db).postings = tokensOf n db.postings :=
  tokensOf_sub_of_ne h _ _

@[simp] theorem tokensOf_ftsInsert_self (rowid : Nat) (text : String) (db : DrawerDb) :
    tokensOf rowid (ftsInsert model rowid text db).postings = tokensOf rowid db.postings + model.tokenize text :=
  tokensOf_add_self _ _ _

@[simp] theorem tokensOf_ftsDelete_self (rowid : Nat) (text : String) (db : DrawerDb) :
    tokensOf rowid (ftsDelete model rowid text db).postings = tokensOf rowid db.postings - model.tokenize text :=
  tokensOf_sub_self _ _ _

theorem drawerFtsRowIndexed_eq_false : drawerFtsRowIndexed rowid db = false ↔ tokensOf rowid db.postings = 0 := by
  rw [drawerFtsRowIndexed, decide_eq_false_iff_not, Multiset.mem_map, tokensOf_eq_zero_iff]
  constructor
  · intro h p hp hEq
    exact h ⟨p, hp, hEq⟩
  · rintro h ⟨p, hp, hEq⟩
    exact h p hp hEq

theorem tokensOf_deleteDrawerFtsRow_of_ne (h : rowid ≠ n) (content : String) (db : DrawerDb) :
    tokensOf n (deleteDrawerFtsRow model rowid content db).postings = tokensOf n db.postings := by
  unfold deleteDrawerFtsRow
  split
  · exact tokensOf_ftsDelete_of_ne h _ db
  · rfl

theorem Posted.unposted (h : Posted model db.postings row) :
    tokensOf row.rowid (deleteDrawerFtsRow model row.rowid row.content db).postings = 0 := by
  unfold deleteDrawerFtsRow
  split
  · rw [tokensOf_ftsDelete_self]
    rcases h with hPosted | ⟨_, hNone⟩
    · rw [hPosted]
      exact tsub_self _
    · rw [hNone]
      exact zero_tsub _
  · rename_i hIndexed
    exact drawerFtsRowIndexed_eq_false.mp (by simpa using hIndexed)

theorem Posted.congr {row' : DrawerRow} (h : Posted model postings row) (hRowid : row'.rowid = row.rowid)
    (hContent : row'.content = row.content) (hDeleted : row.isActive = false → row'.isActive = false) :
    Posted model postings row' := by
  rw [Posted, hRowid, hContent]
  rcases h with hPosted | ⟨hNot, hNone⟩
  · exact Or.inl hPosted
  · exact Or.inr ⟨hDeleted hNot, hNone⟩

theorem rowid_mem_update {drawers : DrawerTable}
    (h : ∀ row ∈ drawers.update p change, row.rowid ≠ rowid) : ∀ row ∈ drawers, row.rowid ≠ rowid := by
  intro row hRow hEq
  refine h _ (DrawerTable.mem_update.mpr ⟨row, hRow, rfl⟩) ?_
  split
  · rw [change.rowid, hEq]
  · exact hEq

theorem Indexed.updateColumns (h : Indexed model db) (hContent : ∀ row, (change.apply row).content = row.content)
    (hDeleted : ∀ row, row.isActive = false → (change.apply row).isActive = false) :
    Indexed model (updateColumns p change db) := by
  constructor
  · intro row hRow
    obtain ⟨old, hOld, rfl⟩ := DrawerTable.mem_update.mp hRow
    split
    · exact (h.rows old hOld).congr (change.rowid old) (hContent old) (hDeleted old)
    · exact h.rows old hOld
  · intro rowid hNone
    exact h.docs rowid (rowid_mem_update hNone)

variable {id : String} (drawers : DrawerTable)

theorem Indexed.reindex (h : Indexed model db) (hFind : db.drawers.find? id = some row)
    (hDrawers : db'.drawers = db.drawers.update (fun r => r.id = id) change)
    (hOthers : ∀ n, row.rowid ≠ n → tokensOf n db'.postings = tokensOf n db.postings)
    (hRow : tokensOf row.rowid db'.postings = ftsTokens model (change.apply row).content) : Indexed model db' := by
  obtain ⟨hMem, hId⟩ := DrawerTable.find?_eq_some_iff.mp hFind
  constructor
  · intro row' hRow'
    rw [hDrawers] at hRow'
    obtain ⟨old, hOld, rfl⟩ := DrawerTable.mem_update.mp hRow'
    by_cases hSame : old.id = id
    · have hEq : old = row := DrawerTable.eq_of_id_eq hOld hMem (hSame.trans hId.symm)
      subst hEq
      simp only [hSame, decide_true, if_true]
      left
      rw [change.rowid]
      exact hRow
    · simp only [hSame, decide_false, Bool.false_eq_true, if_false]
      have hNe : row.rowid ≠ old.rowid := by
        intro hEq
        rw [DrawerTable.eq_of_rowid_eq hMem hOld hEq] at hId
        exact hSame hId
      rw [Posted, hOthers old.rowid hNe]
      exact h.rows old hOld
  · intro rowid hNone
    rw [hDrawers] at hNone
    have hOld := rowid_mem_update hNone
    rw [hOthers rowid (hOld row hMem)]
    exact h.docs rowid hOld

theorem indexed_deleteRows (hKept : ∀ row ∈ db.drawers, p row = false → Posted model db.postings row)
    (hGone : ∀ row ∈ db.drawers, p row = true → tokensOf row.rowid db.postings = 0)
    (hDocs : ∀ rowid, (∀ row ∈ db.drawers, row.rowid ≠ rowid) → tokensOf rowid db.postings = 0) :
    Indexed model (deleteRows p db) := by
  constructor
  · intro row hRow
    obtain ⟨hMem, hNot⟩ := DrawerTable.mem_delete.mp hRow
    exact hKept row hMem hNot
  · intro rowid hNone
    by_cases hOld : ∀ row ∈ db.drawers, row.rowid ≠ rowid
    · exact hDocs rowid hOld
    · push Not at hOld
      obtain ⟨row, hMem, rfl⟩ := hOld
      cases hp : p row with
      | true => exact hGone row hMem hp
      | false => exact absurd rfl (hNone row (DrawerTable.mem_delete.mpr ⟨hMem, hp⟩))

theorem Indexed.delete (h : Indexed model db) (hRow : row ∈ db.drawers)
    (hOnly : ∀ r ∈ db.drawers, p r = true ↔ r = row) :
    Indexed model (deleteRows p (deleteDrawerFtsRow model row.rowid row.content db)) := by
  have hNe : ∀ r ∈ db.drawers, r ≠ row → row.rowid ≠ r.rowid :=
    fun r hr hNe hEq => hNe (DrawerTable.eq_of_rowid_eq hr hRow hEq.symm)
  apply indexed_deleteRows
  · intro r hr hp
    rw [drawers_deleteDrawerFtsRow] at hr
    have hOther : r ≠ row := fun hEq => Bool.false_ne_true (hp.symm.trans ((hOnly r hr).mpr hEq))
    rw [Posted, tokensOf_deleteDrawerFtsRow_of_ne (hNe r hr hOther)]
    exact h.rows r hr
  · intro r hr hp
    rw [drawers_deleteDrawerFtsRow] at hr
    rw [(hOnly r hr).mp hp]
    exact (h.rows row hRow).unposted
  · intro rowid hNone
    rw [drawers_deleteDrawerFtsRow] at hNone
    rw [tokensOf_deleteDrawerFtsRow_of_ne (hNone row hRow)]
    exact h.docs rowid hNone

variable (model) in
def Reindexes (old new : String) : Prop :=
  ftsTokens model old - rawTokens model old + rawTokens model new = ftsTokens model new

instance (old new : String) : Decidable (Reindexes model old new) :=
  inferInstanceAs (Decidable (_ = _))

variable (model) in
def isOpenCase (row : DrawerRow) : Bool :=
  row.isActive && row.memoryKind = .case && row.status = some .pendingReview &&
    row.contentHash = some (model.contentHashHex row.content)

variable (model) in
/-- What a call has to find for the index to stay right. -/
def Respects (db : DrawerDb) : DrawerOp → Prop
  | .insert drawer =>
    validateAnchorDomain drawer.domain drawer.anchorKind = .ok () → db.drawers.find? drawer.id = none
  | .insertWithOwner drawer _ =>
    validateAnchorDomain drawer.domain drawer.anchorKind = .ok () →
      ∀ row, db.drawers.find? drawer.id = some row → row.isActive = true
  | .upsert drawer =>
    validateAnchorDomain drawer.domain drawer.anchorKind = .ok () →
      ∀ row, db.drawers.find? drawer.id = some row →
        row.isActive = true ∧ Reindexes model row.content drawer.content
  | .merge drawerId mergedContent expectedMergeCount candidate =>
    ∀ row, db.drawers.find? drawerId = some row → row.isActive = true → row.mergeCount = expectedMergeCount →
      Reindexes model row.content mergedContent ∧
      ∀ candidateId owner consumed, candidate = some (candidateId, owner) → candidateId ≠ drawerId →
        db.drawers.find? candidateId = some consumed → consumed.admissionOwner = some owner →
        drawerFtsRowIndexed consumed.rowid db = false
  | .compact targetId sourceIds mergedContent _ =>
    sourceIds ≠ [] → ∀ row, db.drawers.find? targetId = some row → isCompactable row = true →
      rawTokens model mergedContent = 0
  | .closeCase caseId closed =>
    ∀ row content, db.drawers.find? caseId = some row → isOpenCase model row = true →
      closed row.content = some content →
      ftsTokens model row.content - rawTokens model row.content + rawTokens model content ≤
        ftsTokens model row.content
  | .finalizeAdmission _ | .softDelete _ _ | .replaceSource _ _ _ _ _ | .hardDelete _ | .purge _ => True

theorem Indexed.insertDrawer (h : Indexed model db)
    (hFresh : db.drawers.find? drawer.id = none) (hRun : insertDrawer model drawer db = .ok db') :
    Indexed model db' := by
  have hMem {row : DrawerRow} :
      row ∈ db.drawers.insertOrIgnore (drawer.row model) (fun _ => rfl) ↔
        row ∈ db.drawers ∨ row = drawer.row model db.drawers.nextRowid :=
    DrawerTable.mem_insertOrIgnore_of_fresh _ hFresh
  have hFind := DrawerTable.find?_eq_some_iff.mpr ⟨hMem.mpr (Or.inr rfl), rfl⟩
  have hUnposted : tokensOf db.drawers.nextRowid db.postings = 0 :=
    h.docs _ fun row hRow => Nat.ne_of_lt (DrawerTable.rowid_lt_nextRowid hRow)
  obtain ⟨_, row, hRow, rfl⟩ := insertDrawer_ok hRun
  obtain rfl : drawer.row model db.drawers.nextRowid = row := Option.some.inj (hFind.symm.trans hRow)
  constructor
  · intro row hRow
    rcases hMem.mp hRow with hOld | rfl
    · have hNe : (drawer.row model db.drawers.nextRowid).rowid ≠ row.rowid :=
        Nat.ne_of_gt (DrawerTable.rowid_lt_nextRowid hOld)
      rw [Posted, tokensOf_ftsInsert_of_ne hNe]
      exact h.rows row hOld
    · left
      rw [tokensOf_ftsInsert_self]
      exact (congrArg (· + _) hUnposted).trans (zero_add _)
  · intro rowid hNone
    rw [tokensOf_ftsInsert_of_ne (hNone _ (hMem.mpr (Or.inr rfl)))]
    exact h.docs rowid fun row hRow => hNone row (hMem.mpr (Or.inl hRow))

/-- What an `UPDATE` of the content leaves, with the trigger. -/
theorem updateContent_eq_some (hRun : updateContent model id guard change db = some db') :
    ∃ row, db.drawers.find? id = some row ∧ guard row = true ∧
      db'.drawers = db.drawers.update (fun r => r.id = id) change ∧
      (∀ n, row.rowid ≠ n → tokensOf n db'.postings = tokensOf n db.postings) ∧
      tokensOf row.rowid db'.postings = tokensOf row.rowid db.postings - rawTokens model row.content +
        rawTokens model (change.apply row).content := by
  obtain ⟨row, hFind, hGuard, rfl⟩ := updateContent_ok hRun
  refine ⟨row, hFind, hGuard, rfl, ?_, ?_⟩
  · intro n hn
    rw [tokensOf_ftsInsert_of_ne hn, tokensOf_ftsDelete_of_ne hn]
    rfl
  · rw [tokensOf_ftsInsert_self, tokensOf_ftsDelete_self]
    rfl

section
variable (h : Indexed model db)
include h

theorem Indexed.updateContent (hActive : ∀ row, guard row = true → row.isActive = true)
    (hText : ∀ row, db.drawers.find? id = some row → guard row = true →
      Reindexes model row.content (change.apply row).content) (hRun : updateContent model id guard change db = some db') :
    Indexed model db' := by
  obtain ⟨row, hFind, hGuard, hDrawers, hOthers, hRow⟩ := updateContent_eq_some hRun
  have hPosted := (h.rows row (DrawerTable.find?_eq_some_iff.mp hFind).1).of_active (hActive row hGuard)
  refine h.reindex hFind hDrawers hOthers ?_
  rw [hRow, hPosted]
  exact hText row hFind hGuard

theorem Indexed.upsertDrawer
    (hFit : Respects model db (.upsert drawer)) (hRun : upsertDrawer model drawer db = .ok db') : Indexed model db' := by
  obtain ⟨hAnchor, hUpdate | ⟨hUpdate, hInsert⟩⟩ := upsertDrawer_ok hRun
  · exact h.updateContent (fun _ hActive => hActive) (fun row hFind _ => (hFit hAnchor row hFind).2) hUpdate
  · -- the update missed, so the row is not there: an active one would have been changed
    refine h.insertDrawer ?_ hInsert
    cases hFind : db.drawers.find? drawer.id with
    | none => rfl
    | some row => cases (updateContent_eq_none_iff.mp hUpdate row hFind).symm.trans (hFit hAnchor row hFind).1

theorem Indexed.updateDrawerAfterMerge {expectedMergeCount : Nat} {drawerId : String}
    {candidate : Option (String × String)}
    (hFit : Respects model db (.merge drawerId mergedContent expectedMergeCount candidate))
    (hRun : updateDrawerAfterMerge model drawerId mergedContent expectedMergeCount candidate db = .ok db') :
    Indexed model db' := by
  obtain ⟨merged, hUpdate, hConsumes⟩ := updateDrawerAfterMerge_ok hRun
  obtain ⟨target, hTarget, hGuard, hDrawers, hOthers, _⟩ := updateContent_eq_some hUpdate
  obtain ⟨hActive, hCount⟩ := Bool.and_eq_true_iff.mp hGuard
  obtain ⟨hText, hCandidate⟩ := hFit target hTarget hActive (of_decide_eq_true hCount)
  have hMerged : Indexed model merged := by
    refine h.updateContent ?_ ?_ hUpdate
    · intro row hGuard
      exact (Bool.and_eq_true_iff.mp hGuard).1
    · intro row hFind _
      exact Option.some.inj (hTarget.symm.trans hFind) ▸ hText
  obtain rfl | ⟨candidateId, owner, rfl, hNe, rfl⟩ := hConsumes
  · exact hMerged
  · refine indexed_deleteRows (fun row hRow _ => hMerged.rows row hRow) ?_ hMerged.docs
    intro row hRow hTaken
    obtain ⟨hId, hOwner⟩ := Bool.and_eq_true_iff.mp hTaken
    obtain ⟨hTargetMem, hTargetId⟩ := DrawerTable.find?_eq_some_iff.mp hTarget
    rw [hDrawers] at hRow
    obtain ⟨old, hOld, rfl⟩ := DrawerTable.mem_update.mp hRow
    -- the candidate is not the drawer that was merged into, so the update passed it by
    have hOldId : old.id = candidateId := by
      have hId := of_decide_eq_true hId
      split at hId
      · exact ((mergeChange model mergedContent 1).id old).symm.trans hId
      · exact hId
    have hPass : ¬ old.id = drawerId := fun hEq => hNe (hOldId.symm.trans hEq)
    simp only [hPass, decide_false, Bool.false_eq_true, if_false] at hOwner ⊢
    have hRowid : target.rowid ≠ old.rowid := by
      intro hEq
      exact hPass (DrawerTable.eq_of_rowid_eq hTargetMem hOld hEq ▸ hTargetId)
    rw [hOthers old.rowid hRowid, ← drawerFtsRowIndexed_eq_false]
    exact hCandidate candidateId owner old rfl hNe (DrawerTable.find?_eq_some_iff.mpr ⟨hOld, hOldId⟩)
      (of_decide_eq_true hOwner)

theorem Indexed.applyCompaction (hFit : Respects model db (.compact targetId sourceIds mergedContent timestamp))
    (hRun : applyCompaction model targetId sourceIds mergedContent timestamp db = .ok db') :
    Indexed model db' := by
  obtain ⟨hSources, target, updated, hFind, hCompactable, hUpdate, hRetire⟩ := exists_of_applyCompaction hRun
  have hActive : target.isActive = true := (Bool.and_eq_true_iff.mp hCompactable).1
  have hMem := (DrawerTable.find?_eq_some_iff.mp hFind).1
  obtain ⟨row, hFind', _, hDrawers, hOthers, hRow⟩ := updateContent_eq_some hUpdate
  obtain rfl : target = row := Option.some.inj (hFind.symm.trans hFind')
  refine retireSources_invariant (fun _ _ _ _ _ h => h.updateColumns (fun _ => rfl) fun _ _ => rfl) hRetire ?_
  refine h.reindex hFind hDrawers ?_ ?_
  · intro n hn
    rw [tokensOf_ftsInsert_of_ne hn, hOthers n hn, tokensOf_ftsDelete_of_ne hn]
  · rw [tokensOf_ftsInsert_self, hRow, tokensOf_ftsDelete_self, (h.rows target hMem).of_active hActive]
    change ftsTokens model target.content - ftsTokens model target.content - rawTokens model target.content +
      rawTokens model mergedContent + ftsTokens model mergedContent = ftsTokens model mergedContent
    rw [tsub_self (ftsTokens model target.content), zero_tsub (rawTokens model target.content),
      hFit hSources target hFind hCompactable, zero_add, zero_add]

/-- The trigger exchanges the raw texts and `sync_fts_content` exchanges the segmented ones. -/
theorem Indexed.closeCase {caseId : String} {closed : String → Option String}
    (hFit : Respects model db (.closeCase caseId closed)) (hRun : closeCase model caseId closed db = .ok db') :
    Indexed model db' := by
  obtain ⟨row, content, updated, hFind, hActive, hClosed, hUpdate, rfl⟩ := closeCase_ok hRun
  obtain ⟨row', hFind', hOpen, hDrawers, hOthers, hRow⟩ := updateContent_eq_some hUpdate
  obtain rfl : row = row' := Option.some.inj (hFind.symm.trans hFind')
  refine h.reindex hFind hDrawers ?_ ?_
  · intro n hn
    rw [syncFtsContent, tokensOf_ftsInsert_of_ne hn, tokensOf_ftsDelete_of_ne hn, hOthers n hn]
  · rw [syncFtsContent, tokensOf_ftsInsert_self, tokensOf_ftsDelete_self, hRow,
      (h.rows row (DrawerTable.find?_eq_some_iff.mp hFind).1).of_active hActive]
    have hCovered := tsub_eq_zero_of_le (hFit row content hFind hOpen hClosed)
    exact (congrArg (· + ftsTokens model content) hCovered).trans (zero_add _)

theorem Indexed.softDelete (which : SoftDelete) (timestamp : String) :
    Indexed model (softDelete which timestamp db) := by
  apply h.updateColumns
  · intro row
    cases which <;> rfl
  · intro row _
    cases which <;> rfl

end

theorem Indexed.foldl_delete {turn : DrawerDb → DrawerRow → DrawerDb} (selected : DrawerRow → Bool)
    (hTurn : ∀ db row, Indexed model db → row ∈ db.drawers → selected row = true → Indexed model (turn db row))
    (hKeep : ∀ db row other, row ∈ db.drawers → other ∈ db.drawers → other ≠ row → other ∈ (turn db row).drawers)
    (hNodup : rows.Nodup) (hRows : ∀ row ∈ rows, row ∈ db.drawers ∧ selected row = true) (h : Indexed model db) :
    Indexed model (rows.foldl turn db) := by
  induction rows generalizing db with
  | nil => exact h
  | cons row rows ih =>
    obtain ⟨hNot, hNodup⟩ := List.nodup_cons.mp hNodup
    obtain ⟨hMem, hSelected⟩ := hRows row List.mem_cons_self
    refine ih hNodup ?_ (hTurn db row h hMem hSelected)
    intro other hOther
    obtain ⟨hOtherMem, hOtherSelected⟩ := hRows other (List.mem_cons_of_mem _ hOther)
    have hNe : other ≠ row := fun hEq => hNot (hEq ▸ hOther)
    exact ⟨hKeep db row other hMem hOtherMem hNe, hOtherSelected⟩

theorem mem_deleteRows_deleteDrawerFtsRow {content : String} (hRow : row ∈ db.drawers) (hp : p row = false) :
    row ∈ (deleteRows p (deleteDrawerFtsRow model rowid content db)).drawers := by
  refine DrawerTable.mem_delete.mpr ⟨?_, hp⟩
  rw [drawers_deleteDrawerFtsRow]
  exact hRow

theorem nodup_filter_rows (p : DrawerRow → Bool) : (drawers.rows.filter p).Nodup :=
  (List.Nodup.of_map DrawerRow.rowid drawers.rowids).filter p

section
variable (h : Indexed model db)
include h

theorem Indexed.replaceActiveSourceDrawers (sourceFile wing : String)
    (room : Option (Option String)) (projectId sourceRoot : Option String) :
    Indexed model (replaceActiveSourceDrawers model sourceFile wing room projectId sourceRoot db) := by
  refine Indexed.foldl_delete (fun row => row.projectId = projectId && row.sourceRoot = sourceRoot) ?_ ?_
    (nodup_filter_rows _ _) ?_ h
  · intro db row h hRow hSelected
    refine h.delete hRow ?_
    intro r hr
    simp only [Bool.and_eq_true, decide_eq_true_eq] at hSelected ⊢
    constructor
    · rintro ⟨⟨hRowid, _⟩, _⟩
      exact DrawerTable.eq_of_rowid_eq hr hRow hRowid
    · rintro rfl
      exact ⟨⟨rfl, hSelected.1⟩, hSelected.2⟩
  · intro db row other hRow hOther hNe
    have hRowid : other.rowid ≠ row.rowid := fun hEq => hNe (DrawerTable.eq_of_rowid_eq hOther hRow hEq)
    exact mem_deleteRows_deleteDrawerFtsRow hOther (by simp [hRowid])
  · intro row hRow
    obtain ⟨hMem, hSelected⟩ := List.mem_filter.mp hRow
    simp only [Bool.and_eq_true] at hSelected
    exact ⟨hMem, by rw [hSelected.1.2, hSelected.2]; rfl⟩

theorem Indexed.purgeDeleted (before : Option String) : Indexed model (purgeDeleted model before db) := by
  refine Indexed.foldl_delete (fun _ => true) ?_ ?_ (nodup_filter_rows _ _) ?_ h
  · intro db row h hRow _
    refine h.delete hRow ?_
    intro r hr
    rw [decide_eq_true_eq]
    constructor
    · exact DrawerTable.eq_of_id_eq hr hRow
    · rintro rfl
      rfl
  · intro db row other hRow hOther hNe
    have hId : other.id ≠ row.id := fun hEq => hNe (DrawerTable.eq_of_id_eq hOther hRow hEq)
    exact mem_deleteRows_deleteDrawerFtsRow hOther (by simp [hId])
  · intro row hRow
    exact ⟨(List.mem_filter.mp hRow).1, rfl⟩

theorem Indexed.hardDeleteDrawer (id : String) : Indexed model (hardDeleteDrawer model db id) := by
  unfold Drawers.hardDeleteDrawer
  cases hFind : (db.drawers.find? id).filter DrawerRow.isActive with
  | none =>
    refine indexed_deleteRows (fun row hRow _ => h.rows row hRow) ?_ h.docs
    intro row hRow hTaken
    obtain ⟨hId, hActive⟩ := Bool.and_eq_true_iff.mp hTaken
    have hRowFind := DrawerTable.find?_eq_some_iff.mpr ⟨hRow, of_decide_eq_true hId⟩
    simp [hRowFind, hActive] at hFind
  | some row =>
    obtain ⟨hRowFind, hActive⟩ := Option.filter_eq_some_iff.mp hFind
    obtain ⟨hRow, hId⟩ := DrawerTable.find?_eq_some_iff.mp hRowFind
    refine h.delete hRow ?_
    intro r hr
    rw [Bool.and_eq_true, decide_eq_true_eq]
    constructor
    · rintro ⟨hEq, _⟩
      exact DrawerTable.eq_of_id_eq hr hRow (hEq.trans hId.symm)
    · rintro rfl
      exact ⟨hId, hActive⟩

theorem Indexed.hardDeleteDrawersByIds (ids : List String) : Indexed model (hardDeleteDrawersByIds model ids db) := by
  induction ids generalizing db with
  | nil => exact h
  | cons id ids ih => exact ih (h.hardDeleteDrawer id)

theorem Indexed.insertDrawerWithAdmissionOwner {admissionOwner : Option String}
    (hFit : Respects model db (.insertWithOwner drawer admissionOwner))
    (hRun : insertDrawerWithAdmissionOwner model drawer admissionOwner db = .ok db') : Indexed model db' := by
  obtain ⟨_, rfl⟩ | ⟨hNone, inserted, hInsert, hOwner⟩ := insertDrawerWithAdmissionOwner_ok hRun
  · exact h
  · have hFresh : db.drawers.find? drawer.id = none := by
      cases hFind : db.drawers.find? drawer.id with
      | none => rfl
      | some row =>
        have hActive := hFit (insertDrawer_ok hInsert).1 row hFind
        simp [hFind, hActive] at hNone
    have hInserted := h.insertDrawer hFresh hInsert
    obtain rfl | rfl := hOwner
    · exact hInserted
    · exact hInserted.updateColumns (fun _ => rfl) fun _ hDeleted => hDeleted

theorem Indexed.run (hFit : Respects model db op) (hRun : run model op db = .ok db') : Indexed model db' := by
  cases op with
  | insert drawer => exact h.insertDrawer (hFit (insertDrawer_ok hRun).1) hRun
  | insertWithOwner drawer admissionOwner => exact h.insertDrawerWithAdmissionOwner hFit hRun
  | finalizeAdmission id =>
    obtain rfl := Except.ok.inj hRun
    exact h.updateColumns (fun _ => rfl) fun _ hDeleted => hDeleted
  | merge drawerId mergedContent expectedMergeCount candidate => exact h.updateDrawerAfterMerge hFit hRun
  | upsert drawer => exact h.upsertDrawer hFit hRun
  | compact targetId sourceIds mergedContent timestamp => exact h.applyCompaction hFit hRun
  | closeCase caseId closed => exact h.closeCase hFit hRun
  | softDelete which timestamp => exact Except.ok.inj hRun ▸ h.softDelete which timestamp
  | replaceSource sourceFile wing room projectId sourceRoot =>
    exact Except.ok.inj hRun ▸ h.replaceActiveSourceDrawers sourceFile wing room projectId sourceRoot
  | hardDelete ids => exact Except.ok.inj hRun ▸ h.hardDeleteDrawersByIds ids
  | purge before => exact Except.ok.inj hRun ▸ h.purgeDeleted before

theorem Indexed.next (hFit : Respects model db op) : Indexed model ((drawerMachine model).next db op) := by
  cases hRun : Drawers.run model op db with
  | error e => simpa [Machine.next, drawerMachine, hRun] using h
  | ok db' => simpa [Machine.next, drawerMachine, hRun] using h.run hFit hRun

end

theorem tokensOf_repopulate_of_ne (h : ∀ row ∈ rows, row.rowid ≠ rowid) (db : DrawerDb) :
    tokensOf rowid (rows.foldl (fun db row => ftsInsert model row.rowid (ftsTokenizeContent model row.content) db)
      db).postings = tokensOf rowid db.postings := by
  induction rows generalizing db with
  | nil => rfl
  | cons row rows ih =>
    obtain ⟨hHead, hTail⟩ := List.forall_mem_cons.mp h
    rw [List.foldl_cons, ih hTail, tokensOf_ftsInsert_of_ne hHead]

theorem tokensOf_repopulate_of_mem (hNodup : (rows.map DrawerRow.rowid).Nodup)
    (hRow : row ∈ rows) (db : DrawerDb) :
    tokensOf row.rowid (rows.foldl
      (fun db row => ftsInsert model row.rowid (ftsTokenizeContent model row.content) db) db).postings =
      tokensOf row.rowid db.postings + ftsTokens model row.content := by
  induction rows generalizing db with
  | nil => cases hRow
  | cons head rows ih =>
    rw [List.map_cons, List.nodup_cons] at hNodup
    have hOther : ∀ r ∈ rows, r.rowid ≠ head.rowid :=
      fun r hr hEq => hNodup.1 (List.mem_map.mpr ⟨r, hr, hEq⟩)
    rw [List.foldl_cons]
    rcases List.mem_cons.mp hRow with rfl | hRow
    · rw [tokensOf_repopulate_of_ne hOther, tokensOf_ftsInsert_self]
      rfl
    · rw [ih hNodup.2 hRow, tokensOf_ftsInsert_of_ne (hOther row hRow).symm]

theorem foldl_ftsInsert_drawers (rows : List DrawerRow) (db : DrawerDb) :
    (rows.foldl (fun db row => ftsInsert model row.rowid (ftsTokenizeContent model row.content) db)
      db).drawers = db.drawers := by
  induction rows generalizing db with
  | nil => rfl
  | cons row rows ih => exact ih _

theorem indexed_repopulateFts : Indexed model (repopulateFts model drawers) := by
  have hDrawers : (repopulateFts model drawers).drawers = drawers := foldl_ftsInsert_drawers _ _
  have hNodup := drawers.rowids.sublist ((List.filter_sublist (p := DrawerRow.isActive)).map DrawerRow.rowid)
  constructor
  · intro row hRow
    rw [hDrawers] at hRow
    cases hActive : row.isActive with
    | true =>
      left
      rw [repopulateFts, tokensOf_repopulate_of_mem hNodup (List.mem_filter.mpr ⟨hRow, hActive⟩)]
      exact zero_add _
    | false =>
      refine Or.inr ⟨hActive, tokensOf_repopulate_of_ne ?_ _⟩
      intro other hOther hEq
      obtain ⟨hMem, hOtherActive⟩ := List.mem_filter.mp hOther
      rw [DrawerTable.eq_of_rowid_eq hMem hRow hEq, hActive] at hOtherActive
      cases hOtherActive
  · intro rowid hNone
    rw [hDrawers] at hNone
    exact tokensOf_repopulate_of_ne (fun row hRow => hNone row (List.mem_filter.mp hRow).1) _

/-- In a run from the migrated tables whose calls all find what they need, the index agrees with the drawers
throughout. -/
theorem index_agrees (ops : List DrawerOp)
    (hFit : (drawerMachine model).Along (Respects model) (repopulateFts model drawers) ops)
    (past future : List DrawerOp) (hSplit : ops = past ++ future) :
    Agrees model ((drawerMachine model).final (repopulateFts model drawers) past) := by
  subst hSplit
  have hPast := (((drawerMachine model).along_append _ past future).mp hFit).1
  exact (Machine.invariant_along (fun _ _ h hOp => h.next hOp) (indexed_repopulateFts drawers) hPast).agrees

instance (db : DrawerDb) : Decidable (Agrees model db) :=
  inferInstanceAs (Decidable ((∀ row ∈ db.drawers.rows, row.isActive = true →
    tokensOf row.rowid db.postings = ftsTokens model row.content) ∧
    ∀ p ∈ db.postings, ∃ row ∈ db.drawers.rows, row.rowid = p.1))

end Model

/-- Words apart by blanks, and a segmenter that knows one compound. -/
def spacedWords : TextModel where
  tokenize text := ((text.toList.splitOn ' ').filter (· ≠ [])).map String.ofList
  jiebaCutForSearch text := if text = "数据库" then ["数据", "数据库"] else [text]
  contentHashHex text := text

def evidence (id content : String) : NewDrawer where
  id := id
  content := content
  wing := "notes"
  room := none
  sourceFile := none
  sourceRoot := none
  projectId := none
  addedAt := "2026-01-01T00:00:00Z"
  memoryKind := .evidence
  domain := .project
  anchorKind := .repo
  status := none

def openCase (id content : String) : NewDrawer :=
  { evidence id content with memoryKind := .case, status := some .pendingReview }

def settled (ops : List DrawerOp) : DrawerDb :=
  (drawerMachine spacedWords).final (repopulateFts spacedWords .empty) ops

def keptRun : List DrawerOp :=
  [.insert (evidence "a" "alpha"), .insert (evidence "b" "数据库"), .merge "a" "alpha beta" 0 none,
    .softDelete (.drawer "b") "2026-01-02T00:00:00Z", .upsert (evidence "a" "gamma"), .purge none]

theorem keptRun_agrees : (settled keptRun).postings = {(1, "gamma")} ∧ Agrees spacedWords (settled keptRun) := by
  refine ⟨by decide +kernel, index_agrees .empty keptRun ?_ keptRun [] (List.append_nil _).symm⟩
  have hMerged : ∀ row ∈ (settled (keptRun.take 2)).drawers.find? "a",
      Reindexes spacedWords row.content "alpha beta" := by decide +kernel
  have hUpserted : ∀ row ∈ (settled (keptRun.take 4)).drawers.find? "a",
      row.isActive = true ∧ Reindexes spacedWords row.content "gamma" := by decide +kernel
  refine ⟨fun _ => rfl, fun _ => by decide +kernel, ?_, trivial, fun _ => hUpserted, trivial, trivial⟩
  intro row hRow _ _
  refine ⟨hMerged row hRow, ?_⟩
  rintro _ _ _ ⟨⟩

/-- The second insert is ignored by the table and posted all the same. -/
def insertedTwice : List DrawerOp := [.insert (evidence "a" "alpha"), .insert (evidence "a" "alpha")]

/-- The consumed candidate leaves its postings behind. -/
def consumedCandidate : List DrawerOp :=
  [.insert (evidence "a" "alpha"), .insertWithOwner (evidence "b" "beta") (some "message-1"),
    .merge "a" "alpha beta" 0 (some ("b", "message-1"))]

/-- The trigger posts the new text without segmentation. -/
def mergedCompound : List DrawerOp := [.insert (evidence "a" "alpha"), .merge "a" "数据库" 0 none]

def upsertedCompound : List DrawerOp := [.insert (evidence "a" "alpha"), .upsert (evidence "a" "数据库")]

/-- The trigger and the call both post the new text. -/
def compactedPair : List DrawerOp :=
  [.insert (evidence "a" "alpha"), .insert (evidence "b" "beta"),
    .compact "a" ["a", "b"] "alpha beta" "2026-01-02T00:00:00Z"]

def closedOnce : List DrawerOp := [.insert (openCase "c" "opened"), .closeCase "c" fun _ => some "closed"]

theorem drifting_runs_disagree :
    ¬ Agrees spacedWords (settled insertedTwice) ∧ ¬ Agrees spacedWords (settled consumedCandidate) ∧
    ¬ Agrees spacedWords (settled mergedCompound) ∧ ¬ Agrees spacedWords (settled upsertedCompound) ∧
    ¬ Agrees spacedWords (settled compactedPair) ∧ ¬ Agrees spacedWords (settled closedOnce) := by
  decide +kernel

end Mempal.Drawers

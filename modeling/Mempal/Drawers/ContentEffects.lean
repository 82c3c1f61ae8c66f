import Mempal.Foundation.Fallible
import Mempal.Drawers.ContentWriters

set_option autoImplicit false

/-! The active drawers seen as cells with a text and a counter of merges. -/

namespace Mempal.Drawers

open Foundation Foundation.Snapshot

def DrawerDb.contents (db : DrawerDb) : View String String := fun id =>
  ((db.drawers.find? id).filter DrawerRow.isActive).map fun row => (row.content, row.mergeCount)

def Store.content (s : Store) (id : String) : Option String := (s.getDrawer id).map DrawerRow.content

theorem Store.map_fst_contents (s : Store) (id : String) : (s.db.contents id).map Prod.fst = s.content id := by
  rw [DrawerDb.contents, Option.map_map]
  rfl

variable {db db' : DrawerDb} {id : String} {s s' : Store}

theorem DrawerDb.contents_of_find? {row : DrawerRow} (h : db.drawers.find? id = some row)
    (hActive : row.isActive = true) : db.contents id = some (row.content, row.mergeCount) := by
  rw [DrawerDb.contents, h, Option.filter_some_pos hActive]
  rfl

theorem DrawerDb.contents_congr (h : db'.drawers.find? id = db.drawers.find? id) :
    db'.contents id = db.contents id := by
  rw [DrawerDb.contents, h]
  rfl

structure Commits (check : Check) (drawerId content : String) (touch : String → Option Touch)
    (view view' : View String String) : Prop where
  passes : check.passes (view drawerId)
  effect : Effect touch view view'
  stored : ∀ id c, (view' id).map Prod.fst = some c → (view id).map Prod.fst = some c ∨ id = drawerId ∧ c = content

variable {timestamp targetId mergedContent caseId : String} {input : CommitInput} {sourceIds : List String}
  {closed : String → Option String} {prepared : PreparedDiaryRollup}

section Model
variable {model : TextModel}

theorem contents_updateContent {guard : DrawerRow → Bool} {change : RowChange}
    (h : updateContent model id guard change db = some db') (hGuard : ∀ row, guard row = true → row.isActive = true)
    (hKeeps : ∀ row, (change.apply row).isActive = row.isActive) :
    ∃ row, db.drawers.find? id = some row ∧ guard row = true ∧
      db'.contents id = some ((change.apply row).content, (change.apply row).mergeCount) ∧
      ∀ k, k ≠ id → db'.contents k = db.contents k := by
  obtain ⟨row, hRow, hTrue, _⟩ := drawers_updateContent h
  have hFind := find?_updateContent h
  refine ⟨row, hRow, hTrue, ?_, fun k hk => ?_⟩
  · apply DrawerDb.contents_of_find?
    · rw [hFind, if_pos rfl, hRow]
      rfl
    · rw [hKeeps]
      exact hGuard row hTrue
  · apply DrawerDb.contents_congr
    rw [hFind, if_neg hk]

variable {p : DrawerRow → Bool}

theorem contents_deleteRows (db : DrawerDb) (id : String) :
    (deleteRows p db).contents id = none ∨ (deleteRows p db).contents id = db.contents id := by
  have hFind : (deleteRows p db).drawers.find? id = (db.drawers.find? id).filter fun row => !p row :=
    DrawerTable.find?_delete _ _ _
  rw [DrawerDb.contents, DrawerDb.contents, hFind]
  cases db.drawers.find? id with
  | none => exact .inl rfl
  | some row =>
    cases hp : p row with
    | true =>
      left
      simp [hp]
    | false =>
      right
      have hKept : (some row).filter (fun row => !p row) = some row := by simp [hp]
      rw [hKept]

theorem contents_deleteRows_of_ne {candidateId : String} (hp : ∀ row, p row = true → row.id = candidateId)
    (hNe : id ≠ candidateId) (db : DrawerDb) : (deleteRows p db).contents id = db.contents id := by
  apply DrawerDb.contents_congr
  rw [show (deleteRows p db).drawers.find? id = _ from DrawerTable.find?_delete _ _ _]
  cases hFind : db.drawers.find? id with
  | none => rfl
  | some row =>
    have hId := (DrawerTable.find?_eq_some_iff.mp hFind).2
    have hKept : p row = false := by
      rw [Bool.eq_false_iff]
      intro hTrue
      exact hNe (hId ▸ hp row hTrue)
    simp [hKept]

theorem contents_retireSources (h : retireSources timestamp targetId sourceIds db = .ok db') (id : String) :
    db'.contents id = db.contents id ∨ db'.contents id = none ∧ id ∈ sourceIds ∧ id ≠ targetId := by
  refine retireSources_invariant
    (I := fun db' => db'.contents id = db.contents id ∨ db'.contents id = none ∧ id ∈ sourceIds ∧ id ≠ targetId)
    ?_ h (.inl rfl)
  intro retired sourceId hMem hNe _ hSame
  have hFind := DrawerTable.find?_update retired.drawers (fun row => row.id = sourceId)
    (compactChange timestamp targetId) id
  cases hRow : retired.drawers.find? id with
  | none =>
    rw [hRow] at hFind
    rwa [DrawerDb.contents_congr (hFind.trans hRow.symm)]
  | some row =>
    have hId := (DrawerTable.find?_eq_some_iff.mp hRow).2
    by_cases hSource : id = sourceId
    · right
      rw [hRow] at hFind
      refine ⟨?_, hSource ▸ hMem, hSource ▸ hNe⟩
      unfold DrawerDb.contents updateColumns
      rw [hFind]
      simp [hId, hSource, compactChange, DrawerRow.isActive]
    · have hKept : (updateColumns (fun row => row.id = sourceId) (compactChange timestamp targetId)
          retired).drawers.find? id = retired.drawers.find? id := hFind.trans (by simp [hRow, hId, hSource])
      rwa [DrawerDb.contents_congr hKept]

theorem updateDrawerAfterMerge_spec {expected : Nat} {drawerId : String} {candidate : Option (String × String)}
    (h : updateDrawerAfterMerge model drawerId mergedContent expected candidate db = .ok db') :
    (∃ content, db.contents drawerId = some (content, expected)) ∧
      db'.contents drawerId = some (mergedContent, expected + 1) ∧
      ∀ id, id ≠ drawerId → db'.contents id = db.contents id ∨
        db'.contents id = none ∧ candidate.map Prod.fst = some id := by
  obtain ⟨updated, hUpdate, hConsumes⟩ := updateDrawerAfterMerge_ok h
  obtain ⟨row, hRow, hGuard, hTarget, hOther⟩ := contents_updateContent hUpdate
    (fun row hGuard => (Bool.and_eq_true_iff.mp hGuard).1) (fun _ => rfl)
  obtain ⟨hActive, hCount⟩ := Bool.and_eq_true_iff.mp hGuard
  have hCount : row.mergeCount = expected := of_decide_eq_true hCount
  refine ⟨⟨row.content, hCount ▸ DrawerDb.contents_of_find? hRow hActive⟩, ?_⟩
  have hTarget : updated.contents drawerId = some (mergedContent, expected + 1) := hCount ▸ hTarget
  obtain rfl | ⟨candidateId, owner, rfl, hCandidate, rfl⟩ := hConsumes
  · exact ⟨hTarget, fun id hNe => .inl (hOther id hNe)⟩
  · have hSelects (row : DrawerRow)
        (hRow : (row.id = candidateId && row.admissionOwner = some owner : Bool) = true) : row.id = candidateId :=
      of_decide_eq_true (Bool.and_eq_true_iff.mp hRow).1
    constructor
    · rw [contents_deleteRows_of_ne hSelects (Ne.symm hCandidate)]
      exact hTarget
    · intro id hNe
      by_cases hId : id = candidateId
      · rcases contents_deleteRows updated id with hGone | hSame
        · exact .inr ⟨hGone, congrArg some hId.symm⟩
        · exact .inl (hSame.trans (hOther id hNe))
      · left
        rw [contents_deleteRows_of_ne hSelects hId]
        exact hOther id hNe

theorem applyCompaction_spec (h : applyCompaction model targetId sourceIds mergedContent timestamp db = .ok db') :
    (∃ content mergeCount, db.contents targetId = some (content, mergeCount) ∧
      db'.contents targetId = some (mergedContent, mergeCount + (sourceIds.length - 1))) ∧
      ∀ id, id ≠ targetId → db'.contents id = db.contents id ∨ db'.contents id = none ∧ id ∈ sourceIds := by
  obtain ⟨_, _, updated, _, _, hUpdate, hSources⟩ := exists_of_applyCompaction h
  obtain ⟨row, hRow, hGuard, hContent, hOther⟩ := contents_updateContent hUpdate
    (fun row hGuard => (Bool.and_eq_true_iff.mp hGuard).1) (fun _ => rfl)
  have hActive := (Bool.and_eq_true_iff.mp hGuard).1
  have hRetired := contents_retireSources hSources
  constructor
  · refine ⟨row.content, row.mergeCount, DrawerDb.contents_of_find? hRow hActive, ?_⟩
    rcases hRetired targetId with hSame | ⟨_, _, hNe⟩
    · exact hSame.trans hContent
    · exact absurd rfl hNe
  · intro id hNe
    rcases hRetired id with hSame | ⟨hGone, hMem, _⟩
    · exact .inl (hSame.trans (hOther id hNe))
    · exact .inr ⟨hGone, hMem⟩

theorem closeCase_spec (h : closeCase model caseId closed db = .ok db') :
    (∃ content content' mergeCount, db.contents caseId = some (content, mergeCount) ∧ closed content = some content' ∧
      db'.contents caseId = some (content', mergeCount)) ∧
      ∀ id, id ≠ caseId → db'.contents id = db.contents id := by
  obtain ⟨row, content', updated, hFind, hActive, hClosed, hUpdate, rfl⟩ := closeCase_ok h
  obtain ⟨row', hRow', hGuard, hContent, hOther⟩ := contents_updateContent hUpdate
    (fun row hGuard => by simp only [Bool.and_eq_true] at hGuard; exact hGuard.1.1.1) (fun _ => rfl)
  cases hFind.symm.trans hRow'
  exact ⟨⟨row.content, content', row.mergeCount, DrawerDb.contents_of_find? hFind hActive, hClosed, hContent⟩, hOther⟩

theorem commitPreparedDiaryRollup_spec {vector : Embedding} {now : ℚ}
    (h : commitPreparedDiaryRollup model prepared vector now s = .ok s') :
    (∀ content, s'.content prepared.drawerId = some content → content = prepared.content) ∧
      ∀ id, id ≠ prepared.drawerId → s'.db.contents id = s.db.contents id := by
  unfold commitPreparedDiaryRollup at h
  split at h
  · cases h
  · rename_i hUpsert
    cases h
    have hFind := find?_upsertDrawer (upsertDrawerAndReplaceVector_spec hUpsert).1
    constructor
    · intro content hContent
      have hTarget := hFind prepared.drawerId
      rw [if_pos (show (prepared.drawer now).id = prepared.drawerId from rfl)] at hTarget
      rw [Store.content, Store.getDrawer, hTarget] at hContent
      cases hRow : s.db.drawers.find? prepared.drawerId with
      | none =>
        rw [hRow] at hContent
        exact (Option.some.inj hContent).symm
      | some row =>
        rw [hRow] at hContent
        -- a row that is not active stays as it is, and shows no content
        cases hActive : row.isActive with
        | false => simp [hActive] at hContent
        | true =>
          have hStill : ((upsertChange model (prepared.drawer now)).apply row).isActive = true := hActive
          simp only [hActive, if_true, Option.filter_some_pos hStill] at hContent
          exact (Option.some.inj hContent).symm
    · intro id hNe
      apply DrawerDb.contents_congr
      rw [hFind, if_neg]
      exact fun hId => hNe hId.symm

theorem MergeRequest.commits {request : MergeRequest} {existingContent : String} {mergeCount : Nat}
    (h : (Draft.merge request existingContent mergeCount).commit model input s = .ok s') :
    Commits (.counter mergeCount) request.targetId (request.mergedContent existingContent)
      (Draft.merge request existingContent mergeCount).touch s.db.contents s'.db.contents := by
  obtain ⟨hMerge, _⟩ := mergeDrawer_spec model (mapError_eq_ok_iff.mp h)
  obtain ⟨hPasses, hTarget, hOther⟩ := updateDrawerAfterMerge_spec hMerge
  refine ⟨hPasses, fun id => ?_, fun id c hc => ?_⟩
  · rw [Draft.touch]
    split
    · rename_i hId
      subst hId
      obtain ⟨content, hBefore⟩ := hPasses
      intro v' n' hAfter
      rw [hTarget] at hAfter
      cases hAfter
      exact ⟨content, mergeCount, hBefore, Nat.lt_succ_self _⟩
    · rename_i hNe
      rcases hOther id hNe with hSame | ⟨hGone, hCandidate⟩
      · split
        · exact .inr hSame
        · exact hSame
      · rw [if_pos]
        · exact .inl hGone
        · obtain ⟨pair, hPair, rfl⟩ := Option.map_eq_some_iff.mp hCandidate
          obtain ⟨owner, hOwner, rfl⟩ := Option.map_eq_some_iff.mp hPair
          simp [hOwner]
  · by_cases hId : id = request.targetId
    · subst hId
      rw [hTarget] at hc
      exact .inr ⟨rfl, (Option.some.inj hc).symm⟩
    · rcases hOther id hId with hSame | ⟨hGone, _⟩
      · exact .inl (hSame ▸ hc)
      · rw [hGone] at hc
        cases hc

theorem Compaction.commits {plan : Compaction} (h : plan.apply model timestamp s = .ok s') :
    Commits .present plan.targetId plan.mergedContent (Draft.compaction plan).touch s.db.contents s'.db.contents := by
  obtain ⟨db, hApply, rfl⟩ := map_eq_ok_iff.mp h
  obtain ⟨⟨content, mergeCount, hBefore, hTarget⟩, hOther⟩ := applyCompaction_spec hApply
  refine ⟨⟨content, mergeCount, hBefore⟩, fun id => ?_, fun id c hc => ?_⟩
  · rw [Draft.touch]
    split
    · rename_i hId
      subst hId
      split
      · intro v' n' hAfter
        rw [show db.contents plan.targetId = some (v', n') from hAfter] at hTarget
        cases hTarget
        exact ⟨content, mergeCount, hBefore, by omega⟩
      · trivial
    · rename_i hNe
      rcases hOther id hNe with hSame | ⟨hGone, hMem⟩
      · split
        · exact .inr hSame
        · exact hSame
      · rw [if_pos hMem]
        exact .inl hGone
  · by_cases hId : id = plan.targetId
    · subst hId
      rw [show db.contents plan.targetId = _ from hTarget] at hc
      exact .inr ⟨rfl, (Option.some.inj hc).symm⟩
    · rcases hOther id hId with hSame | ⟨hGone, _⟩
      · exact .inl (hSame ▸ hc)
      · rw [show db.contents id = none from hGone] at hc
        cases hc

theorem PreparedDiaryRollup.commits {existingContent : Option String} {entry : String}
    (h : (Draft.rollup entry existingContent prepared).commit model input s = .ok s') :
    Commits .unchecked prepared.drawerId prepared.content (Draft.rollup entry existingContent prepared).touch
      s.db.contents s'.db.contents := by
  obtain ⟨hTarget, hOther⟩ := commitPreparedDiaryRollup_spec (mapError_eq_ok_iff.mp h)
  refine ⟨trivial, fun id => ?_, fun id c hc => ?_⟩
  · rw [Draft.touch]
    split
    · trivial
    · rename_i hNe
      exact hOther id hNe
  · by_cases hId : id = prepared.drawerId
    · subst hId
      rw [Store.map_fst_contents] at hc
      exact .inr ⟨rfl, hTarget c hc⟩
    · exact .inl (hOther id hId ▸ hc)

theorem Draft.commits {draft : Draft} (h : draft.commit model input s = .ok s') :
    Commits draft.check draft.drawerId draft.content draft.touch s.db.contents s'.db.contents := by
  cases draft with
  | merge request existingContent mergeCount => exact MergeRequest.commits h
  | rollup entry existingContent prepared => exact PreparedDiaryRollup.commits h
  | compaction plan => exact Compaction.commits (mapError_eq_ok_iff.mp h)

theorem closeCase_commits (h : closeCase model caseId closed db = .ok db') :
    ∃ content content', (db.contents caseId).map Prod.fst = some content ∧ closed content = some content' ∧
      Commits .present caseId content' (touchCase caseId) db.contents db'.contents := by
  obtain ⟨⟨content, content', mergeCount, hBefore, hClosed, hAfter⟩, hOther⟩ := closeCase_spec h
  refine ⟨content, content', by rw [hBefore]; rfl, hClosed, ⟨content, mergeCount, hBefore⟩, fun id => ?_,
    fun id c hc => ?_⟩
  · rw [touchCase]
    split
    · trivial
    · rename_i hNe
      exact hOther id hNe
  · by_cases hId : id = caseId
    · subst hId
      rw [hAfter] at hc
      exact .inr ⟨rfl, (Option.some.inj hc).symm⟩
    · exact .inl (hOther id hId ▸ hc)

end Model

end Mempal.Drawers

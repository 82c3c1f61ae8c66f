import Mempal.Drawers.StoreWriters

set_option autoImplicit false

/-! The vector search filters on the project column of `drawer_vectors`, which every writer fills on its own. -/

namespace Mempal.Drawers

open Foundation

def Store.rowProject (s : Store) (k : String) : Option (Option String) :=
  (s.db.drawers.find? k).map DrawerRow.projectId

def Store.vectorProject (s : Store) (k : String) : Option (Option String) :=
  (s.vectors.find? k).map VectorRow.projectId

def CarriesProject (s : Store) : Prop :=
  ∀ k p q, s.rowProject k = some p → s.vectorProject k = some q → q = p

def LosesOnly (s s' : Store) : Prop :=
  ∀ k, (∀ p, s'.rowProject k = some p → s.rowProject k = some p) ∧
    ∀ q, s'.vectorProject k = some q → s.vectorProject k = some q

def SameProject (row row' : DrawerRow) : Prop := row'.projectId = row.projectId

theorem SameProject.refl (row : DrawerRow) : SameProject row row := rfl

theorem SameProject.trans (row row' row'' : DrawerRow) (h : SameProject row row') (h' : SameProject row' row'') :
    SameProject row row'' := Eq.trans h' h

variable {db db' : DrawerDb} {drawer : NewDrawer} {vectors : VectorTable}
  {q projectId admissionOwner : Option String} {vector : Embedding} {candidate : Option (String × String)}
  {k : String}

section Loses
variable {s s' s'' : Store}

theorem LosesOnly.refl (s : Store) : LosesOnly s s := fun _ => ⟨fun _ h => h, fun _ h => h⟩

theorem LosesOnly.trans (h : LosesOnly s s') (h' : LosesOnly s' s'') : LosesOnly s s'' := fun k =>
  ⟨fun p hp => (h k).1 p ((h' k).1 p hp), fun q hq => (h k).2 q ((h' k).2 q hq)⟩

theorem CarriesProject.loses (h : CarriesProject s) (hLoses : LosesOnly s s') : CarriesProject s' :=
  fun k p q hp hq => h k p q ((hLoses k).1 p hp) ((hLoses k).2 q hq)

theorem losesOnly_foldl {β : Type} {f : Store → β → Store} (h : ∀ s b, LosesOnly s (f s b)) (l : List β) (s : Store) :
    LosesOnly s (l.foldl f s) := by
  induction l generalizing s with
  | nil => exact LosesOnly.refl s
  | cons b l ih => exact (h s b).trans (ih _)

theorem losesOnly_of_rowsRelate (h : RowsRelate SameProject s.db db) : LosesOnly s { s with db } := by
  refine fun k => ⟨?_, fun _ hq => hq⟩
  have hRel := h k
  intro p hp
  unfold Store.rowProject at hp ⊢
  revert hRel hp
  generalize s.db.drawers.find? k = row
  generalize db.drawers.find? k = row'
  rintro (⟨hEq⟩ | _) hp
  · rw [Option.map_some] at hp ⊢
    rw [← hp, show _ = _ from hEq]
  · cases hp

end Loses

section Model
variable (model : TextModel)

theorem losesOnly_purgeRow (s : Store) (row : DrawerRow) : LosesOnly s (Store.purgeRow model s row) := by
  refine fun k => ⟨fun p hp => ?_, fun q hq => Table.map_find?_delete hq⟩
  have hRow := Table.map_find?_delete hp
  rwa [drawers_deleteDrawerFtsRow] at hRow

theorem losesOnly_hardDeleteDrawer (s : Store) (id : String) : LosesOnly s (Store.hardDeleteDrawer model s id) := by
  refine fun k => ⟨fun p hp => ?_, fun q hq => Table.map_find?_delete hq⟩
  have hRow := Table.map_find?_delete hp
  split at hRow
  · exact hRow
  · rwa [drawers_deleteDrawerFtsRow] at hRow

theorem losesOnly_deleteSourceRow (projectId sourceRoot : Option String) (s : Store) (row : DrawerRow) :
    LosesOnly s (Store.deleteSourceRow model projectId sourceRoot s row) := by
  refine fun k => ⟨fun p hp => ?_, fun q hq => Table.map_find?_delete hq⟩
  have hRow := Table.map_find?_delete hp
  rwa [drawers_deleteDrawerFtsRow] at hRow

variable {model}

def Fits (s : Store) (id : String) (projectId : Option String) : Prop :=
  match s.rowProject id, s.vectorProject id with
  | some p, none => p = projectId
  | none, some q => q = projectId
  | _, _ => True

variable {s' : Store}

theorem carriesProject_fill {s : Store} {id : String} (h : CarriesProject s) (hFits : Fits s id projectId)
    (hRow : ∀ k, s'.rowProject k = if id = k then some ((s.rowProject k).getD projectId) else s.rowProject k)
    (hVector : ∀ k, s'.vectorProject k = s.vectorProject k ∨
      s'.vectorProject k = if id = k then some ((s.vectorProject k).getD projectId) else s.vectorProject k) :
    CarriesProject s' := by
  intro k p q hp hq
  rw [hRow] at hp
  by_cases hk : id = k
  · subst hk
    have hSame := h id
    unfold Fits at hFits
    rcases hVector id with hV | hV
    · cases hOld : s.rowProject id with
      | some | none => simp_all
    · cases hOld : s.rowProject id <;> cases hOldV : s.vectorProject id <;> simp_all
  · rw [if_neg hk] at hp
    refine h k p q hp ?_
    rcases hVector k with hV | hV
    · rwa [hV] at hq
    · rwa [hV, if_neg hk] at hq

theorem rowProject_insertDrawer (h : insertDrawer model drawer db = .ok db') (k : String) :
    (db'.drawers.find? k).map DrawerRow.projectId =
      if drawer.id = k then some (((db.drawers.find? k).map DrawerRow.projectId).getD drawer.projectId)
      else (db.drawers.find? k).map DrawerRow.projectId := by
  rw [find?_insertDrawer h]
  split
  · cases db.drawers.find? k <;> rfl
  · rfl

theorem vectorProject_insert {vectors' : VectorTable} {id : String}
    (h : insertVectorWithProject id vector projectId vectors = .ok vectors') :
    (vectors'.find? k).map VectorRow.projectId =
      if id = k then some (((vectors.find? k).map VectorRow.projectId).getD projectId)
      else (vectors.find? k).map VectorRow.projectId := by
  rw [find?_insertVectorWithProject h]
  split
  · cases vectors.find? k <;> rfl
  · rfl

theorem carriesProject_insert {s : Store} (h : CarriesProject s) (vector : Embedding)
    (hFits : Fits s drawer.id drawer.projectId) : CarriesProject (insertDrawerWithVector model drawer vector s).1 := by
  unfold insertDrawerWithVector
  cases hInsert : insertDrawer model drawer s.db with
  | error e => exact h
  | ok db =>
    dsimp only
    split
    · exact carriesProject_fill h hFits (rowProject_insertDrawer hInsert) fun _ => Or.inl rfl
    · rename_i vectors hVectors
      exact carriesProject_fill h hFits (rowProject_insertDrawer hInsert) fun k =>
        Or.inr (vectorProject_insert hVectors)

theorem rowProject_upsertDrawer (h : upsertDrawer model drawer db = .ok db') (k : String) :
    (db'.drawers.find? k).map DrawerRow.projectId =
      if drawer.id = k then some (((db.drawers.find? k).map DrawerRow.projectId).getD none)
      else (db.drawers.find? k).map DrawerRow.projectId := by
  rw [find?_upsertDrawer h]
  split
  · cases db.drawers.find? k with
    | none => rfl
    | some row =>
      dsimp only
      split <;> rfl
  · rfl

theorem carriesProject_upsert {s : Store} (h : CarriesProject s)
    (hActive : (s.getDrawer drawer.id).isSome → s.rowProject drawer.id = some none)
    (hFits : (s.getDrawer drawer.id).isSome = false → Fits s drawer.id none)
    (hUpsert : upsertDrawerAndReplaceVector model drawer vector s = .ok s') : CarriesProject s' := by
  obtain ⟨hDb, hVectors, _, _⟩ := upsertDrawerAndReplaceVector_spec hUpsert
  have hRow := rowProject_upsertDrawer hDb
  cases hSome : (s.getDrawer drawer.id).isSome with
  | false =>
    refine carriesProject_fill h (hFits hSome) hRow fun k => Or.inr ?_
    rw [Store.vectorProject, hVectors k, hSome]
    split
    · simp only [Store.vectorProject]
      cases s.vectors.find? k <;> rfl
    · rfl
  | true =>
    intro k p q hp hq
    rw [Store.rowProject, hRow k] at hp
    rw [Store.vectorProject, hVectors k, hSome] at hq
    split at hp
    · rename_i hk
      rw [if_pos hk] at hq
      subst hk
      have hNone := hActive hSome
      rw [Store.rowProject] at hNone
      rw [hNone] at hp
      cases hp
      cases hq
      rfl
    · rename_i hk
      rw [if_neg hk] at hq
      exact h k p q hp hq

theorem rowProject_insertWithOwner
    (h : insertDrawerWithAdmissionOwner model drawer admissionOwner db = .ok db') (k : String) :
    (db'.drawers.find? k).map DrawerRow.projectId =
      if drawer.id = k then some (((db.drawers.find? k).map DrawerRow.projectId).getD drawer.projectId)
      else (db.drawers.find? k).map DrawerRow.projectId := by
  obtain ⟨hActive, rfl⟩ | ⟨_, inserted, hInserted, rfl | rfl⟩ := insertDrawerWithAdmissionOwner_ok h
  · obtain ⟨row, hRow, _⟩ := (Option.any_eq_true _ _).mp hActive
    split
    · rename_i hk
      subst hk
      rw [hRow]
      rfl
    · rfl
  · exact rowProject_insertDrawer hInserted k
  · rw [updateColumns, DrawerTable.find?_update, Option.map_map, ← rowProject_insertDrawer hInserted k]
    congr 1
    funext row
    simp only [Function.comp_apply]
    split <;> rfl

theorem carriesProject_insertWithOwner {s : Store} (h : CarriesProject s)
    (hFree : ∀ q, s.rowProject drawer.id = none → s.vectorProject drawer.id = some q → q = drawer.projectId)
    (hInsert : insertDrawerWithAdmissionOwner model drawer admissionOwner s.db = .ok db) :
    CarriesProject { s with db } := by
  intro k p q hp hq
  rw [Store.rowProject, rowProject_insertWithOwner hInsert] at hp
  split at hp
  · rename_i hk
    subst hk
    rw [← Store.rowProject] at hp
    cases hOld : s.rowProject drawer.id with
    | none =>
      rw [hOld] at hp
      cases hp
      exact hFree q hOld hq
    | some old =>
      rw [hOld] at hp
      cases hp
      exact h drawer.id _ q hOld hq
  · exact h k p q hp hq

theorem updateDrawerAfterMerge_projects {expectedMergeCount : Nat} {drawerId mergedContent : String}
    (h : updateDrawerAfterMerge model drawerId mergedContent expectedMergeCount candidate db = .ok db') :
    (∃ row, db.drawers.find? drawerId = some row ∧ row.isActive = true) ∧
      ∀ k p, (db'.drawers.find? k).map DrawerRow.projectId = some p →
        (db.drawers.find? k).map DrawerRow.projectId = some p := by
  obtain ⟨merged, hMerge, hConsumes⟩ := updateDrawerAfterMerge_ok h
  obtain ⟨row, hRow, hGuard, _⟩ := drawers_updateContent hMerge
  refine ⟨⟨row, hRow, (Bool.and_eq_true_iff.mp hGuard).1⟩, ?_⟩
  have hMerged (k : String) : (merged.drawers.find? k).map DrawerRow.projectId =
      (db.drawers.find? k).map DrawerRow.projectId := by
    rw [find?_updateContent hMerge]
    split
    · cases db.drawers.find? k <;> rfl
    · rfl
  intro k p hp
  rw [← hMerged]
  obtain rfl | ⟨_, _, _, _, rfl⟩ := hConsumes
  · exact hp
  · exact Table.map_find?_delete hp

theorem carriesProject_merge {s : Store} {merge : DrawerMerge} (h : CarriesProject s)
    (hMerge : mergeDrawer model merge candidate s = .ok s') : CarriesProject s' := by
  obtain ⟨hUpdate, hVectors, _, _⟩ := mergeDrawer_spec model hMerge
  obtain ⟨⟨row, hRow, hActive⟩, hProjects⟩ := updateDrawerAfterMerge_projects hUpdate
  have hGet : s.getDrawer merge.drawerId = some row := by
    rw [Store.getDrawer, hRow, Option.filter_some_pos hActive]
  intro k p q hp hq
  have hOld := hProjects k p hp
  rw [Store.vectorProject, find?_replaceVector hVectors] at hq
  split at hq
  · rename_i hk
    subst hk
    rw [hRow] at hOld
    rw [hGet] at hq
    cases hOld
    cases hq
    rfl
  · exact h k p q hOld hq

def StoreOp.removesOnly : StoreOp → Bool
  | .insert .. => false
  | .insertWithOwner .. => false
  | .upsert .. => false
  | .merge .. => false
  | _ => true

theorem losesOnly_next (s : Store) {op : StoreOp} (h : op.removesOnly = true) :
    LosesOnly s ((storeMachine model).next s op) := by
  cases op with
  | insert | insertWithOwner | upsert | merge => cases h
  | compact targetId sourceIds mergedContent timestamp =>
    unfold Machine.next storeMachine
    dsimp only
    cases hCompact : applyCompaction model targetId sourceIds mergedContent timestamp s.db with
    | error e => exact LosesOnly.refl s
    | ok db =>
      refine losesOnly_of_rowsRelate ?_
      exact rowsRelate_applyCompaction SameProject.refl SameProject.trans (fun _ _ => rfl) (fun _ _ => rfl) hCompact
  | softDelete which timestamp =>
    refine losesOnly_of_rowsRelate (rowsRelate_update SameProject.refl rfl fun row _ _ => ?_)
    cases which <;> rfl
  | replaceSource sourceFile wing room projectId sourceRoot =>
    exact losesOnly_foldl (losesOnly_deleteSourceRow model projectId sourceRoot) _ s
  | hardDelete ids => exact losesOnly_foldl (losesOnly_hardDeleteDrawer model) ids s
  | purge before => exact losesOnly_foldl (losesOnly_purgeRow model) _ s

/-- The condition on each call: an insert finds under its id nothing of another project, and an upsert only a
drawer without a project. -/
def KeepsProject (s : Store) : StoreOp → Prop
  | .insert drawer _ => Fits s drawer.id drawer.projectId
  | .insertWithOwner drawer _ =>
    ∀ q, s.rowProject drawer.id = none → s.vectorProject drawer.id = some q → q = drawer.projectId
  | .upsert drawer _ =>
    ((s.getDrawer drawer.id).isSome → s.rowProject drawer.id = some none) ∧
      ((s.getDrawer drawer.id).isSome = false → Fits s drawer.id none)
  | _ => True

theorem carriesProject_step {s : Store} (h : CarriesProject s) (op : StoreOp) (hKeeps : KeepsProject s op) :
    CarriesProject ((storeMachine model).next s op) := by
  have hTransact {result : Except DbError Store} (hOk : ∀ s', result = .ok s' → CarriesProject s') :
      CarriesProject (transact s result).1 := by
    cases hResult : result with
    | error e => exact h
    | ok s' => exact hOk s' hResult
  cases op with
  | insert drawer vector => exact carriesProject_insert h vector hKeeps
  | insertWithOwner drawer admissionOwner =>
    refine hTransact fun s' hInsert => ?_
    cases hDb : insertDrawerWithAdmissionOwner model drawer admissionOwner s.db with
    | error e =>
      rw [hDb] at hInsert
      cases hInsert
    | ok db =>
      rw [hDb] at hInsert
      cases hInsert
      exact carriesProject_insertWithOwner h hKeeps hDb
  | upsert drawer vector => exact hTransact fun s' hUpsert => carriesProject_upsert h hKeeps.1 hKeeps.2 hUpsert
  | merge merge candidate => exact hTransact fun s' hMerge => carriesProject_merge h hMerge
  | compact | softDelete | replaceSource | hardDelete | purge => exact h.loses (losesOnly_next s rfl)

end Model

inductive ProjectFilterMode where
  | all
  | project (projectId : String)
  | projectPlusGlobal (projectId : String)
  | nullOnly
deriving DecidableEq, Repr

def ProjectFilterMode.accepts : ProjectFilterMode → Option String → Bool
  | .all, _ => true
  | .project projectId, p => p = some projectId
  | .projectPlusGlobal projectId, p => p = some projectId || p.isNone
  | .nullOnly, p => p.isNone

/-- `build_filter_clause`. -/
def filterClause (mode : ProjectFilterMode) (wing room : Option String) (row : DrawerRow) : Bool :=
  row.isActive && wing.all (· = row.wing) && room.all (some · = row.room) && mode.accepts row.projectId

/-- The vectors that `build_vector_search_sql` ranks and joins with a drawer. -/
def searchedVectors (mode : ProjectFilterMode) (wing room : Option String) (s : Store) : List VectorRow :=
  s.vectors.table.rows.filter fun v =>
    mode.accepts v.projectId && (s.db.drawers.find? v.id).any (filterClause mode wing room)

theorem mem_searchedVectors {s : Store} {mode : ProjectFilterMode} {wing room : Option String} {v : VectorRow}
    (h : CarriesProject s) :
    v ∈ searchedVectors mode wing room s ↔
      v ∈ s.vectors ∧ ∃ row, s.db.drawers.find? v.id = some row ∧ filterClause mode wing room row = true := by
  rw [searchedVectors, List.mem_filter]
  refine and_congr_right fun hMem => ?_
  have hVector : s.vectorProject v.id = some v.projectId := by
    rw [Store.vectorProject, VectorTable.find?, Table.find?_of_mem hMem]
    rfl
  cases hRow : s.db.drawers.find? v.id with
  | none => simp
  | some row =>
    have hProject : v.projectId = row.projectId := h v.id _ _ (by rw [Store.rowProject, hRow]; rfl) hVector
    simp only [Option.any_some, Bool.and_eq_true, Option.some.injEq, exists_eq_left', hProject]
    refine and_iff_right_of_imp fun hClause => ?_
    exact (Bool.and_eq_true_iff.mp hClause).2

theorem vectors_carry_project (model : TextModel) (ops : List StoreOp)
    (hKeeps : (storeMachine model).Along KeepsProject Store.empty ops) :
    CarriesProject ((storeMachine model).final Store.empty ops) ∧
      ∀ mode wing room v, v ∈ searchedVectors mode wing room ((storeMachine model).final Store.empty ops) ↔
        v ∈ ((storeMachine model).final Store.empty ops).vectors ∧
          ∃ row, ((storeMachine model).final Store.empty ops).db.drawers.find? v.id = some row ∧
            filterClause mode wing room row = true := by
  have hInit : CarriesProject Store.empty := by rintro _ _ _ ⟨⟩
  have hCarries := Machine.invariant_along (I := CarriesProject) (fun s op h hOp => carriesProject_step h op hOp)
    hInit hKeeps
  exact ⟨hCarries, fun _ _ _ _ => mem_searchedVectors hCarries⟩

def scopedNote (id content : String) (projectId : Option String) : NewDrawer :=
  { evidence id content with projectId }

def scopedRun : List StoreOp :=
  [.insert (scopedNote "a" "alpha" (some "p")) [0], .insert (scopedNote "b" "beta" none) [1],
    .upsert (scopedNote "b" "gamma" none) [2],
    .merge ⟨"a", "alpha delta", [3], 0, ⟨"d", .merge, some "a", some "p"⟩⟩ none, .softDelete (.drawer "b") "1776045600"]

instance (s : Store) (id : String) (projectId : Option String) : Decidable (Fits s id projectId) := by
  unfold Fits
  split <;> infer_instance

theorem scopedRun_searched :
    searchedVectors (.project "p") none none ((storeMachine spacedWords).final .empty scopedRun) =
      [⟨"a", [3], some "p"⟩] ∧ CarriesProject ((storeMachine spacedWords).final .empty scopedRun) := by
  refine ⟨by decide +kernel, (vectors_carry_project spacedWords scopedRun ?_).1⟩
  refine ⟨?_, ?_, ⟨fun _ => ?_, fun _ => ?_⟩, trivial, trivial, trivial⟩
  · simp only [KeepsProject]
    decide +kernel
  · simp only [KeepsProject]
    decide +kernel
  · decide +kernel
  · decide +kernel

def upsertedRun : List StoreOp :=
  [.insert (scopedNote "a" "alpha" (some "p")) [0], .upsert (scopedNote "a" "beta" (some "p")) [1]]

theorem upserted_vector_hidden :
    ((storeMachine spacedWords).final .empty upsertedRun).rowProject "a" = some (some "p") ∧
      ((storeMachine spacedWords).final .empty upsertedRun).vectorProject "a" = some none ∧
        searchedVectors (.project "p") none none ((storeMachine spacedWords).final .empty upsertedRun) = [] := by
  decide +kernel

end Mempal.Drawers

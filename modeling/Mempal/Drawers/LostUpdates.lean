import Mempal.Drawers.ContentEffects

set_option autoImplicit false

/-! A writer that commits while a text it has not seen is in its drawer throws that text away. -/

namespace Mempal.Drawers

open Foundation Foundation.Snapshot

def Workshop.rewriteOf (w : Workshop) : WriterAction → Option (String × (Option String → Option String))
  | .commit writer _ => (w.pending.find? writer).map fun pending => (pending.draft.drawerId, pending.draft.rewrite)
  | .compactFenced importance clusterDrawerIds _ =>
    (planCompaction importance clusterDrawerIds w.store).toOption.map fun plan =>
      (plan.targetId, (Draft.compaction plan).rewrite)
  | .closeCase caseId closed => some (caseId, fun existing => existing.bind closed)
  | _ => none

/-- The writer commits a text that it computed from another content than the drawer has. -/
def Workshop.isStale (w : Workshop) : WriterAction → Bool
  | .commit writer _ =>
    (w.pending.find? writer).any fun pending => w.store.content pending.draft.drawerId ≠ pending.draft.base
  | _ => false

structure NoLostUpdate (model : TextModel) (w : Workshop) (a : WriterAction) : Prop where
  computed : (workshopMachine model).output w a = some (.ok ()) →
    ∃ drawerId rewrite, w.rewriteOf a = some (drawerId, rewrite) ∧
      ∀ id content, ((workshopMachine model).next w a).store.content id = some content →
        w.store.content id = some content ∨ id = drawerId ∧ rewrite (w.store.content drawerId) = some content
  unchanged : (workshopMachine model).output w a ≠ some (.ok ()) →
    ((workshopMachine model).next w a).store = w.store
  refused : w.isStale a = true → ∃ e, (workshopMachine model).output w a = some (.error e)

/-- A commit after touches of the drawer that the check of the writer does not miss. -/
def CommitsUndisturbed (w : Workshop) : WriterAction → Prop
  | .commit writer _ => (w.pending.find? writer).all Pending.undisturbed = true
  | _ => True

instance (w : Workshop) (a : WriterAction) : Decidable (CommitsUndisturbed w a) := by
  cases a <;> unfold CommitsUndisturbed <;> infer_instance

structure Pending.Sound (pending : Pending) (s : Store) : Prop where
  computed : pending.draft.rewrite pending.draft.base = some pending.draft.content
  holds : pending.reader.Holds s.db.contents

def Workshop.Sound (w : Workshop) : Prop := ∀ pending ∈ w.pending, pending.Sound w.store

variable {w : Workshop} {s : Store} {writer : Nat} {draft : Draft} {options : DiaryRollupOptions}
  {importance : String → Int} {clusterDrawerIds : List String}

theorem Workshop.Sound.start (h : w.Sound)
    (hRead : Pending.Sound ⟨writer, draft, []⟩ w.store) : (w.start writer draft).Sound := by
  unfold Workshop.start
  split
  · intro pending hPending
    rcases Table.mem_insertOrIgnore hPending with hOld | rfl
    · exact h pending hOld
    · exact hRead
  · exact h

theorem Workshop.Sound.finish (h : w.Sound) (writer : Nat) : (w.finish writer).Sound := by
  intro pending hPending
  exact h pending (Table.mem_delete.mp hPending).1

theorem Workshop.Sound.committed (h : w.Sound) {touch : String → Option Touch} {store : Store}
    (hEffect : Effect touch w.store.db.contents store.db.contents) : (w.committed touch store).Sound := by
  intro pending hPending
  obtain ⟨old, hOld, rfl⟩ := List.mem_map.mp hPending
  exact ⟨(h old hOld).computed, (h old hOld).holds.record hEffect⟩

theorem prepareDiaryRollup_content {content wing today : String}
    {prepared : PreparedDiaryRollup} (h : prepareDiaryRollup content wing options today s = .ok prepared) :
    prepared.content = rolledUp (s.getDrawer prepared.drawerId) content := by
  unfold prepareDiaryRollup at h
  split at h
  · cases h
  · split at h
    · cases h
    · dsimp only at h
      split at h
      · cases h
      · cases h
        rfl

theorem sound_readMerge {request : MergeRequest} {row : DrawerRow} (h : s.getDrawer request.targetId = some row) :
    Pending.Sound ⟨writer, .merge request row.content row.mergeCount, []⟩ s := by
  have hContents : s.db.contents request.targetId = some (row.content, row.mergeCount) := by
    obtain ⟨hFind, hActive⟩ := Option.filter_eq_some_iff.mp h
    exact DrawerDb.contents_of_find? hFind hActive
  refine ⟨rfl, Reader.holds_of_read (congrArg (Option.map Prod.fst) hContents) ?_⟩
  rintro expected hExpected v n hView
  cases hExpected
  cases hContents.symm.trans hView
  rfl

theorem sound_readRollup {entry wing today : String}
    {prepared : PreparedDiaryRollup} (h : prepareDiaryRollup entry wing options today s = .ok prepared) :
    Pending.Sound ⟨writer, .rollup entry ((s.getDrawer prepared.drawerId).map DrawerRow.content) prepared, []⟩ s := by
  refine ⟨?_, Reader.holds_of_read (s.map_fst_contents prepared.drawerId) (by rintro _ ⟨⟩)⟩
  show some _ = some prepared.content
  rw [prepareDiaryRollup_content h]
  cases s.getDrawer prepared.drawerId <;> rfl

theorem selectRichest_mem (importance : String → Int) (first : DrawerRow) (rest : List DrawerRow) :
    selectRichest importance first rest ∈ first :: rest := by
  induction rest generalizing first with
  | nil => exact List.mem_cons_self
  | cons row rest ih =>
    rcases List.mem_cons.mp (ih (if isRicher importance row first then row else first)) with hBest | hRest
    · rw [selectRichest, List.foldl_cons, ← selectRichest, hBest]
      split
      · exact List.mem_cons_of_mem _ List.mem_cons_self
      · exact List.mem_cons_self
    · exact List.mem_cons_of_mem _ (List.mem_cons_of_mem _ hRest)

theorem planCompaction_spec {plan : Compaction} (h : planCompaction importance clusterDrawerIds s = .ok plan) :
    plan.sourceIds = clusterDrawerIds.eraseDups ∧ plan.targetId ∈ clusterDrawerIds ∧
      s.content plan.targetId = some plan.existingContent := by
  unfold planCompaction at h
  dsimp only at h
  split at h
  · cases h
  · split at h
    · cases h
    · rename_i first rest hDetails
      cases h
      have hMem : selectRichest importance first rest ∈ clusterDrawerIds.eraseDups.filterMap s.getDrawer := by
        rw [hDetails]
        exact selectRichest_mem importance first rest
      obtain ⟨id, hListed, hRow⟩ := List.mem_filterMap.mp hMem
      have hId := (DrawerTable.find?_eq_some_iff.mp (Option.filter_eq_some_iff.mp hRow).1).2
      rw [Store.content, hId, hRow]
      exact ⟨rfl, List.mem_eraseDups.mp hListed, rfl⟩

theorem sound_readCluster {plan : Compaction} (h : planCompaction importance clusterDrawerIds s = .ok plan) :
    Pending.Sound ⟨writer, .compaction plan, []⟩ s := by
  refine ⟨rfl, Reader.holds_of_read ?_ (by rintro _ ⟨⟩)⟩
  rw [s.map_fst_contents]
  exact (planCompaction_spec h).2.2

section Model
variable {model : TextModel} {a : WriterAction}

theorem workshop_sound_step (h : w.Sound) : ((workshopMachine model).next w a).Sound := by
  unfold Machine.next workshopMachine
  cases a with
  | readMerge writer request =>
    dsimp only
    split
    · exact h
    · rename_i row hRow
      split
      · exact h
      · exact h.start (sound_readMerge hRow)
  | readRollup writer entry wing options today =>
    dsimp only
    split
    · exact h
    · rename_i prepared hPrepare
      exact h.start (sound_readRollup hPrepare)
  | readCluster writer importance clusterDrawerIds =>
    dsimp only
    split
    · exact h
    · rename_i plan hPlan
      exact h.start (sound_readCluster hPlan)
  | commit writer input =>
    dsimp only
    split
    · exact h
    · split
      · exact h.finish writer
      · rename_i store hCommit
        exact (h.committed (Draft.commits hCommit).effect).finish writer
  | abandon writer => exact h.finish writer
  | compactFenced importance clusterDrawerIds timestamp =>
    dsimp only
    split
    · exact h
    · split
      · exact h
      · rename_i store hApply
        exact h.committed (Compaction.commits hApply).effect
  | closeCase caseId closed =>
    dsimp only
    split
    · exact h
    · rename_i db hClose
      obtain ⟨_, _, _, _, hCommits⟩ := closeCase_commits hClose
      exact h.committed hCommits.effect

theorem Pending.Sound.fresh {pending : Pending} {input : CommitInput} {s' : Store} (h : pending.Sound s)
    (hUndisturbed : pending.undisturbed = true) (hCommit : pending.draft.commit model input s = .ok s') :
    s.content pending.draft.drawerId = pending.draft.base := by
  rw [← s.map_fst_contents]
  exact h.holds.fresh hUndisturbed (Draft.commits hCommit).passes

theorem Commits.content {check : Check} {drawerId content : String} {touch : String → Option Touch} {s' : Store}
    (h : Commits check drawerId content touch s.db.contents s'.db.contents) (rewrite : Option String → Option String)
    (hRewrite : rewrite (s.content drawerId) = some content) (id c : String) (hc : s'.content id = some c) :
    s.content id = some c ∨ id = drawerId ∧ rewrite (s.content drawerId) = some c := by
  rw [← s'.map_fst_contents] at hc
  rcases h.stored id c hc with hSame | ⟨hId, rfl⟩
  · left
    rwa [s.map_fst_contents] at hSame
  · exact .inr ⟨hId, hRewrite⟩

theorem noLostUpdate_commit (h : w.Sound) {writer : Nat} {input : CommitInput}
    (hUndisturbed : CommitsUndisturbed w (.commit writer input)) : NoLostUpdate model w (.commit writer input) := by
  cases hFind : w.pending.find? writer with
  | none =>
    have hStep : (workshopMachine model).step w (.commit writer input) = (w, none) := by
      simp only [workshopMachine, hFind]
    constructor <;> simp [Machine.output, Machine.next, hStep, Workshop.isStale, hFind]
  | some pending =>
    cases hCommit : pending.draft.commit model input w.store with
    | error e =>
      have hStep : (workshopMachine model).step w (.commit writer input) = (w.finish writer, some (.error e)) := by
        simp only [workshopMachine, hFind, hCommit]
      constructor <;> simp [Machine.output, Machine.next, hStep, Workshop.finish]
    | ok store =>
      have hStep : (workshopMachine model).step w (.commit writer input) =
          ((w.committed pending.draft.touch store).finish writer, some (.ok ())) := by
        simp only [workshopMachine, hFind, hCommit]
      have hSound := h pending (Table.find?_eq_some_iff.mp hFind).1
      simp only [CommitsUndisturbed, hFind] at hUndisturbed
      have hFresh := hSound.fresh hUndisturbed hCommit
      constructor
      · intro _
        refine ⟨pending.draft.drawerId, pending.draft.rewrite, by simp [Workshop.rewriteOf, hFind], ?_⟩
        rw [Machine.next, hStep]
        exact (Draft.commits hCommit).content _ (hFresh ▸ hSound.computed)
      · simp [Machine.output, hStep]
      · simp [Workshop.isStale, hFind, hFresh]

theorem noLostUpdate_compactFenced {timestamp : String} (w : Workshop) :
    NoLostUpdate model w (.compactFenced importance clusterDrawerIds timestamp) := by
  have hError (e : WriteError)
      (hStep : (workshopMachine model).step w (.compactFenced importance clusterDrawerIds timestamp) =
        (w, some (.error e))) : NoLostUpdate model w (.compactFenced importance clusterDrawerIds timestamp) := by
    constructor <;> simp [Machine.output, Machine.next, hStep, Workshop.isStale]
  cases hPlan : planCompaction importance clusterDrawerIds w.store with
  | error e =>
    apply hError (.db e)
    simp only [workshopMachine, hPlan]
  | ok plan =>
    cases hApply : plan.apply model timestamp w.store with
    | error e =>
      apply hError (.db e)
      simp only [workshopMachine, hPlan, hApply]
    | ok store =>
      have hStep : (workshopMachine model).step w (.compactFenced importance clusterDrawerIds timestamp) =
          (w.committed (Draft.compaction plan).touch store, some (.ok ())) := by
        simp only [workshopMachine, hPlan, hApply]
      constructor
      · intro _
        refine ⟨plan.targetId, (Draft.compaction plan).rewrite, by simp [Workshop.rewriteOf, hPlan, Except.toOption], ?_⟩
        rw [Machine.next, hStep]
        apply (Compaction.commits hApply).content
        rw [(planCompaction_spec hPlan).2.2]
        rfl
      · simp [Machine.output, hStep]
      · simp [Workshop.isStale]

theorem noLostUpdate_closeCase {caseId : String} (w : Workshop) (closed : String → Option String) :
    NoLostUpdate model w (.closeCase caseId closed) := by
  cases hClose : closeCase model caseId closed w.store.db with
  | error e =>
    have hStep : (workshopMachine model).step w (.closeCase caseId closed) = (w, some (.error (.db e))) := by
      simp only [workshopMachine, hClose]
    constructor <;> simp [Machine.output, Machine.next, hStep, Workshop.isStale]
  | ok db =>
    have hStep : (workshopMachine model).step w (.closeCase caseId closed) =
        (w.committed (touchCase caseId) { w.store with db }, some (.ok ())) := by
      simp only [workshopMachine, hClose]
    obtain ⟨content, content', hBefore, hClosed, hCommits⟩ := closeCase_commits hClose
    have hNow : (w.store.content caseId).bind closed = some content' := by
      rw [← w.store.map_fst_contents, hBefore]
      exact hClosed
    constructor
    · intro _
      refine ⟨caseId, fun existing => existing.bind closed, rfl, ?_⟩
      rw [Machine.next, hStep]
      exact Commits.content (s := w.store) hCommits (fun existing => existing.bind closed) hNow
    · simp [Machine.output, hStep]
    · simp [Workshop.isStale]

theorem NoLostUpdate.of_read (w' : Workshop)
    (hStep : (workshopMachine model).step w a = (w', none)) (hStore : w'.store = w.store)
    (hFresh : w.isStale a = false) : NoLostUpdate model w a := by
  constructor <;> simp [Machine.output, Machine.next, hStep, hStore, hFresh]

theorem Workshop.store_start (w : Workshop) (writer : Nat) : (w.start writer draft).store = w.store := by
  unfold Workshop.start
  split <;> rfl

theorem noLostUpdate_step (h : w.Sound) (hUndisturbed : CommitsUndisturbed w a) : NoLostUpdate model w a := by
  cases a with
  | readMerge writer request =>
    cases hRow : w.store.getDrawer request.targetId with
    | none => exact .of_read w (by simp only [workshopMachine, hRow]) rfl rfl
    | some row =>
      cases hCapped : request.capped row.content row.mergeCount with
      | true => exact .of_read w (by simp [workshopMachine, hRow, hCapped]) rfl rfl
      | false =>
        refine .of_read (w.start writer (.merge request row.content row.mergeCount)) ?_ (w.store_start _) rfl
        simp [workshopMachine, hRow, hCapped]
  | readRollup writer entry wing options today =>
    cases hPrepare : prepareDiaryRollup entry wing options today w.store with
    | error e => exact .of_read w (by simp only [workshopMachine, hPrepare]) rfl rfl
    | ok prepared =>
      let draft := Draft.rollup entry ((w.store.getDrawer prepared.drawerId).map DrawerRow.content) prepared
      exact .of_read (w.start writer draft) (by simp only [workshopMachine, hPrepare, draft])
        (w.store_start _) rfl
  | readCluster writer importance clusterDrawerIds =>
    cases hPlan : planCompaction importance clusterDrawerIds w.store with
    | error e => exact .of_read w (by simp only [workshopMachine, hPlan]) rfl rfl
    | ok plan =>
      exact .of_read (w.start writer (.compaction plan)) (by simp only [workshopMachine, hPlan])
        (w.store_start _) rfl
  | commit writer input => exact noLostUpdate_commit h hUndisturbed
  | abandon writer => exact .of_read (w.finish writer) rfl rfl rfl
  | compactFenced importance clusterDrawerIds timestamp => exact noLostUpdate_compactFenced w
  | closeCase caseId closed => exact noLostUpdate_closeCase w closed

end Model

/-- In every run in which no writer commits after a touch that its check misses, no update is lost. -/
theorem undisturbed_commits_lose_nothing (model : TextModel) (store : Store) (actions : List WriterAction)
    (h : (workshopMachine model).Along CommitsUndisturbed (Workshop.idle store) actions) :
    (workshopMachine model).Along (NoLostUpdate model) (Workshop.idle store) actions := by
  apply Machine.along_of_invariant (I := Workshop.Sound) _ _ _ h
  · exact fun w a hSound _ => workshop_sound_step hSound
  · exact fun w a hSound => noLostUpdate_step hSound
  · exact fun pending hPending => absurd hPending List.not_mem_nil

def supplement (targetId : String) : MergeRequest where
  targetId := targetId
  drawerId := "c"
  content := "gamma"
  mergedAt := "2026-03-01T10:00:00Z"
  admissionOwner := none
  projectId := none
  maxMergesPerDrawer := 10
  maxContentBytesPerDrawer := 65536

def commitAt (writer : Nat) : WriterAction := .commit writer ⟨[0], 1776045600, "1776045600"⟩

def compactedMeanwhile : List WriterAction :=
  [.readMerge 1 (supplement "a"), .compactFenced (fun _ => 0) ["a", "b"] "1776045600", commitAt 1,
    .readMerge 1 (supplement "a"), commitAt 1]

def pairStore : Store :=
  storeOf [.insert (evidence "a" "alpha"), .insert (evidence "b" "beta")] [⟨"a", [0], none⟩, ⟨"b", [1], none⟩]

theorem compactedMeanwhile_loses_nothing :
    ((workshopMachine spacedWords).trace (Workshop.idle pairStore) compactedMeanwhile).map
        (fun event => event.2.map Except.toOption) = [none, some (some ()), some none, none, some (some ())] ∧
      (workshopMachine spacedWords).Along (NoLostUpdate spacedWords) (Workshop.idle pairStore) compactedMeanwhile :=
  ⟨by decide +kernel, undisturbed_commits_lose_nothing spacedWords pairStore compactedMeanwhile (by decide +kernel)⟩

def rollup (writer : Nat) (entry : String) : List WriterAction :=
  [.readRollup writer entry diaryRollupWing ⟨some "dev", some "2026-03-01"⟩ "2026-03-01", commitAt writer]

/-- Between the read and the commit of a merge into the drawer of a day, a rollup appends an entry to it. -/
def rolledUpMeanwhile : List WriterAction :=
  rollup 0 "one" ++ .readMerge 1 (supplement marchId) :: rollup 0 "two"

theorem rollup_lost_under_merge :
    ((workshopMachine spacedWords).final (Workshop.idle .empty) rolledUpMeanwhile).store.content marchId =
        some "one\n\n---\n\ntwo" ∧
      ((workshopMachine spacedWords).final (Workshop.idle .empty) (rolledUpMeanwhile ++ [commitAt 1])).store.content
        marchId = some "one\n---\nSUPPLEMENTARY (2026-03-01T10:00:00Z):\ngamma" ∧
      ¬ (workshopMachine spacedWords).Along (NoLostUpdate spacedWords) (Workshop.idle .empty)
        (rolledUpMeanwhile ++ [commitAt 1]) := by
  refine ⟨by decide +kernel, by decide +kernel, fun hRun => ?_⟩
  have hLast := ((Machine.along_append _ _ _ _).mp hRun).2.1
  obtain ⟨e, hError⟩ := hLast.refused (by decide +kernel)
  have hOk : ((workshopMachine spacedWords).output
      ((workshopMachine spacedWords).final (Workshop.idle .empty) rolledUpMeanwhile) (commitAt 1)).map
        Except.toOption = some (some ()) := by decide +kernel
  rw [hError] at hOk
  cases hOk

end Mempal.Drawers

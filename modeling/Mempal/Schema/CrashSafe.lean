import Mempal.Schema.Opening
import Mempal.Schema.Tasks

set_option autoImplicit false

/-! A transaction that crashes leaves nothing behind and is run again by the next open. -/

namespace Mempal.Schema

open Foundation

variable (tokenize contentHash : String → String)

/-- Every drawer that is not deleted is in the full-text index. -/
def Indexed (db : SchemaDb) : Prop := ∀ row ∈ db.liveRows, (row.1, tokenize row.2) ∈ db.fts.getD []

instance (db : SchemaDb) : Decidable (Indexed tokenize db) :=
  inferInstanceAs (Decidable (∀ row ∈ db.liveRows, (row.1, tokenize row.2) ∈ db.fts.getD []))

def Task.migration? : Task → Option Nat
  | .migrate version => some version
  | .repair _ => none

def migrated (applied : List (Nat × Task)) : List Nat := applied.filterMap fun done => done.2.migration?

/-- No crash and no failing statement between the commit of a migration and the end of its follow-up. -/
def Uninterrupted (s : OpenState) (a : OpenAction) : Prop :=
  s.process.inFollowUp = true → a ≠ .crash ∧ (openMachine tokenize contentHash).output s a = none

instance (s : OpenState) (a : OpenAction) : Decidable (Uninterrupted tokenize contentHash s a) :=
  inferInstanceAs (Decidable (_ → _ ∧ _))

/-- What holds of a run that has come from `before` to `after`. -/
structure CrashSafe (start : SchemaDb) (before after : List OpenAction) : Prop where
  version_mono :
    ((openMachine tokenize contentHash).final (.closed start) before).db.version ≤
      ((openMachine tokenize contentHash).final (.closed start) (before ++ after)).db.version
  once : ∀ s, (openMachine tokenize contentHash).final (.closed start) (before ++ after) = s → s.process = .idle →
    start.version ≤ s.db.version ∧
      migrated s.applied = List.range' (start.version + 1) (s.db.version - start.version)
  noPartial : ∀ s, (openMachine tokenize contentHash).final (.closed start) (before ++ after) = s →
    s.process = .idle → effects tokenize contentHash start s.applied = .ok s.db
  newest : ∀ s a, (openMachine tokenize contentHash).final (.closed start) (before ++ after) = s →
    (openMachine tokenize contentHash).output s a = some (.ok ()) →
      s.db.version = currentSchemaVersion ∧ Indexed tokenize s.db

structure Pending (current version : Nat) (rest : List Task) : Prop where
  read : current ≤ version
  supported : version ≤ currentSchemaVersion
  rest : ∃ repairs : List Nat, (∀ repair ∈ repairs, repair ≤ currentSchemaVersion) ∧
    rest = (List.range' (version + 1) (currentSchemaVersion - version)).map .migrate ++ repairs.map .repair

variable {version current : Nat} {rest : List Task} {statements : List Statement} {a : OpenAction}

theorem pending_tasks (h : version ≤ currentSchemaVersion) : Pending version version (tasks version) := by
  refine ⟨le_rfl, h, (if 5 ≤ version then [5] else []) ++ [11, 12, 13, 14, 15], ?_, ?_⟩
  · split <;> decide
  · unfold tasks
    split <;> simp

theorem Pending.version_eq (h : Pending current version []) : version = currentSchemaVersion := by
  obtain ⟨repairs, _, hRest⟩ := h.rest
  have hLength := congrArg List.length hRest
  simp only [List.length_nil, List.length_append, List.length_map, List.length_range'] at hLength
  have := h.supported
  omega

theorem Pending.cons {task : Task} (h : Pending current version (task :: rest)) :
    (task = .migrate (version + 1) ∧ Pending current (version + 1) rest) ∨
      (∃ repair ≤ version, task = .repair repair) ∧ version = currentSchemaVersion ∧
        Pending current version rest := by
  obtain ⟨hRead, hSupported, repairs, hRepairs, hRest⟩ := h
  rcases Nat.lt_or_eq_of_le hSupported with hLt | rfl
  · left
    obtain ⟨left, hLeft⟩ : ∃ left, currentSchemaVersion - version = left + 1 :=
      ⟨currentSchemaVersion - version - 1, by omega⟩
    rw [hLeft, List.range'_succ, List.map_cons, List.cons_append, List.cons.injEq] at hRest
    refine ⟨hRest.1, by omega, hLt, repairs, hRepairs, ?_⟩
    rw [hRest.2, show currentSchemaVersion - (version + 1) = left by omega]
  · right
    rw [Nat.sub_self, List.range'_zero, List.map_nil, List.nil_append] at hRest
    cases repairs with
    | nil => cases hRest
    | cons repair repairs =>
      rw [List.map_cons, List.cons.injEq] at hRest
      refine ⟨⟨repair, hRepairs repair List.mem_cons_self, hRest.1⟩, rfl, hRead, le_rfl, repairs, ?_, ?_⟩
      · exact fun other hMem => hRepairs other (List.mem_cons_of_mem _ hMem)
      · rw [hRest.2, Nat.sub_self, List.range'_zero, List.map_nil, List.nil_append]

structure Committed (current : Nat) (task : Task) (rest : List Task) (db working : SchemaDb) : Prop where
  pending : Pending current working.version rest
  version_le : db.version ≤ working.version
  migration : task.migration?.toList = List.range' (db.version + 1) (working.version - db.version)
  index : task = .migrate 17 ∨ working.version < 17 ∨ 17 ≤ db.version ∧ IndexKept db working

variable {db working : SchemaDb}

theorem run_migration {body : List Statement} (hBody : MigrationBody version body)
    (h : (body ++ [Statement.setVersion version]).foldlM SchemaDb.exec db = .ok working) :
    working.version = version ∧ (17 < version → IndexKept db working) := by
  rw [List.foldlM_append] at h
  obtain ⟨mid, hMid, hLast⟩ := bind_eq_ok_iff.mp h
  cases hLast
  exact ⟨rfl, fun hLate => (SchemaDb.run_quiet (hBody.quiet hLate) hMid).trans ⟨rfl, rfl⟩⟩

theorem committed_of_run {task : Task} (hPending : Pending current db.version (task :: rest))
    (hPlan : plan current db task = some statements) (hRun : statements.foldlM SchemaDb.exec db = .ok working) :
    Committed current task rest db working := by
  rcases hPending.cons with ⟨rfl, hRest⟩ | ⟨⟨repair, hOld, rfl⟩, hNewest, hRest⟩
  · obtain ⟨body, hBody, hShape⟩ := plan_migrate hPending.read
    cases hPlan.symm.trans hShape
    obtain ⟨hVersion, hIndex⟩ := run_migration hBody hRun
    refine ⟨hVersion ▸ hRest, by omega, ?_, ?_⟩
    · rw [hVersion, Nat.add_sub_cancel_left]
      rfl
    · rcases Nat.lt_trichotomy (db.version + 1) 17 with hEarly | hAt | hLate
      · exact .inr (.inl (by omega))
      · exact .inl (by rw [hAt])
      · exact .inr (.inr ⟨by omega, hIndex hLate⟩)
  · have hBody := plan_repair hOld hPlan
    have hVersion := SchemaDb.run_version (fun statement hMem => (hBody statement hMem).1) hRun
    refine ⟨hVersion ▸ hRest, hVersion.ge, ?_, ?_⟩
    · rw [hVersion, Nat.sub_self]
      rfl
    · have hKept := SchemaDb.run_quiet (fun statement hMem => (hBody statement hMem).2) hRun
      exact .inr (.inr ⟨by rw [hNewest]; decide, hKept⟩)

theorem run_v17 (hPlan : plan current db (.migrate 17) = some statements)
    (hRun : statements.foldlM SchemaDb.exec db = .ok working) : working.fts = some [] := by
  have hStatements : plan current db (.migrate 17) = some (v17Migration ++ [.setVersion 17]) := by
    simp [plan, migrationSql]
  cases hPlan.symm.trans hStatements
  cases hRun
  rfl

theorem committed_of_plan_none {task : Task}
    (hPending : Pending current db.version (task :: rest)) (hPlan : plan current db task = none) :
    Committed current task rest db db ∧ ∃ repair, task = .repair repair := by
  rcases hPending.cons with ⟨rfl, hRest⟩ | ⟨⟨repair, hOld, rfl⟩, hNewest, hRest⟩
  · obtain ⟨body, hBody, hShape⟩ := plan_migrate hPending.read
    cases hPlan.symm.trans hShape
  · refine ⟨⟨hRest, le_rfl, ?_, .inr (.inr ⟨by rw [hNewest]; decide, .refl db⟩)⟩, repair, rfl⟩
    rw [Nat.sub_self]
    rfl

theorem hashRow_row (row : DrawerRow) :
    (hashRow contentHash row).rowid = row.rowid ∧ (hashRow contentHash row).content = row.content ∧
      (hashRow contentHash row).deletedAt = row.deletedAt := by
  unfold hashRow
  split <;> exact ⟨rfl, rfl, rfl⟩

theorem indexKept_hashAll (db : SchemaDb) : IndexKept db (hashAll contentHash db) :=
  .map (hashRow_row contentHash)

theorem hashRow_hashRow {row : DrawerRow} :
    hashRow contentHash (hashRow contentHash row) = hashRow contentHash row := by
  unfold hashRow
  split <;> rfl

theorem map_hashRows {limit : Nat} {rows : List DrawerRow} :
    (hashRows contentHash limit rows).map (hashRow contentHash) = rows.map (hashRow contentHash) := by
  induction rows generalizing limit with
  | nil => rfl
  | cons row rows ih =>
    unfold hashRows
    split
    · cases limit with
      | zero => rfl
      | succ limit => simp only [List.map_cons, hashRow_hashRow, ih]
    · simp only [List.map_cons, ih]

theorem hashAll_of_all (h : (db.drawers.all fun row => row.contentHash ≠ none) = true) :
    hashAll contentHash db = db := by
  have hRows : db.drawers.map (hashRow contentHash) = db.drawers := by
    conv_rhs => rw [← List.map_id db.drawers]
    refine List.map_congr_left fun row hMem => if_neg ?_
    exact of_decide_eq_true (List.all_eq_true.mp h row hMem)
  rw [hashAll, hRows]

theorem indexRows_nil (db : SchemaDb) : indexRows tokenize [] db = db := by
  simp [indexRows]

theorem indexRows_cons {rows : List (Int × String)} {rowid : Int} {entries : List (Int × String)}
    (h : db.fts = some entries) (content : String) :
    indexRows tokenize rows { db with fts := some (entries ++ [(rowid, tokenize content)]) } =
      indexRows tokenize ((rowid, content) :: rows) db := by
  simp [indexRows, h]

variable {tokenize contentHash}

theorem Indexed.keep {db' : SchemaDb} (h : Indexed tokenize db) (hKept : IndexKept db db') : Indexed tokenize db' := by
  intro row hRow
  rw [hKept.fts]
  exact h row (hKept.rows ▸ hRow)

theorem indexed_indexRows (h : db.fts.isSome = true) : Indexed tokenize (indexRows tokenize db.liveRows db) := by
  obtain ⟨entries, hEntries⟩ := Option.isSome_iff_exists.mp h
  intro row hRow
  simp only [indexRows, hEntries, Option.map_some, Option.getD_some]
  exact List.mem_append_right _ (List.mem_map_of_mem hRow)

variable (tokenize contentHash)

namespace OpenState

variable {s : OpenState}

theorem act_openDatabase :
    s.process = .idle ∧ (openMachine tokenize contentHash).step s .openDatabase = s.startOpen ∨
      s.process ≠ .idle ∧ (openMachine tokenize contentHash).step s .openDatabase = (s, none) := by
  simp only [openMachine, act]
  cases hProcess : s.process with
  | idle => exact .inl ⟨rfl, rfl⟩
  | _ => exact .inr ⟨Process.noConfusion, rfl⟩

theorem act_fails :
    s.process = .idle ∧ (openMachine tokenize contentHash).step s (.step false) = (s, none) ∨
      s.process ≠ .idle ∧ (openMachine tokenize contentHash).step s (.step false) = s.fail .io := by
  simp only [openMachine, act]
  cases hProcess : s.process with
  | idle => exact .inl ⟨rfl, rfl⟩
  | _ => exact .inr ⟨Process.noConfusion, rfl⟩

end OpenState

namespace Process

def underWay : Process → List (Nat × Task)
  | .hashing current task _ | .selecting current task _ | .indexing current task _ _ => [(current, task)]
  | _ => []

def completed (db : SchemaDb) : Process → SchemaDb
  | .hashing .. => hashAll contentHash db
  | .selecting .. => indexRows tokenize db.liveRows db
  | .indexing _ _ rows _ => indexRows tokenize rows db
  | _ => db

def Sound (db : SchemaDb) : Process → Prop
  | .idle => True
  | .migrating current rest => Pending current db.version rest
  | .executing current task statements working rest =>
    Pending current db.version (task :: rest) ∧
      ∃ done, plan current db task = some (done ++ statements) ∧ done.foldlM SchemaDb.exec db = .ok working
  | .hashing current _ rest | .selecting current _ rest | .indexing current _ _ rest =>
    Pending current db.version rest

theorem underWay_eq_nil {process : Process} (h : process.inFollowUp = false) : process.underWay = [] := by
  cases process <;> first | rfl | cases h

theorem completed_eq_self {process : Process} (h : process.inFollowUp = false) (db : SchemaDb) :
    process.completed tokenize contentHash db = db := by
  cases process <;> first | rfl | cases h

end Process

structure OpenInv (start : SchemaDb) (s : OpenState) : Prop where
  sound : s.process.Sound s.db
  started : start.version ≤ s.db.version
  whole : effects tokenize contentHash start (s.applied ++ s.process.underWay) =
    .ok (s.process.completed tokenize contentHash s.db)
  once : migrated (s.applied ++ s.process.underWay) =
    List.range' (start.version + 1) (s.db.version - start.version)
  indexed : 17 ≤ s.db.version → Indexed tokenize (s.process.completed tokenize contentHash s.db)

namespace OpenInv

variable {tokenize contentHash} {start : SchemaDb} {s : OpenState}

theorem closed (h : start.version < 17 ∨ Indexed tokenize start) :
    OpenInv tokenize contentHash start (.closed start) where
  sound := trivial
  started := le_rfl
  whole := rfl
  once := by
    rw [show (OpenState.closed start).db.version - start.version = 0 from Nat.sub_self _]
    rfl
  indexed hLate := h.resolve_left (Nat.not_lt.mpr hLate)

theorem move (h : OpenInv tokenize contentHash start s) (db : SchemaDb) (process : Process)
    (hSound : process.Sound db) (hVersion : db.version = s.db.version) (hUnderWay : process.underWay = s.process.underWay)
    (hCompleted : process.completed tokenize contentHash db = s.process.completed tokenize contentHash s.db) :
    OpenInv tokenize contentHash start { s with db := db, process := process } where
  sound := hSound
  started := hVersion ▸ h.started
  whole := by
    simp only [hUnderWay, hCompleted]
    exact h.whole
  once := by
    simp only [hUnderWay, hVersion]
    exact h.once
  indexed hLate := by
    simp only [hCompleted]
    exact h.indexed (hVersion ▸ hLate)

theorem finish {task : Task} (h : OpenInv tokenize contentHash start s)
    (hUnderWay : s.process.underWay = [(current, task)])
    (hCompleted : s.process.completed tokenize contentHash s.db = s.db)
    (hPending : Pending current s.db.version rest) :
    OpenInv tokenize contentHash start (s.finish current task rest) where
  sound := hPending
  started := h.started
  whole := by
    have hWhole := h.whole
    rw [hUnderWay, hCompleted] at hWhole
    simp only [OpenState.finish, Process.underWay, List.append_nil]
    exact hWhole
  once := by
    have hOnce := h.once
    rw [hUnderWay] at hOnce
    simp only [OpenState.finish, Process.underWay, List.append_nil]
    exact hOnce
  indexed hLate := by
    have hIndexed := h.indexed hLate
    rw [hCompleted] at hIndexed
    exact hIndexed

theorem stop (h : OpenInv tokenize contentHash start s) (hAt : s.process.inFollowUp = false) :
    OpenInv tokenize contentHash start { s with process := .idle } := by
  exact h.move s.db .idle trivial rfl (Process.underWay_eq_nil hAt).symm
    (Process.completed_eq_self tokenize contentHash hAt s.db).symm

theorem migrated_concat {applied : List (Nat × Task)} {task : Task} :
    migrated (applied ++ [(current, task)]) = migrated applied ++ task.migration?.toList := by
  cases task <;> simp [migrated, Task.migration?]

section
variable (h : OpenInv tokenize contentHash start s)
include h

/-- A task whose effect is whole once `process` is done. -/
theorem task {s' : OpenState} (hAt : s.process.underWay = [])
    (hDb : s.process.completed tokenize contentHash s.db = s.db) {task : Task}
    (hDone : Committed current task rest s.db working) (hWorking : s'.db = working) (hSound : s'.process.Sound s'.db)
    (hApplied : s'.applied ++ s'.process.underWay = s.applied ++ [(current, task)])
    (hEffect : effect tokenize contentHash s.db (current, task) = .ok (s'.process.completed tokenize contentHash s'.db))
    (hIndexed : 17 ≤ working.version → Indexed tokenize (s'.process.completed tokenize contentHash s'.db)) :
    OpenInv tokenize contentHash start s' := by
  subst hWorking
  have hWhole := h.whole
  have hOnce := h.once
  have hStarted := h.started
  have hVersion := hDone.version_le
  rw [hAt, List.append_nil] at hWhole hOnce
  rw [hDb] at hWhole
  refine ⟨hSound, hStarted.trans hVersion, ?_, ?_, hIndexed⟩
  · rw [hApplied]
    exact foldlM_concat_ok hWhole hEffect
  · rw [hApplied, migrated_concat, hOnce, hDone.migration,
      show s'.db.version - start.version = (s.db.version - start.version) + (s'.db.version - s.db.version) by omega,
      show s.db.version + 1 = start.version + 1 + 1 * (s.db.version - start.version) by omega,
      List.range'_append]

theorem commit {task : Task} (hProcess : s.process = .executing current task [] working rest) :
    OpenInv tokenize contentHash start (s.commit current task working rest) := by
  have hSound := h.sound
  have hIndexed := h.indexed
  have hAt : s.process.underWay = [] := by rw [hProcess]; rfl
  have hDb : s.process.completed tokenize contentHash s.db = s.db := by rw [hProcess]; rfl
  rw [hDb] at hIndexed
  rw [hProcess] at hSound
  obtain ⟨hPending, done, hPlan, hRun⟩ := hSound
  rw [List.append_nil] at hPlan
  have hDone := committed_of_run hPending hPlan hRun
  have hEffect : effect tokenize contentHash s.db (current, task) = .ok (followUp tokenize contentHash task working) := by
    simp only [effect, hPlan, hRun]
    rfl
  -- Past 17 the rows and entries are those before the task, unless the task rebuilds the index.
  have hKept : task ≠ .migrate 17 → 17 ≤ working.version → Indexed tokenize working := by
    intro hOther hLate
    obtain hIs | hEarly | ⟨hBefore, hKept⟩ := hDone.index
    · exact absurd hIs hOther
    · exact absurd hEarly (Nat.not_lt.mpr hLate)
    · exact (hIndexed hBefore).keep hKept
  unfold OpenState.commit
  unfold followUp at hEffect
  split_ifs with h5 h17
  · rw [if_pos h5] at hEffect
    refine h.task hAt hDb hDone rfl hDone.pending rfl hEffect fun hLate => ?_
    refine (hKept ?_ hLate).keep (indexKept_hashAll contentHash working)
    rintro rfl
    cases h5
  · rw [if_neg h5, if_pos h17] at hEffect
    refine h.task hAt hDb hDone rfl hDone.pending rfl hEffect fun _ => ?_
    subst h17
    refine indexed_indexRows ?_
    rw [run_v17 hPlan hRun]
    rfl
  · rw [if_neg h5, if_neg h17] at hEffect
    refine h.task hAt hDb hDone rfl hDone.pending ?_ hEffect (hKept h17)
    simp only [OpenState.finish, Process.underWay, List.append_nil]

theorem skip {task : Task}
    (hProcess : s.process = .migrating current (task :: rest)) (hPlan : plan current s.db task = none) :
    OpenInv tokenize contentHash start (s.finish current task rest) := by
  have hSound := h.sound
  have hIndexed := h.indexed
  have hAt : s.process.underWay = [] := by rw [hProcess]; rfl
  have hDb : s.process.completed tokenize contentHash s.db = s.db := by rw [hProcess]; rfl
  rw [hDb] at hIndexed
  rw [hProcess] at hSound
  obtain ⟨hDone, _⟩ := committed_of_plan_none hSound hPlan
  refine h.task hAt hDb hDone rfl hDone.pending ?_ ?_ hIndexed
  · simp only [OpenState.finish, Process.underWay, List.append_nil]
  · simp only [effect, hPlan]
    rfl

theorem startOpen (hProcess : s.process = .idle) : OpenInv tokenize contentHash start s.startOpen.1 := by
  have hStop := h.stop (by rw [hProcess]; rfl)
  have hStart : s.db.version ≤ currentSchemaVersion →
      OpenInv tokenize contentHash start { s with process := .migrating s.db.version (tasks s.db.version) } := by
    intro hSupported
    refine h.move s.db _ (pending_tasks hSupported) rfl ?_ ?_ <;> rw [hProcess] <;> rfl
  unfold OpenState.startOpen
  split_ifs with hNewer hOlder
  · exact hStop
  · exact hStart (Nat.not_lt.mp hNewer)
  · split
    · exact hStop
    · exact hStart (Nat.not_lt.mp hNewer)
    · exact h

theorem advance (hAlone : s.process.inFollowUp = true → (s.advance tokenize contentHash).2 = none) :
    OpenInv tokenize contentHash start (s.advance tokenize contentHash).1 := by
  have hSound := h.sound
  unfold OpenState.advance at hAlone ⊢
  cases hProcess : s.process with
  | idle => exact h
  | migrating current rest =>
    cases rest with
    | nil => exact h.stop (by rw [hProcess]; rfl)
    | cons task rest =>
      simp only
      rw [hProcess] at hSound
      cases hPlan : plan current s.db task with
      | none => exact h.skip hProcess hPlan
      | some statements =>
        refine h.move s.db _ ⟨hSound, [], hPlan, rfl⟩ rfl ?_ ?_ <;> rw [hProcess] <;> rfl
  | executing current task statements working rest =>
    cases statements with
    | nil => exact h.commit hProcess
    | cons statement statements =>
      simp only
      rw [hProcess] at hSound
      obtain ⟨hPending, done, hPlan, hRun⟩ := hSound
      cases hExec : working.exec statement with
      | error error => exact h.stop (by rw [hProcess]; rfl)
      | ok next =>
        refine h.move s.db _ ⟨hPending, done ++ [statement], ?_, foldlM_concat_ok hRun hExec⟩ rfl ?_ ?_
        · rw [hPlan, List.append_assoc]
          rfl
        · rw [hProcess]
          rfl
        · rw [hProcess]
          rfl
  | hashing current task rest =>
    rw [hProcess] at hSound
    simp only
    split
    · rename_i hAll
      refine h.finish (by rw [hProcess]; rfl) ?_ hSound
      rw [hProcess]
      exact hashAll_of_all contentHash hAll
    · refine h.move _ (.hashing current task rest) (by exact hSound) (by exact rfl) ?_ ?_
      · rw [hProcess]
      · rw [hProcess]
        simp only [Process.completed, hashAll, map_hashRows]
  | selecting current task rest =>
    rw [hProcess] at hSound
    simp only [hProcess] at hAlone ⊢
    split
    · rename_i error hError
      simp only [hError] at hAlone
      cases hAlone rfl
    · refine h.move s.db _ hSound rfl ?_ ?_ <;> rw [hProcess] <;> rfl
  | indexing current task rows rest =>
    rw [hProcess] at hSound
    cases rows with
    | nil =>
      refine h.finish (by rw [hProcess]; rfl) ?_ hSound
      rw [hProcess]
      exact indexRows_nil tokenize s.db
    | cons row rows =>
      simp only [hProcess] at hAlone ⊢
      cases hFts : s.db.fts with
      | none =>
        simp only [hFts] at hAlone
        cases hAlone rfl
      | some entries =>
        refine h.move _ _ hSound rfl ?_ ?_
        · rw [hProcess]
          rfl
        · rw [hProcess]
          exact indexRows_cons tokenize hFts row.2

theorem step (hAlone : Uninterrupted tokenize contentHash s a) :
    OpenInv tokenize contentHash start ((openMachine tokenize contentHash).next s a) := by
  cases a with
  | openDatabase =>
    obtain ⟨hIdle, hAct⟩ | ⟨_, hAct⟩ := OpenState.act_openDatabase tokenize contentHash
    · rw [Machine.next, hAct]
      exact h.startOpen hIdle
    · rw [Machine.next, hAct]
      exact h
  | step works =>
    cases works with
    | true => exact h.advance fun hAt => (hAlone hAt).2
    | false =>
      obtain ⟨_, hAct⟩ | ⟨_, hAct⟩ := OpenState.act_fails tokenize contentHash
      · rw [Machine.next, hAct]
        exact h
      · rw [Uninterrupted, Machine.output, hAct] at hAlone
        rw [Machine.next, hAct]
        refine h.stop (Bool.eq_false_iff.mpr fun hAt => ?_)
        cases (hAlone hAt).2
  | crash => exact h.stop (Bool.eq_false_iff.mpr fun hAt => (hAlone hAt).1 rfl)

end

end OpenInv

section Outcomes

variable {tokenize contentHash} {s : OpenState}

theorem advance_version (h : s.process.Sound s.db) : s.db.version ≤ (s.advance tokenize contentHash).1.db.version := by
  unfold OpenState.advance
  cases hProcess : s.process with
  | idle => exact le_rfl
  | migrating current rest =>
    cases rest with
    | nil => exact le_rfl
    | cons task rest =>
      simp only
      split <;> exact le_rfl
  | executing current task statements working rest =>
    rw [hProcess] at h
    obtain ⟨hPending, done, hPlan, hRun⟩ := h
    cases statements with
    | nil =>
      rw [List.append_nil] at hPlan
      have hVersion := (committed_of_run hPending hPlan hRun).version_le
      simp only [OpenState.commit]
      split_ifs <;> exact hVersion
    | cons statement statements =>
      simp only
      split <;> exact le_rfl
  | hashing | selecting =>
    simp only
    split <;> exact le_rfl
  | indexing current task rows rest =>
    cases rows with
    | nil => exact le_rfl
    | cons row rows =>
      simp only
      split <;> exact le_rfl

theorem startOpen_db : s.startOpen.1.db = s.db := by
  unfold OpenState.startOpen
  split_ifs
  · rfl
  · rfl
  · split <;> rfl

theorem version_le_next (h : s.process.Sound s.db) (a : OpenAction) :
    s.db.version ≤ ((openMachine tokenize contentHash).next s a).db.version := by
  cases a with
  | openDatabase =>
    obtain ⟨_, hAct⟩ | ⟨_, hAct⟩ := OpenState.act_openDatabase tokenize contentHash
    · rw [Machine.next, hAct, startOpen_db]
    · rw [Machine.next, hAct]
  | step works =>
    cases works with
    | true => exact advance_version h
    | false =>
      obtain ⟨_, hAct⟩ | ⟨_, hAct⟩ := OpenState.act_fails tokenize contentHash <;>
        rw [Machine.next, hAct]
      exact le_rfl
  | crash => exact le_rfl

theorem advance_succeeds (h : s.process.Sound s.db) (hOk : (s.advance tokenize contentHash).2 = some (.ok ())) :
    s.db.version = currentSchemaVersion ∧ s.process.inFollowUp = false := by
  unfold OpenState.advance at hOk
  cases hProcess : s.process with
  | idle =>
    rw [hProcess] at hOk
    cases hOk
  | migrating current rest =>
    rw [hProcess] at h hOk
    cases rest with
    | nil => exact ⟨Pending.version_eq h, rfl⟩
    | cons task rest =>
      simp only at hOk
      split at hOk <;> cases hOk
  | executing current task statements working rest =>
    rw [hProcess] at hOk
    cases statements with
    | nil => cases hOk
    | cons statement statements =>
      simp only at hOk
      split at hOk <;> cases hOk
  | hashing | selecting =>
    simp only [hProcess] at hOk
    split at hOk <;> cases hOk
  | indexing current task rows rest =>
    rw [hProcess] at hOk
    cases rows with
    | nil => cases hOk
    | cons row rows =>
      simp only at hOk
      split at hOk <;> cases hOk

theorem startOpen_succeeds (hOk : s.startOpen.2 = some (.ok ())) : s.db.version = currentSchemaVersion := by
  unfold OpenState.startOpen at hOk
  split_ifs at hOk with hNewer hOlder
  · cases hOk
  · exact Nat.le_antisymm (Nat.not_lt.mp hNewer) (Nat.not_lt.mp hOlder)

theorem open_succeeds (h : s.process.Sound s.db)
    (hOk : (openMachine tokenize contentHash).output s a = some (.ok ())) :
    s.db.version = currentSchemaVersion ∧ s.process.inFollowUp = false := by
  cases a with
  | openDatabase =>
    obtain ⟨hIdle, hAct⟩ | ⟨_, hAct⟩ := OpenState.act_openDatabase tokenize contentHash
    · rw [Machine.output, hAct] at hOk
      exact ⟨startOpen_succeeds hOk, by rw [hIdle]; rfl⟩
    · rw [Machine.output, hAct] at hOk
      cases hOk
  | step works =>
    cases works with
    | true => exact advance_succeeds h hOk
    | false =>
      obtain ⟨_, hAct⟩ | ⟨_, hAct⟩ := OpenState.act_fails tokenize contentHash <;>
        rw [Machine.output, hAct] at hOk <;> cases hOk
  | crash => cases hOk

end Outcomes

/-- Migrations are crash-safe in every run without an interrupted follow-up, from a database whose index is complete
once it is at version 17. -/
theorem uninterrupted_crash_safe (start : SchemaDb) (before after : List OpenAction)
    (hStart : start.version < 17 ∨ Indexed tokenize start)
    (hRun : (openMachine tokenize contentHash).Along (Uninterrupted tokenize contentHash) (.closed start)
      (before ++ after)) : CrashSafe tokenize contentHash start before after := by
  obtain ⟨hBefore, hAfter⟩ := ((openMachine tokenize contentHash).along_append _ _ _).mp hRun
  have hInv := Machine.invariant_along (fun s a h hAlone => OpenInv.step h hAlone) (.closed hStart) hBefore
  have hMono := Machine.invariant_along
    (I := fun s => OpenInv tokenize contentHash start s ∧
      ((openMachine tokenize contentHash).final (.closed start) before).db.version ≤ s.db.version)
    (fun s a h hAlone => ⟨h.1.step hAlone, h.2.trans (version_le_next h.1.sound a)⟩) ⟨hInv, le_rfl⟩ hAfter
  rw [← Machine.final_append] at hMono
  obtain ⟨hEnd, hMono⟩ := hMono
  refine ⟨hMono, ?_, ?_, ?_⟩
  · rintro s rfl hIdle
    have hOnce := hEnd.once
    rw [Process.underWay_eq_nil (by rw [hIdle]; rfl), List.append_nil] at hOnce
    exact ⟨hEnd.started, hOnce⟩
  · rintro s rfl hIdle
    have hAt : ((openMachine tokenize contentHash).final (.closed start) (before ++ after)).process.inFollowUp =
        false := by rw [hIdle]; rfl
    have hWhole := hEnd.whole
    rw [Process.underWay_eq_nil hAt, List.append_nil, Process.completed_eq_self tokenize contentHash hAt] at hWhole
    exact hWhole
  · rintro s a rfl hOk
    obtain ⟨hNewest, hAt⟩ := open_succeeds hEnd.sound hOk
    have hIndexed := hEnd.indexed (by rw [hNewest]; decide)
    rw [Process.completed_eq_self tokenize contentHash hAt] at hIndexed
    exact ⟨hNewest, hIndexed⟩

/-- An install at version 16 with one drawer, which is in the index of version 3. -/
def version16 : SchemaDb where
  version := 16
  columns table :=
    if table = "drawers" then
      some (["id", "content", "wing", "room", "source_file", "source_type", "confidence", "added_at", "chunk_index",
        "deleted_at", "importance", "normalize_version"] ++
        (v5DrawerColumns ++ v10DrawerColumns ++ v12DrawerColumns ++ v13DrawerColumns ++ v14DrawerColumns).map (·.1))
    else none
  sql _ := "()"
  indexes := ["idx_drawers_content_hash"]
  triggers := ["drawers_ai", "drawers_au_softdelete"]
  drawers :=
    [{ rowid := 1, content := "note", wing := "w", sourceFile := none, sourceType := some "user_explicit",
       confidence := some (9 / 10), addedAt := "t", deletedAt := none, memoryKind := some "evidence",
       domain := some "project", field := some "general", anchorKind := some "repo",
       anchorId := some "repo://legacy", parentAnchorId := none, provenance := some "human",
       contentHash := some "h", validFrom := some "t" }]
  fts := some [(1, "note")]

def crashInTransaction : List OpenAction :=
  [.openDatabase, .step true, .step true, .crash, .openDatabase] ++ List.replicate 58 (.step true)

theorem crash_in_transaction_safe :
    CrashSafe id id version16 [] crashInTransaction ∧
      (openMachine id id).output ((openMachine id id).final (.closed version16) crashInTransaction) (.step true) =
        some (.ok ()) :=
  ⟨uninterrupted_crash_safe id id version16 [] crashInTransaction (.inl (by decide)) (by decide +kernel),
    by decide +kernel⟩

/-- A crash right after the commit of migration 17, then an open up to its last step. -/
def crashAfterCommit : List OpenAction :=
  .openDatabase :: List.replicate 7 (.step true) ++ [.crash, .openDatabase] ++ List.replicate 48 (.step true)

/-- The drawer was in the index, the open succeeds, and the drawer is not in the index any more. -/
theorem crash_after_commit_loses_index :
    Indexed id version16 ∧
      (openMachine id id).output ((openMachine id id).final (.closed version16) crashAfterCommit) (.step true) =
        some (.ok ()) ∧
      ¬ Indexed id ((openMachine id id).final (.closed version16) crashAfterCommit).db := by
  decide +kernel

end Mempal.Schema

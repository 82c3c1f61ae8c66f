import Mempal.Foundation.Fallible
import Mempal.Schema.Migrations

set_option autoImplicit false

/-! Every migration ends with the statement that records its version, and no repair records one. Past version 17 no
statement touches the full-text index or the rows that belong in it. -/

namespace Mempal.Schema

open Foundation

namespace Statement

def version? : Statement → Option Nat
  | .setVersion version => some version
  | _ => none

def quiet : Statement → Bool
  | .createFts | .dropFts | .fillFts => false
  | .addColumn _ column _ => column ≠ "deleted_at"
  | _ => true

end Statement

structure IndexKept (db db' : SchemaDb) : Prop where
  fts : db'.fts = db.fts
  rows : db'.liveRows = db.liveRows

theorem IndexKept.refl (db : SchemaDb) : IndexKept db db := ⟨rfl, rfl⟩

theorem IndexKept.trans {db db' db'' : SchemaDb} (h : IndexKept db db') (h' : IndexKept db' db'') :
    IndexKept db db'' := ⟨h'.fts.trans h.fts, h'.rows.trans h.rows⟩

variable {update : DrawerRow → DrawerRow} {version : Nat}

theorem IndexKept.map {db : SchemaDb}
    (h : ∀ row, (update row).rowid = row.rowid ∧ (update row).content = row.content ∧
      (update row).deletedAt = row.deletedAt) : IndexKept db { db with drawers := db.drawers.map update } := by
  refine ⟨rfl, ?_⟩
  have hLive : (fun row => decide (row.deletedAt = none)) ∘ update = fun row => decide (row.deletedAt = none) := by
    funext row
    simp only [Function.comp_apply, (h row).2.2]
  simp only [SchemaDb.liveRows, List.filter_map, hLive, List.map_map]
  refine List.map_congr_left fun row _ => ?_
  simp only [Function.comp_apply, (h row).1, (h row).2.1]

theorem backfillMetadata_row (row : DrawerRow) :
    (backfillMetadata row).rowid = row.rowid ∧ (backfillMetadata row).content = row.content ∧
      (backfillMetadata row).deletedAt = row.deletedAt := by
  unfold backfillMetadata
  split <;> exact ⟨rfl, rfl, rfl⟩

theorem backfillValidity_row (row : DrawerRow) :
    (backfillValidity row).rowid = row.rowid ∧ (backfillValidity row).content = row.content ∧
      (backfillValidity row).deletedAt = row.deletedAt := by
  unfold backfillValidity
  split <;> exact ⟨rfl, rfl, rfl⟩

namespace SchemaDb

variable {db db' : SchemaDb} {columns : List String} {statement : Statement}

theorem updateDrawers_eq_ok (h : db.updateDrawers columns update = .ok db') :
    db' = { db with drawers := db.drawers.map update } := by
  obtain ⟨_, _, rfl⟩ := map_eq_ok_iff.mp h
  rfl

variable {table : String} {statements : List Statement}

theorem addColumn_eq_ok {column definition : String} (h : db.addColumn table column definition = .ok db') :
    db'.version = db.version ∧ db'.fts = db.fts ∧
      (db'.drawers = db.drawers ∨ db'.drawers = db.drawers.map (withColumn column)) := by
  unfold addColumn at h
  split at h
  · cases h
  · split at h
    · cases h
    · cases h
      refine ⟨rfl, rfl, ?_⟩
      simp only
      split
      · exact .inr rfl
      · exact .inl rfl

theorem createIndex_eq_ok {index : String}
    (h : db.createIndex index table columns = .ok db') : db' = { db with indexes := db'.indexes } := by
  unfold createIndex at h
  split at h
  · cases h
    rfl
  · obtain ⟨_, _, rfl⟩ := map_eq_ok_iff.mp h
    rfl

theorem rewriteSql_eq_ok {rewrite : String → String} (h : db.rewriteSql table rewrite = .ok db') :
    db' = { db with sql := db'.sql } := by
  unfold rewriteSql at h
  split at h
  · cases h
    rfl
  · cases h

theorem sourceTypeCheck_eq_ok {force : Bool} (h : db.sourceTypeCheck force = .ok db') :
    db'.version = db.version ∧ db'.fts = db.fts ∧
      (db'.drawers = db.drawers ∨ db'.drawers = db.drawers.map backfillSourceConfidence) := by
  unfold sourceTypeCheck at h
  cases hRewrite : db.rewriteSql "drawers" rewriteSourceTypeCheck with
  | error error =>
    rw [hRewrite] at h
    cases h
  | ok rewritten =>
    rw [hRewrite] at h
    have hSame := rewriteSql_eq_ok hRewrite
    rw [hSame] at h
    simp only at h
    split at h
    · rw [updateDrawers_eq_ok h]
      exact ⟨rfl, rfl, .inr rfl⟩
    · cases h
      exact ⟨rfl, rfl, .inl rfl⟩

theorem exec_version (h : db.exec statement = .ok db') : db'.version = statement.version?.getD db.version := by
  cases statement with
  | createTable table columns sql =>
    cases h
    split <;> rfl
  | createIndex index table columns =>
    rw [createIndex_eq_ok h]
    rfl
  | addColumn table column definition => exact (addColumn_eq_ok h).1
  | fillFts =>
    simp only [exec, fillFts] at h
    split at h
    · cases h
    · obtain ⟨_, _, rfl⟩ := map_eq_ok_iff.mp h
      rfl
  | backfillMetadata | backfillValidity =>
    rw [updateDrawers_eq_ok h]
    rfl
  | sourceTypeCheck force => exact (sourceTypeCheck_eq_ok h).1
  | typedIngestChecks | cardStatusCheck =>
    rw [rewriteSql_eq_ok h]
    rfl
  | _ =>
    cases h
    rfl

theorem indexKept_of_drawers (hFts : db'.fts = db.fts)
    (hDrawers : db'.drawers = db.drawers ∨ db'.drawers = db.drawers.map update)
    (hUpdate : ∀ row, (update row).rowid = row.rowid ∧ (update row).content = row.content ∧
      (update row).deletedAt = row.deletedAt) : IndexKept db db' := by
  refine ⟨hFts, ?_⟩
  rcases hDrawers with hDrawers | hDrawers
  · rw [liveRows, hDrawers, ← liveRows]
  · rw [liveRows, hDrawers]
    exact (IndexKept.map hUpdate).rows

theorem exec_quiet (hQuiet : statement.quiet = true) (h : db.exec statement = .ok db') : IndexKept db db' := by
  cases statement with
  | createTable table columns sql =>
    cases h
    split <;> exact ⟨rfl, rfl⟩
  | createIndex index table columns =>
    rw [createIndex_eq_ok h]
    exact ⟨rfl, rfl⟩
  | addColumn table column definition =>
    obtain ⟨_, hFts, hDrawers⟩ := addColumn_eq_ok h
    refine indexKept_of_drawers hFts hDrawers fun row => ⟨rfl, rfl, ?_⟩
    exact if_neg (of_decide_eq_true hQuiet)
  | backfillMetadata =>
    rw [updateDrawers_eq_ok h]
    exact .map backfillMetadata_row
  | backfillValidity =>
    rw [updateDrawers_eq_ok h]
    exact .map backfillValidity_row
  | sourceTypeCheck force =>
    obtain ⟨_, hFts, hDrawers⟩ := sourceTypeCheck_eq_ok h
    exact indexKept_of_drawers hFts hDrawers fun row => ⟨rfl, rfl, rfl⟩
  | typedIngestChecks | cardStatusCheck =>
    rw [rewriteSql_eq_ok h]
    exact ⟨rfl, rfl⟩
  | createFts | dropFts | fillFts => cases hQuiet
  | _ =>
    cases h
    exact ⟨rfl, rfl⟩

theorem run_version (hNone : ∀ statement ∈ statements, statement.version? = none)
    (h : statements.foldlM exec db = .ok db') : db'.version = db.version := by
  refine foldlM_invariant (P := fun mid => mid.version = db.version) ?_ h rfl
  intro statement hMem mid mid' hExec hMid
  rw [exec_version hExec, hNone statement hMem]
  exact hMid

theorem run_quiet (hQuiet : ∀ statement ∈ statements, statement.quiet = true)
    (h : statements.foldlM exec db = .ok db') : IndexKept db db' := by
  refine foldlM_invariant (P := IndexKept db) ?_ h (.refl db)
  intro statement hMem mid mid' hExec hMid
  exact hMid.trans (exec_quiet (hQuiet statement hMem) hExec)

end SchemaDb

section Shape

variable {current : Nat} {db : SchemaDb}

/-- Statements that record no version and keep the index. -/
def Body (statements : List Statement) : Prop :=
  ∀ statement ∈ statements, statement.version? = none ∧ statement.quiet = true

variable {statements : List Statement}

theorem Body.append {more : List Statement} (h : Body statements) (h' : Body more) :
    Body (statements ++ more) := fun statement hMem =>
  (List.mem_append.mp hMem).elim (h statement) (h' statement)

theorem body_addColumns {columns : List (String × String)} {table : String}
    (h : ∀ column ∈ columns, column.1 ≠ "deleted_at") : Body (addColumns db table columns) := by
  intro statement hMem
  obtain ⟨column, hColumn, rfl⟩ := List.mem_map.mp hMem
  exact ⟨rfl, decide_eq_true (h column (List.mem_of_mem_filter hColumn))⟩

instance (statements : List Statement) : Decidable (Body statements) :=
  inferInstanceAs (Decidable (∀ statement ∈ statements, statement.version? = none ∧ statement.quiet = true))

theorem recordVersion_of_lt (h : current < version) :
    recordVersion current version = [.setVersion version] := if_pos h

theorem recordVersion_of_le (h : version ≤ current) : recordVersion current version = [] :=
  if_neg (Nat.not_lt.mpr h)

/-- The statements of an `ensure` function are a body and then the version, if it is new. -/
def Ensures (current version : Nat) (statements : List Statement) : Prop :=
  ∃ body, Body body ∧ statements = body ++ recordVersion current version

theorem ensureV5_ensures (h : ensureV5DrawersSchema current db = some statements) :
    Ensures current 5 statements := by
  unfold ensureV5DrawersSchema at h
  split at h
  · cases h
  · cases h
    exact ⟨_, (body_addColumns (by decide)).append (by decide), rfl⟩

theorem ensureV10_ensures (current : Nat) (db : SchemaDb) : Ensures current 10 (ensureV10DrawersSchema current db) :=
  ⟨_, (body_addColumns (by decide)).append (by decide), rfl⟩

theorem ensureV11_ensures (current : Nat) (db : SchemaDb) :
    Ensures current 11 (ensureV11SourceConfidenceSchema current db) := by
  refine ⟨_, (body_addColumns (by decide)).append ?_, rfl⟩
  intro statement hMem
  rw [List.mem_singleton.mp hMem]
  exact ⟨rfl, rfl⟩

theorem ensureV12_ensures (current : Nat) (db : SchemaDb) : Ensures current 12 (ensureV12CompactionSchema current db) :=
  ⟨_, (body_addColumns (by decide)).append (by decide), rfl⟩

theorem ensureV13_ensures (current : Nat) (db : SchemaDb) : Ensures current 13 (ensureV13TypedPinnedSchema current db) :=
  ⟨_, (body_addColumns (by decide)).append (by decide), rfl⟩

theorem ensureV14_ensures (current : Nat) (db : SchemaDb) : Ensures current 14 (ensureV14SleepSchema current db) :=
  ⟨_, (body_addColumns (by decide)).append (by decide), rfl⟩

theorem ensureV15_ensures (current : Nat) (db : SchemaDb) : Ensures current 15 (ensureV15CrystallizeSchema current db) := by
  unfold ensureV15CrystallizeSchema
  split
  · exact ⟨_, (body_addColumns (by decide)).append (by decide), rfl⟩
  · exact ⟨[], by decide, rfl⟩

structure MigrationBody (version : Nat) (body : List Statement) : Prop where
  version? : ∀ statement ∈ body, statement.version? = none
  quiet : 17 < version → ∀ statement ∈ body, statement.quiet = true

theorem Body.migration {body : List Statement} (h : Body body) : MigrationBody version body :=
  ⟨fun statement hMem => (h statement hMem).1, fun _ statement hMem => (h statement hMem).2⟩

theorem migrationSql_body (version : Nat) : MigrationBody version (migrationSql version) := by
  constructor
  · unfold migrationSql
    split <;> decide
  · intro hLate
    unfold migrationSql
    split <;> first | decide | omega

theorem Ensures.migration (h : Ensures current version statements)
    (hNew : current < version) : ∃ body, MigrationBody version body ∧ statements = body ++ [.setVersion version] := by
  obtain ⟨body, hBody, rfl⟩ := h
  exact ⟨body, hBody.migration, by rw [recordVersion_of_lt hNew]⟩

theorem Ensures.body (h : Ensures current version statements) (hOld : version ≤ current) : Body statements := by
  obtain ⟨body, hBody, rfl⟩ := h
  rwa [recordVersion_of_le hOld, List.append_nil]

theorem plan_migrate (hCurrent : current ≤ db.version) :
    ∃ body, MigrationBody (db.version + 1) body ∧
      plan current db (.migrate (db.version + 1)) = some (body ++ [.setVersion (db.version + 1)]) := by
  have hLt : ∀ {version}, db.version + 1 = version → db.version < version := fun h => h ▸ Nat.lt_succ_self _
  unfold plan
  simp only
  split_ifs with h5 h7 h10 h11 h12 h13 h14 h15 h21
  · -- The columns of version 5 are added by name, but its version was not there yet.
    have hNew : current < 5 := Nat.lt_of_le_of_lt hCurrent (hLt h5)
    have hSome : ∃ statements, ensureV5DrawersSchema current db = some statements :=
      ⟨_, if_neg fun h => absurd h.2.1 (Nat.not_le.mpr hNew)⟩
    obtain ⟨statements, hSome⟩ := hSome
    obtain ⟨body, hBody, rfl⟩ := (ensureV5_ensures hSome).migration hNew
    exact ⟨body, h5 ▸ hBody, h5 ▸ hSome⟩
  · exact ⟨v7AlreadyApplied, Body.migration (by decide), by rw [h7.1]⟩
  · obtain ⟨body, hBody, hEq⟩ := (ensureV10_ensures db.version db).migration (hLt h10)
    exact ⟨body, h10 ▸ hBody, by rw [hEq, h10]⟩
  · obtain ⟨body, hBody, hEq⟩ := (ensureV11_ensures db.version db).migration (hLt h11)
    exact ⟨body, h11 ▸ hBody, by rw [hEq, h11]⟩
  · obtain ⟨body, hBody, hEq⟩ := (ensureV12_ensures db.version db).migration (hLt h12)
    exact ⟨body, h12 ▸ hBody, by rw [hEq, h12]⟩
  · obtain ⟨body, hBody, hEq⟩ := (ensureV13_ensures db.version db).migration (hLt h13)
    exact ⟨body, h13 ▸ hBody, by rw [hEq, h13]⟩
  · obtain ⟨body, hBody, hEq⟩ := (ensureV14_ensures db.version db).migration (hLt h14)
    exact ⟨body, h14 ▸ hBody, by rw [hEq, h14]⟩
  · obtain ⟨body, hBody, hEq⟩ := (ensureV15_ensures db.version db).migration (hLt h15)
    exact ⟨body, h15 ▸ hBody, by rw [hEq, h15]⟩
  · exact ⟨[], Body.migration (by decide), by rw [h21.1]; rfl⟩
  · exact ⟨_, migrationSql_body _, rfl⟩

theorem plan_repair (hOld : version ≤ db.version)
    (h : plan current db (.repair version) = some statements) : Body statements := by
  unfold plan at h
  simp only at h
  split_ifs at h with h5 hNew h11 h12 h13 h14 h15
  · exact (ensureV5_ensures h).body (h5 ▸ hOld)
  · cases h
    exact (ensureV11_ensures db.version db).body (h11 ▸ hOld)
  · cases h
    exact (ensureV12_ensures db.version db).body (h12 ▸ hOld)
  · cases h
    exact (ensureV13_ensures db.version db).body (h13 ▸ hOld)
  · cases h
    exact (ensureV14_ensures db.version db).body (h14 ▸ hOld)
  · cases h
    exact (ensureV15_ensures db.version db).body (h15 ▸ hOld)

end Shape

end Mempal.Schema

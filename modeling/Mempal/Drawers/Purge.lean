import Mempal.Drawers.IndexAgreement
import Mempal.Drawers.Vectors
import Mempal.Foundation.Fallible
import Mempal.Timestamps

set_option autoImplicit false

/-! Every path that soft-deletes a drawer stamps it with the clock in its own text format, and `purge_deleted` compares
the stamps as text with the cutoff the user gives. A drawer that another row names cannot be removed, and then the whole
purge is rolled back. -/

namespace Mempal.Drawers

open Foundation

inductive DeletePath where
  | softDelete (which : SoftDelete)
  | compaction (targetId : String) (sourceIds : List String) (mergedContent : String)
  | gatingCleanup (drawerIds : List String)
  | checkpointCleanup (cutoff : String)
deriving DecidableEq, Repr

def DeletePath.format : DeletePath → TimeFormat
  | .softDelete _ => .unixSeconds
  | .compaction .. => .unixSeconds
  | .gatingCleanup _ => .sqliteDatetime
  | .checkpointCleanup _ => .rfc3339

structure Deletion where
  path : DeletePath
  instant : ℚ
deriving DecidableEq

def Deletion.stamp (d : Deletion) : Option String := d.path.format.text d.instant

def stampChange (deletedAt : Option String) : RowChange where
  apply row := { row with deletedAt := deletedAt }
  id _ := rfl
  rowid _ := rfl

section Model
variable (model : TextModel)

/-- The statement or transaction of each path. The drawers of a gating cleanup are those its audit query names. -/
def Deletion.run (d : Deletion) (db : DrawerDb) : DrawerDb :=
  match d.path with
  | .softDelete which => softDelete which (currentTimestamp d.instant) db
  | .compaction targetId sourceIds mergedContent =>
    match applyCompaction model targetId sourceIds mergedContent (currentTimestamp d.instant) db with
    | .ok db' => db'
    | .error _ => db
  | .gatingCleanup drawerIds =>
    updateColumns (fun row => row.isActive && decide (row.id ∈ drawerIds)) (stampChange (datetimeNow ⌊d.instant⌋₊)) db
  | .checkpointCleanup cutoff =>
    updateColumns (fun row => row.isActive && row.wing = "session-checkpoint" && row.addedAt < cutoff)
      (stampChange (some (isoTimestamp d.instant))) db

/-- The target that a compaction writes into `consolidation_log`. -/
def Deletion.logged (d : Deletion) (db : DrawerDb) : List String :=
  match d.path with
  | .compaction targetId sourceIds mergedContent =>
    match applyCompaction model targetId sourceIds mergedContent (currentTimestamp d.instant) db with
    | .ok _ => [targetId]
    | .error _ => []
  | _ => []

end Model

def Stamps (stamp : Option String) (row row' : DrawerRow) : Prop :=
  row'.deletedAt = row.deletedAt ∨ row.deletedAt = none ∧ row'.deletedAt = stamp

variable {stamp : Option String}

theorem Stamps.refl (row : DrawerRow) : Stamps stamp row row := Or.inl rfl

theorem Stamps.trans (row row' row'' : DrawerRow) (h : Stamps stamp row row')
    (h' : Stamps stamp row' row'') : Stamps stamp row row'' := by
  rcases h with h | ⟨hNone, h⟩
  · exact h'.imp (fun hEq => hEq.trans h) fun ⟨hActive, hStamp⟩ => ⟨h ▸ hActive, hStamp⟩
  · rcases h' with h' | ⟨hNone', h'⟩
    · exact Or.inr ⟨hNone, h'.trans h⟩
    · exact Or.inr ⟨hNone, h'⟩

variable {row : DrawerRow} {s : Store}

theorem deletedAt_of_isActive (h : row.isActive = true) : row.deletedAt = none :=
  Option.isNone_iff_eq_none.mp h

theorem deletedAt_of_isCompactable (h : isCompactable row = true) : row.deletedAt = none :=
  deletedAt_of_isActive (Bool.and_eq_true_iff.mp h).1

theorem Deletion.rowsRelate_run (model : TextModel) (d : Deletion) (db : DrawerDb) :
    RowsRelate (Stamps d.stamp) db (d.run model db) := by
  obtain ⟨path, instant⟩ := d
  cases path with
  | softDelete which =>
    refine rowsRelate_update Stamps.refl rfl fun row _ hTakes => Or.inr ⟨?_, ?_⟩
    · exact deletedAt_of_isActive (Bool.and_eq_true_iff.mp hTakes).1
    · cases which <;> rfl
  | compaction targetId sourceIds mergedContent =>
    cases hRun : applyCompaction model targetId sourceIds mergedContent (currentTimestamp instant) db with
    | ok db' =>
      simp only [Deletion.run, hRun]
      exact rowsRelate_applyCompaction Stamps.refl Stamps.trans
        (fun row hRow => Or.inr ⟨deletedAt_of_isCompactable hRow, rfl⟩) (fun row _ => Or.inl rfl) hRun
    | error e =>
      simp only [Deletion.run, hRun]
      exact RowsRelate.refl Stamps.refl db
  | gatingCleanup drawerIds =>
    refine rowsRelate_update Stamps.refl rfl fun row _ hTakes => Or.inr ⟨?_, rfl⟩
    exact deletedAt_of_isActive (Bool.and_eq_true_iff.mp hTakes).1
  | checkpointCleanup cutoff =>
    refine rowsRelate_update Stamps.refl rfl fun row _ hTakes => Or.inr ⟨?_, rfl⟩
    exact deletedAt_of_isActive (Bool.and_eq_true_iff.mp (Bool.and_eq_true_iff.mp hTakes).1).1

/-- A store with the targets in `consolidation_log` and, for each drawer, the deletion that stamped it. -/
structure Archive where
  store : Store
  logged : List String
  deletedBy : String → Option Deletion

def Archive.Dated (a : Archive) : Prop :=
  ∀ k row, a.store.db.drawers.find? k = some row →
    row.deletedAt = none ∧ a.deletedBy k = none ∨
      ∃ d text, a.deletedBy k = some d ∧ d.stamp = some text ∧ row.deletedAt = some text

variable {a : Archive} {k : String} {cutoff : Rfc3339}

section Model
variable (model : TextModel)

def archiveMachine : Machine Archive Deletion Unit where
  step a d :=
    let store := { a.store with db := d.run model a.store.db }
    (⟨store, d.logged model a.store.db ++ a.logged, fun k => if (a.store.getDrawer k).isSome && (store.getDrawer k).isNone then some d else a.deletedBy k⟩, ())

variable {model}

theorem getDrawer_of_find? (h : s.db.drawers.find? k = some row) :
    s.getDrawer k = if row.deletedAt = none then some row else none := by
  rw [Store.getDrawer, h, Option.filter_some]
  simp [DrawerRow.isActive]

theorem dated_step (h : a.Dated) (d : Deletion) : ((archiveMachine model).next a d).Dated := by
  intro k row' hRow'
  have hStamps := d.rowsRelate_run model a.store.db k
  change (d.run model a.store.db).drawers.find? k = some row' at hRow'
  rw [hRow'] at hStamps
  cases hRow : a.store.db.drawers.find? k with
  | none =>
    rw [hRow] at hStamps
    cases hStamps
  | some row =>
    rw [hRow] at hStamps
    obtain ⟨hStamps⟩ := hStamps
    have hBefore := getDrawer_of_find? (s := a.store) hRow
    have hAfter := getDrawer_of_find? (s := { a.store with db := d.run model a.store.db }) hRow'
    have hLog : ((archiveMachine model).next a d).deletedBy k =
        if row.deletedAt = none ∧ row'.deletedAt ≠ none then some d else a.deletedBy k := by
      simp only [Machine.next, archiveMachine, hBefore, hAfter]
      by_cases hOld : row.deletedAt = none <;> by_cases hNew : row'.deletedAt = none <;> simp [hOld, hNew]
    rw [hLog]
    rcases h k row hRow with ⟨hActive, hNone⟩ | ⟨d', text, hBy, hText, hDeleted⟩
    · rcases hStamps with hSame | ⟨_, hNew⟩
      · exact Or.inl ⟨hSame.trans hActive, by simp [hSame, hActive, hNone]⟩
      · cases hStamp : d.stamp with
        | none => exact Or.inl ⟨hNew.trans hStamp, by simp [hNew, hStamp, hNone]⟩
        | some text => exact Or.inr ⟨d, text, by simp [hActive, hNew, hStamp], hStamp, hNew.trans hStamp⟩
    · rcases hStamps with hSame | ⟨hActive, _⟩
      · exact Or.inr ⟨d', text, by simp [hDeleted, hBy], hText, hSame.trans hDeleted⟩
      · rw [hActive] at hDeleted
        cases hDeleted

end Model

section Model
variable (model : TextModel)

/-- One turn of the loop of `purge_deleted`. -/
def Store.purgeRow (s : Store) (row : DrawerRow) : Store :=
  { s with
    db := Drawers.purgeRow model s.db row
    vectors := s.vectors.delete fun vector => vector.id = row.id
    triples := detachTriples row.id s.triples }

def isPurged (before : Option String) (row : DrawerRow) : Bool :=
  row.deletedAt.any fun deletedAt => before.all (deletedAt < ·)

/-- The loop of a purge that no foreign key stops. -/
def Store.purgeDeleted (before : Option String) (s : Store) : Store :=
  (s.db.drawers.rows.filter (isPurged before)).foldl (Store.purgeRow model) s

/-- What names drawers besides `compacted_into`: the column `supersedes` of a drawer's row, and the rows of
`knowledge_evidence_links`, `sleep_resolution_log` and `consolidation_log`. -/
structure Links where
  supersedes : String → Option String
  others : List String

/-- A foreign key keeps the drawer from being deleted. -/
def Links.names (links : Links) (s : Store) (id : String) : Bool :=
  decide (id ∈ links.others) ||
    s.db.drawers.rows.any fun row => row.id ≠ id && (row.compactedInto = some id || links.supersedes row.id = some id)

/-- The transaction of `purge_deleted` over the rows it has read, in whatever order SQLite returned them. -/
def Store.purgeLoop (links : Links) : List DrawerRow → Store → Except DbError Store
  | [], s => .ok s
  | row :: rows, s => if links.names s row.id then .error .sqlite else Store.purgeLoop links rows (s.purgeRow model row)

variable {model}

theorem find?_purgeRows (model : TextModel) (rows : List DrawerRow) (s : Store) (k : String) :
    (rows.foldl (Store.purgeRow model) s).db.drawers.find? k =
        (if k ∈ rows.map DrawerRow.id then none else s.db.drawers.find? k) ∧
      (rows.foldl (Store.purgeRow model) s).vectors.find? k =
        (if k ∈ rows.map DrawerRow.id then none else s.vectors.find? k) := by
  induction rows generalizing s with
  | nil => exact ⟨rfl, rfl⟩
  | cons row rows ih =>
    obtain ⟨hDrawers, hVectors⟩ := ih (Store.purgeRow model s row)
    have hRow : (Store.purgeRow model s row).db.drawers.find? k =
        if k = row.id then none else s.db.drawers.find? k := by
      rw [← drawers_deleteDrawerFtsRow row.rowid row.content s.db]
      exact Table.find?_delete_key _ _ _
    have hVector := s.vectors.find?_delete_id row.id k
    rw [List.foldl_cons, hDrawers, hVectors, hRow, Store.purgeRow, hVector]
    by_cases hHead : k = row.id <;> simp [hHead]

theorem mem_triples_purgeRows {rows : List DrawerRow} {triple : Triple} (h : triple ∈ s.triples)
    (hSource : ∀ row ∈ rows, triple.sourceDrawer ≠ some row.id) :
    triple ∈ (rows.foldl (Store.purgeRow model) s).triples := by
  induction rows generalizing s with
  | nil => exact h
  | cons row rows ih =>
    refine ih ?_ fun row hRow => hSource row (List.mem_cons_of_mem _ hRow)
    exact List.mem_map.mpr ⟨triple, h, if_neg (hSource row List.mem_cons_self)⟩

theorem rows_purgeRow (s : Store) (row : DrawerRow) :
    (Store.purgeRow model s row).db.drawers.rows = s.db.drawers.rows.filter fun r => !decide (r.id = row.id) := by
  rw [← drawers_deleteDrawerFtsRow row.rowid row.content s.db]
  rfl

variable {links : Links} {rows : List DrawerRow}

theorem purgeLoop_of_free (h : ∀ row ∈ rows, links.names s row.id = false) :
    Store.purgeLoop model links rows s = .ok (rows.foldl (Store.purgeRow model) s) := by
  induction rows generalizing s with
  | nil => rfl
  | cons row rows ih =>
    obtain ⟨hRow, hRows⟩ := List.forall_mem_cons.mp h
    rw [Store.purgeLoop, hRow]
    refine ih fun other hOther => ?_
    have hFree := hRows other hOther
    simp only [Links.names, Bool.or_eq_false_iff, List.any_eq_false] at hFree ⊢
    refine ⟨hFree.1, fun r hr => hFree.2 r ?_⟩
    rw [rows_purgeRow] at hr
    exact List.mem_of_mem_filter hr

theorem purgeLoop_ok {s' : Store} (h : Store.purgeLoop model links rows s = .ok s') :
    s' = rows.foldl (Store.purgeRow model) s ∧ ∀ row ∈ rows.head?, links.names s row.id = false := by
  induction rows generalizing s with
  | nil => exact ⟨(Except.ok.inj h).symm, fun _ hRow => by cases hRow⟩
  | cons row rows ih =>
    obtain ⟨hFree, hLoop⟩ := ite_error_eq_ok_iff.mp h
    refine ⟨(ih hLoop).1, fun head hHead => ?_⟩
    obtain rfl := Option.some.inj hHead
    exact Bool.eq_false_iff.mpr hFree

/-- What the purge leaves, if it goes through: the rows that it read are gone, and nothing else is. -/
theorem purgeLoop_spec (model : TextModel) (before : Option String) {k : String}
    (h : s.db.drawers.find? k = some row)
    (hRows : ∀ r, r ∈ rows ↔ r ∈ s.db.drawers.rows ∧ isPurged before r = true) :
    if isPurged before row then (rows.foldl (Store.purgeRow model) s).db.drawers.find? k = none
    else (rows.foldl (Store.purgeRow model) s).db.drawers.find? k = some row ∧
      (rows.foldl (Store.purgeRow model) s).vectors.find? k = s.vectors.find? k ∧
        ∀ triple ∈ s.triples, triple.sourceDrawer = some k →
          triple ∈ (rows.foldl (Store.purgeRow model) s).triples := by
  obtain ⟨hDrawers, hVectors⟩ := find?_purgeRows model rows s k
  obtain ⟨hMem, rfl⟩ := DrawerTable.find?_eq_some_iff.mp h
  have hPurged : row.id ∈ rows.map DrawerRow.id ↔ isPurged before row = true := by
    rw [List.mem_map]
    constructor
    · rintro ⟨r, hr, hId⟩
      obtain ⟨hIn, hPurged⟩ := (hRows r).mp hr
      rwa [← DrawerTable.eq_of_id_eq hIn hMem hId]
    · exact fun hPurged => ⟨row, (hRows row).mpr ⟨hMem, hPurged⟩, rfl⟩
  split
  · rename_i hRow
    exact hDrawers.trans (if_pos (hPurged.mpr hRow))
  · rename_i hRow
    have hOut := mt hPurged.mp hRow
    refine ⟨hDrawers.trans ((if_neg hOut).trans h), hVectors.trans (if_neg hOut), ?_⟩
    intro triple hTriple hSource
    refine mem_triples_purgeRows hTriple fun row' hRow' hId => hOut ?_
    rw [hSource] at hId
    exact Option.some.inj hId ▸ List.mem_map_of_mem hRow'

end Model

def Archive.DeletedBefore (a : Archive) (cutoff : Rfc3339) (k : String) : Prop :=
  ∃ d, a.deletedBy k = some d ∧ d.instant < cutoff.instant

/-- A store without the drawers deleted before the cutoff, in which no other drawer has lost anything. -/
structure Purged (a : Archive) (cutoff : Rfc3339) (s : Store) : Prop where
  removed : ∀ k row, a.store.db.drawers.find? k = some row → a.DeletedBefore cutoff k →
    s.db.drawers.find? k = none
  kept : ∀ k row, a.store.db.drawers.find? k = some row → ¬ a.DeletedBefore cutoff k →
    s.db.drawers.find? k = some row ∧ s.vectors.find? k = a.store.vectors.find? k ∧
      ∀ triple ∈ a.store.triples, triple.sourceDrawer = some k → triple ∈ s.triples

def Archive.links (a : Archive) (links : Links) : Links := { links with others := a.logged ++ links.others }

/-- In whatever order the rows are read, the purge goes through and removes just what was deleted before. -/
def PurgesExactly (model : TextModel) (links : Links) (a : Archive) (cutoff : Rfc3339) : Prop :=
  ∀ rows, rows.Perm (a.store.db.drawers.rows.filter (isPurged (some cutoff.text))) →
    ∃ s, Store.purgeLoop model (a.links links) rows a.store = .ok s ∧ Purged a cutoff s

/-- The text of the deletion sorts before the cutoff just if the deletion happened before it. -/
def Deletion.Agrees (d : Deletion) (cutoff : Rfc3339) : Prop :=
  d.path.format.SortsBefore d.instant cutoff ↔ d.instant < cutoff.instant

theorem isPurged_iff (h : a.Dated) (hRow : a.store.db.drawers.find? k = some row) :
    isPurged (some cutoff.text) row = true ↔
      ∃ d, a.deletedBy k = some d ∧ d.path.format.SortsBefore d.instant cutoff := by
  rcases h k row hRow with ⟨hActive, hNone⟩ | ⟨d, text, hBy, hStamp, hDeleted⟩
  · simp [isPurged, hActive, hNone]
  · rw [isPurged, hDeleted, hBy]
    simp only [Option.any_some, Option.all_some, decide_eq_true_eq, TimeFormat.text_lt_iff hStamp,
      Option.some.injEq, exists_eq_left']

theorem isPurged_iff_deletedBefore (h : a.Dated) (hRow : a.store.db.drawers.find? k = some row)
    (hAgrees : ∀ d, a.deletedBy k = some d → d.Agrees cutoff) :
    isPurged (some cutoff.text) row = true ↔ a.DeletedBefore cutoff k := by
  rw [isPurged_iff h hRow]
  exact exists_congr fun d => and_congr_right fun hBy => hAgrees d hBy

theorem PurgesExactly.deletable {model : TextModel} {links : Links} (hExact : PurgesExactly model links a cutoff)
    (h : a.Dated) (hRow : a.store.db.drawers.find? k = some row) :
    (∀ d, a.deletedBy k = some d → d.Agrees cutoff) ∧
      (a.DeletedBefore cutoff k → (a.links links).names a.store k = false) := by
  have hAgrees : ∀ d, a.deletedBy k = some d → d.Agrees cutoff := by
    intro d hBy
    obtain ⟨s, hLoop, hPurged⟩ := hExact _ (.refl _)
    have hSpec := purgeLoop_spec model (some cutoff.text) hRow fun _ => List.mem_filter
    rw [← (purgeLoop_ok hLoop).1] at hSpec
    have hSorts : isPurged (some cutoff.text) row = true ↔ d.path.format.SortsBefore d.instant cutoff := by
      rw [isPurged_iff h hRow, hBy]
      simp
    rw [Deletion.Agrees, ← hSorts]
    split at hSpec
    · rename_i hGone
      refine iff_of_true hGone (by_contra fun hLate => ?_)
      have hNot : ¬ a.DeletedBefore cutoff k := by
        rintro ⟨_, hBy', hBefore⟩
        cases hBy.symm.trans hBy'
        exact hLate hBefore
      cases hSpec.symm.trans (hPurged.kept k row hRow hNot).1
    · rename_i hKept
      refine iff_of_false hKept fun hBefore => ?_
      cases (hPurged.removed k row hRow ⟨d, hBy, hBefore⟩).symm.trans hSpec.1
  refine ⟨hAgrees, fun hBefore => ?_⟩
  obtain ⟨hMem, rfl⟩ := DrawerTable.find?_eq_some_iff.mp hRow
  have hSelected : row ∈ a.store.db.drawers.rows.filter (isPurged (some cutoff.text)) :=
    List.mem_filter.mpr ⟨hMem, (isPurged_iff_deletedBefore h hRow hAgrees).mpr hBefore⟩
  -- the row may be the first that is read
  obtain ⟨s, hLoop, _⟩ := hExact _ (List.perm_cons_erase hSelected).symm
  exact (purgeLoop_ok hLoop).2 row rfl

theorem purges_exactly_iff (model : TextModel) (links : Links) (s : Store)
    (hActive : ∀ row ∈ s.db.drawers, row.isActive = true) (history : List Deletion) (cutoff : Rfc3339) :
    let a := (archiveMachine model).final ⟨s, [], fun _ => none⟩ history
    PurgesExactly model links a cutoff ↔ ∀ k row, a.store.db.drawers.find? k = some row →
      (∀ d, a.deletedBy k = some d → d.Agrees cutoff) ∧
        (a.DeletedBefore cutoff k → (a.links links).names a.store k = false) := by
  intro a
  have hDated : a.Dated := by
    refine Machine.invariant (I := Archive.Dated) (fun a d h => dated_step h d) ?_ history
    intro k row hRow
    exact Or.inl ⟨deletedAt_of_isActive (hActive row (DrawerTable.find?_eq_some_iff.mp hRow).1), rfl⟩
  refine ⟨fun hExact k row hRow => hExact.deletable hDated hRow, fun h rows hPerm => ?_⟩
  have hRows (r : DrawerRow) : r ∈ rows ↔ r ∈ a.store.db.drawers.rows ∧ isPurged (some cutoff.text) r = true :=
    hPerm.mem_iff.trans List.mem_filter
  have hBefore {k : String} {row : DrawerRow} (hRow : a.store.db.drawers.find? k = some row) :=
    isPurged_iff_deletedBefore hDated hRow (h k row hRow).1
  have hFree : ∀ row ∈ rows, (a.links links).names a.store row.id = false := by
    intro row hRow
    obtain ⟨hMem, hPurged⟩ := (hRows row).mp hRow
    have hFind := DrawerTable.find?_eq_some_iff.mpr ⟨hMem, rfl⟩
    exact (h row.id row hFind).2 ((hBefore hFind).mp hPurged)
  refine ⟨_, purgeLoop_of_free hFree, ?_, ?_⟩
  · intro k row hRow hDeleted
    have hSpec := purgeLoop_spec model (some cutoff.text) hRow hRows
    rwa [if_pos ((hBefore hRow).mpr hDeleted)] at hSpec
  · intro k row hRow hNot
    have hSpec := purgeLoop_spec model (some cutoff.text) hRow hRows
    rwa [if_neg (mt (hBefore hRow).mp hNot)] at hSpec

def IsDay2026 (month day : Nat) : Prop :=
  month < 10 ^ 2 ∧ day < 10 ^ 2 ∧ daysToYmd (daysFromCivil (2026 : Nat) month day) = (((2026 : Nat) : Int), month, day)

def midnight (month day : Nat) (h : IsDay2026 month day) : Rfc3339 :=
  ⟨2026, month, day, 0, 0, 0, [], .utc, Nat.lt_of_lt_of_le (Nat.lt_succ_self 2026) (by norm_num), h.1, h.2.1, h.2.2⟩

theorem newYear_valid : IsDay2026 1 1 := by
  unfold IsDay2026
  decide

theorem mayDay_valid : IsDay2026 5 1 := by
  unfold IsDay2026
  decide

def newYear : Rfc3339 := midnight 1 1 newYear_valid

def mayDay : Rfc3339 := midnight 5 1 mayDay_valid

def noted : Store where
  db := settled [.insert (evidence "a" "alpha")]
  vectors := (insertVectorWithProject "a" [0] none VectorTable.empty).toOption.getD VectorTable.empty
  triples := [⟨"t", some "a"⟩]
  noveltyAudit := []

def unlinked : Links := ⟨fun _ => none, []⟩

def deletedInApril : Archive :=
  (archiveMachine spacedWords).final ⟨noted, [], fun _ => none⟩ [⟨.softDelete (.drawer "a"), 1776045600⟩]

/-- One of two notes is compacted into the other, which is deleted then. -/
def compactedInApril : Archive :=
  (archiveMachine spacedWords).final
    ⟨{ noted with db := settled [.insert (evidence "a" "alpha"), .insert (evidence "b" "beta")] }, [], fun _ => none⟩
    [⟨.compaction "a" ["a", "b"] "alpha beta", 1776045600⟩, ⟨.softDelete (.drawer "a"), 1776045600⟩]

/-- Unix seconds of this century sort before every year from 2000 on, and a target of a compaction cannot go. -/
theorem purge_ignores_cutoff :
    (deletedInApril.deletedBy "a" = some ⟨.softDelete (.drawer "a"), 1776045600⟩ ∧ newYear.instant < 1776045600 ∧
      (deletedInApril.store.db.drawers.find? "a").isSome ∧
        (deletedInApril.store.purgeDeleted spacedWords (some newYear.text)).db.drawers.find? "a" = none ∧
          (deletedInApril.store.purgeDeleted spacedWords (some newYear.text)).triples = [⟨"t", none⟩]) ∧
    (compactedInApril.store.db.drawers.rows.map fun row => (row.id, isPurged (some mayDay.text) row)) =
        [("a", true), ("b", true)] ∧
      ((compactedInApril.store.purgeLoop spacedWords (compactedInApril.links unlinked)
        compactedInApril.store.db.drawers.rows).toOption.isNone = true) := by
  decide +kernel

theorem deletedInApril_purged_exactly : PurgesExactly spacedWords unlinked deletedInApril mayDay := by
  refine (purges_exactly_iff spacedWords unlinked noted (by decide +kernel) _ mayDay).mpr ?_
  intro k row hRow
  have hIds : ∀ row ∈ deletedInApril.store.db.drawers.rows, row.id = "a" := by decide +kernel
  obtain ⟨hMem, rfl⟩ := DrawerTable.find?_eq_some_iff.mp hRow
  have hLog : deletedInApril.deletedBy "a" = some ⟨.softDelete (.drawer "a"), 1776045600⟩ := by decide +kernel
  rw [hIds row hMem]
  refine ⟨fun d hBy => ?_, fun _ => by decide +kernel⟩
  cases hLog.symm.trans hBy
  unfold Deletion.Agrees
  decide +kernel

end Mempal.Drawers

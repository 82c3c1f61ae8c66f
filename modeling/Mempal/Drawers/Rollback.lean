import Mempal.Drawers.IndexAgreement
import Mempal.Timestamps

set_option autoImplicit false

/-! `soft_delete_drawers_since` compares `added_at` as text with the normalised cutoff. The writers of drawers do not
agree on the text: some write RFC 3339, others Unix seconds. -/

namespace Mempal.Drawers

inductive DrawerWriter where
  | fileIngest
  | mcpIngest
  | httpIngest
  | diaryRollup
  | busHandoff
  | knowledgeDistill
deriving DecidableEq, Repr

def DrawerWriter.addedAt (now : ℚ) : DrawerWriter → String
  | .fileIngest => isoTimestamp now
  | .mcpIngest => isoTimestamp now
  | .httpIngest => isoTimestamp now
  | .diaryRollup => currentTimestamp now
  | .busHandoff => currentTimestamp now
  | .knowledgeDistill => currentTimestamp now

/-- Who wrote a drawer, and what the clock showed then. -/
structure Origin where
  writer : DrawerWriter
  instant : ℚ

def Origin.addedAt (origin : Origin) : String := origin.writer.addedAt origin.instant

def Origin.second (origin : Origin) : Nat := ⌊origin.instant⌋₊

structure SinceFilters where
  wing : Option String
  room : Option String
  projectId : Option String
deriving DecidableEq, Repr

/-- `append_drawers_since_filters`. -/
def SinceFilters.matches (filters : SinceFilters) (row : DrawerRow) : Bool :=
  filters.wing.all (· = row.wing) && filters.room.all (some · = row.room) &&
    filters.projectId.all (some · = row.projectId)

def isSince (since : String) (filters : SinceFilters) (row : DrawerRow) : Bool :=
  row.isActive && since < row.addedAt && filters.matches row

/-- `soft_delete_drawers_since`, with the ids that its `RETURNING` clause gives. -/
def softDeleteDrawersSince (since : String) (filters : SinceFilters) (timestamp : String) (db : DrawerDb) :
    DrawerDb × List String :=
  (softDelete (.since since filters.wing filters.room filters.projectId) timestamp db,
    (db.drawers.rows.filter (isSince since filters)).map DrawerRow.id)

def countDrawersSince (since : String) (filters : SinceFilters) (db : DrawerDb) : Nat :=
  db.drawers.rows.countP (isSince since filters)

/-- The drawers a rollback to an instant is meant to take. -/
def isCovered (cutoff : ℚ) (origins : String → Origin) (filters : SinceFilters) (row : DrawerRow) : Bool :=
  row.isActive && cutoff < (origins row.id).second && filters.matches row

structure RollsBackExactly (db : DrawerDb) (origins : String → Origin) (cutoff : ℚ) (since : String)
    (filters : SinceFilters) (timestamp : String) : Prop where
  rows : (softDeleteDrawersSince since filters timestamp db).1.drawers.rows =
    db.drawers.rows.map fun row =>
      if isCovered cutoff origins filters row then { row with deletedAt := some timestamp } else row
  postings : (softDeleteDrawersSince since filters timestamp db).1.postings = db.postings
  ids : (softDeleteDrawersSince since filters timestamp db).2 =
    (db.drawers.rows.filter (isCovered cutoff origins filters)).map DrawerRow.id
  count : countDrawersSince since filters db = (db.drawers.rows.filter (isCovered cutoff origins filters)).length

/-- When the text of a drawer's origin and the cutoff are in the order of the instants. Unix seconds are compared
digit by digit with the year of the cutoff. -/
def Origin.Agrees (origin : Origin) (secs : Nat) : Prop :=
  match origin.writer with
  | .fileIngest | .mcpIngest | .httpIngest =>
    yearOf secs ≠ yearOf origin.second →
      (yearText (yearOf secs) < yearText (yearOf origin.second) ↔ secs < origin.second)
  | .diaryRollup | .busHandoff | .knowledgeDistill =>
    yearText (yearOf secs) < Nat.toDigits 10 origin.second ↔ secs < origin.second

theorem isoTimestamp_order_iff (secs : Nat) (instant : ℚ) :
    (isoTimestamp secs < isoTimestamp instant ↔ secs < ⌊instant⌋₊) ↔
      (yearOf secs ≠ yearOf ⌊instant⌋₊ →
        (yearText (yearOf secs) < yearText (yearOf ⌊instant⌋₊) ↔ secs < ⌊instant⌋₊)) := by
  rw [isoTimestamp_lt_isoTimestamp_iff, Nat.floor_natCast]
  by_cases hYear : yearOf secs = yearOf ⌊instant⌋₊ <;> simp [hYear]

theorem Origin.agrees_iff {secs : Nat} (origin : Origin) :
    origin.Agrees secs ↔ (isoTimestamp secs < origin.addedAt ↔ secs < origin.second) := by
  obtain ⟨writer, instant⟩ := origin
  have hUnix := isoTimestamp_lt_currentTimestamp_iff secs instant
  cases writer with
  | fileIngest | mcpIngest | httpIngest => exact (isoTimestamp_order_iff secs instant).symm
  | diaryRollup | busHandoff | knowledgeDistill => exact iff_congr hUnix.symm Iff.rfl

variable {since timestamp : String} {filters : SinceFilters} {db : DrawerDb}

theorem softDelete_since_rows :
    (softDeleteDrawersSince since filters timestamp db).1.drawers.rows =
      db.drawers.rows.map fun row =>
        if isSince since filters row then { row with deletedAt := some timestamp } else row := by
  refine List.map_congr_left fun row _ => ?_
  simp only [isSince, SinceFilters.matches, SoftDelete.takes, SoftDelete.change, softDeleteChange, Bool.and_assoc]

theorem rollsBackExactly_iff_isSince {origins : String → Origin} {cutoff : ℚ} :
    RollsBackExactly db origins cutoff since filters timestamp ↔
      ∀ row ∈ db.drawers, isSince since filters row = isCovered cutoff origins filters row := by
  constructor
  · intro h row hRow
    rw [Bool.eq_iff_iff, ← DrawerTable.mem_ids_filter hRow, ← DrawerTable.mem_ids_filter hRow]
    exact iff_of_eq (congrArg (row.id ∈ ·) h.ids)
  · intro h
    have hFilter := List.filter_congr h
    constructor
    · rw [softDelete_since_rows]
      exact List.map_congr_left fun row hRow => by rw [h row hRow]
    · rfl
    · exact congrArg (List.map DrawerRow.id) hFilter
    · rw [countDrawersSince, List.countP_eq_length_filter, hFilter]

theorem rollback_exact_iff (db : DrawerDb) (origins : String → Origin)
    (hOrigins : ∀ row ∈ db.drawers, row.addedAt = (origins row.id).addedAt) (text since : String)
    (hSince : normalizeRfc3339Timestamp text = some since) (cutoff : ℚ) (hCutoff : rfc3339Instant text = some cutoff)
    (filters : SinceFilters) (timestamp : String) :
    RollsBackExactly db origins cutoff since filters timestamp ↔
      ∀ row ∈ db.drawers, row.isActive = true → filters.matches row = true →
        (origins row.id).Agrees ⌊cutoff⌋₊ := by
  obtain ⟨secs, fraction, rfl, hInstant, hNonneg, hLt⟩ := normalize_spec hSince
  rw [hCutoff] at hInstant
  obtain rfl := Option.some.inj hInstant
  have hFloor : ⌊(secs : ℚ) + fraction⌋₊ = secs := by
    rw [add_comm, Nat.floor_add_natCast hNonneg, Nat.floor_eq_zero.mpr hLt, Nat.zero_add]
  -- within one second no drawer lies between the cutoff and its normal form
  have hSecond (n : Nat) : (secs : ℚ) + fraction < n ↔ secs < n := by
    rw [← Nat.floor_lt (by positivity), hFloor]
  rw [rollsBackExactly_iff_isSince, hFloor]
  refine forall₂_congr fun row hRow => ?_
  rw [Origin.agrees_iff, Bool.eq_iff_iff]
  simp only [isSince, isCovered, Bool.and_eq_true, decide_eq_true_eq, hOrigins row hRow, hSecond]
  by_cases hActive : row.isActive = true <;> by_cases hMatches : filters.matches row = true <;>
    simp only [hActive, hMatches, true_and, and_true, false_and, and_false, true_imp_iff, false_imp_iff,
      Bool.false_eq_true]

def inApril (writer : DrawerWriter) : Origin := ⟨writer, 1776045600⟩

def writtenInApril (writer : DrawerWriter) : DrawerDb :=
  settled [.insert { evidence "a" "alpha" with addedAt := (inApril writer).addedAt }]

def noFilters : SinceFilters := ⟨none, none, none⟩

/-- A diary entry of April is not found by a rollback to New Year. -/
theorem rollback_misses_diary :
    normalizeRfc3339Timestamp "2026-01-01T00:00:00Z" = some "2026-01-01T00:00:00Z" ∧
      rfc3339Instant "2026-01-01T00:00:00Z" = some 1767225600 ∧
        (softDeleteDrawersSince "2026-01-01T00:00:00Z" noFilters "1776045601" (writtenInApril .diaryRollup)).2 = [] ∧
          ((writtenInApril .diaryRollup).drawers.rows.filter
            (isCovered 1767225600 (fun _ => inApril .diaryRollup) noFilters)).map DrawerRow.id = ["a"] := by
  decide +kernel

theorem rollback_takes_ingested :
    RollsBackExactly (writtenInApril .fileIngest) (fun _ => inApril .fileIngest) 1767225600 "2026-01-01T00:00:00Z"
      noFilters "1776045601" := by
  refine (rollback_exact_iff _ _ (by decide +kernel) "2026-01-01T00:00:00Z" _ (by decide +kernel) _
    (by decide +kernel) _ _).mpr ?_
  intro row _ _ _ hYear
  exact absurd (by decide +kernel) hYear

end Mempal.Drawers

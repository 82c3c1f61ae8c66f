import Mathlib.Data.List.Sort
import Mempal.TimestampReading
import Mempal.WriterLease.Expiry

set_option autoImplicit false

/-! The health probes list leases without a cleanup: they parse the expiry of each row and keep the rows with seconds
left. The fence compares the expiry as text. -/

namespace Mempal.WriterLease

open Foundation

/-- `u64::try_from(generation).unwrap_or(0)`. -/
def generationOf (generation : Int) : UInt64 :=
  if 0 ≤ generation then UInt64.ofNat generation.toNat else 0

/-- The seconds left of a row: none if its expiry does not parse. -/
def rowRemainingSecs (now : Nat) (row : LeaseRow) : Int :=
  ((parseRfc3339 row.expiresAt).map fun expires : Int => max (expires - ((now / 1000 : Nat) : Int)) 0).getD 0

def leaseOfRow (now : Nat) (row : LeaseRow) : RuntimeWriterLease :=
  { name := row.name, owner := row.owner, generation := generationOf row.generation, pid := (pidOf row.pid).getD 0
    bootId := row.bootId, sessionId := row.sessionId, acquiredAt := row.acquiredAt, expiresAt := row.expiresAt
    heartbeatAt := row.heartbeatAt, mode := row.mode, metadataJson := row.metadataJson
    remainingSecs := rowRemainingSecs now row }

/-- `runtime_writer_lease_status_query`: the row of one name, or all rows by name. -/
def statusQuery (now : Nat) (name : Option String) (db : LeaseDb) : List RuntimeWriterLease :=
  match name with
  | some name => (db.leases.rows.filter fun row => row.name = name).map (leaseOfRow now)
  | none => (db.leases.rows.mergeSort fun row row' => row.name ≤ row'.name).map (leaseOfRow now)

/-- `runtime_writer_lease_status_read_only`. -/
def statusReadOnly (now : Nat) (name : Option String) (db : LeaseDb) : List RuntimeWriterLease :=
  (statusQuery now name db).filter fun lease => 0 < lease.remainingSecs

/-- Each row is listed, by a query that asks for it, exactly when its lease is active and its writes pass. -/
def StatusAgrees (env : Env) (db : LeaseDb) : Prop :=
  ∀ row ∈ db.leases, ∀ name : Option String, (∀ asked ∈ name, asked = row.name) →
    (leaseOfRow env.now row ∈ statusReadOnly env.now name db ↔
      (isActive env (leaseOfRow env.now row) db).2 = true ∧ (writeDatabase env (leaseOfRow env.now row) db).2 = true)

variable {now : Nat} {db : LeaseDb} {row : LeaseRow}

theorem mem_statusReadOnly_iff {name : Option String}
    (hRow : row ∈ db.leases) (hName : ∀ asked ∈ name, asked = row.name) :
    leaseOfRow now row ∈ statusReadOnly now name db ↔ 0 < rowRemainingSecs now row := by
  have hQuery : leaseOfRow now row ∈ statusQuery now name db := by
    cases name with
    | none => exact List.mem_map.mpr ⟨row, List.mem_mergeSort.mpr hRow, rfl⟩
    | some asked =>
      have hAsked := hName asked rfl
      exact List.mem_map.mpr ⟨row, List.mem_filter.mpr ⟨hRow, by simp [hAsked]⟩, rfl⟩
  rw [statusReadOnly, List.mem_filter, decide_eq_true_iff]
  exact and_iff_right hQuery

theorem remaining_pos_iff :
    0 < rowRemainingSecs now row ↔
      ∃ expires, parseRfc3339 row.expiresAt = some expires ∧ ((now / 1000 : Nat) : Int) < expires := by
  unfold rowRemainingSecs
  cases parseRfc3339 row.expiresAt with
  | none | some => simp

def CarriesGeneration (row : LeaseRow) : Prop := 0 ≤ row.generation ∧ row.generation ≤ i64Max

theorem carriesGeneration_iff : CarriesGeneration row ↔ row.generation = asI64 (generationOf row.generation) := by
  constructor
  · rintro ⟨hNonneg, hMax⟩
    have hSmall : row.generation.toNat < 2 ^ 63 := by
      simp only [i64Max] at hMax
      omega
    have hNat : (generationOf row.generation).toNat = row.generation.toNat := by
      rw [generationOf, if_pos hNonneg]
      exact UInt64.toNat_ofNat_of_lt' (hSmall.trans (by decide))
    rw [asI64, hNat, if_pos hSmall]
    omega
  · intro h
    have hBound := (generationOf row.generation).toNat_lt
    by_cases hNonneg : 0 ≤ row.generation
    · refine ⟨hNonneg, ?_⟩
      rw [asI64] at h
      simp only [i64Max]
      split at h <;> omega
    · rw [generationOf, if_neg hNonneg] at h
      exact absurd h (by rw [show asI64 0 = 0 from rfl]; omega)

theorem holdsLease_leaseOfRow_iff (hRow : row ∈ db.leases) :
    holdsLease now (leaseOfRow now row) db.leases = true ↔ CarriesGeneration row ∧ unexpired now row = true := by
  have hFind : db.leases.find? (leaseOfRow now row).name = some row := Table.find?_of_mem hRow
  rw [holdsLease_eq_find?, hFind, Option.any_some, Bool.and_eq_true_iff, sameLease_iff, carriesGeneration_iff]
  simp only [leaseOfRow, true_and]

variable {env : Env}

theorem admitted_iff {lease : RuntimeWriterLease} :
    ((isActive env lease db).2 = true ∧ (writeDatabase env lease db).2 = true) ↔
      holdsLease env.now lease db.leases = true := by
  simp only [isActive, writeDatabase, holdsLease_cleanup]
  split <;> simp_all

/-- Parsing and comparing agree on a row: its expiry parses to a later second exactly if its text is not below the
clock's text and its generation can be carried. -/
def ReadsAlike (now : Nat) (row : LeaseRow) : Prop :=
  (∃ expires, parseRfc3339 row.expiresAt = some expires ∧ ((now / 1000 : Nat) : Int) < expires) ↔
    CarriesGeneration row ∧ unexpired now row = true

theorem statusAgrees_iff (db : LeaseDb) : StatusAgrees env db ↔ ∀ row ∈ db.leases, ReadsAlike env.now row := by
  have hRow : ∀ row ∈ db.leases, ∀ name : Option String, (∀ asked ∈ name, asked = row.name) →
      ((leaseOfRow env.now row ∈ statusReadOnly env.now name db ↔
        (isActive env (leaseOfRow env.now row) db).2 = true ∧
          (writeDatabase env (leaseOfRow env.now row) db).2 = true) ↔ ReadsAlike env.now row) := by
    intro row hRow name hName
    rw [mem_statusReadOnly_iff hRow hName, remaining_pos_iff, ReadsAlike, admitted_iff,
      ← holdsLease_leaseOfRow_iff hRow]
  constructor
  · intro h row hMem
    exact (hRow row hMem none (fun _ h => nomatch h)).mp (h row hMem none (fun _ h => nomatch h))
  · intro h row hMem name hName
    exact (hRow row hMem name hName).mpr (h row hMem)

structure WrittenAt (row : LeaseRow) (expiry : Nat) : Prop where
  text : row.expiresAt = formatRfc3339 expiry
  fits : expiry ≤ sqliteDateLimit
  carries : CarriesGeneration row

theorem WrittenAt.readsAlike_iff {expiry : Nat} (h : WrittenAt row expiry)
    (hNow : now ≤ sqliteDateLimit) : ReadsAlike now row ↔ expiry / 1000 ≠ now / 1000 := by
  have hParse : parseRfc3339 row.expiresAt = some ((expiry / 1000 : Nat) : Int) := by
    rw [h.text]
    exact parseRfc3339_formatRfc3339 h.fits
  rw [ReadsAlike, hParse, unexpired_formatRfc3339_iff hNow h.fits h.text]
  simp only [h.carries, true_and, Option.some.injEq, exists_eq_left', Nat.cast_lt]
  omega

theorem status_read_only_agrees_iff (env : Env) (db : LeaseDb) :
    (StatusAgrees env db ↔ ∀ row ∈ db.leases, ReadsAlike env.now row) ∧
    ∀ expiry : LeaseRow → Nat, env.now ≤ sqliteDateLimit → (∀ row ∈ db.leases, WrittenAt row (expiry row)) →
      (StatusAgrees env db ↔ ∀ row ∈ db.leases, expiry row / 1000 ≠ env.now / 1000) := by
  refine ⟨statusAgrees_iff db, ?_⟩
  intro expiry hNow hWritten
  rw [statusAgrees_iff]
  exact forall₂_congr fun row hRow => (hWritten row hRow).readsAlike_iff hNow

/-- The last second of the one-minute lease. -/
def atExpiry : Env := ⟨1767225660500, allAlive⟩

def whileHeld : LeaseDb := leaseMachine.final (applyV26 Table.empty) [(atAcquire, .acquire .standard pausedArgs)]

/-- In the second of its expiry the one lease of the table is not listed, but active and admitted. -/
theorem unlisted_in_expiry_second :
    whileHeld.leases.rows.map (leaseOfRow atExpiry.now) = [{ pausedLease with remainingSecs := 0 }] ∧
      statusReadOnly atExpiry.now none whileHeld = [] ∧
      (isActive atExpiry { pausedLease with remainingSecs := 0 } whileHeld).2 = true ∧
      (writeDatabase atExpiry { pausedLease with remainingSecs := 0 } whileHeld).2 = true := by
  decide +kernel

end Mempal.WriterLease

import Mempal.WriterLease.ReadOnlyStatus

set_option autoImplicit false

/-! The admission loop of a starting daemon: it tries to acquire the writer lease, looks at the holder, and sleeps up
to a deadline that each pass moves to the holder's horizon. -/

namespace Mempal.WriterLease

open Foundation

def sqliteWriterLeaseName : String := "sqlite-writer"

def daemonWriterLeaseTtlSecs : UInt64 := 120

def nanosPerSec : Nat := 1000000000

def daemonWriterLeaseAdmissionWaitExtendedMax : Nat := 180 * nanosPerSec

def effectiveAdmissionWait (liveRemainingSecs : List Int) (waitMax : Nat) : Nat :=
  let extend := (liveRemainingSecs.map fun secs => (max secs 0).toNat * nanosPerSec).foldr max 0
  max waitMax (min extend daemonWriterLeaseAdmissionWaitExtendedMax)

def writerLeaseHolderRefusesImmediately (mode : String) : Bool := mode = "mcp-ingest-worker"

def formatRuntimeWriterLeases (leases : List RuntimeWriterLease) : String :=
  if leases = [] then "none visible"
  else
    "; ".intercalate (leases.map fun lease =>
      "mode=" ++ lease.mode ++ " pid=" ++ toString lease.pid.toNat ++ " owner=" ++ lease.owner ++ " name=" ++
        lease.name ++ " remaining_secs=" ++ toString lease.remainingSecs ++ " expires_at=" ++ lease.expiresAt ++
        " heartbeat_at=" ++ lease.heartbeatAt)

/-- What the starting process contributes to its lease. -/
structure DaemonProcess where
  owner : String
  pid : UInt32
  sessionId : String
  persistedMetadataJson : String

/-- The arguments of `runtime_writer_lease_acquire_for_daemon_start`. -/
def daemonStartArgs (process : DaemonProcess) : AcquireArgs :=
  { name := sqliteWriterLeaseName, owner := process.owner, mode := "daemon", ttlSecs := daemonWriterLeaseTtlSecs
    persistedMetadataJson := process.persistedMetadataJson, pid := process.pid, sessionId := process.sessionId }

/-- `runtime_writer_lease_status` for the writer lease, as the loop reads it. -/
def writerLeaseStatus (env : Env) (db : LeaseDb) : List RuntimeWriterLease :=
  statusQuery env.now (some sqliteWriterLeaseName) (cleaned env db)

structure AdmissionConfig where
  waitMax : Nat
  retryDelay : Nat
  process : DaemonProcess

inductive AdmissionError where
  | databaseLocked
  | database
  | fault (fault : Fault)
deriving DecidableEq

/-- What one pass of the loop meets: the tables and the clock at its two transactions, which other processes may
have written between them, errors of the database, and the monotonic clock. -/
structure Attempt where
  acquireEnv : Env
  acquireDb : LeaseDb
  acquireError : Option AdmissionError
  statusEnv : Env
  statusDb : LeaseDb
  statusFails : Bool
  now : Nat

inductive Pass where
  | acquired (lease : RuntimeWriterLease)
  | failed (error : AdmissionError)
  | held (holders : String)
  | sleeps (deadline : Nat) (duration : Nat)
deriving DecidableEq

/-- The second half of a pass: the lease is not free, and `active` is what the status query answered. -/
def awaitHolder (config : AdmissionConfig) (deadline : Option Nat) (active : Option (List RuntimeWriterLease))
    (now : Nat) : Pass :=
  let holders := active.elim "holder status unavailable" formatRuntimeWriterLeases
  let leases := active.getD []
  if leases.any fun lease => writerLeaseHolderRefusesImmediately lease.mode then .held holders
  else
    let target := now + effectiveAdmissionWait (leases.map RuntimeWriterLease.remainingSecs) config.waitMax
    let deadline := max (deadline.getD target) target
    if deadline ≤ now then .held holders else .sleeps deadline (min (deadline - now) config.retryDelay)

/-- One pass of `acquire_daemon_writer_lease_with_holder_observed`. -/
def pass (config : AdmissionConfig) (deadline : Option Nat) (attempt : Attempt) : Pass :=
  match attempt.acquireError with
  | some error => .failed error
  | none =>
    match acquire attempt.acquireEnv .rebindDeadDaemon (daemonStartArgs config.process) attempt.acquireDb with
    | .error fault => .failed (.fault fault)
    | .ok (_, some lease) => .acquired lease
    | .ok (_, none) =>
      awaitHolder config deadline
        (if attempt.statusFails then none else some (writerLeaseStatus attempt.statusEnv attempt.statusDb)) attempt.now

/-- The deadline with which the loop enters a pass, or nothing if it has ended before. -/
def entering (config : AdmissionConfig) (attempts : Nat → Attempt) : Nat → Option (Option Nat)
  | 0 => some none
  | n + 1 =>
    match entering config attempts n with
    | none => none
    | some deadline =>
      match pass config deadline (attempts n) with
      | .sleeps deadline _ => some (some deadline)
      | _ => none

/-- The clock advances by each sleep at least. -/
def AdvancesBySleeps (config : AdmissionConfig) (attempts : Nat → Attempt) : Prop :=
  ∀ n deadline deadline' duration, entering config attempts n = some deadline →
    pass config deadline (attempts n) = .sleeps deadline' duration →
      (attempts n).now + duration ≤ (attempts (n + 1)).now

/-- In this attempt the database answers, and the holder keeps its row: it is there at both transactions and its
process counts as alive. -/
structure Keeps (row : LeaseRow) (attempt : Attempt) : Prop where
  name : row.name = sqliteWriterLeaseName
  stored : row ∈ attempt.acquireDb.leases
  retained : rowShouldRetain attempt.acquireEnv.oracle row = true
  observed : row ∈ attempt.statusDb.leases
  stillRetained : rowShouldRetain attempt.statusEnv.oracle row = true
  acquires : attempt.acquireError = none
  answers : attempt.statusFails = false
  clock : attempt.acquireEnv.now / 1000 + daemonWriterLeaseTtlSecs.toNat < 2 ^ 63

/-- The loop ends in the temporary refusal, after a wait of at most the larger of the maximum wait and the first
observed remaining time of the holder, and one retry delay. -/
def RefusesInTime (config : AdmissionConfig) (row : LeaseRow) (attempts : Nat → Attempt) : Prop :=
  ∃ n deadline holders, entering config attempts n = some deadline ∧
    pass config deadline (attempts n) = .held holders ∧
    (attempts n).now ≤ (attempts 0).now +
      max config.waitMax (min ((rowRemainingSecs (attempts 0).statusEnv.now row).toNat * nanosPerSec)
        daemonWriterLeaseAdmissionWaitExtendedMax) + config.retryDelay

theorem waitMax_le_effectiveAdmissionWait (liveRemainingSecs : List Int) (waitMax : Nat) :
    waitMax ≤ effectiveAdmissionWait liveRemainingSecs waitMax := le_max_left _ _

theorem awaitHolder_sleeps {config : AdmissionConfig} {active : Option (List RuntimeWriterLease)}
    (hWait : 0 < config.waitMax)
    (hActive : (active.getD []).any (fun lease => writerLeaseHolderRefusesImmediately lease.mode) = false)
    (deadline : Option Nat) (now : Nat) :
    ∃ deadline' duration, awaitHolder config deadline active now = .sleeps deadline' duration ∧
      duration ≤ config.retryDelay := by
  have hBeyond := waitMax_le_effectiveAdmissionWait ((active.getD []).map RuntimeWriterLease.remainingSecs)
    config.waitMax
  unfold awaitHolder
  simp only [hActive, Bool.false_eq_true, if_false]
  rw [if_neg (by omega)]
  exact ⟨_, _, rfl, min_le_right _ _⟩

theorem awaitHolder_held {config : AdmissionConfig} {active : List RuntimeWriterLease}
    (hActive : active.any (fun lease => writerLeaseHolderRefusesImmediately lease.mode) = true) (deadline : Option Nat)
    (now : Nat) : awaitHolder config deadline (some active) now = .held (formatRuntimeWriterLeases active) :=
  if_pos hActive

section Kept

variable {row : LeaseRow} {attempt : Attempt} (hKeeps : Keeps row attempt)
include hKeeps

theorem Keeps.acquire_eq (process : DaemonProcess) :
    ∃ db, acquire attempt.acquireEnv .rebindDeadDaemon (daemonStartArgs process) attempt.acquireDb = .ok (db, none) := by
  have hMem : row ∈ rebindDeadDaemon attempt.acquireEnv sqliteWriterLeaseName
      (cleanupExpiredTx attempt.acquireEnv true attempt.acquireDb.leases).1 := by
    rw [rebindDeadDaemon_leases, Table.mem_delete, mem_cleanupExpiredTx]
    simp [hKeeps.stored, stale, hKeeps.retained]
  have hTaken : (rebindDeadDaemon attempt.acquireEnv sqliteWriterLeaseName
      (cleanupExpiredTx attempt.acquireEnv true attempt.acquireDb.leases).1).contains sqliteWriterLeaseName = true :=
    Table.contains_iff.mpr ⟨row, hMem, hKeeps.name⟩
  have hClock : addSecs attempt.acquireEnv.now (daemonStartArgs process).ttlSecs =
      some (attempt.acquireEnv.now + daemonWriterLeaseTtlSecs.toNat * 1000) := if_pos hKeeps.clock
  refine ⟨⟨rebindDeadDaemon attempt.acquireEnv sqliteWriterLeaseName
    (cleanupExpiredTx attempt.acquireEnv true attempt.acquireDb.leases).1, attempt.acquireDb.generations⟩, ?_⟩
  unfold acquire
  rw [hClock]
  exact if_pos hTaken

theorem Keeps.status_eq :
    writerLeaseStatus attempt.statusEnv attempt.statusDb = [leaseOfRow attempt.statusEnv.now row] := by
  have hMem : row ∈ (cleaned attempt.statusEnv attempt.statusDb).leases := by
    rw [cleaned, mem_cleanupExpiredTx]
    simp [hKeeps.observed, stale, hKeeps.stillRetained]
  have hRows := Table.filter_key_eq hMem
  rw [hKeeps.name] at hRows
  rw [writerLeaseStatus, statusQuery, hRows, List.map_singleton]

theorem Keeps.pass_eq (config : AdmissionConfig) (deadline : Option Nat) :
    pass config deadline attempt =
      awaitHolder config deadline (some [leaseOfRow attempt.statusEnv.now row]) attempt.now := by
  obtain ⟨db, hAcquire⟩ := hKeeps.acquire_eq config.process
  unfold pass
  rw [hKeeps.acquires, hAcquire, hKeeps.answers, hKeeps.status_eq]
  rfl

end Kept

section Run

variable {config : AdmissionConfig} {row : LeaseRow} {attempts : Nat → Attempt}
  (hWait : 0 < config.waitMax) (hKeeps : ∀ n, Keeps row (attempts n))
  (hMode : writerLeaseHolderRefusesImmediately row.mode = false)
include hWait hKeeps hMode

theorem pass_sleeps (n : Nat) (deadline : Option Nat) :
    ∃ deadline' duration, pass config deadline (attempts n) = .sleeps deadline' duration ∧
      duration ≤ config.retryDelay := by
  rw [(hKeeps n).pass_eq]
  apply awaitHolder_sleeps hWait
  simp [leaseOfRow, hMode]

theorem entering_isSome (n : Nat) : ∃ deadline, entering config attempts n = some deadline := by
  induction n with
  | zero => exact ⟨none, rfl⟩
  | succ n ih =>
    obtain ⟨deadline, hEntering⟩ := ih
    obtain ⟨deadline', duration, hPass, _⟩ := pass_sleeps hWait hKeeps hMode n deadline
    exact ⟨some deadline', by rw [entering, hEntering]; simp only [hPass]⟩

theorem not_refusesInTime : ¬RefusesInTime config row attempts := by
  rintro ⟨n, deadline, holders, _, hHeld, _⟩
  obtain ⟨deadline', duration, hPass, _⟩ := pass_sleeps hWait hKeeps hMode n deadline
  rw [hPass] at hHeld
  cases hHeld

end Run

theorem refusesInTime_of_immediate {attempts : Nat → Attempt} {config : AdmissionConfig} {row : LeaseRow}
    (hKeeps : Keeps row (attempts 0)) (hMode : writerLeaseHolderRefusesImmediately row.mode = true) :
    RefusesInTime config row attempts := by
  have hHeld := hKeeps.pass_eq config none
  rw [awaitHolder_held (by simp [leaseOfRow, hMode])] at hHeld
  exact ⟨0, none, _, rfl, hHeld, by omega⟩

theorem daemon_admission_refuses_iff (config : AdmissionConfig) (row : LeaseRow) (attempts : Nat → Attempt)
    (hWait : 0 < config.waitMax) (hKeeps : ∀ n, Keeps row (attempts n)) :
    (RefusesInTime config row attempts ↔ writerLeaseHolderRefusesImmediately row.mode = true) ∧
      (writerLeaseHolderRefusesImmediately row.mode = false →
        ∀ n, ∃ deadline, entering config attempts n = some deadline) := by
  refine ⟨⟨?_, refusesInTime_of_immediate (hKeeps 0)⟩, entering_isSome hWait hKeeps⟩
  intro hRefuses
  by_contra hMode
  exact not_refusesInTime hWait hKeeps (Bool.eq_false_iff.mpr hMode) hRefuses

def heldRow (mode : String) : LeaseRow :=
  { name := sqliteWriterLeaseName, owner := "owner", generation := 1, pid := 7, bootId := some "boot"
    sessionId := "session", acquiredAt := "2026-01-01T00:00:00Z", expiresAt := "2026-01-01T00:01:00Z"
    heartbeatAt := "2026-01-01T00:00:00Z", mode := mode, metadataJson := none }

def heldDb (mode : String) : LeaseDb := ⟨⟨[heldRow mode], List.nodup_singleton _⟩, Table.empty⟩

def heldEnv (n : Nat) : Env := ⟨min (1767225700000 + n * 100) sqliteDateLimit, allAlive⟩

def heldAttempt (mode : String) (n : Nat) : Attempt :=
  { acquireEnv := heldEnv n, acquireDb := heldDb mode, acquireError := none, statusEnv := heldEnv n
    statusDb := heldDb mode, statusFails := false, now := n * (nanosPerSec / 10) }

/-- The values of the running daemon: five seconds, and a tenth of a second between passes. -/
def daemonStartConfig : AdmissionConfig :=
  { waitMax := 5 * nanosPerSec, retryDelay := nanosPerSec / 10
    process := { owner := "mempal-daemon-8", pid := 8, sessionId := "start", persistedMetadataJson := "" } }

theorem heldAttempt_keeps (mode : String) (hMode : mode ≠ "daemon") (n : Nat) :
    Keeps (heldRow mode) (heldAttempt mode n) := by
  have hRetained : rowShouldRetain allAlive (heldRow mode) = true := by
    simp [rowShouldRetain, heldRow, pidOf, holderShouldRetain, hMode, allAlive]
  have hStored : heldRow mode ∈ (heldDb mode).leases := List.mem_singleton.mpr rfl
  have hClock : min (1767225700000 + n * 100) sqliteDateLimit ≤ sqliteDateLimit := min_le_right _ _
  exact ⟨rfl, hStored, hRetained, hStored, hRetained, rfl, rfl,
    lt_of_le_of_lt (Nat.add_le_add_right (Nat.div_le_div_right hClock) _) (by decide)⟩

theorem heldAttempt_refused :
    (RefusesInTime daemonStartConfig (heldRow "mcp-ingest-worker") (heldAttempt "mcp-ingest-worker") ↔
      writerLeaseHolderRefusesImmediately "mcp-ingest-worker" = true) ∧
      (writerLeaseHolderRefusesImmediately "mcp-ingest-worker" = false →
        ∀ n, ∃ deadline, entering daemonStartConfig (heldAttempt "mcp-ingest-worker") n = some deadline) :=
  daemon_admission_refuses_iff daemonStartConfig (heldRow "mcp-ingest-worker") (heldAttempt "mcp-ingest-worker")
    (by decide) (heldAttempt_keeps "mcp-ingest-worker" (by decide))

theorem heldAttempt_advances (mode : String) (hMode : mode ≠ "daemon")
    (hWaits : writerLeaseHolderRefusesImmediately mode = false) :
    AdvancesBySleeps daemonStartConfig (heldAttempt mode) := by
  intro n deadline deadline' duration _ hPass
  obtain ⟨_, _, hSleeps, hDelay⟩ := pass_sleeps (show 0 < daemonStartConfig.waitMax by decide)
    (heldAttempt_keeps mode hMode) hWaits n deadline
  rw [hSleeps, Pass.sleeps.injEq] at hPass
  have hNext : (heldAttempt mode (n + 1)).now = (heldAttempt mode n).now + daemonStartConfig.retryDelay :=
    Nat.succ_mul n _
  omega

/-- A live maintenance holder whose lease has run out and is never renewed: the daemon never refuses. -/
theorem expired_holder_waited_for_forever :
    AdvancesBySleeps daemonStartConfig (heldAttempt "maintenance") ∧
      (∀ n, Keeps (heldRow "maintenance") (heldAttempt "maintenance" n)) ∧
      (∀ n, rowRemainingSecs (heldAttempt "maintenance" n).statusEnv.now (heldRow "maintenance") = 0) ∧
      ¬RefusesInTime daemonStartConfig (heldRow "maintenance") (heldAttempt "maintenance") ∧
      (∀ n, ∃ deadline, entering daemonStartConfig (heldAttempt "maintenance") n = some deadline) := by
  have hKeeps := heldAttempt_keeps "maintenance" (by decide)
  have hWait : 0 < daemonStartConfig.waitMax := by decide
  refine ⟨heldAttempt_advances "maintenance" (by decide) (by decide), hKeeps, ?_,
    not_refusesInTime hWait hKeeps (by decide), entering_isSome hWait hKeeps (by decide)⟩
  intro n
  have hParse : parseRfc3339 (heldRow "maintenance").expiresAt = some 1767225660 := by decide +kernel
  have hClock : 1767225700000 ≤ (heldAttempt "maintenance" n).statusEnv.now :=
    le_min (Nat.le_add_right _ _) (by decide)
  rw [rowRemainingSecs, hParse, Option.map_some, Option.getD_some]
  omega

end Mempal.WriterLease

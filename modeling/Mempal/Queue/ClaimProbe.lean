import Mathlib.Data.Prod.Lex
import Mathlib.Data.String.Basic
import Mempal.Queue.Lifecycle

set_option autoImplicit false

/-! A claim call first looks for work without a transaction and gives up when the probe finds none. -/

namespace Mempal.Queue

open Foundation

/-- The place of a row in `ORDER BY next_attempt_at ASC, id ASC`. -/
def PendingRow.turn (row : PendingRow) : ℤ ×ₗ String := toLex (row.nextAttemptAt, row.id)

def Eligible (env : Env) (request : ClaimRequest) (staleCutoff : Int) (db : QueueDb) (row : PendingRow) : Prop :=
  row ∈ reclaimStaleRows staleCutoff db.pending ∧ request.filter.selects env.nowSecs row = true

variable {row : PendingRow} {rows : List PendingRow} {env : Env} {request : ClaimRequest} {db : QueueDb}

theorem turn_lt_iff {other : PendingRow} :
    row.turn < other.turn ↔
      row.nextAttemptAt < other.nextAttemptAt ∨ row.nextAttemptAt = other.nextAttemptAt ∧ row.id < other.id :=
  Prod.Lex.toLex_lt_toLex

theorem firstAttempt_eq_none (h : firstAttempt rows = none) : rows = [] := by
  cases rows with
  | nil => rfl
  | cons first rows =>
    unfold firstAttempt at h
    split at h
    · cases h
    · split at h <;> cases h

theorem firstAttempt_le (h : firstAttempt rows = some row) : ∀ other ∈ rows, row.turn ≤ other.turn := by
  induction rows generalizing row with
  | nil => cases h
  | cons first rows ih =>
    unfold firstAttempt at h
    split at h
    case h_1 hRest =>
      cases h
      rw [firstAttempt_eq_none hRest]
      intro other hOther
      rw [List.mem_singleton.mp hOther]
    case h_2 best hRest =>
      intro other hOther
      split at h
      case isTrue hBefore =>
        cases h
        rcases List.mem_cons.mp hOther with rfl | hOther
        · exact le_of_lt (turn_lt_iff.mpr hBefore)
        · exact ih hRest other hOther
      case isFalse hNotBefore =>
        cases h
        rcases List.mem_cons.mp hOther with rfl | hOther
        · exact le_refl _
        · exact le_trans (not_lt.mp (mt turn_lt_iff.mp hNotBefore)) (ih hRest other hOther)

variable {staleCutoff : Int}

theorem reclaimStaleRows_eq_self {pending : Table PendingRow.id} (h : pending.rows.any (isStale staleCutoff) = false) :
    reclaimStaleRows staleCutoff pending = pending := by
  apply Table.update_eq_self
  rw [Table.count, List.countP_eq_zero]
  exact fun row hRow => by simpa using List.any_eq_false.mp h row hRow

theorem claimTx_of_no_work (hLease : request.requireLease env = .ok ())
    (hWork : claimWorkAvailable request.filter staleCutoff env.nowSecs db.pending = false) :
    claimTx env request staleCutoff db = .ok (db, none) := by
  obtain ⟨hStale, hDue⟩ := Bool.or_eq_false_iff.mp hWork
  have hEmpty : db.pending.rows.filter (request.filter.selects env.nowSecs) = [] := by
    rw [List.filter_eq_nil_iff]
    exact fun row hRow => by simpa using List.any_eq_false.mp hDue row hRow
  simp only [claimTx, hLease, reclaimStaleRows_eq_self hStale, hEmpty, firstAttempt]

theorem claimTx_least {db' : QueueDb} {message : ClaimedMessage}
    (h : claimTx env request staleCutoff db = .ok (db', some message)) :
    ∃ row, Eligible env request staleCutoff db row ∧
      message = claimedMessage (claimToken request.workerId env.tick) env.nowSecs row ∧
      ∀ other, Eligible env request staleCutoff db other → row.turn ≤ other.turn := by
  unfold claimTx at h
  split at h
  · cases h
  · dsimp only at h
    split at h
    · cases h
    · rename_i row hFirst
      split at h
      · cases h
      · split at h
        · cases h
        · cases h
          refine ⟨row, List.mem_filter.mp (mem_of_firstAttempt hFirst), rfl, ?_⟩
          rintro other ⟨hOther, hSelects⟩
          exact firstAttempt_le hFirst other (List.mem_filter.mpr ⟨hOther, hSelects⟩)

/-- The probe and the claim transaction of one request, on one state at one time. -/
structure ProbeAgrees (env : Env) (request : ClaimRequest) (db : QueueDb) : Prop where
  idle : claimProbe env request db = .ok false →
    claimTx env request (request.staleCutoff env) db = .ok (db, none)
  least : ∀ db' message, claimTx env request (request.staleCutoff env) db = .ok (db', some message) →
    ∃ row, Eligible env request (request.staleCutoff env) db row ∧
      message = claimedMessage (claimToken request.workerId env.tick) env.nowSecs row ∧
      ∀ other, Eligible env request (request.staleCutoff env) db other → row.turn ≤ other.turn

theorem claim_probe_agrees (env : Env) (request : ClaimRequest) (db : QueueDb) : ProbeAgrees env request db := by
  constructor
  · intro h
    cases hLease : request.requireLease env with
    | error e =>
      rw [claimProbe, hLease] at h
      cases h
    | ok u =>
      rw [claimProbe, hLease] at h
      exact claimTx_of_no_work hLease (Except.ok.inj h)
  · exact fun db' message h => claimTx_least h

end Mempal.Queue

import Mempal.ClockOrder
import Mempal.WriterLease.Fencing

set_option autoImplicit false

/-! A restore that answers yes should leave a lease under which writes go through. It does when it inserts the row
itself, since the new expiry is ahead of the clock. -/

namespace Mempal.WriterLease

open Foundation

variable {now expiry : Nat}

theorem strftimeNow_isSome_iff : (strftimeNow now).isSome = true ↔ now ≤ sqliteDateLimit := by
  rw [strftimeNow]
  split <;> simp_all

variable {row : LeaseRow} {env : Env} {lease : RuntimeWriterLease} {db : LeaseDb}

theorem unexpired_iff : unexpired now row = true ↔ now ≤ sqliteDateLimit ∧ expired now row = false := by
  rw [← strftimeNow_isSome_iff]
  cases hText : strftimeNow now with
  | none => simp [unexpired, hText]
  | some text => simpa using unexpired_iff_of_text hText row

theorem stale_eq_false_of_unexpired (preserveLiveHolders : Bool)
    (h : unexpired env.now row = true) : stale env preserveLiveHolders row = false := by
  rw [stale, (unexpired_iff.mp h).2, Bool.false_and]

theorem holdsLease_eq_find? (now : Nat) (lease : RuntimeWriterLease) (leases : Table LeaseRow.name) :
    holdsLease now lease leases =
      (leases.find? lease.name).any fun row => sameLease lease row && unexpired now row := by
  rw [Bool.eq_iff_iff, holdsLease, List.any_eq_true, Option.any_eq_true]
  constructor
  · rintro ⟨row, hRow, hBoth⟩
    have hName := (sameLease_iff.mp (Bool.and_eq_true_iff.mp hBoth).1).1
    exact ⟨row, Table.find?_eq_some_iff.mpr ⟨hRow, hName⟩, hBoth⟩
  · rintro ⟨row, hFind, hBoth⟩
    exact ⟨row, (Table.find?_eq_some_iff.mp hFind).1, hBoth⟩

theorem holdsLease_cleanup (env : Env) (lease : RuntimeWriterLease) (leases : Table LeaseRow.name) :
    holdsLease env.now lease (cleanupExpiredTx env true leases).1 = holdsLease env.now lease leases := by
  rw [holdsLease_eq_find?, holdsLease_eq_find?, cleanupExpiredTx_leases, Table.find?_delete]
  cases hFind : leases.find? lease.name with
  | none => rfl
  | some row =>
    cases hBoth : sameLease lease row && unexpired env.now row with
    | true =>
      have hKept := stale_eq_false_of_unexpired true (Bool.and_eq_true_iff.mp hBoth).2
      simp [Option.filter, hKept, hBoth]
    | false => cases hStale : stale env true row <;> simp [Option.filter, hStale, hBoth]

def Usable (env : Env) (lease : RuntimeWriterLease) (db : LeaseDb) : Prop :=
  (isActive env lease db).2 = true ∧ (writeDatabase env lease db).2 = true ∧ (writeQueue env lease db).2 = true

theorem usable_iff : Usable env lease db ↔ holdsLease env.now lease db.leases = true := by
  simp only [Usable, isActive, writeDatabase, writeQueue, holdsLease_cleanup]
  split <;> simp_all

def keptRow (env : Env) (name : String) (db : LeaseDb) : Option LeaseRow :=
  (db.leases.find? name).filter fun row => !stale env true row

theorem find?_cleaned {name : String} (env : Env) (db : LeaseDb) :
    (cleaned env db).leases.find? name = keptRow env name db := by
  rw [cleaned, cleanupExpiredTx_leases, Table.find?_delete, keptRow]

/-- What a restore promises: a usable lease with its yes, nothing but the cleanup with its no. -/
def RestoreKeepsPromise (env : Env) (lease : RuntimeWriterLease) (ttlSecs : UInt64) (db : LeaseDb) : Prop :=
  ∀ db' yes, restoreIfUnheld env lease ttlSecs db = .ok (db', yes) →
    (yes = true → Usable env lease db') ∧
    (yes = false → db' = ⟨db.leases.delete (stale env true), db.generations⟩)

/-- Unless the restore is refused: a surviving row of this very lease has not expired, and without a surviving
row the new expiry falls before the year 10000, where its text sorts behind the clock's, or still does so by
the digits of its year. -/
def RestoreCondition (env : Env) (lease : RuntimeWriterLease) (ttlSecs : UInt64) (db : LeaseDb) : Prop :=
  Restorable env lease db →
    match keptRow env lease.name db with
    | some row => sameLease lease row = true → env.now ≤ sqliteDateLimit ∧ expired env.now row = false
    | none => ∀ expiry, addSecs env.now ttlSecs = some expiry →
        expiry ≤ sqliteDateLimit ∨ (strftimeNow env.now).any (fun text => text ≤ formatRfc3339 expiry) = true

variable {ttlSecs : UInt64}

theorem le_of_addSecs (h : addSecs now ttlSecs = some expiry) : now ≤ expiry := by
  unfold addSecs at h
  split at h
  · cases h
    omega
  · cases h

theorem unexpired_restoredRow (env : Env) (lease : RuntimeWriterLease) (expiry : Nat) :
    unexpired env.now (restoredRow env lease expiry) =
      (strftimeNow env.now).any (fun text => text ≤ formatRfc3339 expiry) := rfl

theorem unexpired_restoredRow_iff (hLe : env.now ≤ expiry) :
    unexpired env.now (restoredRow env lease expiry) = true ↔
      expiry ≤ sqliteDateLimit ∨ (strftimeNow env.now).any (fun text => text ≤ formatRfc3339 expiry) = true := by
  rw [unexpired_restoredRow]
  refine ⟨Or.inr, ?_⟩
  rintro (hLimit | hText)
  · obtain ⟨text, hText⟩ := Option.isSome_iff_exists.mp (strftimeNow_isSome_iff.mpr (hLe.trans hLimit))
    have hLt := strftimeNow_lt_formatRfc3339 hText hLe hLimit
    rw [hText, Option.any_some, decide_eq_true_eq]
    exact Std.le_of_lt hLt
  · exact hText

theorem sameLease_restoredRow (env : Env) (lease : RuntimeWriterLease) (expiry : Nat) :
    sameLease lease (restoredRow env lease expiry) = true := sameLease_iff.mpr ⟨rfl, rfl, rfl, rfl⟩

theorem usable_of_found (hFind : db.leases.find? lease.name = some row) (hSame : sameLease lease row = true) :
    Usable env lease db ↔ unexpired env.now row = true := by
  rw [usable_iff, holdsLease_eq_find?, hFind]
  simp [hSame]

theorem find?_inserted (expiry : Nat) (hFree : (cleaned env db).leases.find? lease.name = none) :
    ((cleaned env db).leases.insertOrIgnore (restoredRow env lease expiry)).find? lease.name =
      some (restoredRow env lease expiry) := by
  rw [Table.find?_insertOrIgnore, hFree]
  exact if_pos rfl

theorem restoreIfUnheld_of_same
    (ttlSecs : UInt64) (h : Restorable env lease db) (hFind : (cleaned env db).leases.find? lease.name = some row)
    (hSame : sameLease lease row = true) : restoreIfUnheld env lease ttlSecs db = .ok (cleaned env db, true) := by
  have hAny : (cleaned env db).leases.rows.any (sameLease lease) = true :=
    List.any_eq_true.mpr ⟨row, (Table.find?_eq_some_iff.mp hFind).1, hSame⟩
  have hCurrent := h.current
  simp only [LeaseDb.lastGeneration, cleaned] at hCurrent hAny
  simp [restoreIfUnheld, cleaned, h.live, hCurrent, hAny]

theorem restoreIfUnheld_of_free (h : Restorable env lease db) (hFree : (cleaned env db).leases.find? lease.name = none)
    (hExpiry : addSecs env.now ttlSecs = some expiry) :
    restoreIfUnheld env lease ttlSecs db =
      .ok (⟨(cleaned env db).leases.insertOrIgnore (restoredRow env lease expiry), db.generations⟩, true) := by
  have hNone := Table.find?_eq_none_iff.mp hFree
  have hAny : (cleaned env db).leases.rows.any (sameLease lease) = false :=
    List.any_eq_false.mpr fun row hRow hSame => hNone row hRow (sameLease_iff.mp hSame).1
  have hCount : (cleaned env db).leases.count (fun row => row.name = lease.name) = 0 :=
    List.countP_eq_zero.mpr fun row hRow => by simpa using hNone row hRow
  have hCurrent := h.current
  simp only [LeaseDb.lastGeneration, cleaned] at hCurrent hAny hCount
  simp [restoreIfUnheld, cleaned, restoredRow, h.live, hCurrent, hAny, hCount, hExpiry]

theorem restoreKeepsPromise_iff (env : Env) (lease : RuntimeWriterLease) (db : LeaseDb) :
    RestoreKeepsPromise env lease ttlSecs db ↔ RestoreCondition env lease ttlSecs db := by
  constructor
  · intro hPromise hRestorable
    split
    · rename_i row hKept
      intro hSame
      rw [← find?_cleaned] at hKept
      have hRun := restoreIfUnheld_of_same ttlSecs hRestorable hKept hSame
      exact unexpired_iff.mp ((usable_of_found hKept hSame).mp ((hPromise _ _ hRun).1 rfl))
    · rename_i hKept
      intro expiry hExpiry
      rw [← find?_cleaned] at hKept
      have hRun := restoreIfUnheld_of_free hRestorable hKept hExpiry
      have hUsable := (hPromise _ _ hRun).1 rfl
      rw [usable_of_found (find?_inserted expiry hKept) (sameLease_restoredRow env lease expiry)] at hUsable
      exact (unexpired_restoredRow_iff (le_of_addSecs hExpiry)).mp hUsable
  · intro hCondition db' yes hRun
    rcases restoreIfUnheld_cases hRun with ⟨rfl, rfl⟩ | ⟨rfl, hRestorable, hAny, rfl⟩ |
      ⟨rfl, hRestorable, hFree, expiry, hExpiry, rfl⟩
    · refine ⟨by simp, fun _ => ?_⟩
      rw [cleaned, cleanupExpiredTx_leases]
    · refine ⟨fun _ => ?_, by simp⟩
      obtain ⟨row, hRow, hSame⟩ := List.any_eq_true.mp hAny
      have hFind := Table.find?_eq_some_iff.mpr ⟨hRow, (sameLease_iff.mp hSame).1⟩
      have hCase := hCondition hRestorable
      rw [← find?_cleaned, hFind] at hCase
      exact (usable_of_found hFind hSame).mpr (unexpired_iff.mpr (hCase hSame))
    · refine ⟨fun _ => ?_, by simp⟩
      have hCase := hCondition hRestorable
      rw [← find?_cleaned, hFree] at hCase
      rw [usable_of_found (find?_inserted expiry hFree) (sameLease_restoredRow env lease expiry)]
      exact (unexpired_restoredRow_iff (le_of_addSecs hExpiry)).mpr (hCase expiry hExpiry)

def restoredUnder : (Env × LeaseOp) × LeaseOutcome → Option RuntimeWriterLease
  | ((_, .restoreIfUnheld lease _), .answered true) => some lease
  | _ => none

theorem current_of_restoredUnder {a : Env × LeaseOp}
    (h : restoredUnder (a, leaseMachine.output db a) = some lease) :
    db.lastGeneration lease.name = some (lease.generation.toNat : Int) := by
  obtain ⟨env, op⟩ := a
  cases op with
  | restoreIfUnheld lease' ttlSecs =>
    simp only [Machine.output, leaseMachine, step] at h
    cases hRun : restoreIfUnheld env lease' ttlSecs db with
    | error fault => simp [hRun, commitOrRollback, restoredUnder] at h
    | ok result =>
      obtain ⟨db', yes⟩ := result
      rcases restoreIfUnheld_cases hRun with ⟨rfl, _⟩ | ⟨rfl, hRestorable, _⟩ | ⟨rfl, hRestorable, _⟩
      · simp [hRun, commitOrRollback, restoredUnder] at h
      · simp only [hRun, commitOrRollback, restoredUnder, Option.some.injEq] at h
        exact h ▸ hRestorable.current
      · simp only [hRun, commitOrRollback, restoredUnder, Option.some.injEq] at h
        exact h ▸ hRestorable.current
  | _ => simp [restoredUnder] at h

theorem trace_restores {schedule : List (Env × LeaseOp)} (hFenced : Fenced db) :
    (leaseMachine.trace db schedule).Pairwise fun e e' => ∀ lease old, handedOut e = some lease →
      restoredUnder e' = some old → old.name = lease.name → ¬ old.generation < lease.generation := by
  refine trace_of_reaches ?_ hFenced schedule
  intro e db a _ hReaches lease old hLease hOld hName hLt
  obtain ⟨last, hLast, hLe⟩ := hReaches lease hLease
  have hCurrent := current_of_restoredUnder hOld
  rw [hName, hLast, Option.some.injEq] at hCurrent
  rw [UInt64.lt_iff_toNat_lt] at hLt
  omega

/-- The promise holds in exactly the tables that meet the condition; and in every run, after a takeover of the
name, no lease from before it is ever restored. -/
theorem restoreIfUnheld_usable_iff (env : Env) (lease : RuntimeWriterLease) (ttlSecs : UInt64) (db : LeaseDb)
    (legacy : Table LeaseRow.name) (schedule : List (Env × LeaseOp)) :
    (RestoreKeepsPromise env lease ttlSecs db ↔ RestoreCondition env lease ttlSecs db) ∧
    (∀ produced takeover restored,
      [produced, takeover, restored].Sublist (leaseMachine.trace (applyV26 legacy) schedule) →
        ∀ lease later, handedOut produced = some lease → handedOut takeover = some later →
          later.name = lease.name → ∀ old, restoredUnder restored = some old → old.name = lease.name →
            old.generation ≠ lease.generation) := by
  refine ⟨restoreKeepsPromise_iff env lease db, ?_⟩
  intro produced takeover restored hSub lease later hLease hLater hName old hOld hOldName hEq
  have hGrant := (trace_supersedes (applyV26_fenced legacy) schedule).sublist hSub
  have hRestore := (trace_restores (applyV26_fenced legacy)).sublist hSub
  simp only [List.pairwise_cons, List.mem_cons, List.not_mem_nil, or_false, forall_eq_or_imp, forall_eq] at *
  have hAbove := (hGrant.1.1 lease hLease).1 later hLater hName
  exact hRestore.2.1 later old hLater hOld (hOldName.trans hName.symm) (hEq ▸ hAbove)

def allAlive : Oracle := ⟨some "boot", fun _ _ => true, fun _ _ _ => .live⟩

/-- At the start of the year 2026, and a hundred seconds later. -/
def atAcquire : Env := ⟨1767225600000, allAlive⟩

def afterPause : Env := ⟨1767225700000, allAlive⟩

def pausedArgs : AcquireArgs :=
  { name := "ingest", owner := "worker", mode := "mcp", ttlSecs := 60, persistedMetadataJson := "", pid := 7
    sessionId := "session" }

def pausedLease : RuntimeWriterLease :=
  { name := "ingest", owner := "worker", generation := 1, pid := 7, bootId := some "boot", sessionId := "session"
    acquiredAt := "2026-01-01T00:00:00Z", expiresAt := "2026-01-01T00:01:00Z"
    heartbeatAt := "2026-01-01T00:00:00Z", mode := "mcp", metadataJson := some "", remainingSecs := 60 }

/-- The holder of a one-minute lease comes back after a hundred seconds: the restore answers yes, and at the same
instant the lease is inactive and both fences refuse it. -/
theorem pausedHolder_restored_unusable :
    (leaseMachine.trace (applyV26 Table.empty)
      [(atAcquire, .acquire .standard pausedArgs), (afterPause, .restoreIfUnheld pausedLease 60),
        (afterPause, .isActive pausedLease), (afterPause, .writeDatabase pausedLease),
        (afterPause, .writeQueue pausedLease)]).map Prod.snd =
      [.granted (some pausedLease), .answered true, .answered false, .answered false, .answered false] := by
  decide

end Mempal.WriterLease

import Mempal.WriterLease.System

set_option autoImplicit false

/-! A counter never goes back and a holder never falls behind its counter, in any run. -/

namespace Mempal.WriterLease

open Foundation

def handedOut : (Env × LeaseOp) × LeaseOutcome → Option RuntimeWriterLease
  | (_, .granted lease) => lease
  | _ => none

/-- The lease under which an event renews or commits a fenced write. -/
def committedUnder : (Env × LeaseOp) × LeaseOutcome → Option RuntimeWriterLease
  | ((_, .renew lease _), .answered true) => some lease
  | ((_, .writeDatabase lease), .answered true) => some lease
  | ((_, .writeQueue lease), .answered true) => some lease
  | _ => none

variable {db db' : LeaseDb} {lease : RuntimeWriterLease} {a : Env × LeaseOp}

theorem Quiet.lastGeneration (h : Quiet db db') (name : String) :
    db'.lastGeneration name = db.lastGeneration name := by
  rw [LeaseDb.lastGeneration, h.generations, LeaseDb.lastGeneration]

theorem Quiet.fenced (h : Quiet db db') (hFenced : Fenced db) : Fenced db' := by
  intro row' hRow'
  rw [h.lastGeneration]
  rcases h.holders row' hRow' with ⟨row, hRow, hName, hGeneration⟩ | hCurrent
  · rw [← hName, ← hGeneration]
    exact hFenced row hRow
  · exact hCurrent

theorem Grants.fenced (h : Grants db db' lease) (hFenced : Fenced db) : Fenced db' := by
  intro row' hRow'
  rcases h.holders row' hRow' with ⟨hName, hGeneration⟩ | ⟨hName, hOld⟩
  · rw [hName, hGeneration]
    exact h.counter
  · rw [h.others _ hName]
    exact hFenced row' hOld

theorem next_fenced (db : LeaseDb) (a : Env × LeaseOp) (hFenced : Fenced db) :
    Fenced (leaseMachine.next db a) := by
  rcases step_cases db a with ⟨hQuiet, _⟩ | ⟨lease, _, hGrants⟩
  · exact hQuiet.fenced hFenced
  · exact hGrants.fenced hFenced

def Reached (name : String) (g : Int) (db : LeaseDb) : Prop := ∃ last, db.lastGeneration name = some last ∧ g ≤ last

theorem next_reached {name : String} {g : Int} (db : LeaseDb) (a : Env × LeaseOp) (h : Reached name g db) :
    Reached name g (leaseMachine.next db a) := by
  obtain ⟨last, hLast, hLe⟩ := h
  rcases step_cases db a with ⟨hQuiet, _⟩ | ⟨lease, _, hGrants⟩
  · exact ⟨last, (hQuiet.lastGeneration name).trans hLast, hLe⟩
  · by_cases hName : name = lease.name
    · subst hName
      have hAbove := hGrants.above
      rw [hLast, Option.getD_some] at hAbove
      exact ⟨_, hGrants.counter, by omega⟩
    · exact ⟨last, (hGrants.others name hName).trans hLast, hLe⟩

theorem grants_of_handedOut
    (h : handedOut (a, leaseMachine.output db a) = some lease) : Grants db (leaseMachine.next db a) lease := by
  rcases step_cases db a with ⟨_, hNone⟩ | ⟨lease', hOut, hGrants⟩
  · cases hOut : leaseMachine.output db a with
    | granted result =>
      rw [hOut] at h
      have hResult : result = some lease := h
      exact absurd (hOut.trans (congrArg _ hResult)) (hNone lease)
    | _ => simp [hOut, handedOut] at h
  · rw [hOut] at h
    cases h
    exact hGrants

theorem mem_of_holdsLease {now : Nat} {leases : Table LeaseRow.name} (h : holdsLease now lease leases = true) :
    ∃ row ∈ leases, row.name = lease.name ∧ row.generation = asI64 lease.generation := by
  obtain ⟨row, hRow, hBoth⟩ := List.any_eq_true.mp h
  rw [Bool.and_eq_true, sameLease_iff] at hBoth
  exact ⟨row, hRow, hBoth.1.1, hBoth.1.2.2.2⟩

theorem mem_of_committedUnder (h : committedUnder (a, leaseMachine.output db a) = some lease) :
    ∃ row ∈ db.leases, row.name = lease.name ∧ row.generation = asI64 lease.generation := by
  obtain ⟨env, op⟩ := a
  have hClean : ∀ lease', holdsLease env.now lease' (cleanupExpiredTx env true db.leases).1 = true →
      ∃ row ∈ db.leases, row.name = lease'.name ∧ row.generation = asI64 lease'.generation := by
    intro lease' hHolds
    obtain ⟨row, hRow, hFields⟩ := mem_of_holdsLease hHolds
    exact ⟨row, mem_of_mem_cleanup hRow, hFields⟩
  cases op with
  | renew lease' ttlSecs =>
    simp only [Machine.output, leaseMachine, step, renew] at h
    split at h
    · simp [commitOrRollback, committedUnder] at h
    · simp only [commitOrRollback] at h
      cases hCount : (cleanupExpiredTx env true db.leases).1.count
          (fun row => sameLease lease' row && unexpired env.now row) != 0 with
      | false => simp [hCount, committedUnder] at h
      | true =>
        simp only [hCount, committedUnder, Option.some.injEq] at h
        subst h
        have hSome := Nat.pos_of_ne_zero (bne_iff_ne.mp hCount)
        obtain ⟨row, hRow, hBoth⟩ := List.countP_pos_iff.mp hSome
        exact hClean lease' (List.any_eq_true.mpr ⟨row, hRow, hBoth⟩)
  | writeDatabase lease' =>
    simp only [Machine.output, leaseMachine, step, writeDatabase] at h
    split at h
    · rename_i hHolds
      simp only [committedUnder, Option.some.injEq] at h
      subst h
      exact hClean lease' hHolds
    · simp [committedUnder] at h
  | writeQueue lease' =>
    simp only [Machine.output, leaseMachine, step, writeQueue] at h
    cases hHolds : holdsLease env.now lease' db.leases with
    | false => simp [hHolds, committedUnder] at h
    | true =>
      simp only [hHolds, committedUnder, Option.some.injEq] at h
      subst h
      exact mem_of_holdsLease hHolds
  | _ => simp [committedUnder] at h

theorem asI64_le (n : UInt64) : asI64 n ≤ n.toNat := by
  unfold asI64
  split <;> omega

def Reaches (e : (Env × LeaseOp) × LeaseOutcome) (db : LeaseDb) : Prop :=
  ∀ lease, handedOut e = some lease → Reached lease.name lease.generation.toNat db

def Supersedes (e e' : (Env × LeaseOp) × LeaseOutcome) : Prop :=
  ∀ lease, handedOut e = some lease →
    (∀ later, handedOut e' = some later → later.name = lease.name → lease.generation < later.generation) ∧
    (∀ older, committedUnder e' = some older → older.name = lease.name → ¬ older.generation < lease.generation)

theorem supersedes_of_reaches {e : (Env × LeaseOp) × LeaseOutcome} (hFenced : Fenced db) (h : Reaches e db) :
    Supersedes e (a, leaseMachine.output db a) := by
  intro lease hLease
  obtain ⟨last, hLast, hLe⟩ := h lease hLease
  constructor
  · intro later hLater hName
    have hAbove := (grants_of_handedOut hLater).above
    rw [hName, hLast, Option.getD_some] at hAbove
    rw [UInt64.lt_iff_toNat_lt]
    omega
  · intro older hOlder hName hLt
    obtain ⟨row, hRow, hRowName, hGeneration⟩ := mem_of_committedUnder hOlder
    have hCurrent := hFenced row hRow
    rw [hRowName, hName, hLast, Option.some.injEq, hGeneration] at hCurrent
    have hBelow := asI64_le older.generation
    rw [UInt64.lt_iff_toNat_lt] at hLt
    omega

theorem trace_of_reaches {Q : (Env × LeaseOp) × LeaseOutcome → (Env × LeaseOp) × LeaseOutcome → Prop}
    (hUse : ∀ e db a, Fenced db → Reaches e db → Q e (a, leaseMachine.output db a)) (hFenced : Fenced db)
    (schedule : List (Env × LeaseOp)) : (leaseMachine.trace db schedule).Pairwise Q := by
  have hLeave : ∀ db a, Fenced db → Reaches (a, leaseMachine.output db a) (leaseMachine.next db a) := by
    intro db a _ lease hLease
    exact ⟨_, (grants_of_handedOut hLease).counter, Int.le_refl _⟩
  have hKeep : ∀ e db a, Fenced db → Reaches e db → Reaches e (leaseMachine.next db a) := by
    intro e db a _ hReaches lease hLease
    exact next_reached db a (hReaches lease hLease)
  exact Machine.pairwise_trace next_fenced hLeave hKeep hUse hFenced schedule

theorem trace_supersedes (hFenced : Fenced db) (schedule : List (Env × LeaseOp)) :
    (leaseMachine.trace db schedule).Pairwise Supersedes :=
  trace_of_reaches (fun _ _ _ hFenced hReaches => supersedes_of_reaches hFenced hReaches) hFenced schedule

/-- From any upgraded database, however the transactions of however many processes interleave. -/
theorem generation_fencing (legacy : Table LeaseRow.name) (schedule : List (Env × LeaseOp)) :
    (∀ name, (leaseMachine.final (applyV26 legacy) schedule).leases.count (fun row => row.name = name) ≤ 1) ∧
    (∀ row ∈ (leaseMachine.final (applyV26 legacy) schedule).leases,
      (leaseMachine.final (applyV26 legacy) schedule).lastGeneration row.name = some row.generation) ∧
    (leaseMachine.trace (applyV26 legacy) schedule).Pairwise (fun e e' =>
      ∀ lease later, handedOut e = some lease → handedOut e' = some later → later.name = lease.name →
        lease.generation < later.generation) ∧
    (leaseMachine.trace (applyV26 legacy) schedule).Pairwise (fun e e' =>
      ∀ lease older, handedOut e = some lease → committedUnder e' = some older → older.name = lease.name →
        ¬ older.generation < lease.generation) := by
  have hPairs := trace_supersedes (applyV26_fenced legacy) schedule
  refine ⟨fun name => Table.count_key_le_one _ name, ?_, ?_, ?_⟩
  · exact Machine.invariant next_fenced (applyV26_fenced legacy) schedule
  · exact hPairs.imp fun h lease later hLease => (h lease hLease).1 later
  · exact hPairs.imp fun h lease older hLease => (h lease hLease).2 older

end Mempal.WriterLease

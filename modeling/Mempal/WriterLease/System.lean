import Mempal.Foundation.Machine
import Mempal.WriterLease.Cleanup

set_option autoImplicit false

/-! Any number of processes issue lease transactions in any order, so a run is a list of operations with the
environment each of them met. -/

namespace Mempal.WriterLease

open Foundation

inductive LeaseOp where
  | acquire (policy : AcquirePolicy) (args : AcquireArgs)
  | renew (lease : RuntimeWriterLease) (ttlSecs : UInt64)
  | release (lease : RuntimeWriterLease)
  | restoreIfUnheld (lease : RuntimeWriterLease) (ttlSecs : UInt64)
  | cleanupExpired
  | isActive (lease : RuntimeWriterLease)
  | writeDatabase (lease : RuntimeWriterLease)
  | writeQueue (lease : RuntimeWriterLease)

inductive LeaseOutcome where
  | granted (lease : Option RuntimeWriterLease)
  | answered (yes : Bool)
  | removed (rows : Nat)
  | failed (fault : Fault)
deriving DecidableEq

def commitOrRollback {β : Type} (db : LeaseDb) (outcome : β → LeaseOutcome) :
    Except Fault (LeaseDb × β) → LeaseDb × LeaseOutcome
  | .error fault => (db, .failed fault)
  | .ok (db', result) => (db', outcome result)

def step (db : LeaseDb) : Env × LeaseOp → LeaseDb × LeaseOutcome
  | (env, .acquire policy args) => commitOrRollback db .granted (acquire env policy args db)
  | (env, .renew lease ttlSecs) => commitOrRollback db .answered (renew env lease ttlSecs db)
  | (_, .release lease) => ((release lease db).1, .answered (release lease db).2)
  | (env, .restoreIfUnheld lease ttlSecs) =>
    commitOrRollback db .answered (restoreIfUnheld env lease ttlSecs db)
  | (env, .cleanupExpired) => ((cleanupExpired env db).1, .removed (cleanupExpired env db).2)
  | (env, .isActive lease) => ((isActive env lease db).1, .answered (isActive env lease db).2)
  | (env, .writeDatabase lease) => ((writeDatabase env lease db).1, .answered (writeDatabase env lease db).2)
  | (env, .writeQueue lease) => ((writeQueue env lease db).1, .answered (writeQueue env lease db).2)

def leaseMachine : Machine LeaseDb (Env × LeaseOp) LeaseOutcome := ⟨step⟩

def LeaseDb.lastGeneration (db : LeaseDb) (name : String) : Option Int :=
  (db.generations.find? name).map GenerationRow.lastGeneration

theorem zero_lt_firstGeneration : (0 : Int) < 1 := Int.one_pos

theorem firstGeneration_le_i64Max : (1 : Int) ≤ i64Max := by decide

/-- The schema upgrade that introduces generations: every existing holder gets generation one. -/
def applyV26 (legacy : Table LeaseRow.name) : LeaseDb where
  leases := legacy.update (fun _ => true) (fun row => { row with generation := 1 }) (fun _ => rfl)
  generations :=
    ⟨legacy.rows.map fun row => ⟨row.name, 1, zero_lt_firstGeneration, firstGeneration_le_i64Max⟩, by
      rw [List.map_map]
      exact legacy.unique⟩

def Fenced (db : LeaseDb) : Prop := ∀ row ∈ db.leases, db.lastGeneration row.name = some row.generation

theorem applyV26_fenced (legacy : Table LeaseRow.name) : Fenced (applyV26 legacy) := by
  intro row hRow
  rw [applyV26, Table.mem_update] at hRow
  obtain ⟨row', hRow', rfl⟩ := hRow
  have hMem : (⟨row'.name, 1, zero_lt_firstGeneration, firstGeneration_le_i64Max⟩ : GenerationRow) ∈
      (applyV26 legacy).generations :=
    List.mem_map.mpr ⟨row', hRow', rfl⟩
  have hFind := Table.find?_of_mem hMem
  simp only [LeaseDb.lastGeneration, if_true]
  rw [hFind]
  rfl

variable {db db' : LeaseDb} {env : Env} {name : String} {g : Int} {leases : Table LeaseRow.name}
  {lease : RuntimeWriterLease} {ttlSecs : UInt64} {yes : Bool}

theorem lastGeneration_bounds (h : db.lastGeneration name = some g) : 0 < g ∧ g ≤ i64Max := by
  obtain ⟨row, _, rfl⟩ := Option.map_eq_some_iff.mp h
  exact ⟨row.positive, row.bounded⟩

theorem toNat_toU64 (hPos : 0 < g) (hMax : g ≤ i64Max) : ((toU64 g).toNat : Int) = g := by
  have hLt : g.toNat < 2 ^ 64 := by simp only [i64Max] at hMax; omega
  have hEq : toU64 g = UInt64.ofNat g.toNat := if_pos (Int.le_of_lt hPos)
  rw [hEq, UInt64.toNat_ofNat_of_lt' hLt]
  omega

theorem asI64_of_le {n : UInt64} (h : (n.toNat : Int) ≤ i64Max) : asI64 n = n.toNat := by
  have hLt : n.toNat < 2 ^ 63 := by simp only [i64Max] at h; omega
  rw [asI64, if_pos hLt]

theorem asI64_toU64 (hPos : 0 < g) (hMax : g ≤ i64Max) : asI64 (toU64 g) = g := by
  have hNat := toNat_toU64 hPos hMax
  rw [asI64_of_le (hNat.symm ▸ hMax), hNat]

structure Quiet (db db' : LeaseDb) : Prop where
  generations : db'.generations = db.generations
  holders : ∀ row' ∈ db'.leases, (∃ row ∈ db.leases, row.name = row'.name ∧ row.generation = row'.generation) ∨
    db.lastGeneration row'.name = some row'.generation

/-- The counter of one name moves up to the generation of the lease that is handed out. -/
structure Grants (db db' : LeaseDb) (lease : RuntimeWriterLease) : Prop where
  counter : db'.lastGeneration lease.name = some (lease.generation.toNat : Int)
  above : (db.lastGeneration lease.name).getD 0 < (lease.generation.toNat : Int)
  others : ∀ name, name ≠ lease.name → db'.lastGeneration name = db.lastGeneration name
  holders : ∀ row' ∈ db'.leases, (row'.name = lease.name ∧ row'.generation = lease.generation.toNat) ∨
    (row'.name ≠ lease.name ∧ row' ∈ db.leases)

theorem Quiet.refl (db : LeaseDb) : Quiet db db := ⟨rfl, fun row' h => Or.inl ⟨row', h, rfl, rfl⟩⟩

theorem Quiet.of_subset (h : ∀ row ∈ leases, row ∈ db.leases) : Quiet db ⟨leases, db.generations⟩ :=
  ⟨rfl, fun row' hRow => Or.inl ⟨row', h row' hRow, rfl, rfl⟩⟩

theorem mem_of_mem_cleanup {preserveLiveHolders : Bool} {row : LeaseRow}
    (h : row ∈ (cleanupExpiredTx env preserveLiveHolders leases).1) : row ∈ leases :=
  (mem_cleanupExpiredTx.mp h).1

theorem bumpGeneration_spec {generations : Table GenerationRow.name} (leases : Table LeaseRow.name)
    (h : bumpGeneration db.generations name = .ok (generations, g)) :
    (LeaseDb.mk leases generations).lastGeneration name = some g ∧ (db.lastGeneration name).getD 0 < g ∧
      ∀ other, other ≠ name → (LeaseDb.mk leases generations).lastGeneration other = db.lastGeneration other := by
  unfold bumpGeneration at h
  split at h
  · rename_i hNone
    cases h
    refine ⟨?_, by simp [LeaseDb.lastGeneration, hNone], ?_⟩
    · simp [LeaseDb.lastGeneration, Table.find?_insertOrIgnore, hNone]
    · intro other hOther
      simp [LeaseDb.lastGeneration, Table.find?_insertOrIgnore, hOther.symm]
  · rename_i row hSome
    split at h
    · cases h
      have hName := (Table.find?_eq_some_iff.mp hSome).2
      refine ⟨?_, by simp only [LeaseDb.lastGeneration, hSome, Option.map_some, Option.getD_some]; omega, ?_⟩
      · simp [LeaseDb.lastGeneration, Table.find?_update, hSome, hName]
      · intro other hOther
        simp only [LeaseDb.lastGeneration, Table.find?_update, Option.map_map]
        cases hFind : db.generations.find? other with
        | none => rfl
        | some row' =>
          have hName' := (Table.find?_eq_some_iff.mp hFind).2
          simp [hName', hOther]
    · cases h

theorem acquire_spec {policy : AcquirePolicy} {args : AcquireArgs} {result : Option RuntimeWriterLease}
    (h : acquire env policy args db = .ok (db', result)) :
    (result = none ∧ Quiet db db') ∨ ∃ lease, result = some lease ∧ lease.name = args.name ∧ Grants db db' lease := by
  unfold acquire at h
  extract_lets cleaned leases at h
  have hSub : ∀ row ∈ leases, row ∈ db.leases := by
    intro row hRow
    simp only [leases] at hRow
    split at hRow
    · rw [rebindDeadDaemon_leases] at hRow
      exact mem_of_mem_cleanup (Table.mem_delete.mp hRow).1
    · exact mem_of_mem_cleanup hRow
  clear_value leases
  split at h
  · cases h
  · split at h
    · cases h
      exact Or.inl ⟨rfl, Quiet.of_subset hSub⟩
    · rename_i hFree
      split at h
      · cases h
      · rename_i generations g hBump
        cases h
        obtain ⟨hCounter, hAbove, hOthers⟩ := bumpGeneration_spec
          (leases.insertOrIgnore ⟨args.name, args.owner, asI64 (toU64 g), args.pid.toNat, env.oracle.bootId,
            args.sessionId, formatRfc3339 env.now, _, formatRfc3339 env.now, args.mode,
            some args.persistedMetadataJson⟩) hBump
        obtain ⟨hPos, hMax⟩ := lastGeneration_bounds hCounter
        have hNat := toNat_toU64 hPos hMax
        refine Or.inr ⟨_, rfl, rfl, ⟨by rw [hNat]; exact hCounter, by rw [hNat]; exact hAbove, hOthers, ?_⟩⟩
        intro row' hRow'
        rcases Table.mem_insertOrIgnore hRow' with hOld | rfl
        · refine Or.inr ⟨?_, hSub row' hOld⟩
          exact Table.find?_eq_none_iff.mp (Table.contains_eq_false_iff.mp (by simpa using hFree)) row' hOld
        · exact Or.inl ⟨rfl, by rw [hNat]; exact asI64_toU64 hPos hMax⟩

theorem renew_quiet (h : renew env lease ttlSecs db = .ok (db', yes)) : Quiet db db' := by
  unfold renew at h
  split at h
  · cases h
  · cases h
    refine ⟨rfl, ?_⟩
    intro row' hRow'
    rw [Table.mem_update] at hRow'
    obtain ⟨row, hRow, rfl⟩ := hRow'
    refine Or.inl ⟨row, mem_of_mem_cleanup hRow, ?_⟩
    split <;> exact ⟨rfl, rfl⟩

def cleaned (env : Env) (db : LeaseDb) : LeaseDb := ⟨(cleanupExpiredTx env true db.leases).1, db.generations⟩

theorem cleaned_quiet (env : Env) (db : LeaseDb) : Quiet db (cleaned env db) :=
  Quiet.of_subset fun _ hRow => mem_of_mem_cleanup hRow

def restoredRow (env : Env) (lease : RuntimeWriterLease) (expiry : Nat) : LeaseRow :=
  { name := lease.name, owner := lease.owner, generation := asI64 lease.generation, pid := lease.pid.toNat
    bootId := lease.bootId, sessionId := lease.sessionId, acquiredAt := formatRfc3339 env.now
    expiresAt := formatRfc3339 expiry, heartbeatAt := formatRfc3339 env.now, mode := lease.mode
    metadataJson := lease.metadataJson }

/-- A restore goes past its first two checks. -/
structure Restorable (env : Env) (lease : RuntimeWriterLease) (db : LeaseDb) : Prop where
  live : holderIsLive env.oracle lease.owner lease.pid lease.bootId lease.mode lease.metadataJson = true
  current : db.lastGeneration lease.name = some (lease.generation.toNat : Int)

theorem restoreIfUnheld_cases (h : restoreIfUnheld env lease ttlSecs db = .ok (db', yes)) :
    (yes = false ∧ db' = cleaned env db) ∨
    (yes = true ∧ Restorable env lease db ∧ (cleaned env db).leases.rows.any (sameLease lease) = true ∧
      db' = cleaned env db) ∨
    (yes = true ∧ Restorable env lease db ∧ (cleaned env db).leases.find? lease.name = none ∧
      ∃ expiry, addSecs env.now ttlSecs = some expiry ∧
        db' = ⟨(cleaned env db).leases.insertOrIgnore (restoredRow env lease expiry), db.generations⟩) := by
  simp only [restoreIfUnheld] at h
  split at h
  · cases h
    exact Or.inl ⟨rfl, rfl⟩
  · rename_i hLive
    split at h
    · cases h
      exact Or.inl ⟨rfl, rfl⟩
    · rename_i hLast
      have hRestorable : Restorable env lease db := ⟨by simpa using hLive, not_not.mp hLast⟩
      split at h
      · rename_i hSame
        cases h
        exact Or.inr (Or.inl ⟨rfl, hRestorable, hSame, rfl⟩)
      · split at h
        · cases h
          exact Or.inl ⟨rfl, rfl⟩
        · rename_i hHolders
          have hFree : (cleaned env db).leases.find? lease.name = none := by
            rw [Table.find?_eq_none_iff]
            intro row hRow
            simpa using List.countP_eq_zero.mp (not_not.mp hHolders) row hRow
          split at h
          · cases h
          · rename_i expiry hExpiry
            cases h
            exact Or.inr (Or.inr ⟨rfl, hRestorable, hFree, expiry, hExpiry, rfl⟩)

theorem restoreIfUnheld_quiet (h : restoreIfUnheld env lease ttlSecs db = .ok (db', yes)) : Quiet db db' := by
  rcases restoreIfUnheld_cases h with ⟨_, rfl⟩ | ⟨_, _, _, rfl⟩ | ⟨_, hRestorable, _, expiry, _, rfl⟩
  · exact cleaned_quiet env db
  · exact cleaned_quiet env db
  · refine ⟨rfl, ?_⟩
    intro row' hRow'
    rcases Table.mem_insertOrIgnore hRow' with hOld | rfl
    · exact (cleaned_quiet env db).holders row' hOld
    · right
      simp only [restoredRow]
      rw [hRestorable.current, asI64_of_le (lastGeneration_bounds hRestorable.current).2]

theorem step_cases (db : LeaseDb) (a : Env × LeaseOp) :
    (Quiet db (leaseMachine.next db a) ∧ ∀ lease, leaseMachine.output db a ≠ .granted (some lease)) ∨
      ∃ lease, leaseMachine.output db a = .granted (some lease) ∧ Grants db (leaseMachine.next db a) lease := by
  obtain ⟨env, op⟩ := a
  have hDelete : ∀ p, Quiet db ⟨db.leases.delete p, db.generations⟩ := fun p =>
    Quiet.of_subset fun row hRow => (Table.mem_delete.mp hRow).1
  have hClean : ∀ preserve, Quiet db ⟨(cleanupExpiredTx env preserve db.leases).1, db.generations⟩ :=
    fun preserve => Quiet.of_subset fun row hRow => mem_of_mem_cleanup hRow
  cases op with
  | acquire policy args =>
    simp only [Machine.next, Machine.output, leaseMachine, step]
    cases hRun : acquire env policy args db with
    | error fault => exact Or.inl ⟨Quiet.refl db, fun _ => by simp [commitOrRollback]⟩
    | ok result =>
      obtain ⟨db', result⟩ := result
      rcases acquire_spec hRun with ⟨rfl, hQuiet⟩ | ⟨lease, rfl, _, hGrants⟩
      · exact Or.inl ⟨hQuiet, fun _ => by simp [commitOrRollback]⟩
      · exact Or.inr ⟨lease, rfl, hGrants⟩
  | renew lease ttlSecs =>
    left
    simp only [Machine.next, Machine.output, leaseMachine, step]
    cases hRun : renew env lease ttlSecs db with
    | error fault => exact ⟨Quiet.refl db, fun _ => by simp [commitOrRollback]⟩
    | ok result => exact ⟨renew_quiet hRun, fun _ => by simp [commitOrRollback]⟩
  | restoreIfUnheld lease ttlSecs =>
    left
    simp only [Machine.next, Machine.output, leaseMachine, step]
    cases hRun : restoreIfUnheld env lease ttlSecs db with
    | error fault => exact ⟨Quiet.refl db, fun _ => by simp [commitOrRollback]⟩
    | ok result => exact ⟨restoreIfUnheld_quiet hRun, fun _ => by simp [commitOrRollback]⟩
  | release lease => exact Or.inl ⟨hDelete _, fun _ => by simp [Machine.output, leaseMachine, step]⟩
  | cleanupExpired | isActive => exact Or.inl ⟨hClean _, fun _ => by simp [Machine.output, leaseMachine, step]⟩
  | writeQueue lease => exact Or.inl ⟨Quiet.refl db, fun _ => by simp [Machine.output, leaseMachine, step]⟩
  | writeDatabase lease =>
    refine Or.inl ⟨?_, fun _ => by simp [Machine.output, leaseMachine, step]⟩
    simp only [Machine.next, leaseMachine, step, writeDatabase]
    split
    · exact hClean _
    · exact Quiet.refl db

end Mempal.WriterLease

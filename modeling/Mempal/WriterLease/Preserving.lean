import Mempal.WriterLease.System

set_option autoImplicit false

/-! The lease operations that the daemon and its clients use all clean up with `preserve_live_holders`. -/

namespace Mempal.WriterLease

open Foundation

inductive PreservingOp where
  | acquirePreservingLiveHolders (args : AcquireArgs)
  | acquireForDaemonStart (args : AcquireArgs)
  | renew (lease : RuntimeWriterLease) (ttlSecs : UInt64)
  | release (lease : RuntimeWriterLease)
  | restoreIfUnheld (lease : RuntimeWriterLease) (ttlSecs : UInt64)
  | isActive (lease : RuntimeWriterLease)
  | status (name : Option String)
  | writeDatabase (lease : RuntimeWriterLease)
  | writeQueue (lease : RuntimeWriterLease)

/-- `runtime_writer_lease_status`: the cleanup, and the rows of one name or of all. -/
def status (env : Env) (name : Option String) (db : LeaseDb) : LeaseDb × List LeaseRow :=
  let leases := (cleanupExpiredTx env true db.leases).1
  (⟨leases, db.generations⟩, leases.rows.filter fun row => name.all (row.name = ·))

inductive PreservingOutcome where
  | lease (outcome : LeaseOutcome)
  | listed (rows : List LeaseRow)
deriving DecidableEq

def preservingMachine : Machine LeaseDb (Env × PreservingOp) PreservingOutcome where
  step db a :=
    let run (op : LeaseOp) := ((step db (a.1, op)).1, PreservingOutcome.lease (step db (a.1, op)).2)
    match a.2 with
    | .acquirePreservingLiveHolders args => run (.acquire .preserveLiveHolders args)
    | .acquireForDaemonStart args => run (.acquire .rebindDeadDaemon { args with mode := "daemon" })
    | .renew lease ttlSecs => run (.renew lease ttlSecs)
    | .release lease => run (.release lease)
    | .restoreIfUnheld lease ttlSecs => run (.restoreIfUnheld lease ttlSecs)
    | .isActive lease => run (.isActive lease)
    | .status name => ((status a.1 name db).1, .listed (status a.1 name db).2)
    | .writeDatabase lease => run (.writeDatabase lease)
    | .writeQueue lease => run (.writeQueue lease)

/-- The same holding, up to the two columns that a renewal writes. -/
structure SameHolder (row row' : LeaseRow) : Prop where
  name : row'.name = row.name
  owner : row'.owner = row.owner
  generation : row'.generation = row.generation
  pid : row'.pid = row.pid
  bootId : row'.bootId = row.bootId
  sessionId : row'.sessionId = row.sessionId
  acquiredAt : row'.acquiredAt = row.acquiredAt
  mode : row'.mode = row.mode
  metadataJson : row'.metadataJson = row.metadataJson

theorem SameHolder.refl (row : LeaseRow) : SameHolder row row := ⟨rfl, rfl, rfl, rfl, rfl, rfl, rfl, rfl, rfl⟩

theorem SameHolder.trans {row row' row'' : LeaseRow} (h : SameHolder row row') (h' : SameHolder row' row'') :
    SameHolder row row'' where
  name := h'.name.trans h.name
  owner := h'.owner.trans h.owner
  generation := h'.generation.trans h.generation
  pid := h'.pid.trans h.pid
  bootId := h'.bootId.trans h.bootId
  sessionId := h'.sessionId.trans h.sessionId
  acquiredAt := h'.acquiredAt.trans h.acquiredAt
  mode := h'.mode.trans h.mode
  metadataJson := h'.metadataJson.trans h.metadataJson

theorem SameHolder.rowShouldRetain {row row' : LeaseRow} (h : SameHolder row row') (oracle : Oracle) :
    rowShouldRetain oracle row' = rowShouldRetain oracle row := by
  unfold WriterLease.rowShouldRetain
  rw [h.owner, h.pid, h.bootId, h.mode, h.metadataJson]

def PreservingOp.releases (row : LeaseRow) : PreservingOp → Bool
  | .release lease => sameLease lease row
  | _ => false

theorem SameHolder.releases {row row' : LeaseRow} (h : SameHolder row row') (op : PreservingOp) :
    op.releases row' = op.releases row := by
  cases op with
  | release lease =>
    simp only [PreservingOp.releases, sameLease, fences]
    rw [h.name, h.owner, h.sessionId, h.generation]
  | _ => rfl

section Step
variable {env : Env} {db : LeaseDb} {row : LeaseRow}

structure Spared (row : LeaseRow) (db' : LeaseDb) (outcome : PreservingOutcome) : Prop where
  stays : ∃ row' ∈ db'.leases, SameHolder row row'
  exclusive : ∀ lease, outcome = .lease (.granted (some lease)) → lease.name ≠ row.name

theorem mem_cleanup_of_retain (hRow : row ∈ db.leases) (hRetain : rowShouldRetain env.oracle row = true) :
    row ∈ (cleanupExpiredTx env true db.leases).1 := by
  refine mem_cleanupExpiredTx.mpr ⟨hRow, ?_⟩
  simp [stale, hRetain]

theorem Spared.unchanged {db' : LeaseDb} {outcome : PreservingOutcome} (hRow : row ∈ db'.leases)
    (hOutcome : ∀ lease, outcome ≠ .lease (.granted (some lease))) : Spared row db' outcome :=
  ⟨⟨row, hRow, SameHolder.refl row⟩, fun lease hEq => absurd hEq (hOutcome lease)⟩

theorem acquire_spares {policy : AcquirePolicy} {args : AcquireArgs} (hPolicy : policy ≠ .standard)
    (hRow : row ∈ db.leases) (hRetain : rowShouldRetain env.oracle row = true) :
    Spared row (step db (env, .acquire policy args)).1 (.lease (step db (env, .acquire policy args)).2) := by
  simp only [step]
  cases hRun : acquire env policy args db with
  | error fault => exact .unchanged hRow (by rintro _ ⟨⟩)
  | ok result =>
    unfold acquire at hRun
    extract_lets cleaned leases at hRun
    have hCleaned : row ∈ cleaned := by
      simp only [cleaned, bne_iff_ne.mpr hPolicy]
      exact mem_cleanup_of_retain hRow hRetain
    have hKept : row ∈ leases := by
      simp only [leases]
      split
      · rw [rebindDeadDaemon_leases]
        exact Table.mem_delete.mpr ⟨hCleaned, by simp [hRetain]⟩
      · exact hCleaned
    clear_value leases
    split at hRun
    · cases hRun
    · split at hRun
      · cases hRun
        exact .unchanged hKept (by rintro _ ⟨⟩)
      · rename_i hFree
        split at hRun
        · cases hRun
        · cases hRun
          refine ⟨⟨row, Table.mem_insertOrIgnore_of_mem hKept _, SameHolder.refl row⟩, ?_⟩
          rintro _ ⟨⟩ hName
          -- a holder of the name was there, so the lease is not handed out
          exact hFree (Table.contains_iff.mpr ⟨row, hKept, hName.symm⟩)

variable {lease : RuntimeWriterLease} {ttlSecs : UInt64}

theorem renew_spares (hRow : row ∈ db.leases) (hRetain : rowShouldRetain env.oracle row = true) :
    Spared row (step db (env, .renew lease ttlSecs)).1 (.lease (step db (env, .renew lease ttlSecs)).2) := by
  simp only [step]
  cases hRun : renew env lease ttlSecs db with
  | error fault => exact .unchanged hRow (by rintro _ ⟨⟩)
  | ok result =>
    unfold renew at hRun
    split at hRun
    · cases hRun
    · cases hRun
      refine ⟨⟨_, List.mem_map_of_mem (mem_cleanup_of_retain hRow hRetain), ?_⟩, by rintro _ ⟨⟩⟩
      split
      · exact ⟨rfl, rfl, rfl, rfl, rfl, rfl, rfl, rfl, rfl⟩
      · exact SameHolder.refl row

theorem restore_spares (hRow : row ∈ db.leases) (hRetain : rowShouldRetain env.oracle row = true) :
    Spared row (step db (env, .restoreIfUnheld lease ttlSecs)).1
      (.lease (step db (env, .restoreIfUnheld lease ttlSecs)).2) := by
  have hKept : row ∈ (cleaned env db).leases := mem_cleanup_of_retain hRow hRetain
  simp only [step]
  cases hRun : restoreIfUnheld env lease ttlSecs db with
  | error fault => exact .unchanged hRow (by rintro _ ⟨⟩)
  | ok result =>
    obtain ⟨db', yes⟩ := result
    rcases restoreIfUnheld_cases hRun with ⟨_, rfl⟩ | ⟨_, _, _, rfl⟩ | ⟨_, _, _, expiry, _, rfl⟩
    · exact .unchanged hKept (by rintro _ ⟨⟩)
    · exact .unchanged hKept (by rintro _ ⟨⟩)
    · exact .unchanged (Table.mem_insertOrIgnore_of_mem hKept _) (by rintro _ ⟨⟩)

theorem step_spares {op : PreservingOp} (hRow : row ∈ db.leases) (hRetain : rowShouldRetain env.oracle row = true)
    (hOther : op.releases row = false) :
    Spared row (preservingMachine.next db (env, op)) (preservingMachine.output db (env, op)) := by
  have hKept := mem_cleanup_of_retain hRow hRetain
  cases op with
  | acquirePreservingLiveHolders | acquireForDaemonStart => exact acquire_spares (by decide) hRow hRetain
  | renew lease ttlSecs => exact renew_spares hRow hRetain
  | restoreIfUnheld lease ttlSecs => exact restore_spares hRow hRetain
  | release lease => exact .unchanged (Table.mem_delete.mpr ⟨hRow, hOther⟩) (by rintro _ ⟨⟩)
  | isActive | status => exact .unchanged hKept (by rintro _ ⟨⟩)
  | writeQueue lease => exact .unchanged hRow (by rintro _ ⟨⟩)
  | writeDatabase lease =>
    simp only [Machine.next, Machine.output, preservingMachine, step, writeDatabase]
    split
    · exact .unchanged hKept (by rintro _ ⟨⟩)
    · exact .unchanged hRow (by rintro _ ⟨⟩)

end Step

theorem holder_stays {schedule : List (Env × PreservingOp)} {db : LeaseDb} {row : LeaseRow} (hRow : row ∈ db.leases)
    (hSteps : ∀ a ∈ schedule, rowShouldRetain a.1.oracle row = true ∧ a.2.releases row = false) :
    ∃ row' ∈ (preservingMachine.final db schedule).leases, SameHolder row row' := by
  induction schedule generalizing db row with
  | nil => exact ⟨row, hRow, SameHolder.refl row⟩
  | cons a schedule ih =>
    obtain ⟨hRetain, hOther⟩ := hSteps a List.mem_cons_self
    obtain ⟨row', hRow', hSame⟩ := (step_spares hRow hRetain hOther).stays
    obtain ⟨row'', hRow'', hSame'⟩ := ih hRow' fun b hB => by
      rw [hSame.rowShouldRetain, hSame.releases]
      exact hSteps b (List.mem_cons_of_mem a hB)
    exact ⟨row'', hRow'', hSame.trans hSame'⟩

/-- In every step of every run a holder that is to be retained keeps its row and its name, and a holder leaves the
table only by its own release or in a step at which it is not to be retained. -/
theorem live_holders_kept (db : LeaseDb) (schedule : List (Env × PreservingOp)) :
    (∀ past env op future, schedule = past ++ (env, op) :: future →
      let s := preservingMachine.final db past
      ∀ row ∈ s.leases,
        (rowShouldRetain env.oracle row = true → op.releases row = false →
          (∃ row' ∈ (preservingMachine.next s (env, op)).leases, SameHolder row row') ∧
          ∀ lease, preservingMachine.output s (env, op) = .lease (.granted (some lease)) → lease.name ≠ row.name) ∧
        ((∀ row' ∈ (preservingMachine.next s (env, op)).leases, ¬ SameHolder row row') →
          op.releases row = true ∨ rowShouldRetain env.oracle row = false)) ∧
    ∀ row ∈ db.leases,
      (∀ row' ∈ (preservingMachine.final db schedule).leases, ¬ SameHolder row row') →
        ∃ a ∈ schedule, a.2.releases row = true ∨ rowShouldRetain a.1.oracle row = false := by
  constructor
  · intro past env op future _ s row hRow
    refine ⟨fun hRetain hOther => ?_, fun hGone => ?_⟩
    · have hSpared := step_spares hRow hRetain hOther
      exact ⟨hSpared.stays, hSpared.exclusive⟩
    · by_contra hNeither
      rw [not_or, Bool.not_eq_true, Bool.not_eq_false] at hNeither
      obtain ⟨row', hRow', hSame⟩ := (step_spares hRow hNeither.2 hNeither.1).stays
      exact hGone row' hRow' hSame
  · intro row hRow hGone
    by_contra hNone
    push Not at hNone
    obtain ⟨row', hRow', hSame⟩ := holder_stays hRow fun a hA => by
      obtain ⟨hOther, hRetain⟩ := hNone a hA
      exact ⟨by simpa using hRetain, by simpa using hOther⟩
    exact hGone row' hRow' hSame

end Mempal.WriterLease

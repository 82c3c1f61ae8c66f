import Mempal.Foundation.Clients
import Mempal.Queue.Enqueue
import Mempal.Queue.RowShape

set_option autoImplicit false

/-! The status of an operation is read in two looks, first at the pending messages and then at the completions, while
other calls move rows between the two tables. -/

namespace Mempal.Queue

open Foundation
open WriterLease (i64Max)

structure PendingOperationRecord where
  id : String
  kind : String
  createdAt : Int
  claimedAt : Option Int
  completedAt : Option Int
  opState : OpState
  resultDrawerId : Option String
  rejectedReason : Option String
  failureDetail : Option String
  resultJson : Option String
deriving DecidableEq, Repr

def PendingRow.operation (row : PendingRow) : PendingOperationRecord where
  id := row.id
  kind := row.kind
  createdAt := row.createdAt
  claimedAt := row.claimedAt
  completedAt := none
  opState := row.opState
  resultDrawerId := row.resultDrawerId
  rejectedReason := row.rejectedReason
  failureDetail := row.failureDetail
  resultJson := row.resultJson

def CompletionRow.operation (row : CompletionRow) : PendingOperationRecord where
  id := row.messageId
  kind := row.kind
  createdAt := row.createdAt
  claimedAt := row.claimedAt
  completedAt := some row.completedAt
  opState := row.opState
  resultDrawerId := row.resultDrawerId
  rejectedReason := row.rejectedReason
  failureDetail := row.failureDetail
  resultJson := row.resultJson

def operationStatusFromPending (db : QueueDb) (id : String) : Option PendingOperationRecord :=
  (db.pending.find? id).map PendingRow.operation

def operationStatusFromCompletion (db : QueueDb) (id : String) : Option PendingOperationRecord :=
  (db.completions.find? id).map CompletionRow.operation

structure DurableOperationReceipt where
  operationId : String
  acceptedAt : String
  state : OpState
  drawerId : Option String
  rejectedReason : Option String
  failureDetail : Option String
deriving DecidableEq, Repr

def PendingOperationRecord.acceptedAtSecs (record : PendingOperationRecord) : Int :=
  if record.completedAt.isSome then record.createdAt / 1000 else record.createdAt

def receiptFromRecord (record : PendingOperationRecord) : DurableOperationReceipt where
  operationId := record.id
  acceptedAt := formatRfc3339 (record.acceptedAtSecs.toNat * 1000)
  state := record.opState
  drawerId := record.resultDrawerId
  rejectedReason := record.rejectedReason
  failureDetail := record.failureDetail

structure ReceiptStore where
  queue : QueueState
  begun : Nat

inductive ReceiptOp where
  | queue (a : Env × QueueStep)
  | status (id : String)

structure StatusCall where
  id : String
  number : Nat
deriving DecidableEq

inductive ReceiptReply where
  | queue (number : Nat) (outcome : Outcome)
  | status (number : Nat) (id : String) (record : Option PendingOperationRecord)
deriving DecidableEq

section Hash
variable (blake3 : List UInt8 → String) (config : QueueConfig)

def receiptProgram : Program ReceiptStore Unit ReceiptOp StatusCall ReceiptReply where
  begin := fun _ op store =>
    match op with
    | .queue a =>
      (⟨(queueMachine blake3 config).next store.queue a, store.begun + 1⟩,
        .returned (.queue store.begun ((queueMachine blake3 config).output store.queue a)))
    | .status id =>
      (⟨store.queue, store.begun + 1⟩,
        match operationStatusFromPending store.queue.db id with
        | some record => .returned (.status store.begun id (some record))
        | none => .waits ⟨id, store.begun⟩)
  resume := fun _ call store =>
    (store, .returned (.status call.number call.id (operationStatusFromCompletion store.queue.db call.id)))

def receiptMachine : Machine (Clients ReceiptStore StatusCall) (Unit × Move ReceiptOp) (Option ReceiptReply) :=
  (receiptProgram blake3 config).machine

end Hash

def ReceiptStore.empty : ReceiptStore := ⟨.start .empty, 0⟩

/-- The clock's milliseconds are an `i64`, as in the casts that read it. -/
def ClockFits (_ : Clients ReceiptStore StatusCall) : Unit × Move ReceiptOp → Prop
  | (_, .call _ (.queue (env, _))) => env.nowMillis ≤ i64Max
  | _ => True

/-- What holds between two events of a run, for the ids of idempotent admissions. -/
structure ReceiptsStable (e e' : (Unit × Move ReceiptOp) × Option ReceiptReply) : Prop where
  durable : ∀ number id number' record, e.2 = some (.queue number (.returned (.ok (.enqueued id)))) → IsDedupId id →
    e'.2 = some (.status number' id record) → number < number' → record.isSome
  acceptedAt : ∀ number id record number' record', e.2 = some (.status number id (some record)) → IsDedupId id →
    e'.2 = some (.status number' id (some record')) →
      (receiptFromRecord record').acceptedAt = (receiptFromRecord record).acceptedAt
  terminal : ∀ number id record number' record', e.2 = some (.status number id (some record)) → IsDedupId id →
    record.completedAt.isSome ∨ record.opState = .completed ∨ record.opState = .rejected →
      e'.2 = some (.status number' id record') → record' = some record

inductive Phase where
  | unknown
  | accepted (createdAt : Int)
  | finished (completion : CompletionRow)

def Entry.phase : Entry → Phase
  | (some row, _) => .accepted row.createdAt
  | (none, some completion) => .finished completion
  | (none, none) => .unknown

inductive Phase.Leads : Phase → Phase → Prop where
  | stay (phase : Phase) : Leads phase phase
  | accept (createdAt : Int) : Leads .unknown (.accepted createdAt)
  | finish (completion : CompletionRow) : Leads (.accepted (completion.createdAt / 1000)) (.finished completion)

def TimeFits (secs : Int) : Prop := 0 ≤ secs ∧ secs * 1000 ≤ i64Max

variable {env : Env} {row : PendingRow} {call : Call}

theorem timeFits_now (h : env.nowMillis ≤ i64Max) : TimeFits env.nowSecs := by
  unfold Env.nowMillis at h
  unfold TimeFits Env.nowSecs
  omega

variable {completion : CompletionRow} {key : KeyCall} {phase : Phase} {record : PendingOperationRecord}

theorem CompletionRow.TimeOf.secs (h : completion.TimeOf row)
    (hFits : TimeFits row.createdAt) : completion.createdAt / 1000 = row.createdAt := by
  obtain ⟨hLower, hUpper⟩ := hFits
  have hSaturate : saturate (row.createdAt * 1000) = row.createdAt * 1000 := by
    unfold saturate
    omega
  have hMillis : completion.createdAt = row.createdAt * 1000 := by
    rcases h with h | h
    · exact h
    · exact h.trans hSaturate
  omega

theorem Evolve.leads {e e' : Entry} {claim : Option ClaimedMessage} (h : Evolve claim e e')
    (hFits : ∀ row, e.1 = some row → TimeFits row.createdAt) : e.phase.Leads e'.phase := by
  cases h with
  | stay => exact .stay _
  | @rewrite row row' c hRow =>
    have hSame : Entry.phase (some row', c) = Entry.phase (some row, c) := congrArg Phase.accepted hRow.createdAt
    rw [hSame]
    exact .stay _
  | finish row c completion hTime =>
    have hPhase : Entry.phase (some row, c) = .accepted (completion.createdAt / 1000) :=
      congrArg Phase.accepted (hTime.secs (hFits row rfl)).symm
    rw [hPhase]
    exact .finish completion

structure Accounted (state : QueueState) : Prop where
  rows : ∀ id row, state.db.pending.find? id = some row → TimeFits row.createdAt ∧ row.Open
  calls : ∀ slot call key, state.calls slot = some call → call.key? = some key → TimeFits key.createdAt
  exclusive : ∀ id row completion, IsDedupId id → state.db.entry id ≠ (some row, some completion)

theorem accounted_start : Accounted (.start .empty) := by
  constructor
  · intro id row hRow
    cases hRow
  · intro slot call key hCall
    cases hCall
  · intro id row completion _ hEntry
    cases hEntry

theorem open_clearIngestResults (h : row.Open) : (clearIngestResults row).Open := by
  unfold clearIngestResults
  split <;> exact h

theorem createdAt_clearIngestResults (row : PendingRow) : (clearIngestResults row).createdAt = row.createdAt := by
  unfold clearIngestResults
  split <;> rfl

variable {retries : Bool} {op : QueueOp} {phase' : Phase} {entry : Entry} {number : Nat}

theorem RowTurn.accounted {row' : PendingRow} (hTurn : RowTurn retries row row') (h : TimeFits row.createdAt ∧ row.Open) :
    TimeFits row'.createdAt ∧ row'.Open := by
  cases hTurn with
  | claim token now hPending => exact ⟨h.1, by constructor <;> simp [claimedRow]⟩
  | unclaim hClaimed =>
    rw [unclaimedRow, createdAt_clearIngestResults]
    exact ⟨h.1, open_clearIngestResults (by constructor <;> simp)⟩
  | beat now hClaimed => exact h
  | fail env config error disposition hClaimed =>
    cases disposition <;> exact ⟨h.1, by constructor <;> simp [failedRow]⟩
  | requeue now hFailed =>
    rw [requeuedRow, createdAt_clearIngestResults]
    exact ⟨h.1, open_clearIngestResults (by constructor <;> simp)⟩

section Rows

variable {db db' : QueueDb} (hRows : ∀ id row, db.pending.find? id = some row → TimeFits row.createdAt ∧ row.Open)
include hRows

theorem Turns.accounted (h : Turns retries db db') :
    ∀ id row, db'.pending.find? id = some row → TimeFits row.createdAt ∧ row.Open := by
  intro id row' hRow'
  obtain ⟨row, hRow, hTurns⟩ := h id row' hRow'
  clear hRow'
  induction hTurns with
  | refl => exact hRows id row hRow
  | tail _ hTurn ih => exact hTurn.accounted ih

theorem Inserts.accounted {createdAt : Int} (h : Inserts createdAt db db') (hFits : TimeFits createdAt) :
    ∀ id row, db'.pending.find? id = some row → TimeFits row.createdAt ∧ row.Open := by
  intro id row' hRow'
  rcases h id row' hRow' with hOld | ⟨_, message, rfl, rfl⟩
  · exact hRows id row' hOld
  · exact ⟨hFits, by constructor <;> simp [NewMessage.row]⟩

theorem RowEffect.accounted {now : Int} (h : RowEffect now op db db') (hFits : TimeFits now) :
    ∀ id row, db'.pending.find? id = some row → TimeFits row.createdAt ∧ row.Open := by
  cases h with
  | inserts h _ => exact h.accounted hRows hFits
  | turns h _ => exact h.accounted hRows
  | resets p f hPending hShape hOpen hTime hZero hOp hFinds =>
    obtain ⟨hf, hPending⟩ := hPending
    intro id row' hRow'
    rw [hPending, Table.find?_update] at hRow'
    obtain ⟨row, hRow, rfl⟩ := Option.map_eq_some_iff.mp hRow'
    split
    · rw [hTime]
      exact ⟨(hRows id row hRow).1, hOpen row⟩
    · exact hRows id row hRow

end Rows

section Hash
variable (blake3 : List UInt8 → String) (config : QueueConfig) {state : QueueState}

theorem exclusive_step (h : Accounted state) (a : Env × QueueStep) {id : String}
    (hId : IsDedupId id) (row : PendingRow) (completion : CompletionRow) :
    ((queueMachine blake3 config).next state a).db.entry id ≠ (some row, some completion) := by
  intro hEntry
  rcases step_advances blake3 config state a id with hEvolve | ⟨row', c, _, hAfter, _, hNew⟩
  · rw [hEntry] at hEvolve
    generalize hBefore : state.db.entry id = before at hEvolve
    cases hEvolve with
    | stay => exact h.exclusive id row completion hId hBefore
    | rewrite c hRow => exact h.exclusive id _ completion hId hBefore
  · rw [hEntry] at hAfter
    cases hAfter
    rw [id_of_entry hEntry] at hNew
    rcases hNew with rfl | ⟨hNone, _⟩
    · exact nextId_not_dedup _ hId
    · cases hNone

theorem accounted_settle (h : Accounted state) (slot : Nat) {result : QueueDb × Progress}
    (hRows : ∀ id row, result.1.pending.find? id = some row → TimeFits row.createdAt ∧ row.Open)
    (hExclusive : ∀ id row completion, IsDedupId id → result.1.entry id ≠ (some row, some completion))
    (hWaits : ∀ call key, result.2 = .waits call → call.key? = some key → TimeFits key.createdAt) :
    Accounted (settle state slot result).1 := by
  refine ⟨by rwa [settle_db], ?_, by rwa [settle_db]⟩
  intro other call key hCall hKey
  rcases settle_calls hCall with ⟨_, hNew⟩ | ⟨_, hOld⟩
  · exact hWaits call key hNew hKey
  · exact h.calls other call key hOld hKey

theorem accounted_step {a : Env × QueueStep} (h : Accounted state) (hClock : a.1.nowMillis ≤ i64Max) :
    Accounted ((queueMachine blake3 config).next state a) := by
  have hExclusive := fun id row completion (hId : IsDedupId id) =>
    exclusive_step blake3 config h a hId row completion
  obtain ⟨env, what⟩ := a
  simp only [Machine.next, queueMachine] at hExclusive ⊢
  cases what with
  | call slot op =>
    cases hSlot : state.calls slot with
    | some call => simpa only [step, hSlot] using h
    | none =>
      simp only [step, hSlot, settle_db] at hExclusive ⊢
      apply accounted_settle h slot _ hExclusive
      · intro call key hCall hKey
        rw [(begin_waits blake3 config hCall hKey).2]
        exact timeFits_now hClock
      · exact (begin_rowEffect blake3 config env op state.db).accounted h.rows (timeFits_now hClock)
  | resume slot =>
    cases hSlot : state.calls slot with
    | none => simpa only [step, hSlot] using h
    | some call =>
      simp only [step, hSlot, settle_db] at hExclusive ⊢
      apply accounted_settle h slot _ hExclusive
      · intro next key hNext hKey
        exact h.calls slot call key hSlot (resume_key blake3 hNext hKey)
      · rcases resume_rows blake3 env call state.db with ⟨key, rfl, hInserts⟩ | hTurns
        · exact hInserts.accounted h.rows (h.calls slot _ key hSlot rfl)
        · exact hTurns.accounted h.rows
  | abandon slot =>
    refine ⟨h.rows, ?_, h.exclusive⟩
    intro other call key hCall hKey
    simp only [step, setCall] at hCall
    split at hCall
    · cases hCall
    · exact h.calls other call key hCall hKey

theorem step_leads (h : Accounted state) (a : Env × QueueStep) {id : String} (hId : IsDedupId id) :
    (state.db.entry id).phase.Leads (((queueMachine blake3 config).next state a).db.entry id).phase := by
  rcases step_advances blake3 config state a id with hEvolve | ⟨row, c, hBefore, hAfter, _, hNew⟩
  · exact hEvolve.leads fun row hRow => (h.rows id row hRow).1
  · rw [id_of_entry hAfter] at hNew
    rcases hNew with rfl | ⟨rfl, _⟩
    · exact absurd hId (nextId_not_dedup _)
    · rw [hBefore, hAfter]
      exact .accept row.createdAt

end Hash

def Phase.acceptedAt : Phase → Option Int
  | .unknown => none
  | .accepted createdAt => some createdAt
  | .finished completion => some (completion.createdAt / 1000)

structure Phase.Reports (phase : Phase) (record : PendingOperationRecord) : Prop where
  acceptedAt : phase.acceptedAt = some record.acceptedAtSecs
  terminal : record.completedAt.isSome ∨ record.opState = .completed ∨ record.opState = .rejected →
    ∃ completion, phase = .finished completion ∧ completion.operation = record

theorem Phase.Leads.finished (h : Leads (.finished completion) phase) : phase = .finished completion := by
  cases h
  rfl

theorem Phase.Leads.known (h : Leads phase phase') (hKnown : phase ≠ .unknown) : phase' ≠ .unknown := by
  cases h with
  | stay => exact hKnown
  | accept | finish => nofun

theorem Phase.Leads.reports (h : Leads phase phase')
    (hReports : phase.Reports record) : phase'.Reports record := by
  cases h with
  | stay => exact hReports
  | accept createdAt => exact absurd hReports.acceptedAt nofun
  | finish completion =>
    refine ⟨hReports.acceptedAt, fun hTerminal => ?_⟩
    obtain ⟨_, hPhase, _⟩ := hReports.terminal hTerminal
    cases hPhase

theorem reports_pending (hOpen : row.Open) : (Phase.accepted row.createdAt).Reports row.operation := by
  refine ⟨rfl, ?_⟩
  rintro (hDone | hCompleted | hRejected)
  · cases hDone
  · exact absurd hCompleted hOpen.1
  · exact absurd hRejected hOpen.2

theorem reports_completion (completion : CompletionRow) : (Phase.finished completion).Reports completion.operation :=
  ⟨rfl, fun _ => ⟨completion, rfl, rfl⟩⟩

inductive Reads (entry : Entry) : Option PendingOperationRecord → Prop where
  | pending (row : PendingRow) (hPhase : entry.phase = .accepted row.createdAt) (hOpen : row.Open) :
      Reads entry (some row.operation)
  | completion (completion : CompletionRow) (hPhase : entry.phase = .finished completion) :
      Reads entry (some completion.operation)
  | nothing (hPhase : ∀ completion, entry.phase ≠ .finished completion) : Reads entry none

theorem Reads.reports (h : Reads entry (some record)) : entry.phase.Reports record := by
  cases h with
  | pending row hPhase hOpen =>
    rw [hPhase]
    exact reports_pending hOpen
  | completion completion hPhase =>
    rw [hPhase]
    exact reports_completion completion

theorem Reads.of_finished {record : Option PendingOperationRecord}
    (h : Reads entry record) (hPhase : entry.phase = .finished completion) : record = some completion.operation := by
  cases h with
  | pending row hAccepted hOpen => cases hPhase.symm.trans hAccepted
  | completion other hOther =>
    cases hPhase.symm.trans hOther
    rfl
  | nothing hNone => exact absurd hPhase (hNone completion)

theorem entry_eq {db : QueueDb} {id : String} : db.entry id = (db.pending.find? id, db.completions.find? id) := rfl

section Looks

variable {state : QueueState} (h : Accounted state) {id : String}
include h

theorem reads_pending (hLook : operationStatusFromPending state.db id = some record) :
    Reads (state.db.entry id) (some record) := by
  obtain ⟨row, hRow, rfl⟩ := Option.map_eq_some_iff.mp hLook
  refine .pending row ?_ (h.rows id row hRow).2
  rw [entry_eq, hRow]
  rfl

theorem reads_completion (hId : IsDedupId id) :
    Reads (state.db.entry id) (operationStatusFromCompletion state.db id) := by
  unfold operationStatusFromCompletion
  cases hCompletion : state.db.completions.find? id with
  | none =>
    refine .nothing fun completion hPhase => ?_
    rw [entry_eq, hCompletion] at hPhase
    cases hPending : state.db.pending.find? id with
    | none | some =>
      rw [hPending] at hPhase
      cases hPhase
  | some completion =>
    refine .completion completion ?_
    cases hPending : state.db.pending.find? id with
    | none =>
      rw [entry_eq, hPending, hCompletion]
      rfl
    | some row =>
      refine absurd ?_ (h.exclusive id row completion hId)
      rw [entry_eq, hPending, hCompletion]

end Looks

theorem phase_of_unseen {db : QueueDb} {id : String} (hLook : operationStatusFromPending db id = none)
    (hKnown : (db.entry id).phase ≠ .unknown) : ∃ completion, (db.entry id).phase = .finished completion := by
  have hPending := Option.map_eq_none_iff.mp hLook
  rw [entry_eq, hPending] at hKnown ⊢
  cases hCompletion : db.completions.find? id with
  | none =>
    rw [hCompletion] at hKnown
    exact absurd rfl hKnown
  | some completion => exact ⟨completion, rfl⟩

theorem phase_of_known {db : QueueDb} {id : String} (h : Known db id) : (db.entry id).phase ≠ .unknown := by
  have hEntry := known_iff.mp h
  rw [entry_eq] at hEntry ⊢
  cases hPending : db.pending.find? id with
  | some row => nofun
  | none =>
    cases hCompletion : db.completions.find? id with
    | some completion => nofun
    | none =>
      rw [hPending, hCompletion] at hEntry
      exact absurd rfl hEntry

structure ReceiptInv (s : Clients ReceiptStore StatusCall) : Prop where
  queue : Accounted s.shared.queue
  calls : ∀ slot call, s.calls slot = some call → call.number < s.shared.begun

structure Admitted (number : Nat) (id : String) (s : Clients ReceiptStore StatusCall) : Prop where
  known : (s.shared.queue.db.entry id).phase ≠ .unknown
  begun : number < s.shared.begun
  calls : ∀ slot call, s.calls slot = some call → call.id = id → number < call.number →
    ∃ completion, (s.shared.queue.db.entry id).phase = .finished completion

structure Establishes (e : (Unit × Move ReceiptOp) × Option ReceiptReply) (s : Clients ReceiptStore StatusCall) :
    Prop where
  admitted : ∀ number id, e.2 = some (.queue number (.returned (.ok (.enqueued id)))) → IsDedupId id →
    Admitted number id s
  reported : ∀ number id record, e.2 = some (.status number id (some record)) → IsDedupId id →
    (s.shared.queue.db.entry id).phase.Reports record

section Hash
variable (blake3 : List UInt8 → String) (config : QueueConfig)

inductive Happens (s : Clients ReceiptStore StatusCall) :
    Unit × Move ReceiptOp → Clients ReceiptStore StatusCall × Option ReceiptReply → Prop where
  | idle (move : Move ReceiptOp) (calls : Nat → Option StatusCall)
      (hCalls : ∀ slot call, calls slot = some call → s.calls slot = some call) :
      Happens s ((), move) (⟨s.shared, calls⟩, none)
  | queue (slot : Nat) (a : Env × QueueStep) :
      Happens s ((), .call slot (.queue a))
        (⟨⟨(queueMachine blake3 config).next s.shared.queue a, s.shared.begun + 1⟩, Clients.setCall s.calls slot none⟩,
          some (.queue s.shared.begun ((queueMachine blake3 config).output s.shared.queue a)))
  | seen (slot : Nat) (id : String) (record : PendingOperationRecord)
      (hLook : operationStatusFromPending s.shared.queue.db id = some record) :
      Happens s ((), .call slot (.status id))
        (⟨⟨s.shared.queue, s.shared.begun + 1⟩, Clients.setCall s.calls slot none⟩,
          some (.status s.shared.begun id (some record)))
  | unseen (slot : Nat) (id : String) (hLook : operationStatusFromPending s.shared.queue.db id = none) :
      Happens s ((), .call slot (.status id))
        (⟨⟨s.shared.queue, s.shared.begun + 1⟩, Clients.setCall s.calls slot (some ⟨id, s.shared.begun⟩)⟩, none)
  | looked (slot : Nat) (call : StatusCall) (hCall : s.calls slot = some call) :
      Happens s ((), .resume slot)
        (⟨s.shared, Clients.setCall s.calls slot none⟩,
          some (.status call.number call.id (operationStatusFromCompletion s.shared.queue.db call.id)))

theorem happens (s : Clients ReceiptStore StatusCall) (a : Unit × Move ReceiptOp) :
    Happens blake3 config s a ((receiptMachine blake3 config).step s a) := by
  have hStep := (receiptProgram blake3 config).steps s a
  unfold receiptMachine
  generalize (receiptProgram blake3 config).machine.step s a = result at hStep
  cases hStep with
  | idle env move calls hCalls => exact .idle move calls hCalls
  | begins env slot op hFree =>
    cases op with
    | queue a => exact .queue slot a
    | status id =>
      cases hLook : operationStatusFromPending s.shared.queue.db id with
      | some record =>
        simp only [receiptProgram, hLook, Clients.settle_eq]
        exact .seen slot id record hLook
      | none =>
        simp only [receiptProgram, hLook, Clients.settle_eq]
        exact .unseen slot id hLook
  | resumes env slot call hCall => exact .looked slot call hCall

variable {s : Clients ReceiptStore StatusCall} {a : Unit × Move ReceiptOp}

section
variable (h : ReceiptInv s)
include h

theorem receiptInv_next (hClock : ClockFits s a) : ReceiptInv ((receiptMachine blake3 config).next s a) := by
  have hStep := happens blake3 config s a
  unfold Machine.next
  generalize (receiptMachine blake3 config).step s a = result at hStep
  have hSame : ∀ {slot other : Nat} {call : StatusCall},
      Clients.setCall s.calls slot none other = some call → call.number < s.shared.begun + 1 := by
    intro slot other call hCall
    exact Nat.lt_succ_of_lt (h.calls other call (Clients.eq_some_of_setCall_none hCall))
  cases hStep with
  | idle move calls hCalls => exact ⟨h.queue, fun slot call hCall => h.calls slot call (hCalls slot call hCall)⟩
  | queue slot a => exact ⟨accounted_step blake3 config h.queue hClock, fun other call => hSame⟩
  | seen slot id record hLook => exact ⟨h.queue, fun other call => hSame⟩
  | unseen slot id hLook =>
    refine ⟨h.queue, fun other call hCall => ?_⟩
    simp only [Clients.setCall] at hCall
    split at hCall
    · cases hCall
      exact Nat.lt_succ_self _
    · exact Nat.lt_succ_of_lt (h.calls other call hCall)
  | looked slot call hCall =>
    exact ⟨h.queue, fun other call hCall => h.calls other call (Clients.eq_some_of_setCall_none hCall)⟩

theorem reads_output {id : String} {record : Option PendingOperationRecord}
    (hOutput : (receiptMachine blake3 config).output s a = some (.status number id record)) (hId : IsDedupId id) :
    Reads (s.shared.queue.db.entry id) record ∧
      ((receiptMachine blake3 config).next s a).shared.queue = s.shared.queue := by
  have hStep := happens blake3 config s a
  unfold Machine.output at hOutput
  unfold Machine.next
  generalize (receiptMachine blake3 config).step s a = result at hStep hOutput
  cases hStep with
  | idle | queue => cases hOutput
  | seen slot id record hLook =>
    cases hOutput
    exact ⟨reads_pending h.queue hLook, rfl⟩
  | unseen slot id hLook => cases hOutput
  | looked slot call hCall =>
    cases hOutput
    exact ⟨reads_completion h.queue hId, rfl⟩

theorem establishes_output :
    Establishes (a, (receiptMachine blake3 config).output s a) ((receiptMachine blake3 config).next s a) := by
  constructor
  · intro number id hOutput hId
    have hStep := happens blake3 config s a
    unfold Machine.output at hOutput
    unfold Machine.next
    generalize (receiptMachine blake3 config).step s a = result at hStep hOutput
    cases hStep with
    | idle | seen | unseen | looked => cases hOutput
    | queue slot a =>
      obtain ⟨rfl, hEnqueued⟩ := ReceiptReply.queue.inj (Option.some.inj hOutput)
      refine ⟨phase_of_known (known_of_enqueued blake3 config hEnqueued), Nat.lt_succ_self _, ?_⟩
      -- no status call that waits has begun after this step
      intro other call hCall _ hLater
      exact absurd hLater (Nat.lt_asymm (h.calls other call (Clients.eq_some_of_setCall_none hCall)))
  · intro number id record hOutput hId
    obtain ⟨hReads, hQueue⟩ := reads_output blake3 config h hOutput hId
    rw [hQueue]
    exact hReads.reports

theorem admitted_next {id : String} (hAdmitted : Admitted number id s)
    (hId : IsDedupId id) : Admitted number id ((receiptMachine blake3 config).next s a) := by
  have hStep := happens blake3 config s a
  unfold Machine.next
  generalize (receiptMachine blake3 config).step s a = result at hStep
  have hLater := Nat.lt_succ_of_lt hAdmitted.begun
  cases hStep with
  | idle move calls hCalls =>
    exact ⟨hAdmitted.known, hAdmitted.begun, fun slot call hCall => hAdmitted.calls slot call (hCalls slot call hCall)⟩
  | queue slot a =>
    have hLeads := step_leads blake3 config h.queue a hId
    refine ⟨hLeads.known hAdmitted.known, hLater, ?_⟩
    intro other call hCall hSame hNumber
    obtain ⟨completion, hPhase⟩ :=
      hAdmitted.calls other call (Clients.eq_some_of_setCall_none hCall) hSame hNumber
    rw [hPhase] at hLeads
    exact ⟨completion, hLeads.finished⟩
  | seen slot id record hLook =>
    exact ⟨hAdmitted.known, hLater, fun other call hCall =>
      hAdmitted.calls other call (Clients.eq_some_of_setCall_none hCall)⟩
  | unseen slot seen hLook =>
    refine ⟨hAdmitted.known, hLater, ?_⟩
    intro other call hCall hSame hNumber
    simp only [Clients.setCall] at hCall
    split at hCall
    · cases hCall
      cases hSame
      exact phase_of_unseen hLook hAdmitted.known
    · exact hAdmitted.calls other call hCall hSame hNumber
  | looked slot call hCall =>
    exact ⟨hAdmitted.known, hAdmitted.begun, fun other call hCall =>
      hAdmitted.calls other call (Clients.eq_some_of_setCall_none hCall)⟩

theorem phase_next {id : String} (hId : IsDedupId id) : (s.shared.queue.db.entry id).phase.Leads
      (((receiptMachine blake3 config).next s a).shared.queue.db.entry id).phase := by
  have hStep := happens blake3 config s a
  unfold Machine.next
  generalize (receiptMachine blake3 config).step s a = result at hStep
  cases hStep with
  | queue slot a => exact step_leads blake3 config h.queue a hId
  | idle | seen | unseen | looked => exact .stay _

theorem stable_output {e : (Unit × Move ReceiptOp) × Option ReceiptReply} (hEst : Establishes e s) :
    ReceiptsStable e (a, (receiptMachine blake3 config).output s a) := by
  constructor
  · intro number id number' record hEvent hId hOutput hLater
    have hAdmitted := hEst.admitted number id hEvent hId
    have hStep := happens blake3 config s a
    unfold Machine.output at hOutput
    generalize (receiptMachine blake3 config).step s a = result at hStep hOutput
    cases hStep with
    | idle | queue => cases hOutput
    | seen slot id record hLook =>
      cases hOutput
      rfl
    | unseen slot id hLook => cases hOutput
    | looked slot call hCall =>
      cases hOutput
      obtain ⟨completion, hPhase⟩ := hAdmitted.calls slot call hCall rfl hLater
      rw [(reads_completion h.queue hId).of_finished hPhase]
      rfl
  · intro number id record number' record' hEvent hId hOutput
    have hBefore := (hEst.reported number id record hEvent hId).acceptedAt
    have hAfter := (reads_output blake3 config h hOutput hId).1.reports.acceptedAt
    have hSame : record'.acceptedAtSecs = record.acceptedAtSecs := Option.some.inj (hAfter.symm.trans hBefore)
    simp only [receiptFromRecord, hSame]
  · intro number id record number' record' hEvent hId hTerminal hOutput
    obtain ⟨completion, hPhase, rfl⟩ := (hEst.reported number id record hEvent hId).terminal hTerminal
    exact (reads_output blake3 config h hOutput hId).1.of_finished hPhase

end

/-- After an idempotent admission every later status call finds the operation, all of them with the same time of
acceptance, and a terminal answer is the answer of all later ones. -/
theorem receipts_durable_and_stable (schedule : List (Unit × Move ReceiptOp))
    (hClock : (receiptMachine blake3 config).Along ClockFits (.start .empty) schedule) :
    ((receiptMachine blake3 config).trace (.start .empty) schedule).Pairwise ReceiptsStable := by
  refine Machine.pairwise_trace_along (fun s a h hClock => receiptInv_next blake3 config h hClock)
    (fun s a h _ => establishes_output blake3 config h) ?_ (fun e s a h _ hEst => stable_output blake3 config h hEst)
    ⟨accounted_start, ?_⟩ hClock
  · intro e s a h _ hEst
    constructor
    · intro number id hEvent hId
      exact admitted_next blake3 config h (hEst.admitted number id hEvent hId) hId
    · intro number id record hEvent hId
      exact (phase_next blake3 config h hId).reports (hEst.reported number id record hEvent hId)
  · intro slot call hCall
    cases hCall

end Hash

def deleteKey : String := idempotentKeyMessageId (fun _ => "0") ingestAsyncKind "delete-1"

def admitThenFinish : List (Unit × Move ReceiptOp) :=
  let claim : ClaimedMessage :=
    ⟨deleteKey, ingestAsyncKind, "\x7b\x7d", 0, claimToken "worker" (secondAt 2).tick, "0", 1, 2⟩
  [.call 0 (.queue (secondAt 1, .call 0 (.enqueue (.explicitKey "delete-1") ingestAsyncKind "\x7b\x7d"))),
    .call 0 (.status deleteKey),
    .call 0 (.queue (secondAt 2, .call 0 (.claim ⟨.byIdAndKind deleteKey ingestAsyncKind, "worker", 60, none⟩))),
    .call 0 (.queue (secondAt 2, .resume 0)),
    .call 0 (.queue (secondAt 3, .call 0 (.completeOperation none claim ⟨"completed", some "drawer", none, none, none⟩))),
    .call 0 (.status deleteKey), .resume 0].map fun move => ((), move)

theorem admitThenFinish_stable :
    ((receiptMachine (fun _ => "0") .default).trace (.start .empty) admitThenFinish).Pairwise ReceiptsStable := by
  have hFits : ∀ second < 4, (secondAt second).nowMillis ≤ i64Max := by decide
  apply receipts_durable_and_stable
  exact ⟨hFits 1 (by decide), trivial, hFits 2 (by decide), hFits 2 (by decide), hFits 3 (by decide), trivial, trivial,
    trivial⟩

example : ((receiptMachine (fun _ => "0") .default).trace (.start .empty) admitThenFinish).getLast?.map Prod.snd =
    some (some (.status 5 deleteKey (some ⟨deleteKey, ingestAsyncKind, 1000, some 2000, some 3000, .completed,
      some "drawer", none, none, none⟩))) := by
  decide +kernel

end Mempal.Queue

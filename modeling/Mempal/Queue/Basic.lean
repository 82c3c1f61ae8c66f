import Mempal.Foundation.Text
import Mempal.WriterLease.Basic

set_option autoImplicit false

/-! The tables `pending_messages` and `pending_message_completions`, the identifiers of messages and claims, and the
queries that the transactions are made of. -/

namespace Mempal.Queue

open Foundation
open WriterLease (RuntimeWriterLease LeaseRow holdsLease i64Max)

inductive Status where
  | pending
  | claimed
  | done
  | failed
deriving DecidableEq, Repr

inductive OpState where
  | queued
  | running
  | completed
  | rejected
  | failed
deriving DecidableEq, Repr

/-- The `CHECK` constraint on `op_state`. -/
def OpState.parse? (text : String) : Option OpState :=
  if text = "queued" then some .queued
  else if text = "running" then some .running
  else if text = "completed" then some .completed
  else if text = "rejected" then some .rejected
  else if text = "failed" then some .failed
  else none

structure PendingRow where
  id : String
  kind : String
  sourceHash : String
  claimToken : Option String
  claimedAt : Option Int
  heartbeatAt : Option Int
  retryCount : Int
  retryBackoffMs : Int
  nextAttemptAt : Int
  status : Status
  payload : String
  createdAt : Int
  lastError : Option String
  resultDrawerId : Option String
  opState : OpState
  rejectedReason : Option String
  failureDetail : Option String
  resultJson : Option String
  failureClass : Option String
deriving DecidableEq, Repr

structure CompletionRow where
  messageId : String
  kind : String
  createdAt : Int
  claimedAt : Option Int
  completedAt : Int
  processingMs : Option Int
  resultDrawerId : Option String
  opState : OpState
  rejectedReason : Option String
  failureDetail : Option String
  resultJson : Option String
  sourceHash : Option String
deriving DecidableEq, Repr

/-- The two tables and the two counters the queue keeps in `fork_ext_meta`. -/
structure QueueDb where
  pending : Table PendingRow.id
  completions : Table CompletionRow.messageId
  rejectedOversize : Nat
  lastAutoRequeueAtUnixMs : Option Int

def QueueDb.empty : QueueDb := ⟨Table.empty, Table.empty, 0, none⟩

inductive QueueError where
  | sqlite
  | messageNotFound (id : String)
  | idempotencyConflict
  | claimLost (id : String)
  | retryCountOverflow (id : String)
  | unsupportedModelTaskKind (kind : String)
  | unsafeUnfilteredQueueMutation
  | ingestByteBudgetExceeded (payloadBytes activeBytes limitBytes : Nat)
  | runtimeWriterLeaseLost (leaseName owner : String) (generation : UInt64) (operation : String)
deriving DecidableEq, Repr

structure ClaimedMessage where
  id : String
  kind : String
  payload : String
  retryCount : Nat
  claimToken : String
  sourceHash : String
  createdAt : Int
  claimedAt : Int
deriving DecidableEq, Repr

structure PendingOperationCompletion where
  opState : String
  resultDrawerId : Option String
  rejectedReason : Option String
  failureDetail : Option String
  resultJson : Option String
deriving DecidableEq, Repr

structure QueueFailureFilter where
  kind : Option String
  retryClass : Option String
  reasonCode : Option String
deriving DecidableEq, Repr

structure QueueConfig where
  baseDelayMs : Int
  maxDelayMs : Int
  maxIngestActiveBytes : UInt64
deriving DecidableEq, Repr

def QueueConfig.default : QueueConfig := ⟨5000, 3600000, 64 * 1024 * 1024⟩

inductive QueueFailureDisposition where
  | retryable
  | retryableAfter (delayMs : Int)
  | terminal
deriving DecidableEq, Repr

def ingestAsyncKind : String := "ingest_async"

/-- What one call of `next_id` reads: the clock, the process id and the process-wide counter. -/
structure Tick where
  nowMs : Nat
  pid : Nat
  counter : Nat
deriving DecidableEq, Repr

/-- What a statement or transaction reads from outside the queue tables. -/
structure Env where
  nowMs : Nat
  tick : Tick
  leases : Table LeaseRow.name

def Env.nowSecs (env : Env) : Int := (env.nowMs / 1000 : Nat)

def Env.nowMillis (env : Env) : Int := env.nowMs

def hexPadded (width n : Nat) : String := String.ofList (Digits.padded 16 width n)

def nextId (label : String) (tick : Tick) : String :=
  label ++ "-" ++ hexPadded 16 tick.nowMs ++ "-" ++ hexPadded 8 tick.pid ++ "-" ++ hexPadded 16 tick.counter

def claimToken (workerId : String) (tick : Tick) : String := workerId ++ ":" ++ nextId "claim" tick

def utf8 (text : String) : List UInt8 := text.toUTF8.data.toList

section Hash
variable (blake3 : List UInt8 → String)

def hashSource (kind payload : String) : String := blake3 (utf8 kind ++ [0] ++ utf8 payload)

def idempotentSourceMessageId (sourceHash : String) : String := "msg-dedup-" ++ sourceHash

def idempotentKeyMessageId (kind idempotencyKey : String) : String :=
  "msg-dedup-" ++ blake3 (utf8 "mempal queue idempotency key v1" ++ [0] ++ utf8 kind ++ [0] ++ utf8 idempotencyKey)

end Hash

def saturate (n : Int) : Int := max (-2 ^ 63) (min i64Max n)

def saturatingCutoff (now windowSecs : Int) : Int := saturate (now - max windowSecs 0)

def divCeil (lhs rhs : Int) : Int := if lhs ≤ 0 then 0 else (lhs - 1) / rhs + 1

def requireRuntimeWriterLease (env : Env) (lease : RuntimeWriterLease) (operation : String) :
    Except QueueError Unit :=
  if holdsLease env.nowMs lease env.leases then .ok ()
  else .error (.runtimeWriterLeaseLost lease.name lease.owner lease.generation operation)

def requireLifecycleWriterLease (env : Env) (lifecycle : Option RuntimeWriterLease) (operation : String) :
    Except QueueError Unit :=
  match lifecycle with
  | none => .ok ()
  | some lease => requireRuntimeWriterLease env lease operation

/-- The columns that an `INSERT` of a message names. -/
structure NewMessage where
  id : String
  kind : String
  sourceHash : String
  payload : String
  createdAt : Int
deriving DecidableEq, Repr

def NewMessage.row (message : NewMessage) : PendingRow where
  id := message.id
  kind := message.kind
  sourceHash := message.sourceHash
  claimToken := none
  claimedAt := none
  heartbeatAt := none
  retryCount := 0
  retryBackoffMs := 0
  nextAttemptAt := message.createdAt
  status := .pending
  payload := message.payload
  createdAt := message.createdAt
  lastError := none
  resultDrawerId := none
  opState := .queued
  rejectedReason := none
  failureDetail := none
  resultJson := none
  failureClass := none

def insertNew (message : NewMessage) (db : QueueDb) : Except QueueError QueueDb :=
  if db.pending.contains message.id then .error .sqlite
  else .ok { db with pending := db.pending.insertOrIgnore message.row }

/-- `INSERT .. WHERE NOT EXISTS (completion) ON CONFLICT(id) DO NOTHING`. -/
def insertUnlessKnown (message : NewMessage) (db : QueueDb) : QueueDb :=
  if db.completions.contains message.id then db
  else { db with pending := db.pending.insertOrIgnore message.row }

def pendingConflicts (row : PendingRow) (kind sourceHash : String) : Bool :=
  row.kind != kind || row.sourceHash != sourceHash

def completionConflicts (row : CompletionRow) (kind sourceHash : String) : Bool :=
  row.kind != kind || row.sourceHash != some sourceHash

/-- `explicit_key_conflicts`, inside a transaction. -/
def explicitKeyConflicts (db : QueueDb) (id kind sourceHash : String) : Bool :=
  match db.pending.find? id with
  | some row => pendingConflicts row kind sourceHash
  | none => (db.completions.find? id).any fun row => completionConflicts row kind sourceHash

def queueMessageIdentityExists (db : QueueDb) (id : String) : Bool :=
  db.pending.contains id || db.completions.contains id

def payloadBytes (payload : String) : Nat := payload.utf8ByteSize

def isActive (kind : String) (row : PendingRow) : Bool :=
  row.kind = kind && (row.status = .pending || row.status = .claimed)

def activeWeight (kind : String) (row : PendingRow) : Nat :=
  if isActive kind row then payloadBytes row.payload else 0

def activeBytes (kind : String) (pending : Table PendingRow.id) : Nat :=
  (pending.rows.map (activeWeight kind)).sum

/-- The `SUM` query, which fails when the sum leaves the integers. -/
def activePayloadBytesForKind (pending : Table PendingRow.id) (kind : String) : Except QueueError Nat :=
  if (activeBytes kind pending : Int) ≤ i64Max then .ok (activeBytes kind pending) else .error .sqlite

/-- The admission check of an `ingest_async` payload against the bytes already active. -/
def exceedsBudget (config : QueueConfig) (payload : String) (activeBytes : Nat) : Bool :=
  config.maxIngestActiveBytes.toNat < payloadBytes payload ||
    config.maxIngestActiveBytes.toNat - payloadBytes payload < activeBytes

/-- Results are dropped when an `ingest_async` message goes back to the queue. -/
def clearIngestResults (row : PendingRow) : PendingRow :=
  if row.kind = ingestAsyncKind then
    { row with resultDrawerId := none, rejectedReason := none, failureDetail := none, resultJson := none }
  else row

def unclaimedRow (row : PendingRow) : PendingRow :=
  clearIngestResults
    { row with status := .pending, claimToken := none, claimedAt := none, heartbeatAt := none, opState := .queued }

theorem unclaimedRow_id (row : PendingRow) : (unclaimedRow row).id = row.id := by
  unfold unclaimedRow clearIngestResults
  split <;> rfl

def isStale (staleCutoff : Int) (row : PendingRow) : Bool :=
  row.status = .claimed && row.heartbeatAt.all (· < staleCutoff)

def reclaimStaleRows (staleCutoff : Int) (pending : Table PendingRow.id) : Table PendingRow.id :=
  pending.update (isStale staleCutoff) unclaimedRow unclaimedRow_id

inductive ClaimFilter where
  | next
  | byKind (kind : String)
  | byIdAndKind (id kind : String)
deriving DecidableEq, Repr

def ClaimFilter.takes : ClaimFilter → PendingRow → Bool
  | .next, row => row.kind != "llm_task" && row.kind != ingestAsyncKind
  | .byKind kind, row => row.kind = kind
  | .byIdAndKind id kind, row => row.id = id && row.kind = kind

/-- The columns besides id and status that the claiming `UPDATE` checks again. -/
def ClaimFilter.rechecks : ClaimFilter → PendingRow → Bool
  | .byIdAndKind _ kind, row => row.kind = kind
  | _, _ => true

def ClaimFilter.selects (filter : ClaimFilter) (now : Int) (row : PendingRow) : Bool :=
  row.status = .pending && row.nextAttemptAt ≤ now && filter.takes row

/-- `claim_work_available` and `claim_by_id_work_available`. -/
def claimWorkAvailable (filter : ClaimFilter) (staleCutoff now : Int) (pending : Table PendingRow.id) : Bool :=
  pending.rows.any (isStale staleCutoff) || pending.rows.any (filter.selects now)

/-- `ORDER BY next_attempt_at ASC, id ASC LIMIT 1`. -/
def firstAttempt : List PendingRow → Option PendingRow
  | [] => none
  | row :: rows =>
    match firstAttempt rows with
    | none => some row
    | some best =>
      if best.nextAttemptAt < row.nextAttemptAt ∨ best.nextAttemptAt = row.nextAttemptAt ∧ best.id < row.id then
        some best
      else some row

def fitsU32 (n : Int) : Bool := 0 ≤ n && n < 2 ^ 32

def heldBy (claim : ClaimedMessage) (row : PendingRow) : Bool :=
  row.id = claim.id && row.status = .claimed && row.claimToken = some claim.claimToken

def claimMissError (pending : Table PendingRow.id) (id : String) : QueueError :=
  if pending.contains id then .claimLost id else .messageNotFound id

end Mempal.Queue

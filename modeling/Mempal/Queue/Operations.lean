import Mempal.Queue.Failures

set_option autoImplicit false

/-! Each definition is one transaction, or one statement outside a transaction, of the queue store. -/

namespace Mempal.Queue

open Foundation Foundation.Text
open WriterLease (RuntimeWriterLease)

def commitOrRollback {α : Type} (db : QueueDb) : Except QueueError (QueueDb × α) → QueueDb × Except QueueError α
  | .error e => (db, .error e)
  | .ok (db', result) => (db', .ok result)

inductive EnqueueIdentity where
  | fresh
  | sourceHash
  | explicitKey (idempotencyKey : String)
deriving DecidableEq, Repr

def EnqueueIdentity.isExplicit : EnqueueIdentity → Bool
  | .explicitKey _ => true
  | _ => false

def insertAlone (message : NewMessage) (db : QueueDb) : QueueDb × Except QueueError String :=
  commitOrRollback db ((insertNew message db).map fun db' => (db', message.id))

/-- Insert an `ingest_async` message unless its payload goes over the budget. -/
def insertWithinBudget (config : QueueConfig) (message : NewMessage) (db : QueueDb) :
    QueueDb × Except QueueError String :=
  match activePayloadBytesForKind db.pending ingestAsyncKind with
  | .error e => (db, .error e)
  | .ok activeBytes =>
    if exceedsBudget config message.payload activeBytes then
      ({ db with rejectedOversize := db.rejectedOversize + 1 }, .error
        (.ingestByteBudgetExceeded (payloadBytes message.payload) activeBytes config.maxIngestActiveBytes.toNat))
    else insertAlone message db

section Hash
variable (blake3 : List UInt8 → String)

def enqueueId (env : Env) (identity : EnqueueIdentity) (kind payload : String) : String :=
  match identity with
  | .fresh => nextId "msg" env.tick
  | .sourceHash => idempotentSourceMessageId (hashSource blake3 kind payload)
  | .explicitKey idempotencyKey => idempotentKeyMessageId blake3 kind idempotencyKey

def newMessage (env : Env) (identity : EnqueueIdentity) (kind payload : String) : NewMessage where
  id := enqueueId blake3 env identity kind payload
  kind := kind
  sourceHash := hashSource blake3 kind payload
  payload := payload
  createdAt := env.nowSecs

structure KeyCall where
  kind : String
  payload : String
  idempotencyKey : String
  createdAt : Int
deriving DecidableEq, Repr

def KeyCall.message (call : KeyCall) : NewMessage where
  id := idempotentKeyMessageId blake3 call.kind call.idempotencyKey
  kind := call.kind
  sourceHash := hashSource blake3 call.kind call.payload
  payload := call.payload
  createdAt := call.createdAt

end Hash

/-- `enqueue_ingest_with_byte_budget`: one transaction. -/
def enqueueIngestWithByteBudget (config : QueueConfig) (identity : EnqueueIdentity) (message : NewMessage)
    (db : QueueDb) : QueueDb × Except QueueError String :=
  if identity.isExplicit && explicitKeyConflicts db message.id ingestAsyncKind message.sourceHash then
    (db, .error .idempotencyConflict)
  else if identity != .fresh && queueMessageIdentityExists db message.id then (db, .ok message.id)
  else insertWithinBudget config message db

/-- `enqueue_fenced` with a lease. -/
def enqueueFenced (config : QueueConfig) (env : Env) (lease : RuntimeWriterLease) (operation : String)
    (message : NewMessage) (db : QueueDb) : QueueDb × Except QueueError String :=
  match requireRuntimeWriterLease env lease operation with
  | .error e => (db, .error e)
  | .ok () =>
    if message.kind = ingestAsyncKind then insertWithinBudget config message db
    else insertAlone message db

/-- `enqueue_idempotent_with_key_fail_fast_fenced` with a lease. -/
def enqueueIdempotentWithKeyFailFastFenced (env : Env) (lease : RuntimeWriterLease) (operation : String)
    (message : NewMessage) (db : QueueDb) : QueueDb × Except QueueError String :=
  match requireRuntimeWriterLease env lease operation with
  | .error e => (db, .error e)
  | .ok () =>
    if explicitKeyConflicts db message.id message.kind message.sourceHash then (db, .error .idempotencyConflict)
    else (insertUnlessKnown message db, .ok message.id)

structure ClaimRequest where
  filter : ClaimFilter
  workerId : String
  claimTtlSecs : Int
  lifecycle : Option RuntimeWriterLease

def ClaimRequest.operation (request : ClaimRequest) : String :=
  match request.filter with
  | .byIdAndKind _ _ => "claim queued message by id"
  | _ => "claim queued message"

/-- A claim of any kind does not look at the lifecycle lease; the other two do before each of their steps. -/
def ClaimRequest.requireLease (request : ClaimRequest) (env : Env) : Except QueueError Unit :=
  match request.filter with
  | .next => .ok ()
  | _ => requireLifecycleWriterLease env request.lifecycle request.operation

def ClaimRequest.staleCutoff (request : ClaimRequest) (env : Env) : Int :=
  saturatingCutoff env.nowSecs request.claimTtlSecs

def claimProbe (env : Env) (request : ClaimRequest) (db : QueueDb) : Except QueueError Bool :=
  (request.requireLease env).map fun _ =>
    claimWorkAvailable request.filter (request.staleCutoff env) env.nowSecs db.pending

def claimedRow (token : String) (now : Int) (row : PendingRow) : PendingRow :=
  { row with
    status := .claimed, claimToken := some token, claimedAt := some now, heartbeatAt := some now
    opState := .running }

def claimedMessage (token : String) (now : Int) (row : PendingRow) : ClaimedMessage where
  id := row.id
  kind := row.kind
  payload := row.payload
  retryCount := row.retryCount.toNat
  claimToken := token
  sourceHash := row.sourceHash
  createdAt := row.createdAt
  claimedAt := now

def claimTx (env : Env) (request : ClaimRequest) (staleCutoff : Int) (db : QueueDb) :
    Except QueueError (QueueDb × Option ClaimedMessage) :=
  match request.requireLease env with
  | .error e => .error e
  | .ok () =>
    let pending := reclaimStaleRows staleCutoff db.pending
    match firstAttempt (pending.rows.filter (request.filter.selects env.nowSecs)) with
    | none => .ok ({ db with pending := pending }, none)
    | some row =>
      if !fitsU32 row.retryCount then .error (.retryCountOverflow row.id)
      else
        let token := claimToken request.workerId env.tick
        let selects := fun (r : PendingRow) => r.id = row.id && r.status = .pending && request.filter.rechecks r
        if pending.count selects = 0 then .ok ({ db with pending := pending }, none)
        else
          .ok ({ db with pending := pending.update selects (claimedRow token env.nowSecs) fun _ => rfl },
            some (claimedMessage token env.nowSecs row))

def claimCompletion (env : Env) (claim : ClaimedMessage) (opState : OpState) (row : PendingRow) :
    CompletionRow where
  messageId := claim.id
  kind := row.kind
  createdAt := saturate (row.createdAt * 1000)
  claimedAt := row.claimedAt.map fun at' => saturate (at' * 1000)
  completedAt := env.nowMillis
  processingMs := row.claimedAt.map fun at' => saturate (env.nowMillis - saturate (at' * 1000))
  resultDrawerId := row.resultDrawerId
  opState := opState
  rejectedReason := row.rejectedReason
  failureDetail := row.failureDetail
  resultJson := row.resultJson
  sourceHash := some claim.sourceHash

def upsertCompletion (completions : Table CompletionRow.messageId) (row : CompletionRow) :
    Table CompletionRow.messageId :=
  completions.upsert row (fun old => { row with messageId := old.messageId, sourceHash := old.sourceHash })
    fun _ => rfl

def confirmInTx (env : Env) (claim : ClaimedMessage) (opState : OpState) (db : QueueDb) :
    Except QueueError (QueueDb × Unit) :=
  match db.pending.rows.find? (heldBy claim) with
  | none => .error (claimMissError db.pending claim.id)
  | some row =>
    .ok ({ db with
      pending := db.pending.delete (heldBy claim)
      completions := upsertCompletion db.completions (claimCompletion env claim opState row) }, ())

def confirm (env : Env) (lifecycle : Option RuntimeWriterLease) (claim : ClaimedMessage) (db : QueueDb) :
    Except QueueError (QueueDb × Unit) :=
  match requireLifecycleWriterLease env lifecycle "confirm queued message" with
  | .error e => .error e
  | .ok () => confirmInTx env claim .completed db

def withResults (opState : OpState) (completion : PendingOperationCompletion) (row : PendingRow) : PendingRow :=
  { row with
    opState := opState, resultDrawerId := completion.resultDrawerId
    rejectedReason := completion.rejectedReason, failureDetail := completion.failureDetail
    resultJson := completion.resultJson }

def completeOperation (env : Env) (lifecycle : Option RuntimeWriterLease) (claim : ClaimedMessage)
    (completion : PendingOperationCompletion) (db : QueueDb) : Except QueueError (QueueDb × Unit) :=
  match requireLifecycleWriterLease env lifecycle "complete queued operation" with
  | .error e => .error e
  | .ok () =>
    if db.pending.count (heldBy claim) = 0 then .error (claimMissError db.pending claim.id)
    else
      match OpState.parse? completion.opState with
      | none => .error .sqlite
      | some opState =>
        confirmInTx env claim opState
          { db with pending := db.pending.update (heldBy claim) (withResults opState completion) fun _ => rfl }

def computeBackoffMs (config : QueueConfig) (retryCount : Nat) : Int :=
  min (saturate (config.baseDelayMs * 2 ^ min (retryCount - 1) 30)) config.maxDelayMs

def failedRow (env : Env) (config : QueueConfig) (redactedError : String) (disposition : QueueFailureDisposition)
    (nextRetry : Int) (row : PendingRow) : PendingRow :=
  let unheld := { row with
    retryCount := nextRetry, claimToken := none, claimedAt := none, heartbeatAt := none
    lastError := some redactedError }
  match disposition with
  | .terminal =>
    { unheld with
      retryBackoffMs := 0, nextAttemptAt := env.nowSecs, status := .failed, opState := .failed
      failureClass := some "terminal" }
  | .retryable =>
    let backoffMs := computeBackoffMs config nextRetry.toNat
    { unheld with
      retryBackoffMs := backoffMs, nextAttemptAt := saturate (env.nowSecs + divCeil backoffMs 1000)
      status := .pending, opState := .queued, failureClass := none }
  | .retryableAfter delayMs =>
    let backoffMs := max delayMs 0
    { unheld with
      retryBackoffMs := backoffMs, nextAttemptAt := saturate (env.nowSecs + divCeil backoffMs 1000)
      status := .pending, opState := .queued, failureClass := none }

theorem failedRow_id (env : Env) (config : QueueConfig) (redactedError : String)
    (disposition : QueueFailureDisposition) (nextRetry : Int) (row : PendingRow) :
    (failedRow env config redactedError disposition nextRetry row).id = row.id := by
  cases disposition <;> rfl

/-- `mark_failed_with_disposition`; the error text is the redacted one. -/
def markFailedWithDisposition (env : Env) (config : QueueConfig) (lifecycle : Option RuntimeWriterLease)
    (claim : ClaimedMessage) (redactedError : String) (disposition : QueueFailureDisposition) (db : QueueDb) :
    Except QueueError (QueueDb × Unit) :=
  match requireLifecycleWriterLease env lifecycle "requeue or fail queued message" with
  | .error e => .error e
  | .ok () =>
    match db.pending.rows.find? (heldBy claim) with
    | none => .error (claimMissError db.pending claim.id)
    | some row =>
      let nextRetry := saturate (row.retryCount + 1)
      if !fitsU32 nextRetry then .error (.retryCountOverflow claim.id)
      else
        .ok ({ db with
          pending := db.pending.update (heldBy claim) (failedRow env config redactedError disposition nextRetry)
            (failedRow_id env config redactedError disposition nextRetry) }, ())

def releaseClaim (env : Env) (lifecycle : Option RuntimeWriterLease) (claim : ClaimedMessage) (db : QueueDb) :
    Except QueueError (QueueDb × Unit) :=
  match requireLifecycleWriterLease env lifecycle "release queued message claim" with
  | .error e => .error e
  | .ok () =>
    if db.pending.count (heldBy claim) = 0 then .error (claimMissError db.pending claim.id)
    else .ok ({ db with pending := db.pending.update (heldBy claim) unclaimedRow unclaimedRow_id }, ())

def refreshHeartbeat (env : Env) (lifecycle : Option RuntimeWriterLease) (id workerId : String) (db : QueueDb) :
    Except QueueError (QueueDb × Unit) :=
  match requireLifecycleWriterLease env lifecycle "refresh queued message heartbeat" with
  | .error e => .error e
  | .ok () =>
    let selects := fun (row : PendingRow) =>
      row.id = id && row.status = .claimed && row.claimToken.any fun token => like token (workerId ++ ":%")
    if maxLikePatternBytes < (workerId ++ ":%").utf8ByteSize &&
        db.pending.rows.any (fun row => row.id = id && row.status = .claimed) then .error .sqlite
    else if db.pending.count selects = 0 then .error (.messageNotFound id)
    else
      .ok ({ db with
        pending := db.pending.update selects (fun row => { row with heartbeatAt := some env.nowSecs })
          fun _ => rfl }, ())

def reclaimStale (env : Env) (staleSecs : Int) (db : QueueDb) : QueueDb × Nat :=
  let staleCutoff := saturatingCutoff env.nowSecs staleSecs
  ({ db with pending := reclaimStaleRows staleCutoff db.pending }, db.pending.count (isStale staleCutoff))

/-- `mark_model_task_failed_retryable`: by id, whatever the status and whoever holds the claim. -/
def markModelTaskFailedRetryable (env : Env) (id redactedError : String) (db : QueueDb) :
    Except QueueError (QueueDb × Unit) :=
  if !db.pending.contains id then .error (.messageNotFound id)
  else
    .ok ({ db with
      pending := db.pending.update (fun row => row.id = id)
        (fun row => { row with
          status := .failed, retryCount := 0, retryBackoffMs := 0, nextAttemptAt := env.nowSecs
          claimToken := none, claimedAt := none, heartbeatAt := none, lastError := some redactedError
          opState := .failed, failureClass := some "retryable_model" })
        fun _ => rfl }, ())

def autoRequeueFailedModelTasks (env : Env) (config : QueueConfig) (modelKind : String) (db : QueueDb) :
    Except QueueError (QueueDb × (Nat × Nat)) :=
  (requeueFailedModelTasks env.nowSecs modelKind config.maxIngestActiveBytes.toNat db.pending).map fun state =>
    ({ db with
      pending := state.pending
      lastAutoRequeueAtUnixMs :=
        if 0 < state.requeued then some env.nowMillis else db.lastAutoRequeueAtUnixMs },
      (state.requeued, state.skipped))

def retryFailedEmbedMessages (env : Env) (config : QueueConfig) (db : QueueDb) :
    Except QueueError (QueueDb × Nat) :=
  (requeueFailedModelTasks env.nowSecs "embedding" config.maxIngestActiveBytes.toNat db.pending).map fun state =>
    ({ db with pending := state.pending }, state.requeued)

def lostLeasePattern : String :=
  "%SQLite writer lease `sqlite-writer` for mempal-daemon-% was lost before build daemon hook drawer records%"

/-- The rows that a daemon start makes runnable again: hook work that another daemon's lost lease put off. -/
def blockedByLostLease (daemonOwner : String) (row : PendingRow) : Bool :=
  row.status = .pending && isDaemonHookKind row.kind && row.lastError.any fun lastError =>
    like lastError lostLeasePattern && !hasText lastError (" for " ++ daemonOwner ++ " was lost before ")

def requeueWriterLeaseFailuresForDaemonStart (env : Env) (daemonOwner : String) (db : QueueDb) : QueueDb × Nat :=
  ({ db with
    pending := db.pending.update (blockedByLostLease daemonOwner)
      (fun row => { row with
        retryCount := 0, retryBackoffMs := 0, nextAttemptAt := min row.createdAt env.nowSecs, claimToken := none
        claimedAt := none, heartbeatAt := none, lastError := none, opState := .queued, failureClass := none })
      fun _ => rfl },
    db.pending.count (blockedByLostLease daemonOwner))

structure QueueFailureActionOutcome where
  matched : Nat
  changed : Nat
deriving DecidableEq, Repr

def retryFailedMessages (env : Env) (config : QueueConfig) (filter : QueueFailureFilter) (db : QueueDb) :
    Except QueueError (QueueDb × QueueFailureActionOutcome) :=
  if !filter.isExplicit then .error .unsafeUnfilteredQueueMutation
  else
    match matchingFailedRows db.pending filter with
    | .error e => .error e
    | .ok rows =>
      (requeueAll env.nowSecs config.maxIngestActiveBytes.toNat (rows.map fun row => (row.id, row.kind))
        db.pending).map fun state =>
          ({ db with pending := state.pending }, ⟨rows.length, state.requeued⟩)

def archiveFailedMessages (env : Env) (filter : QueueFailureFilter) (db : QueueDb) :
    Except QueueError (QueueDb × QueueFailureActionOutcome) :=
  if !filter.isExplicit then .error .unsafeUnfilteredQueueMutation
  else
    match matchingFailedRows db.pending filter with
    | .error e => .error e
    | .ok rows =>
      let (db', changed) := rows.foldl (archiveTurn env.nowMillis) (db, 0)
      .ok (db', ⟨rows.length, changed⟩)

end Mempal.Queue

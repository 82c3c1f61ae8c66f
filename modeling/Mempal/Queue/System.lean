import Mempal.Foundation.Machine
import Mempal.Queue.Operations

set_option autoImplicit false

/-! Clients call the store in any order. A call is one step when it is one transaction or one statement. -/

namespace Mempal.Queue

open Foundation
open WriterLease (RuntimeWriterLease)

inductive QueueOp where
  | enqueue (identity : EnqueueIdentity) (kind payload : String)
  | enqueueFenced (lease : Option RuntimeWriterLease) (kind payload operation : String)
  | enqueueKeyFenced (lease : Option RuntimeWriterLease) (kind payload idempotencyKey operation : String)
  | claim (request : ClaimRequest)
  | confirm (lifecycle : Option RuntimeWriterLease) (claim : ClaimedMessage)
  | completeOperation (lifecycle : Option RuntimeWriterLease) (claim : ClaimedMessage)
      (completion : PendingOperationCompletion)
  | markFailed (lifecycle : Option RuntimeWriterLease) (claim : ClaimedMessage) (redactedError : String)
      (disposition : QueueFailureDisposition)
  | releaseClaim (lifecycle : Option RuntimeWriterLease) (claim : ClaimedMessage)
  | refreshHeartbeat (lifecycle : Option RuntimeWriterLease) (id workerId : String)
  | reclaimStale (staleSecs : Int)
  | markModelTaskFailedRetryable (id redactedError : String)
  | autoRequeueFailedModelTasks (modelKind : String)
  | retryFailedEmbedMessages
  | requeueWriterLeaseFailures (daemonOwner : String)
  | retryFailedMessages (filter : QueueFailureFilter)
  | archiveFailedMessages (filter : QueueFailureFilter)

inductive Reply where
  | enqueued (id : String)
  | claimed (message : Option ClaimedMessage)
  | finished
  | counted (rows : Nat)
  | requeued (requeued skipped : Nat)
  | failureAction (outcome : QueueFailureActionOutcome)
deriving DecidableEq

inductive Call where
  | keyCompletions (call : KeyCall)
  | keyInsert (call : KeyCall)
  | claimProbe (request : ClaimRequest)
  | claimTx (request : ClaimRequest) (staleCutoff : Int)

inductive Progress where
  | returned (result : Except QueueError Reply)
  | waits (next : Call)

def returned {α : Type} (reply : α → Reply) (result : QueueDb × Except QueueError α) : QueueDb × Progress :=
  (result.1, .returned (result.2.map reply))

section Hash
variable (blake3 : List UInt8 → String) (config : QueueConfig)

/-- The `SELECT` on `pending_messages` with which an explicit-key call begins. -/
def beginKeyCall (call : KeyCall) (db : QueueDb) : QueueDb × Progress :=
  let message := call.message blake3
  match db.pending.find? message.id with
  | none => (db, .waits (.keyCompletions call))
  | some stored =>
    if pendingConflicts stored message.kind message.sourceHash then (db, .returned (.error .idempotencyConflict))
    else (db, .waits (.keyInsert call))

/-- `enqueue_with_busy_timeout`. -/
def beginEnqueue (env : Env) (identity : EnqueueIdentity) (kind payload : String) (db : QueueDb) :
    QueueDb × Progress :=
  let message := newMessage blake3 env identity kind payload
  if kind = ingestAsyncKind then returned .enqueued (enqueueIngestWithByteBudget config identity message db)
  else
    match identity with
    | .fresh => returned .enqueued (insertAlone message db)
    | .sourceHash => (insertUnlessKnown message db, .returned (.ok (.enqueued message.id)))
    | .explicitKey idempotencyKey => beginKeyCall blake3 ⟨kind, payload, idempotencyKey, env.nowSecs⟩ db

def beginClaim (env : Env) (request : ClaimRequest) (db : QueueDb) : QueueDb × Progress :=
  match claimProbe env request db with
  | .error e => (db, .returned (.error e))
  | .ok false => (db, .returned (.ok (.claimed none)))
  | .ok true =>
    match request.filter with
    | .byKind _ => (db, .waits (.claimProbe request))
    | _ => (db, .waits (.claimTx request (request.staleCutoff env)))

def begin (env : Env) (op : QueueOp) (db : QueueDb) : QueueDb × Progress :=
  match op with
  | .enqueue identity kind payload => beginEnqueue blake3 config env identity kind payload db
  | .enqueueFenced none kind payload _ => beginEnqueue blake3 config env .fresh kind payload db
  | .enqueueFenced (some lease) kind payload operation =>
    returned .enqueued
      (enqueueFenced config env lease operation (newMessage blake3 env .fresh kind payload) db)
  | .enqueueKeyFenced none kind payload idempotencyKey _ =>
    beginEnqueue blake3 config env (.explicitKey idempotencyKey) kind payload db
  | .enqueueKeyFenced (some lease) kind payload idempotencyKey operation =>
    returned .enqueued (enqueueIdempotentWithKeyFailFastFenced env lease operation
      (newMessage blake3 env (.explicitKey idempotencyKey) kind payload) db)
  | .claim request => beginClaim env request db
  | .confirm lifecycle claim =>
    returned (fun _ => .finished) (commitOrRollback db (confirm env lifecycle claim db))
  | .completeOperation lifecycle claim completion =>
    returned (fun _ => .finished) (commitOrRollback db (completeOperation env lifecycle claim completion db))
  | .markFailed lifecycle claim redactedError disposition =>
    returned (fun _ => .finished) (commitOrRollback db
      (markFailedWithDisposition env config lifecycle claim redactedError disposition db))
  | .releaseClaim lifecycle claim =>
    returned (fun _ => .finished) (commitOrRollback db (releaseClaim env lifecycle claim db))
  | .refreshHeartbeat lifecycle id workerId =>
    returned (fun _ => .finished) (commitOrRollback db (refreshHeartbeat env lifecycle id workerId db))
  | .reclaimStale staleSecs =>
    let result := reclaimStale env staleSecs db
    (result.1, .returned (.ok (.counted result.2)))
  | .markModelTaskFailedRetryable id redactedError =>
    returned (fun _ => .finished) (commitOrRollback db (markModelTaskFailedRetryable env id redactedError db))
  | .autoRequeueFailedModelTasks modelKind =>
    returned (fun counts => .requeued counts.1 counts.2)
      (commitOrRollback db (autoRequeueFailedModelTasks env config modelKind db))
  | .retryFailedEmbedMessages =>
    returned .counted (commitOrRollback db (retryFailedEmbedMessages env config db))
  | .requeueWriterLeaseFailures daemonOwner =>
    let result := requeueWriterLeaseFailuresForDaemonStart env daemonOwner db
    (result.1, .returned (.ok (.counted result.2)))
  | .retryFailedMessages filter =>
    returned .failureAction (commitOrRollback db (retryFailedMessages env config filter db))
  | .archiveFailedMessages filter =>
    returned .failureAction (commitOrRollback db (archiveFailedMessages env filter db))

/-- The next statement or transaction of a call that waits. -/
def resume (env : Env) (call : Call) (db : QueueDb) : QueueDb × Progress :=
  match call with
  | .keyCompletions call =>
    let message := call.message blake3
    if (db.completions.find? message.id).any fun stored =>
        completionConflicts stored message.kind message.sourceHash then
      (db, .returned (.error .idempotencyConflict))
    else (db, .waits (.keyInsert call))
  | .keyInsert call =>
    let message := call.message blake3
    (insertUnlessKnown message db, .returned (.ok (.enqueued message.id)))
  | .claimProbe request =>
    match claimProbe env request db with
    | .error e => (db, .returned (.error e))
    | .ok false => (db, .returned (.ok (.claimed none)))
    | .ok true => (db, .waits (.claimTx request (request.staleCutoff env)))
  | .claimTx request staleCutoff =>
    returned .claimed (commitOrRollback db (claimTx env request staleCutoff db))

end Hash

structure QueueState where
  db : QueueDb
  calls : Nat → Option Call

def QueueState.start (db : QueueDb) : QueueState := ⟨db, fun _ => none⟩

inductive QueueStep where
  | call (slot : Nat) (op : QueueOp)
  | resume (slot : Nat)
  | abandon (slot : Nat)

inductive Outcome where
  | returned (result : Except QueueError Reply)
  | waits
  | ignored
deriving DecidableEq

def setCall (calls : Nat → Option Call) (slot : Nat) (call : Option Call) : Nat → Option Call :=
  fun other => if other = slot then call else calls other

def settle (state : QueueState) (slot : Nat) : QueueDb × Progress → QueueState × Outcome
  | (db, .returned result) => (⟨db, setCall state.calls slot none⟩, .returned result)
  | (db, .waits next) => (⟨db, setCall state.calls slot (some next)⟩, .waits)

section Hash
variable (blake3 : List UInt8 → String) (config : QueueConfig)

def step (state : QueueState) : Env × QueueStep → QueueState × Outcome
  | (env, .call slot op) =>
    match state.calls slot with
    | some _ => (state, .ignored)
    | none => settle state slot (begin blake3 config env op state.db)
  | (env, .resume slot) =>
    match state.calls slot with
    | none => (state, .ignored)
    | some call => settle state slot (resume blake3 env call state.db)
  | (_, .abandon slot) => (⟨state.db, setCall state.calls slot none⟩, .ignored)

def queueMachine : Machine QueueState (Env × QueueStep) Outcome := ⟨step blake3 config⟩

end Hash

def issued : (Env × QueueStep) × Outcome → Option ClaimedMessage
  | (_, .returned (.ok (.claimed message))) => message
  | _ => none

end Mempal.Queue

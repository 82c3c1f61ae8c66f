import Mathlib.Data.List.Sort
import Mempal.Queue.Basic

set_option autoImplicit false

/-! The filter that an operator gives for a retry or an archival works on a class and a reason, which are read off
the stored failure class and the stored error text. -/

namespace Mempal.Queue

open Foundation Foundation.Text

def retryClassFor (failureClass : Option String) : String :=
  match failureClass with
  | none => "terminal"
  | some value =>
    if value = "retryable_model" then "retryable_model"
    else if isBlank value then "terminal"
    else trim value

def isHookQueueKind (kind : String) : Bool :=
  kind ∈ ["ingest_async", "hook_event", "hook_post_tool", "hook_user_prompt", "hook_session_start",
    "hook_session_end", "hook:post-tool-use", "hook:user-prompt-submit", "hook:session-start", "hook:session-end"]

/-- The kinds a daemon start looks at, which are the hook kinds without `ingest_async`. -/
def isDaemonHookKind (kind : String) : Bool := kind != ingestAsyncKind && isHookQueueKind kind

def queueFailureReasonCode (kind lastError : String) : String :=
  let lower := asciiLower lastError
  if hasText lower "failed to decode llm response" || hasText lower "error decoding response body" then
    "llm_response_decode"
  else if hasText lower "automatic hook llm gate failed before durable insert" then "automatic_hook_llm_gate"
  else if hasText lower "failed to decode queued hook envelope" || (isHookQueueKind kind && hasText lower "decode")
  then "invalid_hook_envelope"
  else if hasText lower "failed to reopen db for merge" || hasText lower "failed to merge drawer" then
    "storage_merge_reopen"
  else if hasText lower "sqlite writer lease" && hasText lower "for mempal-daemon-" &&
      hasText lower "was lost before" then "writer_lease_lost"
  else if hasText lower "database is locked" || hasText lower "database locked" ||
      hasText lower "database is busy" || hasText lower "database busy" || hasText lower "sqlite_busy" ||
      hasText lower "sqlite_locked" then "storage_locked_or_busy"
  else if hasText lower "too many requests" || hasText lower "rate limit" || hasText lower "429" then
    "model_rate_limited"
  else if hasText lower "timeout" || hasText lower "timed out" || hasText lower "408" then "model_timeout"
  else if hasText lower "connection refused" || hasText lower "connection reset" ||
      hasText lower "remote disconnected" then "model_connection"
  else if hasText lower "unknown llm task" || hasText lower "unsupported" then "unsupported_queue_task"
  else if hasText lower "invalid" || hasText lower "missing" || hasText lower "configuration" ||
      hasText lower "config" || hasText lower "dimension" || hasText lower "no vectors" then
    "invalid_queue_payload"
  else if isBlank lastError then "unknown_no_error"
  else "unknown_failure"

def QueueFailureFilter.isExplicit (filter : QueueFailureFilter) : Bool :=
  filter.kind.isSome || filter.retryClass.isSome || filter.reasonCode.isSome

structure QueueFailureRow where
  id : String
  kind : String
  retryClass : String
  reasonCode : String
deriving DecidableEq, Repr

def QueueFailureRow.ofPending (row : PendingRow) : QueueFailureRow where
  id := row.id
  kind := row.kind
  retryClass := retryClassFor row.failureClass
  reasonCode := queueFailureReasonCode row.kind (row.lastError.getD "")

def QueueFailureFilter.matchesRow (filter : QueueFailureFilter) (row : QueueFailureRow) : Bool :=
  filter.kind.all (· = row.kind) && filter.retryClass.all (· = row.retryClass) &&
    filter.reasonCode.all (· = row.reasonCode)

/-- The rows the failure query returns: the failed ones and those that wait for another attempt. -/
def isFailureRow (row : PendingRow) : Bool :=
  row.status = .failed || (row.status = .pending && 0 < row.retryCount)

/-- `matching_failed_rows`, which fails as a whole on a retry count that does not fit. -/
def matchingFailedRows (pending : Table PendingRow.id) (filter : QueueFailureFilter) :
    Except QueueError (List QueueFailureRow) :=
  match (pending.rows.filter isFailureRow).find? fun row => !fitsU32 row.retryCount with
  | some row => .error (.retryCountOverflow row.id)
  | none =>
    .ok (((pending.rows.filter fun row => row.status = .failed).map .ofPending).filter filter.matchesRow)

def requeuedRow (now : Int) (row : PendingRow) : PendingRow :=
  clearIngestResults
    { row with
      status := .pending, retryCount := 0, retryBackoffMs := 0, nextAttemptAt := min row.createdAt now
      claimToken := none, claimedAt := none, heartbeatAt := none, lastError := none, opState := .queued
      failureClass := none }

theorem requeuedRow_id (now : Int) (row : PendingRow) : (requeuedRow now row).id = row.id := by
  unfold requeuedRow clearIngestResults
  split <;> rfl

def failedWithId (id : String) (row : PendingRow) : Bool := row.id = id && row.status = .failed

/-- `requeue_failed_message`: the table and the number of rows changed. -/
def requeueFailedMessage (now : Int) (id : String) (pending : Table PendingRow.id) : Table PendingRow.id × Nat :=
  (pending.update (failedWithId id) (requeuedRow now) (requeuedRow_id now), pending.count (failedWithId id))

def admittedRequeuePayloadBytes (pending : Table PendingRow.id) (id kind : String)
    (activeIngestBytes maxIngestActiveBytes : Nat) : Except QueueError (Option Nat) :=
  if kind ≠ ingestAsyncKind then .ok (some 0)
  else
    match pending.find? id with
    | none => .error .sqlite
    | some row =>
      if maxIngestActiveBytes - activeIngestBytes < payloadBytes row.payload then .ok none
      else .ok (some (payloadBytes row.payload))

def u64Max : Nat := 2 ^ 64 - 1

structure RequeueState where
  pending : Table PendingRow.id
  activeIngestBytes : Nat
  requeued : Nat
  skipped : Nat

/-- One turn of the loops of `requeue_failed_model_tasks` and `retry_failed_messages_on_connection`. -/
def requeueTurn (now : Int) (maxIngestActiveBytes : Nat) (state : RequeueState) (candidate : String × String) :
    Except QueueError RequeueState :=
  match admittedRequeuePayloadBytes state.pending candidate.1 candidate.2 state.activeIngestBytes
      maxIngestActiveBytes with
  | .error e => .error e
  | .ok none => .ok { state with skipped := state.skipped + 1 }
  | .ok (some bytes) =>
    let result := requeueFailedMessage now candidate.1 state.pending
    if 0 < result.2 then
      .ok { state with
        pending := result.1, activeIngestBytes := min u64Max (state.activeIngestBytes + bytes)
        requeued := state.requeued + result.2 }
    else .ok { state with pending := result.1 }

def requeueLoop (now : Int) (maxIngestActiveBytes : Nat) :
    List (String × String) → RequeueState → Except QueueError RequeueState
  | [], state => .ok state
  | candidate :: candidates, state =>
    match requeueTurn now maxIngestActiveBytes state candidate with
    | .error e => .error e
    | .ok state => requeueLoop now maxIngestActiveBytes candidates state

def requeueAll (now : Int) (maxIngestActiveBytes : Nat) (candidates : List (String × String))
    (pending : Table PendingRow.id) : Except QueueError RequeueState :=
  match activePayloadBytesForKind pending ingestAsyncKind with
  | .error e => .error e
  | .ok bytes => requeueLoop now maxIngestActiveBytes candidates ⟨pending, bytes, 0, 0⟩

def modelKindSelects (modelKind : String) : Option (String → Bool) :=
  if modelKind = "embedding" then some (· != "llm_task")
  else if modelKind = "llm" then some (· == "llm_task")
  else none

/-- `ORDER BY created_at ASC, id ASC`. -/
def createdBefore (row row' : PendingRow) : Bool :=
  row.createdAt < row'.createdAt || (row.createdAt = row'.createdAt && row.id ≤ row'.id)

def requeueFailedModelTasks (now : Int) (modelKind : String) (maxIngestActiveBytes : Nat)
    (pending : Table PendingRow.id) : Except QueueError RequeueState :=
  match modelKindSelects modelKind with
  | none => .error (.unsupportedModelTaskKind modelKind)
  | some selects =>
    let failed := pending.rows.filter fun row =>
      row.status = .failed && row.failureClass = some "retryable_model" && selects row.kind
    requeueAll now maxIngestActiveBytes
      ((failed.mergeSort createdBefore).map fun row => (row.id, row.kind)) pending

def archivedCompletion (completedAt : Int) (reasonCode : String) (row : PendingRow) : CompletionRow where
  messageId := row.id
  kind := row.kind
  createdAt := row.createdAt * 1000
  claimedAt := row.claimedAt
  completedAt := completedAt
  processingMs := none
  resultDrawerId := row.resultDrawerId
  opState := .failed
  rejectedReason := some ("queue_archive:" ++ reasonCode)
  failureDetail := row.lastError
  resultJson := row.resultJson
  sourceHash := some row.sourceHash

def upsertArchived (completions : Table CompletionRow.messageId) (row : CompletionRow) :
    Table CompletionRow.messageId :=
  completions.upsert row (fun old => { row with messageId := old.messageId }) fun _ => rfl

def archiveTurn (completedAt : Int) (acc : QueueDb × Nat) (row : QueueFailureRow) : QueueDb × Nat :=
  let (db, changed) := acc
  let completions :=
    match db.pending.rows.find? (failedWithId row.id) with
    | none => db.completions
    | some stored => upsertArchived db.completions (archivedCompletion completedAt row.reasonCode stored)
  ({ db with pending := db.pending.delete (failedWithId row.id), completions := completions },
    changed + db.pending.count (failedWithId row.id))

end Mempal.Queue

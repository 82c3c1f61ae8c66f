import Mempal.Foundation.Channel
import Mempal.Foundation.Machine
import Mempal.Queue.Operations

set_option autoImplicit false

/-! `claim_next_by_kind_until_shutdown`: an async caller, a blocking worker and a watched shutdown value. -/

namespace Mempal.ClaimShutdown

open Foundation Queue

abbrev ClaimResult : Type := Except QueueError (Option ClaimedMessage)

inductive CallError where
  | queue (error : QueueError)
  | blockingTaskFailed
deriving DecidableEq, Repr

def callResult : ClaimResult → Except CallError (Option ClaimedMessage)
  | .ok message => .ok message
  | .error error => .error (.queue error)

/-- Where the caller stands; it awaits at the four stages `start` and `await..`. -/
inductive Caller where
  | start
  | awaitPermit
  | awaitReady
  | gotReady (isOk : Bool)
  | decided (approved : Bool)
  | answered (approved : Bool)
  | awaitResult
  | gotResult (result : ClaimResult)
  | returning (result : Except CallError (Option ClaimedMessage))
  | returned (result : Except CallError (Option ClaimedMessage))
  | cancelled

inductive Worker where
  | unspawned
  | queued
  | probe
  | askApproval
  | awaitApproval
  | recheck
  | claimTx (staleCutoff : Int)
  | claimed (claim : ClaimedMessage)
  | awaitAccepted (claim : ClaimedMessage)
  | dropOwner (claim : ClaimedMessage)
  | reply (result : ClaimResult)
  | finished

structure Handshake where
  shutdown : Watch
  caller : Caller
  worker : Worker
  /-- The answer that the worker keeps across its retries. -/
  approved : Option Bool
  ready : Oneshot Unit
  approval : Oneshot Bool
  result : Oneshot ClaimResult
  accepted : Oneshot Unit
  db : QueueDb

inductive Event where
  | quiet
  | answered (approved : Bool)
  | committed (claim : ClaimedMessage)
  | released (claim : ClaimedMessage) (result : Except QueueError Unit)
  | returned (result : Except CallError (Option ClaimedMessage))
deriving DecidableEq

inductive Permit where
  | pending
  | acquired
  | closed
deriving DecidableEq, Repr

/-- An error of SQLite or a mutex in a worker's step, and whether the lock retry tries again. -/
structure Fault where
  error : QueueError
  retried : Bool
deriving DecidableEq, Repr

inductive ChannelEnd where
  | ready
  | approval
  | result
  | accepted
deriving DecidableEq, Repr

inductive Action where
  | signal (value : Bool)
  | dropShutdown
  | poll (permit : Permit)
  | cancel
  | callerDrops (channel : ChannelEnd)
  | work (env : Env) (fault : Option Fault)
  | dropTask
  | workerDrops (channel : ChannelEnd)
  | others (db : QueueDb)

def Handshake.finishCall (s : Handshake) (result : Except CallError (Option ClaimedMessage)) : Handshake × Event :=
  ({ s with caller := .returned result }, .returned result)

def pollStep (permit : Permit) (s : Handshake) : Handshake × Event :=
  match s.caller with
  | .start => if s.shutdown.value then s.finishCall (.ok none) else ({ s with caller := .awaitPermit }, .quiet)
  | .awaitPermit =>
    if s.shutdown.changed then { s with shutdown := s.shutdown.seen }.finishCall (.ok none)
    else
      match permit with
      | .pending => (s, .quiet)
      | .closed => s.finishCall (.error .blockingTaskFailed)
      | .acquired =>
        ({ s with
          caller := .awaitReady, worker := .queued, approved := none, ready := .fresh, approval := .fresh
          result := .fresh, accepted := .fresh }, .quiet)
  | .awaitReady =>
    if s.shutdown.changed then ({ s with shutdown := s.shutdown.seen, caller := .decided false }, .quiet)
    else
      match s.ready.recv with
      | .pending => (s, .quiet)
      | .message () => ({ s with ready := s.ready.dropReceiver, caller := .gotReady true }, .quiet)
      | .closed => ({ s with ready := s.ready.dropReceiver, caller := .gotReady false }, .quiet)
  | .gotReady isOk => ({ s with caller := .decided (isOk && !s.shutdown.value) }, .quiet)
  | .decided approved =>
    ({ s with approval := s.approval.send approved, caller := .answered approved }, .answered approved)
  | .answered approved =>
    if !approved && s.shutdown.value then s.finishCall (.ok none) else ({ s with caller := .awaitResult }, .quiet)
  | .awaitResult =>
    match s.result.recv with
    | .pending => (s, .quiet)
    | .closed => { s with result := s.result.dropReceiver }.finishCall (.error .blockingTaskFailed)
    | .message result => ({ s with result := s.result.dropReceiver, caller := .gotResult result }, .quiet)
  | .gotResult result =>
    match result with
    | .ok (some claim) => ({ s with accepted := s.accepted.send (), caller := .returning (.ok (some claim)) }, .quiet)
    | result => ({ s with caller := .returning (callResult result) }, .quiet)
  | .returning result => s.finishCall result
  | .returned _ | .cancelled => (s, .quiet)

def Caller.awaits : Caller → Bool
  | .start | .awaitPermit | .awaitReady | .awaitResult => true
  | _ => false

def Caller.gone : Caller → Bool
  | .returned _ | .cancelled => true
  | _ => false

def callerDropsStep (channel : ChannelEnd) (s : Handshake) : Handshake :=
  if s.caller.gone then
    match channel with
    | .ready => { s with ready := s.ready.dropReceiver }
    | .approval => { s with approval := s.approval.dropSender }
    | .result => { s with result := s.result.dropReceiver }
    | .accepted => { s with accepted := s.accepted.dropSender }
  else s

/-- A failed statement: the lock retry begins again with the probe, other errors are the result. -/
def Handshake.fail (s : Handshake) (fault : Fault) : Handshake × Event :=
  if fault.retried then ({ s with worker := .probe }, .quiet)
  else ({ s with worker := .reply (.error fault.error) }, .quiet)

def Handshake.heed (s : Handshake) (approved : Bool) : Handshake × Event :=
  ({ s with approved := some approved, worker := if approved then .recheck else .reply (.ok none) }, .quiet)

def workStep (request : ClaimRequest) (env : Env) (fault : Option Fault) (s : Handshake) : Handshake × Event :=
  match s.worker with
  | .unspawned | .finished => (s, .quiet)
  | .queued => ({ s with worker := .probe }, .quiet)
  | .probe =>
    match fault with
    | some fault => s.fail fault
    | none =>
      match claimProbe env request s.db with
      | .error error => ({ s with worker := .reply (.error error) }, .quiet)
      | .ok false => ({ s with worker := .reply (.ok none) }, .quiet)
      | .ok true => ({ s with worker := .askApproval }, .quiet)
  | .askApproval =>
    match fault, s.approved with
    | some fault, _ => s.fail fault
    | none, some approved => s.heed approved
    | none, none => ({ s with ready := s.ready.send (), worker := .awaitApproval }, .quiet)
  | .awaitApproval =>
    match s.approval.recv with
    | .pending => (s, .quiet)
    | .message approved => { s with approval := s.approval.dropReceiver }.heed approved
    | .closed => { s with approval := s.approval.dropReceiver }.heed false
  | .recheck =>
    match fault with
    | some fault => s.fail fault
    | none =>
      match claimProbe env request s.db with
      | .error error => ({ s with worker := .reply (.error error) }, .quiet)
      | .ok false => ({ s with worker := .reply (.ok none) }, .quiet)
      | .ok true => ({ s with worker := .claimTx (request.staleCutoff env) }, .quiet)
  | .claimTx staleCutoff =>
    match fault with
    | some fault => s.fail fault
    | none =>
      match Queue.claimTx env request staleCutoff s.db with
      | .error error => ({ s with worker := .reply (.error error) }, .quiet)
      | .ok (db, none) => ({ s with db := db, worker := .reply (.ok none) }, .quiet)
      | .ok (db, some claim) => ({ s with db := db, worker := .claimed claim }, .committed claim)
  | .claimed claim =>
    ({ s with
      result := s.result.send (.ok (some claim))
      worker := if s.result.receiver then .awaitAccepted claim else .dropOwner claim }, .quiet)
  | .awaitAccepted claim =>
    match s.accepted.recv with
    | .pending => (s, .quiet)
    | .message () => ({ s with accepted := s.accepted.dropReceiver, worker := .finished }, .quiet)
    | .closed => ({ s with worker := .dropOwner claim }, .quiet)
  | .dropOwner claim =>
    -- the release after a cancellation does not look at the lifecycle lease
    match fault with
    | some fault => ({ s with worker := .finished }, .released claim (.error fault.error))
    | none =>
      match releaseClaim env none claim s.db with
      | .error error => ({ s with worker := .finished }, .released claim (.error error))
      | .ok (db, ()) => ({ s with db := db, worker := .finished }, .released claim (.ok ()))
  | .reply result => ({ s with result := s.result.send result, worker := .finished }, .quiet)

def workerDropsStep (channel : ChannelEnd) (s : Handshake) : Handshake :=
  match s.worker with
  | .finished =>
    match channel with
    | .ready => { s with ready := s.ready.dropSender }
    | .approval => { s with approval := s.approval.dropReceiver }
    | .result => { s with result := s.result.dropSender }
    | .accepted => { s with accepted := s.accepted.dropReceiver }
  | _ => s

def handshakeMachine (request : ClaimRequest) : Machine Handshake Action Event where
  step s
    | .signal value => ({ s with shutdown := s.shutdown.send value }, .quiet)
    | .dropShutdown => ({ s with shutdown := s.shutdown.dropSender }, .quiet)
    | .poll permit => pollStep permit s
    | .cancel => (if s.caller.awaits then { s with caller := .cancelled } else s, .quiet)
    | .callerDrops channel => (callerDropsStep channel s, .quiet)
    | .work env fault => workStep request env fault s
    | .dropTask =>
      -- a runtime that shuts down drops a blocking task that has not begun
      match s.worker with
      | .queued => ({ s with worker := .finished }, .quiet)
      | _ => (s, .quiet)
    | .workerDrops channel => (workerDropsStep channel s, .quiet)
    | .others db => ({ s with db := db }, .quiet)

def beforeCall (shutdown : Watch) (db : QueueDb) : Handshake :=
  ⟨shutdown, .start, .unspawned, none, .fresh, .fresh, .fresh, .fresh, db⟩

end Mempal.ClaimShutdown

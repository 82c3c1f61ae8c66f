import Mathlib.Logic.Relation
import Mempal.Queue.Lifecycle

set_option autoImplicit false

/-! A dozen statements set their own columns of `pending_messages`. Each of them turns a row of a good shape into one,
so that the status, the claim columns, the operation state and the failure class agree in every state. -/

namespace Mempal.Queue

open Foundation Relation
open WriterLease (RuntimeWriterLease)

structure PendingRow.Shaped (row : PendingRow) : Prop where
  claim : row.status = .claimed ↔
    row.claimToken.isSome = true ∧ row.claimedAt.isSome = true ∧ row.heartbeatAt.isSome = true
  queued : row.opState = .queued ↔ row.status = .pending
  running : row.opState = .running ↔ row.status = .claimed
  failed : row.opState = .failed ↔ row.status = .failed
  failureClass : row.failureClass.isSome = true → row.status = .failed

def PendingRow.Open (row : PendingRow) : Prop := row.opState ≠ .completed ∧ row.opState ≠ .rejected

def QueueDb.Shaped (db : QueueDb) : Prop := ∀ id row, db.pending.find? id = some row → row.Shaped

theorem shaped_new (message : NewMessage) : message.row.Shaped := by
  constructor <;> simp [NewMessage.row]

variable {row row' : PendingRow} {db db' : QueueDb} {env : Env} {claim : ClaimedMessage} {state : RequeueState}

theorem PendingRow.Shaped.clearIngestResults (h : row.Shaped) : (clearIngestResults row).Shaped := by
  unfold Queue.clearIngestResults
  split
  · exact ⟨h.claim, h.queued, h.running, h.failed, h.failureClass⟩
  · exact h

theorem PendingRow.Shaped.failureClass_eq_none (h : row.Shaped) (hStatus : row.status ≠ .failed) :
    row.failureClass = none := by
  cases hClass : row.failureClass with
  | none => rfl
  | some value => exact absurd (h.failureClass (by rw [hClass]; rfl)) hStatus

variable {retries : Bool} {now : Int} {limit : Nat}

theorem RowTurn.shaped (h : row.Shaped) (hTurn : RowTurn retries row row') : row'.Shaped := by
  cases hTurn with
  | claim token now hPending =>
    have hClass := h.failureClass_eq_none (by rw [hPending]; nofun)
    constructor <;> simp [claimedRow, hClass]
  | unclaim hClaimed =>
    have hClass := h.failureClass_eq_none (by rw [hClaimed]; nofun)
    apply PendingRow.Shaped.clearIngestResults
    constructor <;> simp [hClass]
  | beat now hClaimed =>
    have hClaim := h.claim.mp hClaimed
    exact ⟨⟨fun _ => ⟨hClaim.1, hClaim.2.1, rfl⟩, fun _ => hClaimed⟩, h.queued, h.running, h.failed, h.failureClass⟩
  | fail env config error disposition hClaimed => cases disposition <;> constructor <;> simp [failedRow]
  | requeue now hFailed =>
    apply PendingRow.Shaped.clearIngestResults
    constructor <;> simp

theorem clearIngestResults_retryCount (row : PendingRow) : (clearIngestResults row).retryCount = row.retryCount := by
  unfold clearIngestResults
  split <;> rfl

theorem RowTurn.retryCount_le (h : RowTurn false row row') : row.retryCount ≤ row'.retryCount := by
  cases h with
  | claim | beat => exact Int.le_refl _
  | unclaim hClaimed =>
    rw [unclaimedRow, clearIngestResults_retryCount]
  | fail env config error disposition hClaimed => cases disposition <;> exact Int.le_add_one (Int.le_refl _)

theorem retryCount_turns (h : ReflTransGen (RowTurn retries) row row') :
    row.retryCount ≤ row'.retryCount ∨ retries = true ∧ row.status = .failed := by
  induction h using ReflTransGen.head_induction_on with
  | refl => exact .inl (Int.le_refl _)
  | head hTurn _ ih =>
    cases retries with
    | true =>
      cases hTurn with
      | requeue now hFailed => exact .inr ⟨rfl, hFailed⟩
    | false =>
      rcases ih with hLe | ⟨hRetries, _⟩
      · exact .inl (Int.le_trans hTurn.retryCount_le hLe)
      · cases hRetries

theorem shaped_turns (hShaped : row.Shaped) (h : ReflTransGen (RowTurn retries) row row') : row'.Shaped := by
  induction h with
  | refl => exact hShaped
  | tail _ hTurn ih => exact hTurn.shaped ih

def Turns (retries : Bool) (db db' : QueueDb) : Prop :=
  ∀ id row', db'.pending.find? id = some row' →
    ∃ row, db.pending.find? id = some row ∧ ReflTransGen (RowTurn retries) row row'

def Inserts (createdAt : Int) (db db' : QueueDb) : Prop :=
  ∀ id row', db'.pending.find? id = some row' → db.pending.find? id = some row' ∨
    db.pending.find? id = none ∧ ∃ message : NewMessage, message.createdAt = createdAt ∧ row' = message.row

theorem Turns.of_pending (h : db'.pending = db.pending) : Turns retries db db' := by
  intro id row' hRow'
  exact ⟨row', h ▸ hRow', .refl⟩

theorem Turns.refl (retries : Bool) (db : QueueDb) : Turns retries db db := .of_pending rfl

theorem Turns.trans {db'' : QueueDb} (h : Turns retries db db') (h' : Turns retries db' db'') :
    Turns retries db db'' := by
  intro id row'' hRow''
  obtain ⟨row', hRow', hTurn'⟩ := h' id row'' hRow''
  obtain ⟨row, hRow, hTurn⟩ := h id row' hRow'
  exact ⟨row, hRow, hTurn.trans hTurn'⟩

variable {p : PendingRow → Bool} {createdAt staleCutoff : Int}
  {candidates : List (String × String)} {op : QueueOp}

theorem turns_update {f : PendingRow → PendingRow} (hPending : ∃ hf, db'.pending = db.pending.update p f hf)
    (h : ∀ row ∈ db.pending, p row = true → RowTurn retries row (f row)) : Turns retries db db' := by
  obtain ⟨hf, hPending⟩ := hPending
  intro id row' hRow'
  rw [hPending, Table.find?_update] at hRow'
  obtain ⟨row, hRow, rfl⟩ := Option.map_eq_some_iff.mp hRow'
  refine ⟨row, hRow, ?_⟩
  split
  · rename_i hp
    exact .single (h row (Table.find?_eq_some_iff.mp hRow).1 hp)
  · exact .refl

theorem turns_delete (hPending : db'.pending = db.pending.delete p) : Turns retries db db' := by
  intro id row' hRow'
  rw [hPending, Table.find?_delete] at hRow'
  exact ⟨row', (Option.filter_eq_some_iff.mp hRow').1, .refl⟩

theorem Inserts.refl (createdAt : Int) (db : QueueDb) : Inserts createdAt db db := fun _ _ h => .inl h

theorem inserts_insert (message : NewMessage) (hPending : db'.pending = db.pending.insertOrIgnore message.row) :
    Inserts message.createdAt db db' := by
  intro id row' hRow'
  rw [hPending, Table.find?_insertOrIgnore] at hRow'
  split at hRow'
  · cases hFind : db.pending.find? id with
    | some row =>
      rw [hFind] at hRow'
      exact .inl hRow'
    | none =>
      rw [hFind] at hRow'
      exact .inr ⟨rfl, message, rfl, (Option.some.inj hRow').symm⟩
  · exact .inl hRow'

theorem Turns.shaped (h : Turns retries db db') (hShaped : db.Shaped) : db'.Shaped := by
  intro id row' hRow'
  obtain ⟨row, hRow, hTurns⟩ := h id row' hRow'
  exact shaped_turns (hShaped id row hRow) hTurns

theorem Inserts.shaped (h : Inserts createdAt db db') (hShaped : db.Shaped) : db'.Shaped := by
  intro id row' hRow'
  rcases h id row' hRow' with hOld | ⟨_, message, _, rfl⟩
  · exact hShaped id row' hOld
  · exact shaped_new message

theorem reclaimStaleRows_turns (staleCutoff : Int)
    (hPending : db'.pending = reclaimStaleRows staleCutoff db.pending) : Turns false db db' :=
  turns_update ⟨unclaimedRow_id, hPending⟩ fun _ _ hStale => .unclaim (isStale_status hStale)

theorem claimTx_turns {request : ClaimRequest} {message : Option ClaimedMessage}
    (h : claimTx env request staleCutoff db = .ok (db', message)) : Turns false db db' := by
  rcases claimTx_cases h with ⟨_, rfl⟩ | ⟨row, hRow, hSelects, _, rfl⟩
  · exact reclaimStaleRows_turns staleCutoff rfl
  · have hReclaimed : Turns false db { db with pending := reclaimStaleRows staleCutoff db.pending } :=
      reclaimStaleRows_turns staleCutoff rfl
    refine hReclaimed.trans (turns_update ⟨by exact fun _ => rfl, rfl⟩ ?_)
    intro row' _ hRow'
    simp only [Bool.and_eq_true, decide_eq_true_eq] at hRow'
    exact .claim _ _ hRow'.1.2

theorem requeueAll_turns (h : requeueAll now limit candidates db.pending = .ok state)
    (hPending : db'.pending = state.pending) : Turns true db db' := by
  have hAll : Turns true db { db with pending := state.pending } :=
    requeueAll_invariant (I := fun pending => Turns true db { db with pending := pending })
      (fun _ _ hBefore => hBefore.trans
        (turns_update ⟨requeuedRow_id now, rfl⟩ fun row _ hRow => .requeue now (failedWithId_iff.mp hRow).2)) h
      (Turns.refl _ _)
  exact hAll.trans (Turns.of_pending hPending)

theorem foldl_archiveTurn_turns (completedAt : Int) (rows : List QueueFailureRow) (acc : QueueDb × Nat) :
    Turns retries acc.1 (rows.foldl (archiveTurn completedAt) acc).1 := by
  induction rows generalizing acc with
  | nil => exact Turns.refl _ _
  | cons row rows ih =>
    have hTurn : Turns retries acc.1 (archiveTurn completedAt acc row).1 := turns_delete rfl
    exact hTurn.trans (ih _)

def KeepsRetries (retries : Bool) (db db' : QueueDb) : Prop :=
  ∀ id row row', db.pending.find? id = some row → db'.pending.find? id = some row' →
    row.retryCount ≤ row'.retryCount ∨ retries = true ∧ row.status = .failed

def QueueOp.FindsNoRetries (db : QueueDb) : QueueOp → Prop
  | .markModelTaskFailedRetryable id _ => ∀ row, db.pending.find? id = some row → row.retryCount ≤ 0
  | .requeueWriterLeaseFailures daemonOwner =>
    ∀ row ∈ db.pending, blockedByLostLease daemonOwner row = true → row.retryCount ≤ 0
  | _ => True

theorem Turns.keepsRetries (h : Turns retries db db') : KeepsRetries retries db db' := by
  intro id row row' hRow hRow'
  obtain ⟨old, hOld, hTurns⟩ := h id row' hRow'
  cases hRow.symm.trans hOld
  exact retryCount_turns hTurns

theorem Inserts.keepsRetries (h : Inserts createdAt db db') (retries : Bool) : KeepsRetries retries db db' := by
  intro id row row' hRow hRow'
  rcases h id row' hRow' with hOld | ⟨hNone, _⟩
  · cases hRow.symm.trans hOld
    exact .inl (Int.le_refl _)
  · cases hRow.symm.trans hNone

inductive RowEffect (now : Int) (op : QueueOp) (db db' : QueueDb) : Prop where
  | inserts (h : Inserts now db db') (hFinds : op.FindsNoRetries db)
  | turns (h : Turns op.retriesFailed db db') (hFinds : op.FindsNoRetries db)
  | resets (p : PendingRow → Bool) (f : PendingRow → PendingRow)
      (hPending : ∃ hf, db'.pending = db.pending.update p f hf)
      (hShape : ∀ row, row.Shaped → p row = true → (f row).Shaped) (hOpen : ∀ row, (f row).Open)
      (hTime : ∀ row, (f row).createdAt = row.createdAt) (hZero : ∀ row, (f row).retryCount = 0)
      (hOp : op.retriesFailed = false)
      (hFinds : op.FindsNoRetries db ↔ ∀ row ∈ db.pending, p row = true → row.retryCount ≤ 0)

theorem RowEffect.shaped (h : RowEffect now op db db') (hShaped : db.Shaped) : db'.Shaped := by
  cases h with
  | inserts h | turns h => exact h.shaped hShaped
  | resets p f hPending hShape hOpen hTime hZero hOp hFinds =>
    obtain ⟨hf, hPending⟩ := hPending
    intro id row' hRow'
    rw [hPending, Table.find?_update] at hRow'
    obtain ⟨row, hRow, rfl⟩ := Option.map_eq_some_iff.mp hRow'
    split
    · rename_i hp
      exact hShape row (hShaped id row hRow) hp
    · exact hShaped id row hRow

theorem RowEffect.keepsRetries_iff (h : RowEffect now op db db') :
    KeepsRetries op.retriesFailed db db' ↔ op.FindsNoRetries db := by
  cases h with
  | inserts h hFinds => exact iff_of_true (h.keepsRetries _) hFinds
  | turns h hFinds => exact iff_of_true h.keepsRetries hFinds
  | resets p f hPending hShape hOpen hTime hZero hOp hFinds =>
    obtain ⟨hf, hPending⟩ := hPending
    rw [hFinds]
    constructor
    · intro hKeeps row hRow hp
      have hAfter : db'.pending.find? row.id = some (f row) := by
        rw [hPending, Table.find?_update, Table.find?_of_mem hRow, Option.map_some, if_pos hp]
      rcases hKeeps row.id row (f row) (Table.find?_of_mem hRow) hAfter with hLe | ⟨hRetries, _⟩
      · rwa [hZero] at hLe
      · cases hOp.symm.trans hRetries
    · intro hAll id row row' hRow hRow'
      rw [hPending, Table.find?_update, hRow, Option.map_some] at hRow'
      left
      split at hRow'
      · rename_i hp
        cases hRow'
        rw [hZero]
        exact hAll row (Table.find?_eq_some_iff.mp hRow).1 hp
      · cases hRow'
        exact Int.le_refl _

theorem Effect.rowEffect {config : QueueConfig} (h : Effect env config op db db') (hOp : op.resets = false)
    (hFinds : op.FindsNoRetries db) : RowEffect env.nowSecs op db db' := by
  cases h with
  | same hPending _ => exact .turns (.of_pending hPending) hFinds
  | insert message hPending _ hStorable => exact .inserts (hStorable.time ▸ inserts_insert message hPending) hFinds
  | turn p f hPending _ hRetries hRow =>
    exact .turns (hRetries ▸ turns_update hPending fun row hMem hp => (hRow row hMem hp).2) hFinds
  | reset p f _ _ hResets _ => cases hOp.symm.trans hResets
  | finish held h =>
    obtain ⟨row, completion, -, -, -, hPending, -⟩ := h
    exact .turns (turns_delete hPending) hFinds
  | requeue candidates state _ hRun hPending _ hRetries =>
    exact .turns (hRetries ▸ requeueAll_turns hRun hPending) hFinds
  | archive rows hDb =>
    subst hDb
    exact .turns (foldl_archiveTurn_turns env.nowMillis rows (db, 0)) hFinds

section Hash
variable (blake3 : List UInt8 → String) (config : QueueConfig)

theorem begin_rowEffect (env : Env) (op : QueueOp) (db : QueueDb) :
    RowEffect env.nowSecs op db (begin blake3 config env op db).1 := by
  cases op with
  | markModelTaskFailedRetryable id error =>
    simp only [begin, returned, markModelTaskFailedRetryable]
    split
    · rename_i hMissing
      refine .turns (Turns.refl _ _) fun row hRow => ?_
      simp [Table.contains, hRow] at hMissing
    · refine .resets _ _ ⟨by exact fun _ => rfl, rfl⟩ (fun row _ _ => ?_) (fun row => ?_) (fun row => rfl)
        (fun row => rfl) rfl ?_
      · constructor <;> simp
      · constructor <;> simp
      · constructor
        · intro hFinds row hRow hId
          exact hFinds row (Table.find?_eq_some_iff.mpr ⟨hRow, of_decide_eq_true hId⟩)
        · intro hAll row hRow
          obtain ⟨hMem, hId⟩ := Table.find?_eq_some_iff.mp hRow
          exact hAll row hMem (decide_eq_true hId)
  | requeueWriterLeaseFailures daemonOwner =>
    refine .resets _ _ ⟨by exact fun _ => rfl, rfl⟩ (fun row hShaped hRow => ?_) (fun row => ?_) (fun row => rfl)
      (fun row => rfl) rfl Iff.rfl
    · have hPending : row.status = .pending := by
        simp only [blockedByLostLease, Bool.and_eq_true, decide_eq_true_eq] at hRow
        exact hRow.1.1
      constructor <;> simp [hPending]
    · constructor <;> simp
  | _ => exact (begin_effect blake3 config env _ db).rowEffect rfl trivial

theorem resume_rows (env : Env) (call : Call) (db : QueueDb) :
    (∃ key, call = .keyInsert key ∧ Inserts key.createdAt db (resume blake3 env call db).1) ∨
      Turns false db (resume blake3 env call db).1 := by
  cases call with
  | keyCompletions | claimProbe =>
    right
    simp only [resume]
    split <;> exact Turns.refl false db
  | keyInsert call =>
    refine .inl ⟨call, rfl, ?_⟩
    simp only [resume]
    rcases insertUnlessKnown_cases (call.message blake3) db with hSame | ⟨_, hInsert⟩
    · rw [hSame]
      exact Inserts.refl _ db
    · rw [hInsert]
      exact inserts_insert (call.message blake3) rfl
  | claimTx request staleCutoff =>
    right
    simp only [resume, returned]
    cases hRun : claimTx env request staleCutoff db with
    | error e => exact Turns.refl false db
    | ok result => exact claimTx_turns hRun

def QueueStep.retriesFailed : QueueStep → Bool
  | .call _ op => op.retriesFailed
  | _ => false

def StepFindsNoRetries (state : QueueState) (a : Env × QueueStep) : Prop :=
  match a.2 with
  | .call slot op => state.calls slot = none → op.FindsNoRetries state.db
  | _ => True

def StepKeepsRetries (state : QueueState) (a : Env × QueueStep) : Prop :=
  KeepsRetries a.2.retriesFailed state.db ((queueMachine blake3 config).next state a).db

theorem step_rows {a : Env × QueueStep} (state : QueueState) :
    (state.db.Shaped → ((queueMachine blake3 config).next state a).db.Shaped) ∧
      (StepKeepsRetries blake3 config state a ↔ StepFindsNoRetries state a) := by
  obtain ⟨env, what⟩ := a
  have hStay (retries : Bool) : KeepsRetries retries state.db state.db := (Turns.refl retries state.db).keepsRetries
  unfold StepKeepsRetries StepFindsNoRetries
  cases what with
  | abandon slot => exact ⟨id, iff_of_true (hStay _) trivial⟩
  | call slot op =>
    cases hSlot : state.calls slot with
    | some call =>
      have hNext : (queueMachine blake3 config).next state (env, .call slot op) = state := by
        simp only [Machine.next, queueMachine, step, hSlot]
      rw [hNext]
      refine ⟨id, iff_of_true (hStay _) fun hFree => ?_⟩
      cases hSlot.symm.trans hFree
    | none =>
      have hNext : ((queueMachine blake3 config).next state (env, .call slot op)).db =
          (begin blake3 config env op state.db).1 := by
        simp only [Machine.next, queueMachine, step, hSlot, settle_db]
      have hEffect := begin_rowEffect blake3 config env op state.db
      rw [hNext]
      exact ⟨hEffect.shaped, hEffect.keepsRetries_iff.trans ⟨fun hFinds _ => hFinds, fun hFinds => hFinds hSlot⟩⟩
  | resume slot =>
    cases hSlot : state.calls slot with
    | none =>
      have hNext : (queueMachine blake3 config).next state (env, .resume slot) = state := by
        simp only [Machine.next, queueMachine, step, hSlot]
      rw [hNext]
      exact ⟨id, iff_of_true (hStay _) trivial⟩
    | some call =>
      have hNext : ((queueMachine blake3 config).next state (env, .resume slot)).db =
          (resume blake3 env call state.db).1 := by
        simp only [Machine.next, queueMachine, step, hSlot, settle_db]
      rw [hNext]
      rcases resume_rows blake3 env call state.db with ⟨_, _, hInserts⟩ | hTurns
      · exact ⟨hInserts.shaped, iff_of_true (hInserts.keepsRetries _) trivial⟩
      · exact ⟨hTurns.shaped, iff_of_true hTurns.keepsRetries trivial⟩

end Hash

def secondAt (second : Nat) : Env := ⟨second * 1000, ⟨second * 1000, 1, second⟩, Table.empty⟩

/-- A task that failed once is claimed again and fails for want of its model. -/
def modelLost : List (Env × QueueStep) :=
  let request : ClaimRequest := ⟨.byKind "llm_task", "worker", 60, none⟩
  let id := nextId "msg" (secondAt 1).tick
  let claim : ClaimedMessage :=
    ⟨id, "llm_task", "\x7b\x7d", 0, claimToken "worker" (secondAt 2).tick, "", 1, 2⟩
  [(secondAt 1, .call 0 (.enqueue .fresh "llm_task" "\x7b\x7d")), (secondAt 2, .call 0 (.claim request)),
    (secondAt 2, .resume 0), (secondAt 2, .resume 0),
    (secondAt 3, .call 0 (.markFailed none claim "timeout" .retryable))]

def loseModel : Env × QueueStep :=
  (secondAt 4, .call 0 (.markModelTaskFailedRetryable (nextId "msg" (secondAt 1).tick) "model unavailable"))

end Mempal.Queue

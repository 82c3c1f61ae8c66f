import Mempal.Foundation.Fallible
import Mempal.Queue.Identity

set_option autoImplicit false

/-! Seen from a single message, a step of the queue leaves its rows alone, rewrites its pending row without touching
what it says, moves it to the completions, or inserts it. -/

namespace Mempal.Queue

open Foundation

abbrev Entry := Option PendingRow × Option CompletionRow

def QueueDb.entry (db : QueueDb) (id : String) : Entry := (db.pending.find? id, db.completions.find? id)

variable {now staleCutoff : Int} {limit : Nat} {row' : PendingRow} {p : PendingRow → Bool} {state' : RequeueState}
  {candidates : List (String × String)} {request : ClaimRequest} {op : QueueOp} {identity : EnqueueIdentity}
  {payload : String} {call : Call}

section Statements
variable {db db' : QueueDb} {row : PendingRow} {claim : Option ClaimedMessage} {state : RequeueState}
  {env : Env} {message : NewMessage} {tick : Tick}

theorem id_of_entry {c : Option CompletionRow} {id : String} (h : db.entry id = (some row, c)) : row.id = id :=
  (Table.find?_eq_some_iff.mp (congrArg Prod.fst h)).2

structure Rewrite (claim : Option ClaimedMessage) (row row' : PendingRow) : Prop where
  id : row'.id = row.id
  kind : row'.kind = row.kind
  sourceHash : row'.sourceHash = row.sourceHash
  payload : row'.payload = row.payload
  createdAt : row'.createdAt = row.createdAt
  claimed : row'.status = .claimed → (row.status = .claimed ∧ row'.claimToken = row.claimToken) ∨
    ∃ message, claim = some message ∧ message.id = row.id ∧ row'.claimToken = some message.claimToken

theorem Rewrite.trans {row'' : PendingRow} (h : Rewrite claim row row') (h' : Rewrite claim row' row'') :
    Rewrite claim row row'' := by
  refine ⟨h'.id.trans h.id, h'.kind.trans h.kind, h'.sourceHash.trans h.sourceHash, h'.payload.trans h.payload,
    h'.createdAt.trans h.createdAt, ?_⟩
  intro hClaimed
  rcases h'.claimed hClaimed with ⟨hMiddle, hToken⟩ | ⟨message, hMessage, hId, hToken⟩
  · rw [hToken]
    exact h.claimed hMiddle
  · exact Or.inr ⟨message, hMessage, hId.trans h.id, hToken⟩

def CompletionRow.TimeOf (completion : CompletionRow) (row : PendingRow) : Prop :=
  completion.createdAt = row.createdAt * 1000 ∨ completion.createdAt = saturate (row.createdAt * 1000)

inductive Evolve (claim : Option ClaimedMessage) : Entry → Entry → Prop where
  | stay (e : Entry) : Evolve claim e e
  | rewrite {row row' : PendingRow} (c : Option CompletionRow) (h : Rewrite claim row row') :
      Evolve claim (some row, c) (some row', c)
  | finish (row : PendingRow) (c : Option CompletionRow) (completion : CompletionRow) (h : completion.TimeOf row) :
      Evolve claim (some row, c) (none, some completion)

theorem Evolve.trans {e e' e'' : Entry} (h : Evolve claim e e') (h' : Evolve claim e' e'') : Evolve claim e e'' := by
  cases h with
  | stay => exact h'
  | rewrite c hRow =>
    cases h' with
    | stay => exact .rewrite c hRow
    | rewrite _ hRow' => exact .rewrite c (hRow.trans hRow')
    | finish _ _ completion hTime =>
      refine .finish _ c completion ?_
      rwa [CompletionRow.TimeOf, hRow.createdAt] at hTime
  | finish row c completion hTime =>
    cases h'
    exact .finish row c completion hTime

def Evolves (claim : Option ClaimedMessage) (db db' : QueueDb) : Prop :=
  ∀ id, Evolve claim (db.entry id) (db'.entry id)

theorem Evolves.refl (claim : Option ClaimedMessage) (db : QueueDb) : Evolves claim db db := fun _ => .stay _

theorem Evolves.trans {db'' : QueueDb} (h : Evolves claim db db') (h' : Evolves claim db' db'') :
    Evolves claim db db'' := fun id => (h id).trans (h' id)

theorem Evolves.of_tables (hPending : db'.pending = db.pending)
    (hCompletions : db'.completions = db.completions) : Evolves claim db db' := by
  intro id
  rw [QueueDb.entry, QueueDb.entry, hPending, hCompletions]
  exact .stay _

theorem evolves_update {f : PendingRow → PendingRow} (hPending : ∃ hf, db'.pending = db.pending.update p f hf)
    (hCompletions : db'.completions = db.completions) (h : ∀ row ∈ db.pending, p row = true → Rewrite claim row (f row)) :
    Evolves claim db db' := by
  obtain ⟨hf, hPending⟩ := hPending
  intro id
  rw [QueueDb.entry, QueueDb.entry, hPending, hCompletions, Table.find?_update]
  cases hFind : db.pending.find? id with
  | none => exact .stay _
  | some row =>
    rw [Option.map_some]
    split
    · rename_i hp
      exact .rewrite _ (h row (Table.find?_eq_some_iff.mp hFind).1 hp)
    · exact .stay _

theorem evolves_finish {completion : CompletionRow} (hFind : db.pending.rows.find? p = some row)
    (hOnly : ∀ row', p row' = true → row'.id = row.id) (hId : completion.messageId = row.id)
    (hPending : db'.pending = db.pending.delete p)
    (hCompletions : ∃ merge hMerge, (∀ old, (merge old).createdAt = completion.createdAt) ∧
      db'.completions = db.completions.upsert completion merge hMerge) (hTime : completion.TimeOf row) :
    Evolves claim db db' := by
  obtain ⟨merge, hMerge, hDate, hCompletions⟩ := hCompletions
  intro id
  rw [QueueDb.entry, QueueDb.entry, hPending, hCompletions, Table.find?_delete, Table.find?_upsert, hId]
  by_cases hEq : row.id = id
  · subst hEq
    rw [Table.find?_of_mem (List.mem_of_find?_eq_some hFind), if_pos rfl]
    simp only [Option.filter, List.find?_some hFind, Bool.not_true, Bool.false_eq_true, if_false]
    refine .finish row _ _ ?_
    cases db.completions.find? row.id with
    | none => exact hTime
    | some old =>
      rw [Option.map_some, Option.getD_some, CompletionRow.TimeOf, hDate]
      exact hTime
  · rw [if_neg hEq]
    cases hOther : db.pending.find? id with
    | none => exact .stay _
    | some other =>
      have hNot : p other = false := by
        rw [Bool.eq_false_iff]
        exact fun h => hEq ((hOnly other h).symm.trans (Table.find?_eq_some_iff.mp hOther).2)
      simp only [Option.filter, hNot, Bool.not_false, if_true]
      exact .stay _

theorem clearIngestResults_rewrite (h : Rewrite claim row row') : Rewrite claim row (clearIngestResults row') := by
  unfold clearIngestResults
  split
  · exact ⟨h.id, h.kind, h.sourceHash, h.payload, h.createdAt, h.claimed⟩
  · exact h

theorem unclaimedRow_rewrite (claim : Option ClaimedMessage) (row : PendingRow) :
    Rewrite claim row (unclaimedRow row) :=
  clearIngestResults_rewrite ⟨rfl, rfl, rfl, rfl, rfl, by simp⟩

theorem requeuedRow_rewrite (claim : Option ClaimedMessage) (now : Int) (row : PendingRow) :
    Rewrite claim row (requeuedRow now row) :=
  clearIngestResults_rewrite ⟨rfl, rfl, rfl, rfl, rfl, by simp⟩

theorem failedRow_rewrite {nextRetry : Int} (claim : Option ClaimedMessage) (env : Env) (config : QueueConfig)
    (error : String) (disposition : QueueFailureDisposition) (row : PendingRow) :
    Rewrite claim row (failedRow env config error disposition nextRetry row) := by
  cases disposition <;> exact ⟨rfl, rfl, rfl, rfl, rfl, by simp [failedRow]⟩

theorem reclaimStaleRows_evolves (staleCutoff : Int)
    (hPending : db'.pending = reclaimStaleRows staleCutoff db.pending)
    (hCompletions : db'.completions = db.completions) : Evolves claim db db' :=
  evolves_update ⟨unclaimedRow_id, hPending⟩ hCompletions fun row _ _ => unclaimedRow_rewrite claim row

theorem requeueTurn_pending {candidate : String × String}
    (h : requeueTurn now limit state candidate = .ok state') :
    state'.pending = state.pending ∨ state'.pending = (requeueFailedMessage now candidate.1 state.pending).1 := by
  unfold requeueTurn at h
  split at h
  · cases h
  · cases h
    exact .inl rfl
  · dsimp only at h
    split at h <;> cases h <;> exact .inr rfl

theorem requeueLoop_invariant {I : Table PendingRow.id → Prop}
    (hTurn : ∀ pending id, I pending → I (requeueFailedMessage now id pending).1)
    (h : requeueLoop now limit candidates state = .ok state') (hStart : I state.pending) : I state'.pending := by
  induction candidates generalizing state with
  | nil =>
    cases h
    exact hStart
  | cons candidate candidates ih =>
    unfold requeueLoop at h
    split at h
    · cases h
    · rename_i middle hMiddle
      refine ih h ?_
      rcases requeueTurn_pending hMiddle with hSame | hMoved
      · rwa [hSame]
      · rw [hMoved]
        exact hTurn _ _ hStart

theorem requeueAll_invariant {I : Table PendingRow.id → Prop} {pending : Table PendingRow.id}
    (hTurn : ∀ pending id, I pending → I (requeueFailedMessage now id pending).1)
    (h : requeueAll now limit candidates pending = .ok state) (hStart : I pending) : I state.pending := by
  unfold requeueAll at h
  split at h
  · cases h
  · exact requeueLoop_invariant hTurn h hStart

theorem requeueFailedModelTasks_ok {modelKind : String} {pending : Table PendingRow.id}
    (h : requeueFailedModelTasks now modelKind limit pending = .ok state) :
    ∃ candidates, (∀ candidate ∈ candidates, ∃ row ∈ pending, (row.id, row.kind) = candidate) ∧
      requeueAll now limit candidates pending = .ok state := by
  unfold requeueFailedModelTasks at h
  split at h
  · cases h
  · refine ⟨_, fun candidate hCandidate => ?_, h⟩
    obtain ⟨row, hRow, rfl⟩ := List.mem_map.mp hCandidate
    exact ⟨row, (List.mem_filter.mp (List.mem_mergeSort.mp hRow)).1, rfl⟩

theorem requeueAll_evolves (h : requeueAll now limit candidates db.pending = .ok state)
    (claim : Option ClaimedMessage) : Evolves claim db { db with pending := state.pending } :=
  requeueAll_invariant (I := fun pending => Evolves claim db { db with pending := pending })
    (fun _ _ hBefore => hBefore.trans
      (evolves_update ⟨requeuedRow_id now, rfl⟩ rfl fun row _ _ => requeuedRow_rewrite claim now row)) h (Evolves.refl _ _)

theorem matchingFailedRows_mem {filter : QueueFailureFilter}
    {rows : List QueueFailureRow} (h : matchingFailedRows db.pending filter = .ok rows) {failure : QueueFailureRow}
    (hFailure : failure ∈ rows) : ∃ row ∈ db.pending, QueueFailureRow.ofPending row = failure := by
  unfold matchingFailedRows at h
  split at h
  · cases h
  · cases h
    obtain ⟨row, hRow, hEq⟩ := List.mem_map.mp (List.mem_filter.mp hFailure).1
    exact ⟨row, (List.mem_filter.mp hRow).1, hEq⟩

theorem failedWithId_iff {id : String} : failedWithId id row = true ↔ row.id = id ∧ row.status = .failed := by
  simp [failedWithId]

theorem archiveTurn_evolves (completedAt : Int) (acc : QueueDb × Nat) (row : QueueFailureRow)
    (claim : Option ClaimedMessage) : Evolves claim acc.1 (archiveTurn completedAt acc row).1 := by
  obtain ⟨db, changed⟩ := acc
  cases hFind : db.pending.rows.find? (failedWithId row.id) with
  | none =>
    have hNone : db.pending.delete (failedWithId row.id) = db.pending := by
      apply Table.ext
      exact List.filter_eq_self.mpr fun r hr => by simpa using List.find?_eq_none.mp hFind r hr
    exact Evolves.of_tables hNone (by simp [archiveTurn, hFind])
  | some stored =>
    have hStored := failedWithId_iff.mp (List.find?_some hFind)
    simp only [archiveTurn, hFind]
    exact evolves_finish hFind (fun row' hRow' => (failedWithId_iff.mp hRow').1.trans hStored.1.symm) rfl rfl
      ⟨_, _, by exact fun _ => rfl, rfl⟩ (.inl rfl)

theorem foldl_archiveTurn_evolves (completedAt : Int) (rows : List QueueFailureRow) (acc : QueueDb × Nat)
    (claim : Option ClaimedMessage) : Evolves claim acc.1 (rows.foldl (archiveTurn completedAt) acc).1 := by
  induction rows generalizing acc with
  | nil => exact Evolves.refl _ _
  | cons row rows ih => exact (archiveTurn_evolves completedAt acc row claim).trans (ih _)

theorem heldBy_iff {claim : ClaimedMessage} :
    heldBy claim row = true ↔
      row.id = claim.id ∧ row.status = .claimed ∧ row.claimToken = some claim.claimToken := by
  simp [heldBy, and_assoc]

theorem mem_of_firstAttempt {rows : List PendingRow} (h : firstAttempt rows = some row) : row ∈ rows := by
  induction rows with
  | nil => cases h
  | cons first rows ih =>
    unfold firstAttempt at h
    split at h
    · cases h
      exact List.mem_cons_self
    · split at h
      · cases h
        exact List.mem_cons_of_mem _ (ih ‹_›)
      · cases h
        exact List.mem_cons_self

theorem claimTx_cases
    {message : Option ClaimedMessage} (h : claimTx env request staleCutoff db = .ok (db', message)) :
    (message = none ∧ db' = { db with pending := reclaimStaleRows staleCutoff db.pending }) ∨
    ∃ row ∈ reclaimStaleRows staleCutoff db.pending, request.filter.selects env.nowSecs row = true ∧
      message = some (claimedMessage (claimToken request.workerId env.tick) env.nowSecs row) ∧
      db' = { db with
        pending := (reclaimStaleRows staleCutoff db.pending).update
          (fun r => r.id = row.id && r.status = .pending && request.filter.rechecks r)
          (claimedRow (claimToken request.workerId env.tick) env.nowSecs) fun _ => rfl } := by
  unfold claimTx at h
  split at h
  · cases h
  · dsimp only at h
    split at h
    · cases h
      exact Or.inl ⟨rfl, rfl⟩
    · rename_i row hFirst
      split at h
      · cases h
      · split at h
        · cases h
          exact Or.inl ⟨rfl, rfl⟩
        · cases h
          obtain ⟨hRow, hSelects⟩ := List.mem_filter.mp (mem_of_firstAttempt hFirst)
          exact Or.inr ⟨row, hRow, hSelects, rfl, rfl⟩

theorem claimTx_evolves
    {message : Option ClaimedMessage} (h : claimTx env request staleCutoff db = .ok (db', message)) :
    Evolves message db db' := by
  rcases claimTx_cases h with ⟨rfl, rfl⟩ | ⟨row, _, _, rfl, rfl⟩
  · exact reclaimStaleRows_evolves staleCutoff rfl rfl
  · have hReclaim : Evolves (some (claimedMessage (claimToken request.workerId env.tick) env.nowSecs row)) db
        { db with pending := reclaimStaleRows staleCutoff db.pending } :=
      reclaimStaleRows_evolves staleCutoff rfl rfl
    refine hReclaim.trans (evolves_update ⟨by exact fun _ => rfl, rfl⟩ rfl ?_)
    intro row' _ hRow'
    simp only [Bool.and_eq_true, decide_eq_true_eq] at hRow'
    exact ⟨rfl, rfl, rfl, rfl, rfl, fun _ => Or.inr ⟨_, rfl, hRow'.1.1.symm, rfl⟩⟩

variable {u : Unit} {lifecycle : Option WriterLease.RuntimeWriterLease} {config : QueueConfig}

theorem confirmInTx_ok {opState : OpState} {claim : ClaimedMessage}
    (h : confirmInTx env claim opState db = .ok (db', u)) :
    ∃ row, db.pending.rows.find? (heldBy claim) = some row ∧ db' = { db with
      pending := db.pending.delete (heldBy claim)
      completions := upsertCompletion db.completions (claimCompletion env claim opState row) } := by
  unfold confirmInTx at h
  split at h
  · cases h
  · rename_i row hFind
    cases h
    exact ⟨row, hFind, rfl⟩

def Finishes (claim : ClaimedMessage) (db db' : QueueDb) : Prop :=
  ∃ row completion, db.pending.rows.find? (heldBy claim) = some row ∧ completion.messageId = claim.id ∧
    completion.createdAt = saturate (row.createdAt * 1000) ∧ db'.pending = db.pending.delete (heldBy claim) ∧
    db'.completions = upsertCompletion db.completions completion

theorem confirm_finishes {claim : ClaimedMessage} (h : confirm env lifecycle claim db = .ok (db', u)) :
    Finishes claim db db' := by
  unfold confirm at h
  split at h
  · cases h
  · obtain ⟨row, hFind, rfl⟩ := confirmInTx_ok h
    exact ⟨row, _, hFind, rfl, rfl, rfl, rfl⟩

theorem completeOperation_finishes {completion : PendingOperationCompletion} {claim : ClaimedMessage}
    (h : completeOperation env lifecycle claim completion db = .ok (db', u)) : Finishes claim db db' := by
  unfold completeOperation at h
  split at h
  · cases h
  · split at h
    · cases h
    · split at h
      · cases h
      · rename_i opState _
        obtain ⟨row, hFind, rfl⟩ := confirmInTx_ok h
        have hSame : heldBy claim ∘ (fun row => if heldBy claim row then withResults opState completion row else row) =
            heldBy claim := by
          funext row
          rw [Function.comp_apply]
          split <;> rfl
        simp only [Table.update, List.find?_map, hSame] at hFind
        obtain ⟨stored, hStored, rfl⟩ := Option.map_eq_some_iff.mp hFind
        -- the row that gets the results is the one that is deleted
        refine ⟨stored, _, hStored, rfl, ?_,
          Table.delete_update (f := withResults opState completion) (fun _ => rfl) fun _ hHeld => hHeld, rfl⟩
        rw [if_pos (List.find?_some hStored)]
        rfl

theorem saturate_of_fitsU32 {n : Int} (h : fitsU32 (saturate n) = true) : saturate n = n := by
  have hMax : WriterLease.i64Max = 2 ^ 63 - 1 := rfl
  obtain ⟨hLower, hUpper⟩ := Bool.and_eq_true_iff.mp h
  have hLower := of_decide_eq_true hLower
  have hUpper := of_decide_eq_true hUpper
  simp only [saturate, hMax] at hLower hUpper ⊢
  omega

theorem markFailed_ok {disposition : QueueFailureDisposition} {claim : ClaimedMessage} {error : String}
    (h : markFailedWithDisposition env config lifecycle claim error disposition db = .ok (db', u)) :
    ∃ row, db.pending.rows.find? (heldBy claim) = some row ∧ db' = { db with
      pending := db.pending.update (heldBy claim) (failedRow env config error disposition (row.retryCount + 1))
        (failedRow_id env config error disposition _) } := by
  unfold markFailedWithDisposition at h
  split at h
  · cases h
  · split at h
    · cases h
    · rename_i row hFind
      dsimp only at h
      split at h
      · cases h
      · rename_i hFits
        cases h
        exact ⟨row, hFind, by simp only [saturate_of_fitsU32 (by simpa using hFits)]⟩

theorem releaseClaim_ok {claim : ClaimedMessage} (h : releaseClaim env lifecycle claim db = .ok (db', u)) :
    0 < db.pending.count (heldBy claim) ∧
      db' = { db with pending := db.pending.update (heldBy claim) unclaimedRow unclaimedRow_id } := by
  unfold releaseClaim at h
  split at h
  · cases h
  · split at h
    · cases h
    · rename_i hSome
      cases h
      exact ⟨Nat.pos_of_ne_zero hSome, rfl⟩

def Insertable (tick : Tick) (completions : Table CompletionRow.messageId) (id : String) : Prop :=
  id = nextId "msg" tick ∨ (completions.find? id = none ∧ IsDedupId id)

def Submits (tick : Tick) (e e' : Entry) : Prop :=
  ∃ row c, e = (none, c) ∧ e' = (some row, c) ∧ row.status = .pending ∧
    (row.id = nextId "msg" tick ∨ (c = none ∧ IsDedupId row.id))

def Advance (tick : Tick) (claim : Option ClaimedMessage) (e e' : Entry) : Prop :=
  Evolve claim e e' ∨ Submits tick e e'

def Advances (tick : Tick) (claim : Option ClaimedMessage) (db db' : QueueDb) : Prop :=
  ∀ id, Advance tick claim (db.entry id) (db'.entry id)

theorem Evolves.advances (h : Evolves claim db db') : Advances tick claim db db' := fun id => Or.inl (h id)

theorem Advances.refl (tick : Tick) (claim : Option ClaimedMessage) (db : QueueDb) : Advances tick claim db db :=
  (Evolves.refl claim db).advances

theorem insert_advances (hId : Insertable tick db.completions message.id)
    (hPending : db'.pending = db.pending.insertOrIgnore message.row) (hCompletions : db'.completions = db.completions) :
    Advances tick claim db db' := by
  intro id
  simp only [QueueDb.entry, hPending, hCompletions, Table.find?_insertOrIgnore]
  split
  · rename_i hSame
    subst hSame
    cases hFind : db.pending.find? message.id with
    | none => exact Or.inr ⟨message.row, _, by rw [← hFind]; rfl, by simp [hFind, NewMessage.row], rfl, hId⟩
    | some stored =>
      left
      simp only [NewMessage.row, hFind, Option.getD_some]
      exact .stay _
  · exact Or.inl (.stay _)

inductive RowTurn : Bool → PendingRow → PendingRow → Prop where
  | claim {row : PendingRow} (token : String) (now : Int) (hPending : row.status = .pending) :
      RowTurn false row (claimedRow token now row)
  | unclaim {row : PendingRow} (hClaimed : row.status = .claimed) : RowTurn false row (unclaimedRow row)
  | beat {row : PendingRow} (now : Int) (hClaimed : row.status = .claimed) :
      RowTurn false row { row with heartbeatAt := some now }
  | fail {row : PendingRow} (env : Env) (config : QueueConfig) (error : String)
      (disposition : QueueFailureDisposition) (hClaimed : row.status = .claimed) :
      RowTurn false row (failedRow env config error disposition (row.retryCount + 1) row)
  | requeue {row : PendingRow} (now : Int) (hFailed : row.status = .failed) : RowTurn true row (requeuedRow now row)

theorem RowTurn.rewrite (h : RowTurn false row row') (hClaimed : row.status = .claimed) : Rewrite claim row row' := by
  cases h with
  | claim token now hPending => cases hPending.symm.trans hClaimed
  | unclaim => exact unclaimedRow_rewrite claim row
  | beat now => exact ⟨rfl, rfl, rfl, rfl, rfl, fun hStill => Or.inl ⟨hStill, rfl⟩⟩
  | fail env config error disposition => exact failedRow_rewrite claim env config error disposition row

def QueueOp.retriesFailed : QueueOp → Bool
  | .autoRequeueFailedModelTasks _ => true
  | .retryFailedEmbedMessages => true
  | .retryFailedMessages _ => true
  | _ => false

/-- The two statements that set retry counters to zero. -/
def QueueOp.resets : QueueOp → Bool
  | .markModelTaskFailedRetryable _ _ => true
  | .requeueWriterLeaseFailures _ => true
  | _ => false

def QueueOp.isKeyFenced : QueueOp → Bool
  | .enqueueKeyFenced (some _) _ _ _ _ => true
  | _ => false

structure Storable (env : Env) (config : QueueConfig) (op : QueueOp) (db : QueueDb) (message : NewMessage) : Prop where
  id : Insertable env.tick db.completions message.id
  time : message.createdAt = env.nowSecs
  fits : op.isKeyFenced = false → message.kind = ingestAsyncKind →
    activeBytes ingestAsyncKind db.pending + payloadBytes message.payload ≤ config.maxIngestActiveBytes.toNat

/-- The tables after the first transaction of a call. -/
inductive Effect (env : Env) (config : QueueConfig) (op : QueueOp) (db db' : QueueDb) : Prop where
  | same (hPending : db'.pending = db.pending) (hCompletions : db'.completions = db.completions)
  | insert (message : NewMessage) (hPending : db'.pending = db.pending.insertOrIgnore message.row)
      (hCompletions : db'.completions = db.completions) (hStorable : Storable env config op db message)
  | turn (p : PendingRow → Bool) (f : PendingRow → PendingRow) (hPending : ∃ hf, db'.pending = db.pending.update p f hf)
      (hCompletions : db'.completions = db.completions) (hOp : op.retriesFailed = false)
      (hRow : ∀ row ∈ db.pending, p row = true → row.status = .claimed ∧ RowTurn false row (f row))
  | reset (p : PendingRow → Bool) (f : PendingRow → PendingRow) (hPending : ∃ hf, db'.pending = db.pending.update p f hf)
      (hCompletions : db'.completions = db.completions) (hOp : op.resets = true)
      (hRow : ∀ row, p row = true → (∀ claim, Rewrite claim row (f row)) ∧
        ((f row).status = .failed ∨ row.status = .pending))
  | finish (claim : ClaimedMessage) (h : Finishes claim db db')
  | requeue (candidates : List (String × String)) (state : RequeueState)
      (hKinds : ∀ candidate ∈ candidates, ∃ row ∈ db.pending, (row.id, row.kind) = candidate)
      (hRun : requeueAll env.nowSecs config.maxIngestActiveBytes.toNat candidates db.pending = .ok state)
      (hPending : db'.pending = state.pending) (hCompletions : db'.completions = db.completions)
      (hOp : op.retriesFailed = true)
  | archive (rows : List QueueFailureRow) (hDb : db' = (rows.foldl (archiveTurn env.nowMillis) (db, 0)).1)

theorem Effect.advances (h : Effect env config op db db') : Advances env.tick claim db db' := by
  cases h with
  | same hPending hCompletions => exact (Evolves.of_tables hPending hCompletions).advances
  | insert message hPending hCompletions hStorable => exact insert_advances hStorable.id hPending hCompletions
  | turn p f hPending hCompletions _ hRow =>
    refine (evolves_update hPending hCompletions fun row hMem hp => ?_).advances
    exact (hRow row hMem hp).2.rewrite (hRow row hMem hp).1
  | reset p f hPending hCompletions _ hRow =>
    exact (evolves_update hPending hCompletions fun row _ hp => (hRow row hp).1 claim).advances
  | finish held h =>
    obtain ⟨row, completion, hFind, hId, hTime, hPending, hCompletions⟩ := h
    have hHeld := (heldBy_iff.mp (List.find?_some hFind)).1
    exact (evolves_finish hFind (fun row' hRow' => (heldBy_iff.mp hRow').1.trans hHeld.symm) (hId.trans hHeld.symm)
      hPending ⟨_, _, by exact fun _ => rfl, hCompletions⟩ (.inr hTime)).advances
  | requeue candidates state _ hRun hPending hCompletions _ =>
    exact ((requeueAll_evolves hRun claim).trans (Evolves.of_tables hPending hCompletions)).advances
  | archive rows hDb =>
    subst hDb
    exact (foldl_archiveTurn_evolves env.nowMillis rows (db, 0) claim).advances

theorem commit_effect {α : Type} {body : Except QueueError (QueueDb × α)}
    (h : ∀ db' x, body = .ok (db', x) → Effect env config op db db') :
    Effect env config op db (commitOrRollback db body).1 := by
  cases body with
  | error e => exact .same rfl rfl
  | ok result => exact h result.1 result.2 rfl

theorem insertAlone_effect (h : Storable env config op db message) :
    Effect env config op db (insertAlone message db).1 := by
  refine commit_effect fun db' id hInsert => ?_
  unfold insertNew at hInsert
  split at hInsert
  · cases hInsert
  · cases hInsert
    exact .insert message rfl rfl h

theorem insertUnlessKnown_cases (message : NewMessage) (db : QueueDb) :
    insertUnlessKnown message db = db ∨ db.completions.find? message.id = none ∧
      insertUnlessKnown message db = { db with pending := db.pending.insertOrIgnore message.row } := by
  unfold insertUnlessKnown
  split
  · exact .inl rfl
  · rename_i hNot
    exact .inr ⟨Table.contains_eq_false_iff.mp (by simpa using hNot), rfl⟩

theorem insertUnlessKnown_effect (hDedup : IsDedupId message.id) (hTime : message.createdAt = env.nowSecs)
    (hOp : op.isKeyFenced = true ∨ message.kind ≠ ingestAsyncKind) :
    Effect env config op db (insertUnlessKnown message db) := by
  rcases insertUnlessKnown_cases message db with hSame | ⟨hNone, hInsert⟩
  · rw [hSame]
    exact .same rfl rfl
  · rw [hInsert]
    refine .insert message rfl rfl ⟨Or.inr ⟨hNone, hDedup⟩, hTime, fun hFree hKind => ?_⟩
    rcases hOp with hFenced | hOther
    · cases hFree.symm.trans hFenced
    · exact absurd hKind hOther

theorem insertWithinBudget_effect (hId : Insertable env.tick db.completions message.id)
    (hTime : message.createdAt = env.nowSecs) :
    Effect env config op db (insertWithinBudget config message db).1 := by
  unfold insertWithinBudget
  split
  · exact .same rfl rfl
  · rename_i bytes hBytes
    split
    · exact .same rfl rfl
    · rename_i hFits
      refine insertAlone_effect ⟨hId, hTime, fun _ _ => ?_⟩
      unfold activePayloadBytesForKind at hBytes
      split at hBytes
      · cases hBytes
        simp only [exceedsBudget, Bool.or_eq_true, decide_eq_true_eq, not_or, Nat.not_lt] at hFits
        omega
      · cases hBytes

theorem beginKeyCall_db (blake3 : List UInt8 → String) (call : KeyCall) (db : QueueDb) :
    (beginKeyCall blake3 call db).1 = db := by
  simp only [beginKeyCall]
  split
  · rfl
  · split <;> rfl

theorem beginEnqueue_effect {blake3 : List UInt8 → String} (env : Env) (kind : String) (db : QueueDb) :
    Effect env config op db (beginEnqueue blake3 config env identity kind payload db).1 := by
  simp only [beginEnqueue]
  split
  · simp only [returned, enqueueIngestWithByteBudget]
    split
    · exact .same rfl rfl
    · split
      · exact .same rfl rfl
      · rename_i hNew
        refine insertWithinBudget_effect ?_ rfl
        cases identity with
        | fresh => exact Or.inl rfl
        | _ =>
          simp [queueMessageIdentityExists] at hNew
          exact Or.inr ⟨Table.contains_eq_false_iff.mp hNew.2, ⟨_, rfl⟩⟩
  · rename_i hKind
    cases identity with
    | fresh => exact insertAlone_effect ⟨Or.inl rfl, rfl, fun _ hIngest => absurd hIngest hKind⟩
    | sourceHash => exact insertUnlessKnown_effect ⟨_, rfl⟩ rfl (Or.inr hKind)
    | explicitKey key => exact .same (by rw [beginKeyCall_db]) (by rw [beginKeyCall_db])

theorem beginClaim_db (env : Env) (request : ClaimRequest) (db : QueueDb) : (beginClaim env request db).1 = db := by
  unfold beginClaim
  split
  · rfl
  · rfl
  · split <;> rfl

theorem isStale_status (h : isStale staleCutoff row = true) : row.status = .claimed :=
  of_decide_eq_true (Bool.and_eq_true_iff.mp h).1

theorem begin_effect (blake3 : List UInt8 → String) (config : QueueConfig) (env : Env) (op : QueueOp) (db : QueueDb) :
    Effect env config op db (begin blake3 config env op db).1 := by
  cases op with
  | enqueue identity kind payload => exact beginEnqueue_effect env kind db
  | enqueueFenced lease kind payload operation =>
    cases lease with
    | none => exact beginEnqueue_effect env kind db
    | some lease =>
      simp only [begin, returned, enqueueFenced]
      split
      · exact .same rfl rfl
      · split
        · exact insertWithinBudget_effect (Or.inl rfl) rfl
        · rename_i hKind
          exact insertAlone_effect ⟨Or.inl rfl, rfl, fun _ hIngest => absurd hIngest hKind⟩
  | enqueueKeyFenced lease kind payload key operation =>
    cases lease with
    | none => exact beginEnqueue_effect env kind db
    | some lease =>
      simp only [begin, returned, enqueueIdempotentWithKeyFailFastFenced]
      split
      · exact .same rfl rfl
      · split
        · exact .same rfl rfl
        · exact insertUnlessKnown_effect ⟨_, rfl⟩ rfl (Or.inl rfl)
  | claim request =>
    simp only [begin, beginClaim_db]
    exact .same rfl rfl
  | confirm lifecycle held => exact commit_effect fun db' u h => .finish held (confirm_finishes h)
  | completeOperation lifecycle held completion =>
    exact commit_effect fun db' u h => .finish held (completeOperation_finishes h)
  | markFailed lifecycle held error disposition =>
    refine commit_effect fun db' u h => ?_
    obtain ⟨stored, hFind, rfl⟩ := markFailed_ok h
    refine .turn (heldBy held) _ ⟨failedRow_id env config error disposition _, rfl⟩ rfl rfl fun row hRow hHeld => ?_
    have hStored := heldBy_iff.mp (List.find?_some hFind)
    have hSame : row = stored := Table.eq_of_key_eq hRow (List.mem_of_find?_eq_some hFind)
      ((heldBy_iff.mp hHeld).1.trans hStored.1.symm)
    rw [hSame]
    exact ⟨hStored.2.1, .fail env config error disposition hStored.2.1⟩
  | releaseClaim lifecycle held =>
    refine commit_effect fun db' u h => ?_
    obtain ⟨-, rfl⟩ := releaseClaim_ok h
    refine .turn (heldBy held) _ ⟨unclaimedRow_id, rfl⟩ rfl rfl fun row _ hHeld => ?_
    exact ⟨(heldBy_iff.mp hHeld).2.1, .unclaim (heldBy_iff.mp hHeld).2.1⟩
  | refreshHeartbeat lifecycle id workerId =>
    refine commit_effect fun db' u h => ?_
    simp only [refreshHeartbeat] at h
    split at h
    · cases h
    · simp only [ite_error_eq_ok_iff] at h
      cases h.2.2
      refine .turn _ _ ⟨by exact fun _ => rfl, rfl⟩ rfl rfl fun row _ hRow => ?_
      simp only [Bool.and_eq_true, decide_eq_true_eq] at hRow
      exact ⟨hRow.1.2, .beat env.nowSecs hRow.1.2⟩
  | reclaimStale staleSecs =>
    exact .turn _ _ ⟨unclaimedRow_id, rfl⟩ rfl rfl fun row _ hStale =>
      ⟨isStale_status hStale, .unclaim (isStale_status hStale)⟩
  | markModelTaskFailedRetryable id error =>
    refine commit_effect fun db' u h => ?_
    unfold markModelTaskFailedRetryable at h
    split at h
    · cases h
    · cases h
      exact .reset _ _ ⟨by exact fun _ => rfl, rfl⟩ rfl rfl fun row _ =>
        ⟨fun _ => ⟨rfl, rfl, rfl, rfl, rfl, by simp⟩, Or.inl rfl⟩
  | autoRequeueFailedModelTasks modelKind =>
    refine commit_effect fun db' counts h => ?_
    obtain ⟨state, hState, hEq⟩ := map_eq_ok_iff.mp h
    obtain ⟨candidates, hKinds, hRun⟩ := requeueFailedModelTasks_ok hState
    cases hEq
    exact .requeue candidates state hKinds hRun rfl rfl rfl
  | retryFailedEmbedMessages =>
    refine commit_effect fun db' count h => ?_
    obtain ⟨state, hState, hEq⟩ := map_eq_ok_iff.mp h
    obtain ⟨candidates, hKinds, hRun⟩ := requeueFailedModelTasks_ok hState
    cases hEq
    exact .requeue candidates state hKinds hRun rfl rfl rfl
  | requeueWriterLeaseFailures daemonOwner =>
    refine .reset _ _ ⟨by exact fun _ => rfl, rfl⟩ rfl rfl fun row hRow => ?_
    simp only [blockedByLostLease, Bool.and_eq_true, decide_eq_true_eq] at hRow
    exact ⟨fun _ => ⟨rfl, rfl, rfl, rfl, rfl, fun hClaimed => by cases hRow.1.1.symm.trans hClaimed⟩, Or.inr hRow.1.1⟩
  | retryFailedMessages filter =>
    refine commit_effect fun db' outcome h => ?_
    unfold retryFailedMessages at h
    split at h
    · cases h
    · split at h
      · cases h
      · rename_i rows hRows
        obtain ⟨state, hRun, hEq⟩ := map_eq_ok_iff.mp h
        cases hEq
        refine .requeue _ state (fun candidate hCandidate => ?_) hRun rfl rfl rfl
        obtain ⟨failure, hFailure, rfl⟩ := List.mem_map.mp hCandidate
        obtain ⟨row, hRow, rfl⟩ := matchingFailedRows_mem hRows hFailure
        exact ⟨row, hRow, rfl⟩
  | archiveFailedMessages filter =>
    refine commit_effect fun db' outcome h => ?_
    unfold archiveFailedMessages at h
    split at h
    · cases h
    · split at h
      · cases h
      · cases h
        exact .archive _ rfl

end Statements

def Progress.claim : Progress → Option ClaimedMessage
  | .returned (.ok (.claimed message)) => message
  | _ => none

theorem resume_advances {blake3 : List UInt8 → String} {env : Env} {db : QueueDb} :
    Advances env.tick (resume blake3 env call db).2.claim db (resume blake3 env call db).1 := by
  cases call with
  | keyCompletions | claimProbe =>
    simp only [resume]
    split <;> exact Advances.refl _ _ _
  | keyInsert call =>
    simp only [resume]
    rcases insertUnlessKnown_cases (call.message blake3) db with hSame | ⟨hNone, hInsert⟩
    · rw [hSame]
      exact Advances.refl _ _ _
    · rw [hInsert]
      exact insert_advances (Or.inr ⟨hNone, ⟨_, rfl⟩⟩) rfl rfl
  | claimTx request staleCutoff =>
    simp only [resume, returned]
    cases hRun : claimTx env request staleCutoff db with
    | error e => exact Advances.refl _ _ _
    | ok result => exact (claimTx_evolves hRun).advances

section Hash
variable (blake3 : List UInt8 → String) (config : QueueConfig) {key : KeyCall} (state : QueueState)

theorem settle_db (slot : Nat) (result : QueueDb × Progress) : (settle state slot result).1.db = result.1 := by
  obtain ⟨db, progress⟩ := result
  cases progress <;> rfl

theorem issued_settle (slot : Nat) (result : QueueDb × Progress) (a : Env × QueueStep) :
    issued (a, (settle state slot result).2) = result.2.claim := by
  obtain ⟨db, progress⟩ := result
  cases progress with
  | waits next => rfl
  | returned reply =>
    cases reply with
    | error e => rfl
    | ok reply => cases reply <;> rfl

theorem settle_calls {state : QueueState} {slot other : Nat} {result : QueueDb × Progress}
    (h : (settle state slot result).1.calls other = some call) :
    other = slot ∧ result.2 = .waits call ∨ other ≠ slot ∧ state.calls other = some call := by
  obtain ⟨db, progress⟩ := result
  cases progress with
  | returned reply =>
    simp only [settle, setCall] at h
    split at h
    · cases h
    · exact .inr ⟨‹_›, h⟩
  | waits next =>
    simp only [settle, setCall] at h
    split at h
    · cases h
      exact .inl ⟨‹_›, rfl⟩
    · exact .inr ⟨‹_›, h⟩

def Call.key? : Call → Option KeyCall
  | .keyCompletions key => some key
  | .keyInsert key => some key
  | _ => none

theorem beginEnqueue_waits {kind : String} {db : QueueDb} {env : Env}
    (h : (beginEnqueue blake3 config env identity kind payload db).2 = .waits call) (hKey : call.key? = some key) :
    key.kind ≠ ingestAsyncKind ∧ key.createdAt = env.nowSecs := by
  simp only [beginEnqueue] at h
  split at h
  · cases h
  · rename_i hKind
    cases identity with
    | fresh | sourceHash => cases h
    | explicitKey idempotencyKey =>
      simp only [beginKeyCall] at h
      split at h
      · cases h
        cases hKey
        exact ⟨hKind, rfl⟩
      · split at h
        · cases h
        · cases h
          cases hKey
          exact ⟨hKind, rfl⟩

theorem begin_waits {env : Env} {db : QueueDb} (h : (begin blake3 config env op db).2 = .waits call)
    (hKey : call.key? = some key) : key.kind ≠ ingestAsyncKind ∧ key.createdAt = env.nowSecs := by
  cases op with
  | enqueue identity kind payload => exact beginEnqueue_waits blake3 config h hKey
  | enqueueFenced lease | enqueueKeyFenced lease =>
    cases lease with
    | none => exact beginEnqueue_waits blake3 config h hKey
    | some lease => cases h
  | claim request =>
    simp only [begin, beginClaim] at h
    split at h
    · cases h
    · cases h
    · split at h <;> cases h <;> cases hKey
  | _ => cases h

theorem resume_key {db : QueueDb} {env : Env} {call next : Call} (h : (resume blake3 env call db).2 = .waits next)
    (hKey : next.key? = some key) : call.key? = some key := by
  cases call with
  | keyCompletions call =>
    simp only [resume] at h
    split at h
    · cases h
    · cases h
      exact hKey
  | keyInsert | claimTx => cases h
  | claimProbe request =>
    simp only [resume] at h
    split at h
    · cases h
    · cases h
    · cases h
      cases hKey

theorem step_advances (a : Env × QueueStep) :
    Advances a.1.tick (issued (a, (queueMachine blake3 config).output state a)) state.db
      ((queueMachine blake3 config).next state a).db := by
  obtain ⟨env, what⟩ := a
  cases what with
  | call slot op =>
    simp only [Machine.next, Machine.output, queueMachine, step]
    split
    · exact Advances.refl _ _ _
    · rw [settle_db]
      exact (begin_effect blake3 config env op state.db).advances
  | resume slot =>
    simp only [Machine.next, Machine.output, queueMachine, step]
    split
    · exact Advances.refl _ _ _
    · rw [settle_db, issued_settle]
      exact resume_advances
  | abandon slot => exact Advances.refl _ _ _

end Hash

end Mempal.Queue

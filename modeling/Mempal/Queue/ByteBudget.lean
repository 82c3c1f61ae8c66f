import Mempal.Foundation.Weight
import Mempal.Queue.IdempotencyKey

set_option autoImplicit false

/-! Every path that makes an `ingest_async` row active again looks at the budget first, with one exception: the fenced
enqueue under an explicit key. -/

namespace Mempal.Queue

open Foundation
open WriterLease (holdsLease RuntimeWriterLease)

def WithinBudget (config : QueueConfig) (pending : Table PendingRow.id) : Prop :=
  activeBytes ingestAsyncKind pending ≤ config.maxIngestActiveBytes.toNat

theorem activeBytes_eq_weight {pending : Table PendingRow.id} (kind : String) :
    activeBytes kind pending = pending.weight (activeWeight kind) := rfl

variable {kind : String} {row : PendingRow} {pending : Table PendingRow.id} {message : NewMessage}
  {db : QueueDb} {state : RequeueState} {env : Env} {call : Call}

theorem activeWeight_failed (h : row.status = .failed) : activeWeight kind row = 0 := by
  simp [activeWeight, isActive, h]

theorem activeWeight_of_kind_ne (h : row.kind ≠ kind) : activeWeight kind row = 0 := by
  simp [activeWeight, isActive, h]

theorem activeWeight_le_payload (kind : String) (row : PendingRow) :
    activeWeight kind row ≤ payloadBytes row.payload := by
  unfold activeWeight
  split
  · exact Nat.le_refl _
  · exact Nat.zero_le _

theorem activeWeight_pending (h : row.status = .pending) (hKind : row.kind = ingestAsyncKind) :
    activeWeight ingestAsyncKind row = payloadBytes row.payload := by
  simp [activeWeight, isActive, h, hKind]

variable {row' : PendingRow} {claim : ClaimedMessage} {candidate : String × String} {state' : RequeueState}
  {db' : QueueDb} {op : QueueOp} {a : Env × QueueStep}

theorem activeWeight_le
    (hActive : row.status = .pending ∨ row.status = .claimed) (hKind : row'.kind = row.kind)
    (hPayload : row'.payload = row.payload) :
    activeWeight kind row' ≤ activeWeight kind row := by
  by_cases hSame : row.kind = kind
  · have hNow : isActive kind row = true := by
      simp [isActive, hSame, hActive]
    rw [activeWeight, activeWeight, if_pos hNow, hPayload]
    split
    · exact Nat.le_refl _
    · exact Nat.zero_le _
  · rw [activeWeight_of_kind_ne (hKind ▸ hSame)]
    exact Nat.zero_le _

theorem Rewrite.activeWeight_le {claim : Option ClaimedMessage}
    (h : Rewrite claim row row') (hActive : row.status = .pending ∨ row.status = .claimed) :
    activeWeight kind row' ≤ activeWeight kind row :=
  Queue.activeWeight_le hActive h.kind h.payload

theorem withinBudget_update {pending' : Table PendingRow.id} {p : PendingRow → Bool} {f : PendingRow → PendingRow}
    {config : QueueConfig} (hUpdate : ∃ hf, pending' = pending.update p f hf) (h : WithinBudget config pending)
    (hWeight : ∀ row ∈ pending, p row = true → activeWeight ingestAsyncKind (f row) ≤ activeWeight ingestAsyncKind row) :
    WithinBudget config pending' := by
  obtain ⟨hf, rfl⟩ := hUpdate
  exact Nat.le_trans (Table.weight_update_le hWeight) h

theorem withinBudget_delete {config : QueueConfig} (p : PendingRow → Bool) (h : WithinBudget config pending) :
    WithinBudget config (pending.delete p) :=
  Nat.le_trans (Table.weight_delete_le pending p) h

theorem withinBudget_reclaim {config : QueueConfig} (staleCutoff : Int) (h : WithinBudget config pending) :
    WithinBudget config (reclaimStaleRows staleCutoff pending) := by
  refine withinBudget_update ⟨unclaimedRow_id, rfl⟩ h fun row _ hStale => (unclaimedRow_rewrite none row).activeWeight_le ?_
  simp only [isStale, Bool.and_eq_true, decide_eq_true_eq] at hStale
  exact Or.inr hStale.1

theorem withinBudget_insert {config : QueueConfig} (h : WithinBudget config pending)
    (hFits : message.kind = ingestAsyncKind →
      activeBytes ingestAsyncKind pending + payloadBytes message.payload ≤ config.maxIngestActiveBytes.toNat) :
    WithinBudget config (pending.insertOrIgnore message.row) := by
  have hWeight := Table.weight_insertOrIgnore_le (w := activeWeight ingestAsyncKind) pending message.row
  by_cases hKind : message.kind = ingestAsyncKind
  · have hRow : activeWeight ingestAsyncKind message.row ≤ payloadBytes message.payload :=
      activeWeight_le_payload ingestAsyncKind message.row
    exact hWeight.trans ((Nat.add_le_add_left hRow _).trans (hFits hKind))
  · rw [activeWeight_of_kind_ne (show message.row.kind ≠ ingestAsyncKind from hKind)] at hWeight
    exact Nat.le_trans hWeight h

theorem activeBytes_first (hUnknown : ¬ Known db message.id) :
    activeBytes ingestAsyncKind (db.pending.insertOrIgnore message.row) = activeBytes ingestAsyncKind db.pending +
      if message.kind = ingestAsyncKind then payloadBytes message.payload else 0 := by
  rw [known_iff, not_not] at hUnknown
  rw [activeBytes_eq_weight, Table.weight_insertOrIgnore_of_fresh (r := message.row) (congrArg Prod.fst hUnknown)]
  by_cases hKind : message.kind = ingestAsyncKind
  · rw [if_pos hKind, activeWeight_pending (show message.row.status = .pending from rfl) hKind]
    rfl
  · rw [if_neg hKind, activeWeight_of_kind_ne (show message.row.kind ≠ ingestAsyncKind from hKind)]
    rfl

structure Tracks (limit : Nat) (candidates : List (String × String)) (state : RequeueState) : Prop where
  exact : state.activeIngestBytes = activeBytes ingestAsyncKind state.pending
  within : state.activeIngestBytes ≤ limit
  kinds : ∀ candidate ∈ candidates, ∀ row ∈ state.pending, row.id = candidate.1 → row.kind = candidate.2

theorem requeuedRow_status (now : Int) (row : PendingRow) : (requeuedRow now row).status = .pending := by
  unfold requeuedRow clearIngestResults
  split <;> rfl

variable {now : Int} {limit : Nat} {candidates : List (String × String)} {payload id : String}

theorem activeBytes_requeue (hRow : row ∈ pending) (hFailed : failedWithId id row = true) :
    activeBytes ingestAsyncKind (requeueFailedMessage now id pending).1 =
      activeBytes ingestAsyncKind pending + if row.kind = ingestAsyncKind then payloadBytes row.payload else 0 := by
  have hOld := failedWithId_iff.mp hFailed
  have hTrade := Table.weight_update_single (w := activeWeight ingestAsyncKind) (requeuedRow_id now) hRow hFailed
    fun row' h => (failedWithId_iff.mp h).1.trans hOld.1.symm
  rw [activeWeight_failed hOld.2, Nat.add_zero] at hTrade
  rw [activeBytes_eq_weight, requeueFailedMessage, hTrade, activeBytes_eq_weight]
  have hRewrite := requeuedRow_rewrite none now row
  by_cases hKind : row.kind = ingestAsyncKind
  · rw [if_pos hKind, activeWeight_pending (requeuedRow_status now row) (hRewrite.kind.trans hKind),
      hRewrite.payload]
  · rw [if_neg hKind, activeWeight_of_kind_ne (hRewrite.kind ▸ hKind)]

theorem admittedRequeuePayloadBytes_some {active bytes : Nat}
    (h : admittedRequeuePayloadBytes pending id kind active limit = .ok (some bytes)) (hRow : row ∈ pending)
    (hId : row.id = id) (hKind : row.kind = kind) (hWithin : active ≤ limit) :
    bytes = (if row.kind = ingestAsyncKind then payloadBytes row.payload else 0) ∧ active + bytes ≤ limit := by
  unfold admittedRequeuePayloadBytes at h
  split at h
  · rename_i hOther
    cases h
    rw [hKind, if_neg hOther]
    exact ⟨rfl, hWithin⟩
  · rename_i hIngest
    rw [← hId, Table.find?_of_mem hRow] at h
    dsimp only at h
    split at h
    · cases h
    · cases h
      rw [hKind, if_pos (not_not.mp hIngest)]
      exact ⟨rfl, by omega⟩

theorem kinds_requeue (h : ∀ row ∈ pending, row.id = candidate.1 → row.kind = candidate.2) :
    ∀ row ∈ (requeueFailedMessage now id pending).1, row.id = candidate.1 → row.kind = candidate.2 := by
  intro row hRow hId
  rw [requeueFailedMessage, Table.mem_update] at hRow
  obtain ⟨old, hOld, rfl⟩ := hRow
  by_cases hFailed : failedWithId id old = true
  · have hRewrite := requeuedRow_rewrite none now old
    rw [if_pos hFailed] at hId ⊢
    rw [hRewrite.kind]
    exact h old hOld (hRewrite.id.symm.trans hId)
  · rw [if_neg hFailed] at hId ⊢
    exact h old hOld hId

theorem requeueTurn_tracks (h : requeueTurn now limit state candidate = .ok state')
    (hLimit : limit ≤ u64Max) (hTracks : Tracks limit (candidate :: candidates) state) :
    Tracks limit candidates state' := by
  have hRest : ∀ other ∈ candidates, ∀ row ∈ state.pending, row.id = other.1 → row.kind = other.2 :=
    fun other hOther => hTracks.kinds other (List.mem_cons_of_mem _ hOther)
  unfold requeueTurn at h
  split at h
  · cases h
  · cases h
    exact ⟨hTracks.exact, hTracks.within, hRest⟩
  · rename_i bytes hAdmitted
    dsimp only at h
    split at h
    · rename_i hCount
      cases h
      obtain ⟨row, hRow, hFailed⟩ := Table.exists_of_count_pos hCount
      have hId := (failedWithId_iff.mp hFailed).1
      obtain ⟨hBytes, hFits⟩ := admittedRequeuePayloadBytes_some hAdmitted hRow hId
        (hTracks.kinds candidate List.mem_cons_self row hRow hId) hTracks.within
      have hNoWrap : min u64Max (state.activeIngestBytes + bytes) = state.activeIngestBytes + bytes :=
        Nat.min_eq_right (Nat.le_trans hFits hLimit)
      refine ⟨?_, ?_, fun other hOther => kinds_requeue (hRest other hOther)⟩
      · rw [activeBytes_requeue hRow hFailed, ← hBytes, ← hTracks.exact]
        exact hNoWrap
      · exact Nat.le_trans (Nat.le_of_eq hNoWrap) hFits
    · rename_i hCount
      cases h
      have hSame : (requeueFailedMessage now candidate.1 state.pending).1 = state.pending :=
        Table.update_eq_self (requeuedRow_id now) (Nat.eq_zero_of_not_pos hCount)
      rw [hSame]
      exact ⟨hTracks.exact, hTracks.within, hRest⟩

theorem requeueLoop_tracks (h : requeueLoop now limit candidates state = .ok state')
    (hLimit : limit ≤ u64Max) (hTracks : Tracks limit candidates state) : Tracks limit [] state' := by
  induction candidates generalizing state with
  | nil =>
    cases h
    exact hTracks
  | cons candidate candidates ih =>
    unfold requeueLoop at h
    split at h
    · cases h
    · rename_i middle hTurn
      exact ih h (requeueTurn_tracks hTurn hLimit hTracks)

section Config
variable {config : QueueConfig}

theorem limit_le_u64Max : config.maxIngestActiveBytes.toNat ≤ u64Max := by
  have hLt := config.maxIngestActiveBytes.toNat_lt
  unfold u64Max
  omega

theorem requeueAll_within (h : requeueAll now config.maxIngestActiveBytes.toNat candidates pending = .ok state)
    (hWithin : WithinBudget config pending)
    (hKinds : ∀ candidate ∈ candidates, ∃ row ∈ pending, (row.id, row.kind) = candidate) :
    WithinBudget config state.pending := by
  unfold requeueAll at h
  split at h
  · cases h
  · rename_i bytes hBytes
    unfold activePayloadBytesForKind at hBytes
    split at hBytes
    · cases hBytes
      have hTracks := requeueLoop_tracks h limit_le_u64Max ⟨rfl, hWithin, ?_⟩
      · rw [WithinBudget, ← hTracks.exact]
        exact hTracks.within
      · intro candidate hCandidate row hRow hId
        obtain ⟨row', hRow', rfl⟩ := hKinds candidate hCandidate
        rw [Table.eq_of_key_eq hRow hRow' hId]
    · cases hBytes

theorem archive_within (completedAt : Int) (rows : List QueueFailureRow) (acc : QueueDb × Nat)
    (h : WithinBudget config acc.1.pending) :
    WithinBudget config (rows.foldl (archiveTurn completedAt) acc).1.pending := by
  induction rows generalizing acc with
  | nil => exact h
  | cons row rows ih => exact ih _ (withinBudget_delete (failedWithId row.id) h)

theorem claimTx_within {request : ClaimRequest} {staleCutoff : Int} {message : Option ClaimedMessage}
    (h : claimTx env request staleCutoff db = .ok (db', message)) (hWithin : WithinBudget config db.pending) :
    WithinBudget config db'.pending := by
  have hReclaim := withinBudget_reclaim staleCutoff hWithin
  rcases claimTx_cases h with ⟨_, rfl⟩ | ⟨row, _, _, _, rfl⟩
  · exact hReclaim
  · refine withinBudget_update ⟨by exact fun _ => rfl, rfl⟩ hReclaim fun row' _ hRow' =>
      activeWeight_le (Or.inl ?_) rfl rfl
    simp only [Bool.and_eq_true, decide_eq_true_eq] at hRow'
    exact hRow'.1.2

theorem Effect.within (h : Effect env config op db db') (hOp : op.isKeyFenced = false)
    (hWithin : WithinBudget config db.pending) : WithinBudget config db'.pending := by
  cases h with
  | same hPending _ => rwa [hPending]
  | insert message hPending _ hStorable =>
    rw [hPending]
    exact withinBudget_insert hWithin (hStorable.fits hOp)
  | turn p f hPending _ _ hRow =>
    refine withinBudget_update hPending hWithin fun row hMem hp => ?_
    obtain ⟨hClaimed, hTurn⟩ := hRow row hMem hp
    have hRewrite : Rewrite none row (f row) := hTurn.rewrite hClaimed
    exact hRewrite.activeWeight_le (Or.inr hClaimed)
  | reset p f hPending _ _ hRow =>
    refine withinBudget_update hPending hWithin fun row _ hp => ?_
    obtain ⟨hRewrite, hFailed | hPending⟩ := hRow row hp
    · rw [activeWeight_failed hFailed]
      exact Nat.zero_le _
    · exact (hRewrite none).activeWeight_le (Or.inl hPending)
  | finish held h =>
    obtain ⟨row, completion, -, -, -, hPending, -⟩ := h
    rw [hPending]
    exact withinBudget_delete (heldBy held) hWithin
  | requeue candidates state hKinds hRun hPending _ _ =>
    rw [hPending]
    exact requeueAll_within hRun hWithin hKinds
  | archive rows hDb =>
    subst hDb
    exact archive_within env.nowMillis rows (db, 0) hWithin

end Config

section Hash
variable (blake3 : List UInt8 → String) (config : QueueConfig)

/-- The check that a fenced explicit-key enqueue of an `ingest_async` message does not make: if its lease holds
and its id is new, the payload fits. -/
def Admissible (state : QueueState) : Env × QueueStep → Prop
  | (env, .call slot (.enqueueKeyFenced (some lease) kind payload idempotencyKey _)) =>
    kind = ingestAsyncKind → state.calls slot = none → holdsLease env.nowMs lease env.leases = true →
    ¬ Known state.db (idempotentKeyMessageId blake3 kind idempotencyKey) →
      activeBytes ingestAsyncKind state.db.pending + payloadBytes payload ≤ config.maxIngestActiveBytes.toNat
  | _ => True

variable {config}

theorem keyFenced_within_iff {lease : RuntimeWriterLease} {key operation : String}
    (h : WithinBudget config db.pending) :
    WithinBudget config (enqueueIdempotentWithKeyFailFastFenced env lease operation
        (newMessage blake3 env (.explicitKey key) kind payload) db).1.pending ↔
      (kind = ingestAsyncKind → holdsLease env.nowMs lease env.leases = true →
        ¬ Known db (idempotentKeyMessageId blake3 kind key) →
          activeBytes ingestAsyncKind db.pending + payloadBytes payload ≤ config.maxIngestActiveBytes.toNat) := by
  have hId : (newMessage blake3 env (.explicitKey key) kind payload).id = idempotentKeyMessageId blake3 kind key := rfl
  simp only [enqueueIdempotentWithKeyFailFastFenced, requireRuntimeWriterLease]
  by_cases hLease : holdsLease env.nowMs lease env.leases = true
  · rw [← hId]
    simp only [hLease, if_true]
    generalize hMessage : newMessage blake3 env (.explicitKey key) kind payload = message
    have hKind : message.kind = kind := by rw [← hMessage]; rfl
    have hPayload : message.payload = payload := by rw [← hMessage]; rfl
    by_cases hKnown : Known db message.id
    · rw [insertUnlessKnown_of_known hKnown]
      refine iff_of_true ?_ fun _ _ hUnknown => absurd hKnown hUnknown
      split <;> exact h
    · have hNoConflict : explicitKeyConflicts db message.id message.kind message.sourceHash = false := by
        rw [explicitKeyConflicts_eq_false, stored_eq_none_iff.mpr hKnown]
        intro s hs
        cases hs
      rw [hNoConflict, insertUnlessKnown_of_unknown hKnown]
      simp only [Bool.false_eq_true, if_false, WithinBudget, activeBytes_first hKnown, hKind, hPayload]
      by_cases hIngest : kind = ingestAsyncKind
      · simp [hIngest, hKnown]
      · simpa [hIngest, WithinBudget] using h
  · simp only [hLease, Bool.false_eq_true, if_false]
    exact iff_of_true h fun _ hHolds => absurd hHolds (by simp)

def Call.Unbudgeted : Call → Prop
  | .keyCompletions call => call.kind ≠ ingestAsyncKind
  | .keyInsert call => call.kind ≠ ingestAsyncKind
  | .claimProbe _ => True
  | .claimTx _ _ => True

theorem unbudgeted_iff : call.Unbudgeted ↔ ∀ key, call.key? = some key → key.kind ≠ ingestAsyncKind := by
  cases call <;> simp [Call.Unbudgeted, Call.key?]

theorem resume_within (h : WithinBudget config db.pending)
    (hCall : call.Unbudgeted) : WithinBudget config (resume blake3 env call db).1.pending := by
  cases call with
  | keyCompletions | claimProbe =>
    simp only [resume]
    split <;> exact h
  | keyInsert call =>
    simp only [resume]
    rcases insertUnlessKnown_cases (call.message blake3) db with hSame | ⟨_, hInsert⟩
    · rwa [hSame]
    · rw [hInsert]
      exact withinBudget_insert h fun hKind => absurd hKind hCall
  | claimTx request staleCutoff =>
    simp only [resume, returned]
    cases hRun : claimTx env request staleCutoff db with
    | error e => exact h
    | ok result => exact claimTx_within hRun h

variable (config)

structure Budgeted (state : QueueState) : Prop where
  within : WithinBudget config state.db.pending
  calls : ∀ slot call, state.calls slot = some call → call.Unbudgeted

variable {config} {state : QueueState}

theorem next_calls (h : Budgeted config state) :
    ∀ slot call, ((queueMachine blake3 config).next state a).calls slot = some call → call.Unbudgeted := by
  obtain ⟨env, what⟩ := a
  simp only [Machine.next, queueMachine]
  cases what with
  | call slot op =>
    simp only [step]
    split
    · exact h.calls
    · intro other call hCall
      rcases settle_calls hCall with ⟨_, hNew⟩ | ⟨_, hOld⟩
      · exact unbudgeted_iff.mpr fun key hKey => (begin_waits blake3 config hNew hKey).1
      · exact h.calls other call hOld
  | resume slot =>
    simp only [step]
    split
    · exact h.calls
    · rename_i call hSlot
      intro other next hNext
      rcases settle_calls hNext with ⟨_, hNew⟩ | ⟨_, hOld⟩
      · refine unbudgeted_iff.mpr fun key hKey => ?_
        exact unbudgeted_iff.mp (h.calls slot call hSlot) key (resume_key blake3 hNew hKey)
      · exact h.calls other next hOld
  | abandon slot =>
    intro other call hCall
    simp only [step, setCall] at hCall
    split at hCall
    · cases hCall
    · exact h.calls other call hCall

theorem next_within_iff (h : Budgeted config state) :
    WithinBudget config ((queueMachine blake3 config).next state a).db.pending ↔
      Admissible blake3 config state a := by
  obtain ⟨env, what⟩ := a
  simp only [Machine.next, queueMachine]
  cases what with
  | call slot op =>
    cases hSlot : state.calls slot with
    | some call =>
      simp only [step, hSlot]
      refine iff_of_true h.within ?_
      unfold Admissible
      split
      · rename_i hEq
        cases hEq
        intro _ hFree
        rw [hSlot] at hFree
        cases hFree
      · trivial
    | none =>
      simp only [step, hSlot, settle_db]
      by_cases hOp : ∃ lease kind payload key operation,
          op = .enqueueKeyFenced (some lease) kind payload key operation
      · obtain ⟨lease, kind, payload, key, operation, rfl⟩ := hOp
        rw [show (begin blake3 config env (.enqueueKeyFenced (some lease) kind payload key operation) state.db).1 =
          (enqueueIdempotentWithKeyFailFastFenced env lease operation
            (newMessage blake3 env (.explicitKey key) kind payload) state.db).1 from rfl,
          keyFenced_within_iff blake3 h.within]
        simp only [Admissible, hSlot, true_implies]
      · have hNot : ∀ lease kind payload key operation,
            op ≠ .enqueueKeyFenced (some lease) kind payload key operation :=
          fun lease kind payload key operation hEq => hOp ⟨lease, kind, payload, key, operation, hEq⟩
        have hFree : op.isKeyFenced = false := by
          unfold QueueOp.isKeyFenced
          split
          · exact absurd rfl (hNot _ _ _ _ _)
          · rfl
        refine iff_of_true ((begin_effect blake3 config env op state.db).within hFree h.within) ?_
        unfold Admissible
        split
        · rename_i hEq
          cases hEq
          exact absurd rfl (hNot _ _ _ _ _)
        · trivial
  | resume slot =>
    refine iff_of_true ?_ trivial
    cases hSlot : state.calls slot with
    | none => simpa only [step, hSlot] using h.within
    | some call =>
      simp only [step, hSlot, settle_db]
      exact resume_within blake3 h.within (h.calls slot call hSlot)
  | abandon slot => exact iff_of_true h.within trivial

theorem run_within_iff (h : Budgeted config state) (schedule : List (Env × QueueStep)) :
    (∀ past future, schedule = past ++ future →
      WithinBudget config ((queueMachine blake3 config).final state past).db.pending) ↔
      (queueMachine blake3 config).Along (Admissible blake3 config) state schedule := by
  induction schedule generalizing state with
  | nil =>
    refine iff_of_true ?_ trivial
    intro past future hSplit
    rw [(List.append_eq_nil_iff.mp hSplit.symm).1]
    exact h.within
  | cons a schedule ih =>
    constructor
    · intro hAll
      have hNext := hAll [a] schedule rfl
      refine ⟨(next_within_iff blake3 h).mp hNext, (ih ⟨hNext, next_calls blake3 h⟩).mp ?_⟩
      rintro past future rfl
      exact hAll (a :: past) future rfl
    · rintro ⟨hStep, hRest⟩ past future hSplit
      cases past with
      | nil => exact h.within
      | cons b past =>
        rw [List.cons_append, List.cons.injEq] at hSplit
        obtain ⟨rfl, hSplit⟩ := hSplit
        exact (ih ⟨(next_within_iff blake3 h).mpr hStep, next_calls blake3 h⟩).mpr hRest past future hSplit

variable (config)

/-- Whatever the operations and their interleaving, the bound is kept exactly as long as no fenced explicit-key
enqueue stores an ingest payload that does not fit. -/
theorem ingestBudget_holds_iff (db : QueueDb)
    (hStart : activeBytes ingestAsyncKind db.pending ≤ config.maxIngestActiveBytes.toNat)
    (schedule : List (Env × QueueStep)) :
    (∀ past future, schedule = past ++ future →
      activeBytes ingestAsyncKind ((queueMachine blake3 config).final (.start db) past).db.pending ≤
        config.maxIngestActiveBytes.toNat) ↔
      (queueMachine blake3 config).Along (Admissible blake3 config) (.start db) schedule := by
  have hBudgeted : Budgeted config (.start db) := ⟨hStart, fun _ _ hCall => by cases hCall⟩
  exact run_within_iff blake3 hBudgeted schedule

end Hash

def fourBytes : QueueConfig := ⟨5000, 3600000, 4⟩

def writerLease : RuntimeWriterLease :=
  { name := "sqlite-writer", owner := "daemon", generation := 1, pid := 1, bootId := none, sessionId := "session"
    acquiredAt := "1970-01-01T00:00:00Z", expiresAt := "1970-01-01T00:01:00Z"
    heartbeatAt := "1970-01-01T00:00:00Z", mode := "daemon", metadataJson := none, remainingSecs := 60 }

def leasedEnv : Env :=
  ⟨1000, ⟨1000, 1, 0⟩,
    ⟨[{ name := "sqlite-writer", owner := "daemon", generation := 1, pid := 1, bootId := none
        sessionId := "session", acquiredAt := "1970-01-01T00:00:00Z", expiresAt := "1970-01-01T00:01:00Z"
        heartbeatAt := "1970-01-01T00:00:00Z", mode := "daemon", metadataJson := none }], by simp⟩⟩

def fencedIngest (payload : String) : Env × QueueStep :=
  (leasedEnv, .call 0 (.enqueueKeyFenced (some writerLease) "ingest_async" payload "key" "enqueue ingest"))

/-- A payload of four bytes passes through the fence within the budget. -/
theorem fencedIngest_holds :
    activeBytes ingestAsyncKind QueueDb.empty.pending ≤ fourBytes.maxIngestActiveBytes.toNat ∧
    activeBytes ingestAsyncKind ((queueMachine (fun _ => "h") fourBytes).final (.start .empty)
      [fencedIngest "four"]).db.pending ≤ fourBytes.maxIngestActiveBytes.toNat :=
  ⟨by decide, (ingestBudget_holds_iff (fun _ => "h") fourBytes .empty (by decide) [fencedIngest "four"]).mpr
    ⟨fun _ _ _ _ => by decide, trivial⟩ [fencedIngest "four"] [] rfl⟩

/-- A payload of five bytes passes as well, and the rows then hold more than the budget allows. -/
theorem fencedIngest_over_budget :
    activeBytes ingestAsyncKind QueueDb.empty.pending ≤ fourBytes.maxIngestActiveBytes.toNat ∧
    (queueMachine (fun _ => "h") fourBytes).output (.start .empty) (fencedIngest "fives") =
      .returned (.ok (.enqueued "msg-dedup-h")) ∧
    fourBytes.maxIngestActiveBytes.toNat < activeBytes ingestAsyncKind
      ((queueMachine (fun _ => "h") fourBytes).final (.start .empty) [fencedIngest "fives"]).db.pending := by
  decide

end Mempal.Queue

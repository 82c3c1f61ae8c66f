import Mempal.Queue.Conservation

set_option autoImplicit false

/-! A claim is live while a claimed row carries its token. In a run whose readings do not repeat, no two issued claims
of a message are live together, a claim that has ended never comes back, and no message is completed twice. -/

namespace Mempal.Queue

open Foundation
open WriterLease (RuntimeWriterLease)

def Live (claim : ClaimedMessage) (db : QueueDb) : Prop := ∃ row ∈ db.pending, heldBy claim row = true

variable {claim : ClaimedMessage} {db db' : QueueDb} {env : Env} {lifecycle : Option RuntimeWriterLease}
  {state : QueueState} {a : Env × QueueStep}

theorem live_iff :
    Live claim db ↔ ∃ row, db.pending.find? claim.id = some row ∧ row.status = .claimed ∧
      row.claimToken = some claim.claimToken := by
  constructor
  · rintro ⟨row, hRow, hHeld⟩
    obtain ⟨hId, hClaimed⟩ := heldBy_iff.mp hHeld
    exact ⟨row, hId ▸ Table.find?_of_mem hRow, hClaimed⟩
  · rintro ⟨row, hFind, hClaimed⟩
    obtain ⟨hRow, hId⟩ := Table.find?_eq_some_iff.mp hFind
    exact ⟨row, hRow, heldBy_iff.mpr ⟨hId, hClaimed⟩⟩

theorem not_live_iff : ¬ Live claim db ↔ ∀ row ∈ db.pending, heldBy claim row = false := by
  simp [Live]

variable {claim' : ClaimedMessage} {pending : Table PendingRow.id} {staleCutoff : Int} {op : QueueOp}
  {past mid future : List (Env × QueueStep)}

theorem Live.token_eq (h : Live claim db) (h' : Live claim' db)
    (hId : claim'.id = claim.id) : claim.claimToken = claim'.claimToken := by
  obtain ⟨row, hFind, _, hToken⟩ := live_iff.mp h
  obtain ⟨row', hFind', _, hToken'⟩ := live_iff.mp h'
  rw [hId, hFind, Option.some.injEq] at hFind'
  rw [← hFind', hToken] at hToken'
  exact Option.some.inj hToken'

theorem not_live_update {p : PendingRow → Bool} {f : PendingRow → PendingRow}
    (hDb : ∃ hf, db.pending = pending.update p f hf) (hHeld : ∀ row ∈ pending, heldBy claim row = true → p row = true)
    (hStatus : ∀ row, (f row).status ≠ .claimed) : ¬ Live claim db := by
  obtain ⟨hf, hDb⟩ := hDb
  rw [not_live_iff, hDb]
  intro row hRow
  rw [Table.mem_update] at hRow
  obtain ⟨old, hOld, rfl⟩ := hRow
  rw [Bool.eq_false_iff]
  intro hNow
  split at hNow
  · exact hStatus old (heldBy_iff.mp hNow).2.1
  · rename_i hp
    exact hp (hHeld old hOld hNow)

theorem unclaimedRow_status (row : PendingRow) : (unclaimedRow row).status ≠ .claimed := by
  unfold unclaimedRow clearIngestResults
  split <;> simp

theorem failedRow_status (env : Env) (config : QueueConfig) (error : String)
    (disposition : QueueFailureDisposition) (nextRetry : Int) (row : PendingRow) :
    (failedRow env config error disposition nextRetry row).status ≠ .claimed := by
  cases disposition <;> simp [failedRow]

theorem Finishes.ends (h : Finishes claim db db') : ¬ Live claim db' := by
  obtain ⟨row, completion, -, -, -, hPending, -⟩ := h
  rw [not_live_iff, hPending]
  intro row hRow
  exact (Table.mem_delete.mp hRow).2

theorem reclaimStaleRows_ends {row : PendingRow} (hRow : row ∈ pending) (hHeld : heldBy claim row = true)
    (hStale : isStale staleCutoff row = true) (hDb : db.pending = reclaimStaleRows staleCutoff pending) :
    ¬ Live claim db := by
  refine not_live_update ⟨unclaimedRow_id, hDb⟩ ?_ unclaimedRow_status
  intro row' hRow' hHeld'
  have hSame : row' = row := Table.eq_of_key_eq hRow' hRow
    ((heldBy_iff.mp hHeld').1.trans (heldBy_iff.mp hHeld).1.symm)
  rw [hSame]
  exact hStale

/-- The claim with which a worker ends its work. -/
def QueueOp.ends : QueueOp → Option ClaimedMessage
  | .confirm _ held => some held
  | .completeOperation _ held _ => some held
  | .markFailed _ held _ _ => some held
  | .releaseClaim _ held => some held
  | _ => none

theorem find?_heldBy_eq_none (h : ¬ Live claim db) : db.pending.rows.find? (heldBy claim) = none := by
  rw [List.find?_eq_none]
  intro row hRow
  rw [not_live_iff.mp h row hRow]
  exact Bool.false_ne_true

theorem count_heldBy_eq_zero (h : ¬ Live claim db) : db.pending.count (heldBy claim) = 0 := by
  rw [Table.count, List.countP_eq_zero]
  intro row hRow
  rw [not_live_iff.mp h row hRow]
  exact Bool.false_ne_true

variable {b : Env × QueueStep}

section Hash
variable (blake3 : List UInt8 → String) (config : QueueConfig)

theorem begin_not_live (env : Env) (hEnds : op.ends = some claim) (h : ¬ Live claim db) :
    (begin blake3 config env op db).1 = db ∧ ∃ e, (begin blake3 config env op db).2 = .returned (.error e) := by
  have hFind := find?_heldBy_eq_none h
  have hCount := count_heldBy_eq_zero h
  cases op with
  | confirm lifecycle claim' =>
    cases hEnds
    simp only [begin, returned, confirm, confirmInTx, hFind]
    split <;> exact ⟨rfl, _, rfl⟩
  | completeOperation lifecycle claim' completion =>
    cases hEnds
    simp only [begin, returned, completeOperation, hCount, if_true]
    split <;> exact ⟨rfl, _, rfl⟩
  | markFailed lifecycle claim' error disposition =>
    cases hEnds
    simp only [begin, returned, markFailedWithDisposition, hFind]
    split <;> exact ⟨rfl, _, rfl⟩
  | releaseClaim lifecycle claim' =>
    cases hEnds
    simp only [begin, returned, releaseClaim, hCount, if_true]
    split <;> exact ⟨rfl, _, rfl⟩
  | _ => cases hEnds

theorem returned_commit {α : Type} {reply : α → Reply} {r : Reply} {body : Except QueueError (QueueDb × α)}
    (h : (returned reply (commitOrRollback db body)).2 = .returned (.ok r)) :
    ∃ x, body = .ok ((returned reply (commitOrRollback db body)).1, x) := by
  cases body with
  | error e => cases h
  | ok result => exact ⟨result.2, rfl⟩

theorem begin_ends {reply : Reply} (hEnds : op.ends = some claim)
    (h : (begin blake3 config env op db).2 = .returned (.ok reply)) :
    ¬ Live claim (begin blake3 config env op db).1 := by
  cases op with
  | confirm lifecycle claim' =>
    cases hEnds
    obtain ⟨u, hBody⟩ := returned_commit h
    exact (confirm_finishes hBody).ends
  | completeOperation lifecycle claim' completion =>
    cases hEnds
    obtain ⟨u, hBody⟩ := returned_commit h
    exact (completeOperation_finishes hBody).ends
  | markFailed lifecycle claim' error disposition =>
    cases hEnds
    obtain ⟨u, hBody⟩ := returned_commit h
    obtain ⟨row, -, hDb⟩ := markFailed_ok hBody
    exact not_live_update ⟨failedRow_id env config error disposition _, congrArg QueueDb.pending hDb⟩
      (fun _ _ hHeld => hHeld) (failedRow_status env config error disposition _)
  | releaseClaim lifecycle claim' =>
    cases hEnds
    obtain ⟨u, hBody⟩ := returned_commit h
    obtain ⟨-, hDb⟩ := releaseClaim_ok hBody
    exact not_live_update ⟨unclaimedRow_id, congrArg QueueDb.pending hDb⟩ (fun _ _ hHeld => hHeld) unclaimedRow_status
  | _ => cases hEnds

theorem next_call {slot : Nat} (env : Env) (op : QueueOp) (hFree : state.calls slot = none) :
    (queueMachine blake3 config).step state (env, .call slot op) =
      settle state slot (begin blake3 config env op state.db) := by
  simp only [queueMachine, step, hFree]

theorem live_next (h : Live claim ((queueMachine blake3 config).next state a).db) :
    Live claim state.db ∨ ∃ issue, issued (a, (queueMachine blake3 config).output state a) = some issue ∧
      issue.claimToken = claim.claimToken := by
  obtain ⟨row, hFind, hClaimed, hToken⟩ := live_iff.mp h
  have hAfter : ((queueMachine blake3 config).next state a).db.entry claim.id =
      (some row, ((queueMachine blake3 config).next state a).db.completions.find? claim.id) := by
    rw [QueueDb.entry, hFind]
  rcases step_advances blake3 config state a claim.id with hEvolve | ⟨row', c, _, hNew, hStatus, _⟩
  · rw [hAfter] at hEvolve
    generalize hBefore : state.db.entry claim.id = before at hEvolve
    cases hEvolve with
    | stay => exact Or.inl (live_iff.mpr ⟨row, congrArg Prod.fst hBefore, hClaimed, hToken⟩)
    | rewrite c hRow =>
      rcases hRow.claimed hClaimed with ⟨hWas, hSame⟩ | ⟨issue, hIssue, _, hIssued⟩
      · exact Or.inl (live_iff.mpr ⟨_, congrArg Prod.fst hBefore, hWas, hSame ▸ hToken⟩)
      · rw [hToken, Option.some.injEq] at hIssued
        exact Or.inr ⟨issue, hIssue, hIssued.symm⟩
  · rw [hAfter, Prod.mk.injEq, Option.some.injEq] at hNew
    rw [← hNew.1, hClaimed] at hStatus
    cases hStatus

theorem claimTx_live {request : ClaimRequest} (h : claimTx env request staleCutoff db = .ok (db', some claim)) :
    Live claim db' := by
  rcases claimTx_cases h with ⟨hNone, _⟩ | ⟨row, hRow, hSelects, hSome, rfl⟩
  · cases hNone
  · cases hSome
    refine ⟨claimedRow (claimToken request.workerId env.tick) env.nowSecs row, ?_, ?_⟩
    · refine List.mem_map.mpr ⟨row, hRow, if_pos ?_⟩
      simp only [ClaimFilter.selects, Bool.and_eq_true, decide_eq_true_eq] at hSelects
      simp only [hSelects.1.1, decide_true, Bool.true_and]
      cases hFilter : request.filter with
      | next | byKind => rfl
      | byIdAndKind id kind =>
        rw [hFilter] at hSelects
        exact (Bool.and_eq_true_iff.mp hSelects.2).2
    · exact heldBy_iff.mpr ⟨rfl, rfl, rfl⟩

theorem resume_live {call : Call}
    (h : (resume blake3 env call db).2.claim = some claim) : Live claim (resume blake3 env call db).1 := by
  obtain ⟨request, staleCutoff, rfl, hRun⟩ := resume_claim blake3 h
  exact claimTx_live hRun

theorem issued_live (h : issued (a, (queueMachine blake3 config).output state a) = some claim) :
    Live claim ((queueMachine blake3 config).next state a).db := by
  obtain ⟨env, what⟩ := a
  cases what with
  | call slot op =>
    simp only [Machine.output, queueMachine, step] at h
    split at h
    · cases h
    · rw [issued_settle, begin_claim] at h
      cases h
  | resume slot =>
    simp only [Machine.output, Machine.next, queueMachine, step] at *
    cases hSlot : state.calls slot with
    | none => simp [hSlot, issued] at h
    | some call =>
      simp only [hSlot, issued_settle, settle_db] at *
      exact resume_live blake3 h
  | abandon slot => cases h

theorem issued_token_ne {state' : QueueState} (hTick : a.1.tick ≠ b.1.tick)
    (h : issued (a, (queueMachine blake3 config).output state a) = some claim)
    (h' : issued (b, (queueMachine blake3 config).output state' b) = some claim') :
    claim.claimToken ≠ claim'.claimToken := by
  obtain ⟨worker, hToken⟩ := issued_token blake3 config h
  obtain ⟨worker', hToken'⟩ := issued_token blake3 config h'
  rw [hToken, hToken']
  exact fun hEq => hTick (claimToken_tick hEq)

theorem tick_ne_of_nodup (h : (ticks (past ++ a :: (mid ++ b :: future))).Nodup) : a.1.tick ≠ b.1.tick := by
  have hNot := tick_notMem_of_nodup h (show _ = (past ++ a :: mid) ++ b :: future by simp)
  intro hEq
  rw [← hEq] at hNot
  simp [ticks] at hNot

theorem final_not_live {state₀ : QueueState} {schedule : List (Env × QueueStep)}
    (hIssued : issued (a, (queueMachine blake3 config).output state₀ a) = some claim)
    (hTicks : a.1.tick ∉ ticks schedule) (h : ¬ Live claim state.db) :
    ¬ Live claim ((queueMachine blake3 config).final state schedule).db := by
  induction schedule generalizing state with
  | nil => exact h
  | cons b schedule ih =>
    simp only [ticks, List.map_cons, List.mem_cons, not_or] at hTicks
    refine ih hTicks.2 fun hLive => ?_
    rcases live_next blake3 config hLive with hBefore | ⟨issue, hIssue, hToken⟩
    · exact h hBefore
    · exact issued_token_ne blake3 config hTicks.1 hIssued hIssue hToken.symm

def Completes (state : QueueState) (a : Env × QueueStep) (id : String) : Prop :=
  ((queueMachine blake3 config).next state a).db.completions.find? id ≠ state.db.completions.find? id

theorem completes_some {id : String} (h : Completes blake3 config state a id) :
    ∃ completion, ((queueMachine blake3 config).next state a).db.completions.find? id = some completion := by
  have hAfter : ((queueMachine blake3 config).next state a).db.completions.find? id =
      (((queueMachine blake3 config).next state a).db.entry id).2 := rfl
  have hBefore : state.db.completions.find? id = (state.db.entry id).2 := rfl
  rw [Completes, hAfter, hBefore] at h
  rw [hAfter]
  rcases step_advances blake3 config state a id with hEvolve | ⟨row, c, hOld, hNew, _⟩
  · generalize state.db.entry id = before at h hEvolve
    generalize ((queueMachine blake3 config).next state a).db.entry id = after at h hEvolve
    cases hEvolve with
    | stay | rewrite => exact absurd rfl h
    | finish row c completion => exact ⟨completion, rfl⟩
  · rw [hOld, hNew] at h
    exact absurd rfl h

theorem not_completes_twice {id : String} (hFresh : (ticks (past ++ a :: (mid ++ b :: future))).Nodup)
    (h : Completes blake3 config (reached blake3 config past) a id) :
    ¬ Completes blake3 config (reached blake3 config (past ++ a :: mid)) b id := by
  have hSplit : past ++ a :: (mid ++ b :: future) = ((past ++ [a]) ++ (mid ++ [b])) ++ future := by simp
  rw [hSplit, ticks, List.map_append] at hFresh
  have hUpTo : (ticks ((past ++ [a]) ++ (mid ++ [b]))).Nodup := (List.nodup_append.mp hFresh).1
  have hHalf := hUpTo
  rw [ticks, List.map_append] at hHalf
  obtain ⟨completion, hDone⟩ := completes_some blake3 config h
  have hEntry : (reached blake3 config (past ++ [a])).db.entry id = (none, some completion) := by
    refine (run_sound blake3 config (List.nodup_append.mp hHalf).1).entry_of_completion ?_
    rw [reached, Machine.final_append]
    exact hDone
  have hBefore : (ticks ((past ++ [a]) ++ mid)).Nodup := by
    rw [← List.append_assoc, ticks, List.map_append] at hUpTo
    exact (List.nodup_append.mp hUpTo).1
  have hMid := congrArg Prod.snd (final_finished blake3 config hBefore hEntry)
  have hEnd := congrArg Prod.snd (final_finished blake3 config hUpTo hEntry)
  intro hTwice
  apply hTwice
  simp only [QueueDb.entry, reached, List.append_assoc, List.singleton_append] at hMid hEnd
  rw [← List.cons_append, ← List.append_assoc, Machine.final_append] at hEnd
  exact hEnd.trans hMid.symm

def claimedBy (past : List (Env × QueueStep)) (a : Env × QueueStep) : Option ClaimedMessage :=
  issued (a, (queueMachine blake3 config).output (reached blake3 config past) a)

theorem claims_exclusive (schedule : List (Env × QueueStep)) (hFresh : (ticks schedule).Nodup) :
    (∀ past a mid b future claim claim', schedule = past ++ a :: (mid ++ b :: future) →
      claimedBy blake3 config past a = some claim → claimedBy blake3 config (past ++ a :: mid) b = some claim' →
      claim'.id = claim.id →
      ¬ (Live claim (reached blake3 config schedule).db ∧ Live claim' (reached blake3 config schedule).db)) ∧
    (∀ past a mid future claim, schedule = past ++ a :: (mid ++ future) →
      claimedBy blake3 config past a = some claim →
      Live claim (reached blake3 config (past ++ [a])).db ∧
      (¬ Live claim (reached blake3 config (past ++ a :: mid)).db →
        ¬ Live claim (reached blake3 config schedule).db)) ∧
    (∀ state env slot op claim, state.calls slot = none → op.ends = some claim →
      (¬ Live claim state.db →
        ((queueMachine blake3 config).next state (env, .call slot op)).db = state.db ∧
        ∃ e, (queueMachine blake3 config).output state (env, .call slot op) = .returned (.error e)) ∧
      (∀ reply, (queueMachine blake3 config).output state (env, .call slot op) = .returned (.ok reply) →
        ¬ Live claim ((queueMachine blake3 config).next state (env, .call slot op)).db)) ∧
    (∀ state env slot staleSecs claim, state.calls slot = none → ∀ row ∈ state.db.pending,
      heldBy claim row = true → isStale (saturatingCutoff env.nowSecs staleSecs) row = true →
      ¬ Live claim ((queueMachine blake3 config).next state (env, .call slot (.reclaimStale staleSecs))).db) ∧
    (∀ past a mid b future id, schedule = past ++ a :: (mid ++ b :: future) →
      Completes blake3 config (reached blake3 config past) a id →
      ¬ Completes blake3 config (reached blake3 config (past ++ a :: mid)) b id) := by
  refine ⟨?_, ?_, ?_, ?_, ?_⟩
  · rintro past a mid b future claim claim' rfl hClaim hClaim' hId ⟨hLive, hLive'⟩
    exact issued_token_ne blake3 config (tick_ne_of_nodup hFresh) hClaim hClaim' (hLive.token_eq hLive' hId)
  · rintro past a mid future claim rfl hClaim
    constructor
    · rw [reached, Machine.final_append]
      exact issued_live blake3 config hClaim
    · intro hEnded
      have hTicks : a.1.tick ∉ ticks future := by
        rw [ticks, List.map_append, List.map_cons, List.map_append] at hFresh
        have hRest := (List.nodup_cons.mp (List.nodup_append.mp hFresh).2.1).1
        exact fun hMem => hRest (List.mem_append_right _ hMem)
      rw [← List.cons_append, ← List.append_assoc, reached, Machine.final_append]
      exact final_not_live blake3 config hClaim hTicks hEnded
  · intro state env slot op claim hFree hEnds
    have hStep := next_call blake3 config env op hFree
    rw [Machine.next, Machine.output, hStep, settle_db]
    constructor
    · intro hEnded
      obtain ⟨hDb, e, hError⟩ := begin_not_live blake3 config env hEnds hEnded
      exact ⟨hDb, e, settle_of_returned hError⟩
    · intro reply hReply
      exact begin_ends blake3 config hEnds (settle_returned hReply)
  · intro state env slot staleSecs claim hFree row hRow hHeld hStale
    rw [Machine.next, next_call blake3 config env _ hFree, settle_db]
    exact reclaimStaleRows_ends hRow hHeld hStale rfl
  · rintro past a mid b future id rfl hCompletes
    exact not_completes_twice blake3 config hFresh hCompletes

end Hash

def takenOver : List (Env × QueueStep) :=
  [(quietEnv 0, .call 0 (.enqueue .sourceHash "note" "text")),
    (quietEnv 1, .call 1 (.claim ⟨.next, "first", 60, none⟩)),
    (quietEnv 2, .resume 1),
    (⟨100000, ⟨100000, 1, 3⟩, Table.empty⟩, .call 2 (.claim ⟨.next, "second", 60, none⟩)),
    (⟨100000, ⟨100000, 1, 4⟩, Table.empty⟩, .resume 2)]

def firstClaim : ClaimedMessage :=
  ⟨"msg-dedup-h", "note", "text", 0, claimToken "first" (quietEnv 2).tick, "h", 1, 1⟩

def secondClaim : ClaimedMessage :=
  ⟨"msg-dedup-h", "note", "text", 0, claimToken "second" ⟨100000, 1, 4⟩, "h", 1, 100⟩

theorem takenOver_exclusive : (ticks takenOver).Nodup ∧
    ¬ (Live firstClaim (reached (fun _ => "h") .default takenOver).db ∧
      Live secondClaim (reached (fun _ => "h") .default takenOver).db) :=
  ⟨by decide, (claims_exclusive (fun _ => "h") .default takenOver (by decide)).1 (takenOver.take 2) _
    [(⟨100000, ⟨100000, 1, 3⟩, Table.empty⟩, .call 2 (.claim ⟨.next, "second", 60, none⟩))] _ [] firstClaim
    secondClaim rfl (by decide) (by decide) rfl⟩

end Mempal.Queue

import Mathlib.Data.Prod.Lex
import Mathlib.Data.String.Basic
import Mempal.Foundation.Greedy
import Mempal.Queue.ByteBudget

set_option autoImplicit false

/-! The two requeue loops keep a running total of the active payload bytes. -/

namespace Mempal.Queue

open Foundation
open WriterLease (i64Max)

def requeueCost (row : PendingRow) : Nat := if row.kind = ingestAsyncKind then payloadBytes row.payload else 0

variable {row other : PendingRow} {pending : Table PendingRow.id} {state : RequeueState}
  {selected chosen rest : List PendingRow} {left active limit : Nat} {now : Int} {selects : String → Bool}

theorem requeueCost_le_iff :
    requeueCost row ≤ left ↔ row.kind ≠ ingestAsyncKind ∨ payloadBytes row.payload ≤ left := by
  unfold requeueCost
  split
  · exact ⟨Or.inr, fun h => h.resolve_left fun hKind => hKind ‹_›⟩
  · exact ⟨fun _ => Or.inl ‹_›, fun _ => Nat.zero_le _⟩

structure Candidates (pending : Table PendingRow.id) (selected : List PendingRow) : Prop where
  stored : ∀ row ∈ selected, row ∈ pending
  failed : ∀ row ∈ selected, row.status = .failed
  nodup : selected.Nodup

def requeueRows (now : Int) (rows : List PendingRow) (pending : Table PendingRow.id) : Table PendingRow.id :=
  pending.update (fun row => decide (row ∈ rows)) (requeuedRow now) (requeuedRow_id now)

theorem failedWithId_iff_eq (hRow : row ∈ pending)
    (hFailed : row.status = .failed) (hOther : other ∈ pending) : failedWithId row.id other = true ↔ other = row := by
  rw [failedWithId_iff]
  constructor
  · exact fun h => Table.eq_of_key_eq hOther hRow h.1
  · rintro rfl
    exact ⟨rfl, hFailed⟩

theorem requeueFailedMessage_eq (hRow : row ∈ pending) (hFailed : row.status = .failed) :
    requeueFailedMessage now row.id pending = (requeueRows now [row] pending, 1) := by
  have hRows : pending.update (failedWithId row.id) (requeuedRow now) (requeuedRow_id now) =
      requeueRows now [row] pending := by
    apply Table.update_congr
    intro other hOther
    rw [Bool.eq_iff_iff, failedWithId_iff_eq hRow hFailed hOther, decide_eq_true_iff, List.mem_singleton]
  have hCount : pending.count (failedWithId row.id) = 1 := by
    apply Nat.le_antisymm
    · refine le_trans (List.countP_mono_left fun other _ hOther => ?_) (Table.count_key_le_one pending row.id)
      exact decide_eq_true (failedWithId_iff.mp hOther).1
    · exact List.countP_pos_iff.mpr ⟨row, hRow, failedWithId_iff.mpr ⟨rfl, hFailed⟩⟩
  rw [requeueFailedMessage, hRows, hCount]

theorem admittedRequeuePayloadBytes_eq (hRow : row ∈ pending) :
    admittedRequeuePayloadBytes pending row.id row.kind active limit =
      .ok (if requeueCost row ≤ limit - active then some (requeueCost row) else none) := by
  unfold admittedRequeuePayloadBytes requeueCost
  by_cases hKind : row.kind = ingestAsyncKind
  · rw [if_neg (not_not.mpr hKind), Table.find?_of_mem hRow, if_pos hKind]
    dsimp only
    by_cases hFits : payloadBytes row.payload ≤ limit - active
    · rw [if_neg (not_lt.mpr hFits), if_pos hFits]
    · rw [if_pos (not_le.mp hFits), if_neg hFits]
  · rw [if_pos hKind, if_neg hKind, if_pos (Nat.zero_le _)]

theorem requeueTurn_of_fits (hRow : row ∈ state.pending) (hFailed : row.status = .failed)
    (hFits : requeueCost row ≤ limit - state.activeIngestBytes) :
    requeueTurn now limit state (row.id, row.kind) = .ok { state with
        pending := requeueRows now [row] state.pending
        activeIngestBytes := min u64Max (state.activeIngestBytes + requeueCost row)
        requeued := state.requeued + 1 } := by
  simp only [requeueTurn, admittedRequeuePayloadBytes_eq hRow, if_pos hFits, requeueFailedMessage_eq hRow hFailed,
    Nat.zero_lt_one, if_true]

theorem requeueTurn_of_excess
    (hRow : row ∈ state.pending) (hExcess : ¬ requeueCost row ≤ limit - state.activeIngestBytes) :
    requeueTurn now limit state (row.id, row.kind) = .ok { state with skipped := state.skipped + 1 } := by
  simp only [requeueTurn, admittedRequeuePayloadBytes_eq hRow, if_neg hExcess]

theorem Candidates.sublist
    (h : Candidates pending selected) (hSub : chosen.Sublist selected) : Candidates pending chosen where
  stored row hRow := h.stored row (hSub.subset hRow)
  failed row hRow := h.failed row (hSub.subset hRow)
  nodup := h.nodup.sublist hSub

theorem Candidates.tail
    (h : Candidates pending (row :: rest)) : Candidates pending rest := h.sublist (List.sublist_cons_self row rest)

theorem Candidates.requeue
    (h : Candidates pending (row :: rest)) : Candidates (requeueRows now [row] pending) rest := by
  refine ⟨fun other hOther => ?_, h.tail.failed, h.tail.nodup⟩
  refine Table.mem_update.mpr ⟨other, h.tail.stored other hOther, if_neg ?_⟩
  rw [decide_eq_true_iff, List.mem_singleton]
  rintro rfl
  exact (List.nodup_cons.mp h.nodup).1 hOther

theorem requeueRows_cons (hFailed : ∀ other ∈ rest, other.status = .failed) :
    requeueRows now rest (requeueRows now [row] pending) = requeueRows now (row :: rest) pending := by
  apply Table.ext
  simp only [requeueRows, Table.update, List.map_map]
  apply List.map_congr_left
  intro other _
  by_cases hSame : other = row
  · subst hSame
    have hOut : requeuedRow now other ∉ rest := by
      intro hMem
      have hStatus := hFailed _ hMem
      rw [requeuedRow_status] at hStatus
      cases hStatus
    simp [hOut]
  · simp [hSame]

theorem requeueRows_nil (pending : Table PendingRow.id) : requeueRows now [] pending = pending := by
  apply Table.ext
  simp [requeueRows, Table.update]

theorem left_after {cost : Nat} (hLimit : limit ≤ u64Max) :
    limit - min u64Max (active + cost) = limit - active - cost := by
  generalize u64Max = bound at hLimit ⊢
  omega

theorem requeueLoop_greedy (hLimit : limit ≤ u64Max)
    (state : RequeueState) (h : Candidates state.pending selected) :
    ∃ bytes, requeueLoop now limit (selected.map fun row => (row.id, row.kind)) state = .ok
      { pending := requeueRows now (Greedy.taken requeueCost (limit - state.activeIngestBytes) selected) state.pending
        activeIngestBytes := bytes
        requeued := state.requeued + (Greedy.taken requeueCost (limit - state.activeIngestBytes) selected).length
        skipped := state.skipped + (Greedy.refused requeueCost (limit - state.activeIngestBytes) selected).length } := by
  induction selected generalizing state with
  | nil => exact ⟨state.activeIngestBytes, by simp [requeueLoop, Greedy.taken, Greedy.refused, requeueRows_nil]⟩
  | cons row rest ih =>
    have hRow := h.stored row List.mem_cons_self
    have hFailed := h.failed row List.mem_cons_self
    simp only [List.map_cons, requeueLoop]
    by_cases hFits : requeueCost row ≤ limit - state.activeIngestBytes
    · have hTaken : ∀ other ∈ Greedy.taken requeueCost (limit - state.activeIngestBytes - requeueCost row) rest,
          other.status = .failed := fun other hOther =>
        h.failed other (List.mem_cons_of_mem _ ((Greedy.taken_sublist _ _ _).subset hOther))
      rw [requeueTurn_of_fits hRow hFailed hFits]
      obtain ⟨bytes, hLoop⟩ := ih { state with
        pending := requeueRows now [row] state.pending
        activeIngestBytes := min u64Max (state.activeIngestBytes + requeueCost row)
        requeued := state.requeued + 1 } h.requeue
      simp only [left_after hLimit, requeueRows_cons hTaken] at hLoop
      refine ⟨bytes, hLoop.trans ?_⟩
      simp only [Greedy.taken, Greedy.refused, if_pos hFits, List.length_cons, Nat.add_assoc, Nat.add_comm 1]
    · rw [requeueTurn_of_excess hRow hFits]
      obtain ⟨bytes, hLoop⟩ := ih { state with skipped := state.skipped + 1 } h.tail
      refine ⟨bytes, hLoop.trans ?_⟩
      simp only [Greedy.taken, Greedy.refused, if_neg hFits, List.length_cons, Nat.add_assoc, Nat.add_comm 1]

structure Revived (now : Int) (row : PendingRow) : Prop where
  pending : row.status = .pending
  due : row.nextAttemptAt ≤ now
  attempts : row.retryCount = 0 ∧ row.retryBackoffMs = 0
  failure : row.lastError = none ∧ row.failureClass = none
  results : row.kind = ingestAsyncKind → row.rejectedReason = none ∧ row.failureDetail = none ∧ row.resultJson = none

theorem requeuedRow_revived (row : PendingRow) : Revived now (requeuedRow now row) := by
  unfold requeuedRow clearIngestResults
  split
  · exact ⟨rfl, min_le_right _ _, ⟨rfl, rfl⟩, ⟨rfl, rfl⟩, fun _ => ⟨rfl, rfl, rfl⟩⟩
  · exact ⟨rfl, min_le_right _ _, ⟨rfl, rfl⟩, ⟨rfl, rfl⟩, fun h => absurd h ‹_›⟩

/-- The walk over the selected rows, the rows it chose and the counts it reports. -/
structure RequeuesGreedily (now : Int) (limit : Nat) (pending : Table PendingRow.id) (selected chosen : List PendingRow)
    (pending' : Table PendingRow.id) (requeued skipped : Nat) : Prop where
  ordered : chosen.Sublist selected
  greedy : ∀ front row back, selected = front ++ row :: back →
    (row ∈ chosen ↔ row.kind ≠ ingestAsyncKind ∨
      payloadBytes row.payload ≤ limit - activeBytes ingestAsyncKind pending -
        Greedy.total requeueCost (front.filter fun earlier => decide (earlier ∈ chosen)))
  rows : pending'.rows = pending.rows.map fun row => if row ∈ chosen then requeuedRow now row else row
  changed : requeued = pending.rows.countP fun row => decide (requeuedRow now row ≠ row ∧ row ∈ chosen)
  left : skipped = selected.countP fun row => decide (row ∉ chosen)
  revived : ∀ row ∈ chosen, Revived now (requeuedRow now row)

theorem countP_chosen (h : Candidates pending chosen) :
    pending.rows.countP (fun row => decide (requeuedRow now row ≠ row ∧ row ∈ chosen)) = chosen.length := by
  have hNodup : pending.rows.Nodup := List.Nodup.of_map _ pending.unique
  rw [List.countP_eq_length_filter]
  apply List.Perm.length_eq
  rw [List.perm_ext_iff_of_nodup (hNodup.filter _) h.nodup]
  intro row
  rw [List.mem_filter, decide_eq_true_iff]
  constructor
  · exact fun hRow => hRow.2.2
  · intro hRow
    refine ⟨h.stored row hRow, fun hSame => ?_, hRow⟩
    have hStatus := requeuedRow_status now row
    rw [hSame, h.failed row hRow] at hStatus
    cases hStatus

theorem countP_refused (hNodup : selected.Nodup) :
    selected.countP (fun row => decide (row ∉ Greedy.taken requeueCost left selected)) =
      (Greedy.refused requeueCost left selected).length := by
  have hPerm := Greedy.taken_perm requeueCost left selected
  obtain ⟨-, -, hApart⟩ := List.nodup_append.mp (hPerm.nodup_iff.mpr hNodup)
  have hTaken : (Greedy.taken requeueCost left selected).countP
      (fun row => decide (row ∉ Greedy.taken requeueCost left selected)) = 0 := by
    rw [List.countP_eq_zero]
    intro row hRow
    simpa using hRow
  have hRefused : (Greedy.refused requeueCost left selected).countP
      (fun row => decide (row ∉ Greedy.taken requeueCost left selected)) =
        (Greedy.refused requeueCost left selected).length := by
    rw [List.countP_eq_length]
    intro row hRow
    exact decide_eq_true fun hMem => hApart row hMem row hRow rfl
  rw [← hPerm.countP_eq, List.countP_append, hTaken, hRefused, Nat.zero_add]

theorem activePayloadBytes_cases (pending : Table PendingRow.id) (kind : String) :
    (activePayloadBytesForKind pending kind = .ok (activeBytes kind pending) ∧
        (activeBytes kind pending : Int) ≤ i64Max) ∨
      (activePayloadBytesForKind pending kind = .error .sqlite ∧
        i64Max < (activeBytes kind pending : Int)) := by
  unfold activePayloadBytesForKind
  split
  · exact Or.inl ⟨rfl, ‹_›⟩
  · exact Or.inr ⟨rfl, not_le.mp ‹_›⟩

theorem requeueAll_greedy (hLimit : limit ≤ u64Max) (h : Candidates pending selected)
    (hRun : requeueAll now limit (selected.map fun row => (row.id, row.kind)) pending = .ok state) :
    ∃ chosen, RequeuesGreedily now limit pending selected chosen state.pending state.requeued state.skipped := by
  rw [requeueAll] at hRun
  rcases activePayloadBytes_cases pending ingestAsyncKind with ⟨hBytes, -⟩ | ⟨hBytes, -⟩
  · rw [hBytes] at hRun
    obtain ⟨bytes, hLoop⟩ := requeueLoop_greedy hLimit ⟨pending, activeBytes ingestAsyncKind pending, 0, 0⟩ h
    cases hLoop.symm.trans hRun
    have hChosen : Candidates pending
        (Greedy.taken requeueCost (limit - activeBytes ingestAsyncKind pending) selected) :=
      h.sublist (Greedy.taken_sublist _ _ _)
    refine ⟨Greedy.taken requeueCost (limit - activeBytes ingestAsyncKind pending) selected,
      Greedy.taken_sublist _ _ _, ?_, ?_, ?_, ?_, fun row _ => requeuedRow_revived row⟩
    · intro front row back hSplit
      subst hSplit
      rw [Greedy.mem_taken_iff _ h.nodup, Greedy.filter_taken _ h.nodup, requeueCost_le_iff]
    · simp only [requeueRows, Table.update, decide_eq_true_eq]
    · rw [countP_chosen hChosen]
      exact Nat.zero_add _
    · rw [countP_refused h.nodup]
      exact Nat.zero_add _
  · rw [hBytes] at hRun
    cases hRun

theorem requeueAll_error_iff (now : Int) (hLimit : limit ≤ u64Max) (h : Candidates pending selected) :
    (∃ e, requeueAll now limit (selected.map fun row => (row.id, row.kind)) pending = .error e) ↔
      i64Max < (activeBytes ingestAsyncKind pending : Int) := by
  rw [requeueAll]
  rcases activePayloadBytes_cases pending ingestAsyncKind with ⟨hBytes, hSmall⟩ | ⟨hBytes, hLarge⟩
  · obtain ⟨bytes, hLoop⟩ := requeueLoop_greedy hLimit ⟨pending, activeBytes ingestAsyncKind pending, 0, 0⟩ h
    rw [hBytes]
    constructor
    · rintro ⟨e, hError⟩
      cases hLoop.symm.trans hError
    · exact fun hLarge => absurd hSmall (not_le.mpr hLarge)
  · rw [hBytes]
    exact ⟨fun _ => hLarge, fun _ => ⟨_, rfl⟩⟩

def matchingFailures (filter : QueueFailureFilter) (pending : Table PendingRow.id) : List PendingRow :=
  pending.rows.filter fun row => row.status = .failed && filter.matchesRow (.ofPending row)

theorem matchingFailures_candidates (filter : QueueFailureFilter) (pending : Table PendingRow.id) :
    Candidates pending (matchingFailures filter pending) where
  stored row hRow := (List.mem_filter.mp hRow).1
  failed row hRow := by
    have hSelected := (List.mem_filter.mp hRow).2
    rw [Bool.and_eq_true, decide_eq_true_eq] at hSelected
    exact hSelected.1
  nodup := (List.Nodup.of_map _ pending.unique).filter _

def CountsReadable (pending : Table PendingRow.id) : Prop :=
  ∀ row ∈ pending, isFailureRow row = true → fitsU32 row.retryCount = true

theorem matchingFailedRows_cases (filter : QueueFailureFilter) (pending : Table PendingRow.id) :
    (CountsReadable pending ∧
        matchingFailedRows pending filter = .ok ((matchingFailures filter pending).map .ofPending)) ∨
      (¬ CountsReadable pending ∧ ∃ e, matchingFailedRows pending filter = .error e) := by
  unfold matchingFailedRows
  cases hFind : (pending.rows.filter isFailureRow).find? fun row => !fitsU32 row.retryCount with
  | some row =>
    refine Or.inr ⟨fun hReadable => ?_, _, rfl⟩
    obtain ⟨hRow, hFailure⟩ := List.mem_filter.mp (List.mem_of_find?_eq_some hFind)
    have hUnfit := List.find?_some hFind
    rw [hReadable row hRow hFailure] at hUnfit
    cases hUnfit
  | none =>
    refine Or.inl ⟨fun row hRow hFailure => ?_, ?_⟩
    · have hFits := List.find?_eq_none.mp hFind row (List.mem_filter.mpr ⟨hRow, hFailure⟩)
      simpa using hFits
    · rw [matchingFailures, List.filter_map, List.filter_filter]
      simp only [Function.comp_def, Bool.and_comm]

def failedModelTasks (selects : String → Bool) (pending : Table PendingRow.id) : List PendingRow :=
  (pending.rows.filter fun row =>
    row.status = .failed && row.failureClass = some "retryable_model" && selects row.kind).mergeSort createdBefore

theorem failedModelTasks_candidates (selects : String → Bool) (pending : Table PendingRow.id) :
    Candidates pending (failedModelTasks selects pending) where
  stored row hRow := (List.mem_filter.mp (List.mem_mergeSort.mp hRow)).1
  failed row hRow := by
    have hSelected := (List.mem_filter.mp (List.mem_mergeSort.mp hRow)).2
    simp only [Bool.and_eq_true, decide_eq_true_eq] at hSelected
    exact hSelected.1.1
  nodup := (List.mergeSort_perm _ _).nodup_iff.mpr ((List.Nodup.of_map _ pending.unique).filter _)

theorem createdBefore_iff :
    createdBefore row other = true ↔
      (toLex (row.createdAt, row.id) : ℤ ×ₗ String) ≤ toLex (other.createdAt, other.id) := by
  rw [Prod.Lex.toLex_le_toLex, createdBefore]
  simp

theorem failedModelTasks_sorted (pending : Table PendingRow.id) :
    (failedModelTasks selects pending).Pairwise fun row other => createdBefore row other = true := by
  apply List.pairwise_mergeSort
  · intro row other third hFirst hSecond
    exact createdBefore_iff.mpr (le_trans (createdBefore_iff.mp hFirst) (createdBefore_iff.mp hSecond))
  · intro row other
    rw [Bool.or_eq_true, createdBefore_iff, createdBefore_iff]
    exact le_total _ _

section Calls
variable {env : Env} {config : QueueConfig} {db : QueueDb}

theorem retryFailedMessages_greedy {db' : QueueDb} {filter : QueueFailureFilter} {outcome : QueueFailureActionOutcome}
    (h : retryFailedMessages env config filter db = .ok (db', outcome)) :
    outcome.matched = (matchingFailures filter db.pending).length ∧ db' = { db with pending := db'.pending } ∧
      ∃ chosen skipped, RequeuesGreedily env.nowSecs config.maxIngestActiveBytes.toNat db.pending
        (matchingFailures filter db.pending) chosen db'.pending outcome.changed skipped := by
  unfold retryFailedMessages at h
  split at h
  · cases h
  · rcases matchingFailedRows_cases filter db.pending with ⟨-, hRows⟩ | ⟨-, e, hRows⟩
    · simp only [hRows, List.map_map] at h
      obtain ⟨state, hRun, hResult⟩ := map_eq_ok_iff.mp h
      cases hResult
      obtain ⟨chosen, hGreedy⟩ := requeueAll_greedy limit_le_u64Max (matchingFailures_candidates filter db.pending) hRun
      exact ⟨List.length_map _, rfl, chosen, state.skipped, hGreedy⟩
    · simp only [hRows] at h
      cases h

theorem retryFailedMessages_error_iff {filter : QueueFailureFilter} :
    (∃ e, retryFailedMessages env config filter db = .error e) ↔
      filter.isExplicit = false ∨ ¬ CountsReadable db.pending ∨
        i64Max < (activeBytes ingestAsyncKind db.pending : Int) := by
  unfold retryFailedMessages
  cases hExplicit : filter.isExplicit with
  | false => exact ⟨fun _ => Or.inl rfl, fun _ => ⟨_, rfl⟩⟩
  | true =>
    rcases matchingFailedRows_cases filter db.pending with ⟨hReadable, hRows⟩ | ⟨hUnreadable, e, hRows⟩
    · have hRun := requeueAll_error_iff env.nowSecs (@limit_le_u64Max config)
        (matchingFailures_candidates filter db.pending)
      have hReads : (CountsReadable db.pending) = True := eq_true hReadable
      simp only [hRows, List.map_map, Bool.not_true, Bool.false_eq_true, if_false, map_eq_error_iff, hReads, not_true,
        Bool.true_eq_false, false_or]
      exact hRun
    · simp only [hRows]
      exact ⟨fun _ => Or.inr (Or.inl hUnreadable), fun _ => ⟨e, rfl⟩⟩

variable {modelKind : String}

theorem requeueFailedModelTasks_error_iff :
    (∃ e, requeueFailedModelTasks now modelKind config.maxIngestActiveBytes.toNat pending = .error e) ↔
      modelKindSelects modelKind = none ∨ i64Max < (activeBytes ingestAsyncKind pending : Int) := by
  cases hKind : modelKindSelects modelKind with
  | none =>
    simp only [requeueFailedModelTasks, hKind]
    exact ⟨fun _ => Or.inl trivial, fun _ => ⟨_, rfl⟩⟩
  | some selects =>
    have hRun := requeueAll_error_iff now (@limit_le_u64Max config)
      (failedModelTasks_candidates selects pending)
    simp only [requeueFailedModelTasks, hKind]
    exact hRun.trans (by simp)

theorem requeueFailedModelTasks_greedy (hKind : modelKindSelects modelKind = some selects)
    (h : requeueFailedModelTasks now modelKind config.maxIngestActiveBytes.toNat pending = .ok state) :
    ∃ chosen, RequeuesGreedily now config.maxIngestActiveBytes.toNat pending (failedModelTasks selects pending) chosen
      state.pending state.requeued state.skipped := by
  simp only [requeueFailedModelTasks, hKind] at h
  exact requeueAll_greedy limit_le_u64Max (failedModelTasks_candidates selects pending) h

/-- What the retry of failed messages and the requeue of failed model tasks do to a queue. -/
structure RetriesExactly (env : Env) (config : QueueConfig) (db : QueueDb) : Prop where
  retry : ∀ filter db' outcome, retryFailedMessages env config filter db = .ok (db', outcome) →
    outcome.matched = (matchingFailures filter db.pending).length ∧ db' = { db with pending := db'.pending } ∧
      ∃ chosen skipped, RequeuesGreedily env.nowSecs config.maxIngestActiveBytes.toNat db.pending
        (matchingFailures filter db.pending) chosen db'.pending outcome.changed skipped
  retryFails : ∀ filter, (∃ e, retryFailedMessages env config filter db = .error e) ↔
    filter.isExplicit = false ∨ ¬ CountsReadable db.pending ∨
      i64Max < (activeBytes ingestAsyncKind db.pending : Int)
  auto : ∀ modelKind selects db' requeued skipped, modelKindSelects modelKind = some selects →
    autoRequeueFailedModelTasks env config modelKind db = .ok (db', (requeued, skipped)) →
    db'.completions = db.completions ∧
      ∃ chosen, RequeuesGreedily env.nowSecs config.maxIngestActiveBytes.toNat db.pending
        (failedModelTasks selects db.pending) chosen db'.pending requeued skipped
  autoFails : ∀ modelKind, (∃ e, autoRequeueFailedModelTasks env config modelKind db = .error e) ↔
    modelKindSelects modelKind = none ∨ i64Max < (activeBytes ingestAsyncKind db.pending : Int)
  embed : ∀ db' requeued, retryFailedEmbedMessages env config db = .ok (db', requeued) →
    db' = { db with pending := db'.pending } ∧
      ∃ chosen skipped, RequeuesGreedily env.nowSecs config.maxIngestActiveBytes.toNat db.pending
        (failedModelTasks (· != "llm_task") db.pending) chosen db'.pending requeued skipped
  embedFails : (∃ e, retryFailedEmbedMessages env config db = .error e) ↔
    i64Max < (activeBytes ingestAsyncKind db.pending : Int)
  oldestFirst : ∀ selects, (failedModelTasks selects db.pending).Pairwise fun row other =>
    (toLex (row.createdAt, row.id) : ℤ ×ₗ String) ≤ toLex (other.createdAt, other.id)

theorem retries_greedy_exact_framed (env : Env) (config : QueueConfig) (db : QueueDb) :
    RetriesExactly env config db := by
  constructor
  · exact fun filter db' outcome h => retryFailedMessages_greedy h
  · exact fun filter => retryFailedMessages_error_iff
  · intro modelKind selects db' requeued skipped hKind h
    obtain ⟨state, hRun, hResult⟩ := map_eq_ok_iff.mp h
    cases hResult
    exact ⟨rfl, requeueFailedModelTasks_greedy hKind hRun⟩
  · intro modelKind
    simp only [autoRequeueFailedModelTasks, map_eq_error_iff]
    exact requeueFailedModelTasks_error_iff
  · intro db' requeued h
    obtain ⟨state, hRun, hResult⟩ := map_eq_ok_iff.mp h
    cases hResult
    obtain ⟨chosen, hGreedy⟩ := requeueFailedModelTasks_greedy rfl hRun
    exact ⟨rfl, chosen, state.skipped, hGreedy⟩
  · simp only [retryFailedEmbedMessages, map_eq_error_iff]
    exact requeueFailedModelTasks_error_iff.trans (by simp [modelKindSelects])
  · exact fun selects => (failedModelTasks_sorted db.pending).imp createdBefore_iff.mp

end Calls

end Mempal.Queue

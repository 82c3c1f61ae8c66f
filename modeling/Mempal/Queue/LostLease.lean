import Mempal.Foundation.Digits
import Mempal.Foundation.Like
import Mempal.Queue.Operations

set_option autoImplicit false

/-! A daemon that loses its writer lease leaves the printed error in `last_error`. A daemon start looks for an older
wording of it, without the generation. -/

namespace Mempal.Queue

open Foundation Foundation.Text

/-- The text of `RuntimeWriterLeaseLost`, the same for the queue and for the database. -/
def leaseLostText (leaseName owner : String) (generation : UInt64) (operation : String) : String :=
  "runtime SQLite writer lease `" ++ leaseName ++ "` generation " ++ Nat.repr generation.toNat ++ " for " ++ owner ++
    " was lost before " ++ operation

def daemonOwnerPrefix : String := "mempal-daemon-"

def hookRecordsOperation : String := "build daemon hook drawer records"

/-- The error of a row says that a daemon other than the current one lost its lease over the hook records. -/
def ReportsLostLease (daemonOwner : String) (row : PendingRow) : Prop :=
  ∃ lastError suffix, ∃ generation : UInt64, row.lastError = some lastError ∧
    daemonOwnerPrefix ++ suffix ≠ daemonOwner ∧
    hasText lastError
      (leaseLostText "sqlite-writer" (daemonOwnerPrefix ++ suffix) generation hookRecordsOperation) = true

structure ReadyAfresh (now : Int) (row : PendingRow) : Prop where
  pending : row.status = .pending
  due : row.nextAttemptAt ≤ now
  attempts : row.retryCount = 0
  backoff : row.retryBackoffMs = 0

/-- What a daemon start promises for the work of earlier daemons. -/
structure RecoversLostLeases (env : Env) (daemonOwner : String) (db : QueueDb) : Prop where
  recovered : ∀ row ∈ db.pending, row.status = .pending → isDaemonHookKind row.kind = true →
    ReportsLostLease daemonOwner row →
    ∃ row' ∈ (requeueWriterLeaseFailuresForDaemonStart env daemonOwner db).1.pending,
      row'.id = row.id ∧ ReadyAfresh env.nowSecs row'
  framed : ∀ row ∈ db.pending, ¬ ReportsLostLease daemonOwner row →
    row ∈ (requeueWriterLeaseFailuresForDaemonStart env daemonOwner db).1.pending

def afreshRow (env : Env) (row : PendingRow) : PendingRow :=
  { row with
    retryCount := 0, retryBackoffMs := 0, nextAttemptAt := min row.createdAt env.nowSecs, claimToken := none
    claimedAt := none, heartbeatAt := none, lastError := none, opState := .queued, failureClass := none }

variable {daemonOwner : String} {row row' : PendingRow} {env : Env} {db : QueueDb}

theorem mem_requeue_iff :
    row' ∈ (requeueWriterLeaseFailuresForDaemonStart env daemonOwner db).1.pending ↔
      ∃ row ∈ db.pending, (if blockedByLostLease daemonOwner row then afreshRow env row else row) = row' :=
  List.mem_map

theorem afresh_ready (env : Env) (h : row.status = .pending) : ReadyAfresh env.nowSecs (afreshRow env row) :=
  ⟨h, min_le_right _ _, rfl, rfl⟩

theorem requeued_of_id (hRow : row ∈ db.pending)
    (hRow' : row' ∈ (requeueWriterLeaseFailuresForDaemonStart env daemonOwner db).1.pending)
    (hId : row'.id = row.id) : row' = if blockedByLostLease daemonOwner row then afreshRow env row else row := by
  obtain ⟨origin, hOrigin, rfl⟩ := mem_requeue_iff.mp hRow'
  have hOriginId : origin.id = row.id := by
    split at hId <;> exact hId
  rw [Table.eq_of_key_eq hOrigin hRow hOriginId]

def oldLeaseText : String := "SQLite writer lease `sqlite-writer` for mempal-daemon-"

def oldLossText : String := " was lost before " ++ hookRecordsOperation

/-- Somewhere before a NUL the text names the lease in the older wording and its loss after that, in any case of the
ASCII letters. -/
def HoldsOldWording (text : String) : Prop :=
  ∃ before lease between loss after, beforeNul text = before ++ lease ++ between ++ loss ++ after ∧
    lease.map Char.toLower = oldLeaseText.toList.map Char.toLower ∧
    loss.map Char.toLower = oldLossText.toList.map Char.toLower

theorem like_lostLeasePattern (text : String) : like text lostLeasePattern = true ↔ HoldsOldWording text := by
  have hPattern : beforeNul lostLeasePattern =
      '%' :: (oldLeaseText.toList ++ '%' :: (oldLossText.toList ++ ['%'])) := by decide +kernel
  rw [like, hPattern]
  simp only [likeChars_percent, likeChars_append, likeChars_nil,
    likeChars_literal (show (oldLeaseText.toList.all _) = true by decide +kernel),
    likeChars_literal (show (oldLossText.toList.all _) = true by decide +kernel)]
  constructor
  · rintro ⟨before, _, hText, lease, _, rfl, hLease, between, _, rfl, loss, _, rfl, hLoss, after, _, rfl, rfl⟩
    exact ⟨before, lease, between, loss, after, by simp [hText], hLease, hLoss⟩
  · rintro ⟨before, lease, between, loss, after, hText, hLease, hLoss⟩
    exact ⟨before, _, by rw [hText, List.append_assoc, List.append_assoc, List.append_assoc], lease, _, rfl, hLease,
      between, _, rfl, loss, after, rfl, hLoss, after, [], by simp, rfl⟩

/-- In the older wording a backquote stands before the owner. -/
theorem HoldsOldWording.mark {text : String} (h : HoldsOldWording text) :
    ∃ front back, text.toList = front ++ '\x60' :: back ∧ (back.take 2).map Char.toLower = [' ', 'f'] := by
  obtain ⟨before, lease, between, loss, after, hText, hLease, -⟩ := h
  obtain ⟨rest, hRest⟩ : beforeNul text <+: text.toList := List.takeWhile_prefix _
  have hOld : oldLeaseText.toList.map Char.toLower =
      "sqlite writer lease `sqlite-writer".toList ++ '\x60' :: " for mempal-daemon-".toList := by decide +kernel
  obtain ⟨name, _, rfl, -, hTail⟩ := List.map_eq_append_iff.mp (hLease.trans hOld)
  obtain ⟨mark, owner, rfl, hMark, hOwner⟩ := List.map_eq_cons_iff.mp hTail
  have hTwo : (owner.take 2).map Char.toLower = [' ', 'f'] := by rw [List.map_take, hOwner]; rfl
  refine ⟨before ++ name, owner ++ between ++ loss ++ after ++ rest, ?_, ?_⟩
  · obtain rfl : mark = '\x60' := eq_of_toLower_eq (by decide) hMark.symm
    simp only [← hRest, hText, List.append_assoc, List.cons_append]
  · have hLong : 2 ≤ owner.length := by
      rw [← List.length_map Char.toLower, hOwner]
      decide
    rwa [List.append_assoc, List.append_assoc, List.append_assoc, List.take_append_of_le_length hLong]

theorem toList_append_eight (a b c d e f g h : String) :
    (a ++ b ++ c ++ d ++ e ++ f ++ g ++ h).toList =
      a.toList ++ (b.toList ++ (c.toList ++ (d.toList ++ (e.toList ++ (f.toList ++ (g.toList ++ h.toList)))))) := by
  simp only [String.toList_append, List.append_assoc]

/-- The two backquotes of the printed text stand before the name of the lease and before its generation. -/
theorem leaseLostText_toList {owner : String} (h : '\x60' ∉ owner.toList) (generation : UInt64) :
    ∃ rest, (leaseLostText "sqlite-writer" owner generation hookRecordsOperation).toList =
      "runtime SQLite writer lease ".toList ++ '\x60' :: ("sqlite-writer".toList ++
        '\x60' :: (" generation ".toList ++ rest)) ∧ '\x60' ∉ " generation ".toList ++ rest := by
  have hStart : "runtime SQLite writer lease `".toList = "runtime SQLite writer lease ".toList ++ ['\x60'] := by decide
  have hMark : "` generation ".toList = ['\x60'] ++ " generation ".toList := by decide
  have hDigits : '\x60' ∉ (Nat.repr generation.toNat).toList := by
    intro hMem
    rw [Nat.repr, String.toList_ofList] at hMem
    obtain ⟨d, hd, hChar⟩ := Digits.mem_toDigits (by decide) hMem
    interval_cases d <;> exact absurd hChar (by decide)
  refine ⟨(Nat.repr generation.toNat).toList ++ (" for ".toList ++ (owner.toList ++ (" was lost before ".toList ++
    hookRecordsOperation.toList))), ?_, ?_⟩
  · refine (toList_append_eight ..).trans ?_
    rw [hStart, hMark, List.append_assoc, List.append_assoc]
    rfl
  · simp only [List.mem_append, hDigits, h, false_or]
    decide

theorem not_holdsOldWording {owner : String} (h : '\x60' ∉ owner.toList) (generation : UInt64) :
    ¬ HoldsOldWording (leaseLostText "sqlite-writer" owner generation hookRecordsOperation) := by
  intro hOld
  obtain ⟨front, back, hText, hTwo⟩ := hOld.mark
  obtain ⟨rest, hPrinted, hRest⟩ := leaseLostText_toList h generation
  rcases append_cons_cases (by decide) (hText.symm.trans hPrinted) with rfl | ⟨middle, hMiddle⟩
  · rw [List.take_append_of_le_length (by decide)] at hTwo
    exact absurd hTwo (by decide)
  · rcases append_cons_cases (by decide) hMiddle with rfl | ⟨last, hLast⟩
    · rw [List.take_append_of_le_length (by decide)] at hTwo
      exact absurd hTwo (by decide)
    · exact hRest (by rw [← hLast]; simp)

/-- The older wording, of a daemon other than the current one. -/
def HoldsOldLoss (daemonOwner : String) (row : PendingRow) : Prop :=
  ∃ lastError, row.lastError = some lastError ∧ HoldsOldWording lastError ∧
    hasText lastError (" for " ++ daemonOwner ++ " was lost before ") = false

theorem blockedByLostLease_iff : blockedByLostLease daemonOwner row = true ↔
    row.status = .pending ∧ isDaemonHookKind row.kind = true ∧ HoldsOldLoss daemonOwner row := by
  simp only [blockedByLostLease, Bool.and_eq_true, decide_eq_true_eq, Option.any_eq_true, like_lostLeasePattern,
    Bool.not_eq_true', HoldsOldLoss, and_assoc]

/-- What the printed error and the older wording ask of a row is the same: a loss that is reported is also in the
older wording, unless there is nothing to recover, and the older wording comes with a report. -/
structure WordingsAgree (env : Env) (daemonOwner : String) (row : PendingRow) : Prop where
  selected : ReportsLostLease daemonOwner row → HoldsOldLoss daemonOwner row ∨ ReadyAfresh env.nowSecs row
  reported : HoldsOldLoss daemonOwner row → ReportsLostLease daemonOwner row

/-- A row whose error is the printed text and nothing else is not recovered. -/
theorem wordingsAgree_printed {suffix : String} {generation : UInt64} (hSuffix : '\x60' ∉ suffix.toList)
    (hOther : daemonOwnerPrefix ++ suffix ≠ daemonOwner) (hError : row.lastError =
      some (leaseLostText "sqlite-writer" (daemonOwnerPrefix ++ suffix) generation hookRecordsOperation)) :
    WordingsAgree env daemonOwner row ↔ ReadyAfresh env.nowSecs row := by
  have hOwner : '\x60' ∉ (daemonOwnerPrefix ++ suffix).toList := by
    rw [String.toList_append, List.mem_append, not_or]
    exact ⟨by decide, hSuffix⟩
  have hOld : ¬ HoldsOldLoss daemonOwner row := by
    rintro ⟨lastError, hLast, hWording, -⟩
    cases hError.symm.trans hLast
    exact not_holdsOldWording hOwner generation hWording
  have hReports : ReportsLostLease daemonOwner row :=
    ⟨_, suffix, generation, hError, hOther, decide_eq_true List.infix_rfl⟩
  exact ⟨fun hAgree => (hAgree.selected hReports).resolve_left hOld,
    fun hReady => ⟨fun _ => .inr hReady, fun hLoss => absurd hLoss hOld⟩⟩

theorem daemon_start_recovers_iff (env : Env) (daemonOwner : String) (db : QueueDb) :
    (RecoversLostLeases env daemonOwner db ↔ ∀ row ∈ db.pending, row.status = .pending →
      isDaemonHookKind row.kind = true → WordingsAgree env daemonOwner row) ∧
    ∀ row suffix generation, '\x60' ∉ suffix.toList → daemonOwnerPrefix ++ suffix ≠ daemonOwner → row.lastError =
        some (leaseLostText "sqlite-writer" (daemonOwnerPrefix ++ suffix) generation hookRecordsOperation) →
      (WordingsAgree env daemonOwner row ↔ ReadyAfresh env.nowSecs row) := by
  refine ⟨⟨?_, ?_⟩, fun row suffix generation hSuffix hOther => wordingsAgree_printed hSuffix hOther⟩
  · intro h row hRow hPending hKind
    constructor
    · intro hReports
      obtain ⟨row', hRow', hId, hReady⟩ := h.recovered row hRow hPending hKind hReports
      rw [requeued_of_id hRow hRow' hId] at hReady
      split at hReady
      · rename_i hBlocked
        exact Or.inl (blockedByLostLease_iff.mp hBlocked).2.2
      · exact Or.inr hReady
    · intro hOld
      have hBlocked := blockedByLostLease_iff.mpr ⟨hPending, hKind, hOld⟩
      by_contra hSilent
      have hKept := requeued_of_id hRow (h.framed row hRow hSilent) rfl
      rw [if_pos hBlocked] at hKept
      -- a selected row loses its error, so it cannot be the row it was
      obtain ⟨lastError, hError, -⟩ := hOld
      rw [hKept] at hError
      cases hError
  · intro h
    constructor
    · intro row hRow hPending hKind hReports
      refine ⟨_, mem_requeue_iff.mpr ⟨row, hRow, rfl⟩, ?_⟩
      split
      · exact ⟨rfl, afresh_ready env hPending⟩
      · rename_i hBlocked
        refine ⟨rfl, ((h row hRow hPending hKind).selected hReports).resolve_left fun hOld => hBlocked ?_⟩
        exact blockedByLostLease_iff.mpr ⟨hPending, hKind, hOld⟩
    · intro row hRow hSilent
      refine mem_requeue_iff.mpr ⟨row, hRow, if_neg fun hBlocked => hSilent ?_⟩
      obtain ⟨hPending, hKind, hOld⟩ := blockedByLostLease_iff.mp hBlocked
      exact (h row hRow hPending hKind).reported hOld

/-- A hook message that the daemon `mempal-daemon-1` deferred when it lost generation 3 of its lease. -/
def deferredHook : PendingRow :=
  { NewMessage.row ⟨"msg-1", "hook_event", "hash", "payload", 100⟩ with
    retryCount := 1, retryBackoffMs := 5000, nextAttemptAt := 205
    lastError := some (leaseLostText "sqlite-writer" (daemonOwnerPrefix ++ "1") 3 hookRecordsOperation) }

def deferredQueue : QueueDb := { QueueDb.empty with pending := ⟨[deferredHook], by decide⟩ }

def restartEnv : Env := ⟨201000, ⟨201000, 2, 0⟩, Table.empty⟩

theorem deferred_hook_stays_deferred : ¬ RecoversLostLeases restartEnv "mempal-daemon-2" deferredQueue := by
  intro h
  have hReports : ReportsLostLease "mempal-daemon-2" deferredHook :=
    ⟨_, "1", 3, rfl, by decide, decide_eq_true List.infix_rfl⟩
  obtain ⟨row', hRow', hId, hReady⟩ := h.recovered deferredHook List.mem_cons_self rfl (by decide) hReports
  have hBlocked : blockedByLostLease "mempal-daemon-2" deferredHook = false := by decide +kernel
  rw [requeued_of_id List.mem_cons_self hRow' hId, if_neg (by rw [hBlocked]; decide)] at hReady
  exact absurd hReady.attempts (by decide)

end Mempal.Queue

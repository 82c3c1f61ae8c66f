import Mempal.Foundation.Like
import Mempal.Queue.Lifecycle

set_option autoImplicit false

/-! A claim token starts with the name of its worker, and a heartbeat of a worker looks for the tokens `LIKE` its name
and a colon. -/

namespace Mempal.Queue

open Foundation Foundation.Text
open WriterLease (RuntimeWriterLease)

def IssuedTo (workerId : String) (row : PendingRow) : Prop :=
  row.status = .claimed ∧ ∃ tick, row.claimToken = some (claimToken workerId tick)

def afterHeartbeat (env : Env) (lifecycle : Option RuntimeWriterLease) (id workerId : String) (db : QueueDb) :
    Table PendingRow.id :=
  (commitOrRollback db (refreshHeartbeat env lifecycle id workerId db)).1.pending

/-- The heartbeats of one worker, in every state of the queue, against the claims of another. -/
structure ExtendsOwnClaims (workerId other : String) : Prop where
  spares : ∀ (env : Env) (lifecycle : Option RuntimeWriterLease) (id : String) (db : QueueDb),
    ∀ row ∈ db.pending, IssuedTo other row → row ∈ afterHeartbeat env lifecycle id workerId db
  refreshes : ∀ (env : Env) (lifecycle : Option RuntimeWriterLease) (db : QueueDb),
    requireLifecycleWriterLease env lifecycle "refresh queued message heartbeat" = .ok () →
    ∀ row ∈ db.pending, IssuedTo workerId row →
      { row with heartbeatAt := some env.nowSecs } ∈ afterHeartbeat env lifecycle row.id workerId db

/-- The other name, or a part of it before one of its colons, is matched by the name as a pattern. A name with a NUL
loses its colon there, so that what stands before the NUL has to match a whole token. -/
def ReadsAs (workerId other : String) : Prop :=
  if '\x00' ∈ workerId.toList then
    ∃ tick, likeChars (beforeNul workerId) (beforeNul (claimToken other tick)) = true
  else
    ∃ front, likeChars workerId.toList front = true ∧
      (front = other.toList ∧ '\x00' ∉ other.toList ∨ ∃ rest, beforeNul other = front ++ ':' :: rest)

variable {workerId other : String} {row : PendingRow} {db : QueueDb}

theorem likeChars_colonPattern {name text : List Char} :
    likeChars (name ++ [':', '%']) text = true ↔
      ∃ front rest, text = front ++ ':' :: rest ∧ likeChars name front = true := by
  rw [likeChars_append]
  constructor
  · rintro ⟨front, back, hText, hFront, hBack⟩
    obtain ⟨c, rest, rfl, hColon, -⟩ := (likeChars_cons (by decide)).mp hBack
    rcases hColon with hAny | hColon
    · exact absurd hAny (by decide)
    · rw [eq_of_toLower_eq (by decide) hColon] at hText
      exact ⟨front, rest, hText, hFront⟩
  · rintro ⟨front, rest, hText, hFront⟩
    refine ⟨front, ':' :: rest, hText, hFront, ?_⟩
    exact (likeChars_cons (by decide)).mpr ⟨':', rest, rfl, Or.inr rfl,
      likeChars_percent.mpr ⟨rest, [], (List.append_nil rest).symm, rfl⟩⟩

theorem beforeNul_claimToken (h : '\x00' ∉ other.toList) (tick : Tick) :
    ∃ fields, beforeNul (claimToken other tick) = other.toList ++ ':' :: fields ∧ ':' ∉ fields := by
  refine ⟨(claimFields tick).takeWhile (· ≠ '\x00'), ?_, fun hColon => ?_⟩
  · rw [beforeNul, claimToken_toList, List.takeWhile_append, ← beforeNul, beforeNul_eq_toList h, if_pos rfl]
    rfl
  · exact colon_notMem_claimFields tick ((List.takeWhile_sublist _).mem hColon)

theorem beforeNul_claimToken_of_mem (h : '\x00' ∈ other.toList) (tick : Tick) :
    beforeNul (claimToken other tick) = beforeNul other := by
  have hToken : claimToken other tick = other ++ String.ofList (':' :: claimFields tick) := by
    rw [← String.toList_inj, claimToken_toList, String.toList_append, String.toList_ofList]
  rw [hToken, beforeNul_append_of_mem h]

theorem like_claimToken_of_notMem (h : '\x00' ∉ workerId.toList) (tick : Tick) :
    like (claimToken other tick) (workerId ++ ":%") = true ↔
      ∃ front, likeChars workerId.toList front = true ∧
        (front = other.toList ∧ '\x00' ∉ other.toList ∨ ∃ rest, beforeNul other = front ++ ':' :: rest) := by
  rw [like, beforeNul_append h, show beforeNul ":%" = [':', '%'] from by decide, likeChars_colonPattern]
  by_cases hNul : '\x00' ∈ other.toList
  · simp only [beforeNul_claimToken_of_mem hNul, hNul, not_true_eq_false, and_false, false_or]
    exact exists_congr fun front => ⟨fun ⟨rest, hText, hFront⟩ => ⟨hFront, rest, hText⟩,
      fun ⟨hFront, rest, hText⟩ => ⟨rest, hText, hFront⟩⟩
  · obtain ⟨fields, hToken, hColon⟩ := beforeNul_claimToken hNul tick
    rw [hToken, beforeNul_eq_toList hNul]
    constructor
    · rintro ⟨front, rest, hText, hFront⟩
      refine ⟨front, hFront, ?_⟩
      rcases List.append_eq_append_iff.mp hText with ⟨middle, hName, hTail⟩ | ⟨middle, hName, hTail⟩
      · cases middle with
        | nil => exact Or.inl ⟨by rw [hName, List.append_nil], hNul⟩
        | cons c middle =>
          have hMem : ':' ∈ fields := by
            rw [(List.cons.inj hTail).2]
            exact List.mem_append_right _ List.mem_cons_self
          exact absurd hMem hColon
      · cases middle with
        | nil => exact Or.inl ⟨by rw [hName, List.append_nil], hNul⟩
        | cons c middle => exact Or.inr ⟨middle, by rw [hName, ← (List.cons.inj hTail).1]⟩
    · rintro ⟨front, hFront, ⟨rfl, -⟩ | ⟨rest, hName⟩⟩
      · exact ⟨_, _, rfl, hFront⟩
      · rw [hName]
        exact ⟨front, _, by rw [List.append_assoc]; rfl, hFront⟩

theorem readsAs_iff : ReadsAs workerId other ↔ ∃ tick, like (claimToken other tick) (workerId ++ ":%") = true := by
  unfold ReadsAs
  split_ifs with hNul
  · simp only [like, beforeNul_append_of_mem hNul]
  · simp only [like_claimToken_of_notMem hNul]
    exact ⟨fun h => ⟨⟨0, 1, 0⟩, h⟩, fun ⟨_, h⟩ => h⟩

theorem like_claimToken_self (workerId : String) (tick : Tick) :
    like (claimToken workerId tick) (workerId ++ ":%") = true := by
  by_cases hNul : '\x00' ∈ workerId.toList
  · rw [like, beforeNul_append_of_mem hNul, beforeNul_claimToken_of_mem hNul]
    exact likeChars_self _
  · exact (like_claimToken_of_notMem hNul tick).mpr ⟨_, likeChars_self _, Or.inl ⟨rfl, hNul⟩⟩

def heartbeatSelects (id workerId : String) (row : PendingRow) : Bool :=
  row.id = id && row.status = .claimed && row.claimToken.any fun token => like token (workerId ++ ":%")

theorem heartbeatSelects_iff {tick : Tick} (hStatus : row.status = .claimed)
    (hToken : row.claimToken = some (claimToken other tick)) (id : String) :
    heartbeatSelects id workerId row = true ↔
      row.id = id ∧ like (claimToken other tick) (workerId ++ ":%") = true := by
  simp [heartbeatSelects, hStatus, hToken]

variable {env : Env} {lifecycle : Option RuntimeWriterLease}

/-- The pattern is short enough for SQLite. -/
def NameFits (workerId : String) : Prop := (workerId ++ ":%").utf8ByteSize ≤ maxLikePatternBytes

theorem afterHeartbeat_of_held (hFits : NameFits workerId)
    (hLease : requireLifecycleWriterLease env lifecycle "refresh queued message heartbeat" = .ok ()) (id : String) :
    afterHeartbeat env lifecycle id workerId db =
      db.pending.update (heartbeatSelects id workerId) (fun row => { row with heartbeatAt := some env.nowSecs })
        fun _ => rfl := by
  have hCall : refreshHeartbeat env lifecycle id workerId db =
      if db.pending.count (heartbeatSelects id workerId) = 0 then .error (.messageNotFound id)
      else
        .ok ({ db with
          pending := db.pending.update (heartbeatSelects id workerId)
            (fun row => { row with heartbeatAt := some env.nowSecs }) fun _ => rfl }, ()) := by
    simp only [refreshHeartbeat, hLease, decide_eq_false (Nat.not_lt.mpr hFits), Bool.false_and, Bool.false_eq_true,
      if_false]
    rfl
  rw [afterHeartbeat, hCall]
  by_cases hCount : db.pending.count (heartbeatSelects id workerId) = 0
  · rw [if_pos hCount, Table.update_eq_self _ hCount]
    rfl
  · rw [if_neg hCount]
    rfl

theorem afterHeartbeat_of_error {id : String} {e : QueueError}
    (h : refreshHeartbeat env lifecycle id workerId db = .error e) :
    afterHeartbeat env lifecycle id workerId db = db.pending := by
  rw [afterHeartbeat, h]
  rfl

theorem refreshHeartbeat_of_long (hLong : ¬ NameFits workerId) (env : Env) (lifecycle : Option RuntimeWriterLease)
    (id : String) (db : QueueDb) : ∃ e, refreshHeartbeat env lifecycle id workerId db = .error e := by
  simp only [refreshHeartbeat, decide_eq_true (Nat.lt_of_not_le hLong), Bool.true_and]
  split
  · exact ⟨_, rfl⟩
  · split_ifs with hClaimed hCount
    · exact ⟨_, rfl⟩
    · exact ⟨_, rfl⟩
    · obtain ⟨row, hRow, hSelects⟩ := Table.exists_of_count_pos (Nat.pos_of_ne_zero hCount)
      exact absurd (List.any_eq_true.mpr ⟨row, hRow, (Bool.and_eq_true_iff.mp hSelects).1⟩) hClaimed

theorem heartbeat_spares (hFits : NameFits workerId) (hApart : ¬ ReadsAs workerId other) (env : Env)
    (lifecycle : Option RuntimeWriterLease) (id : String) (hRow : row ∈ db.pending)
    (hIssued : IssuedTo other row) : row ∈ afterHeartbeat env lifecycle id workerId db := by
  cases hLease : requireLifecycleWriterLease env lifecycle "refresh queued message heartbeat" with
  | error e =>
    rw [afterHeartbeat_of_error (by rw [refreshHeartbeat, hLease])]
    exact hRow
  | ok u =>
    obtain ⟨hStatus, tick, hToken⟩ := hIssued
    rw [afterHeartbeat_of_held hFits hLease, Table.mem_update]
    refine ⟨row, hRow, if_neg fun hSelects => hApart (readsAs_iff.mpr ⟨tick, ?_⟩)⟩
    exact ((heartbeatSelects_iff hStatus hToken id).mp hSelects).2

theorem heartbeat_refreshes {tick : Tick} (hFits : NameFits workerId)
    (hLike : like (claimToken other tick) (workerId ++ ":%") = true) (env : Env) (lifecycle : Option RuntimeWriterLease)
    (hLease : requireLifecycleWriterLease env lifecycle "refresh queued message heartbeat" = .ok ())
    (hRow : row ∈ db.pending) (hStatus : row.status = .claimed)
    (hToken : row.claimToken = some (claimToken other tick)) :
    { row with heartbeatAt := some env.nowSecs } ∈ afterHeartbeat env lifecycle row.id workerId db := by
  rw [afterHeartbeat_of_held hFits hLease, Table.mem_update]
  exact ⟨row, hRow, if_pos ((heartbeatSelects_iff hStatus hToken row.id).mpr ⟨rfl, hLike⟩)⟩

def claimedFirst (workerId : String) (tick : Tick) : PendingRow :=
  claimedRow (claimToken workerId tick) 0 (NewMessage.row ⟨"msg-1", "hook_event", "hash", "payload", 0⟩)

def claimedQueue (workerId : String) (tick : Tick) : QueueDb :=
  { QueueDb.empty with pending := ⟨[claimedFirst workerId tick], List.nodup_singleton _⟩ }

def laterEnv : Env := ⟨1000, ⟨1000, 1, 1⟩, Table.empty⟩

/-- The claim on the message has one heartbeat, so a table cannot hold the old and the new one. -/
theorem not_kept_and_refreshed {tick : Tick} {pending : Table PendingRow.id}
    (hKept : claimedFirst workerId tick ∈ pending) :
    { claimedFirst workerId tick with heartbeatAt := some laterEnv.nowSecs } ∉ pending := by
  intro hFresh
  have hTimes : some (0 : Int) = some laterEnv.nowSecs :=
    congrArg PendingRow.heartbeatAt (Table.eq_of_key_eq hKept hFresh rfl)
  exact absurd hTimes (by decide)

theorem heartbeat_extends_own_claims_iff (workerId other : String) :
    ExtendsOwnClaims workerId other ↔ NameFits workerId ∧ ¬ ReadsAs workerId other := by
  have hRow (name : String) (tick : Tick) : claimedFirst name tick ∈ (claimedQueue name tick).pending :=
    List.mem_cons_self
  constructor
  · intro h
    have hFits : NameFits workerId := by
      by_contra hLong
      obtain ⟨e, hError⟩ := refreshHeartbeat_of_long hLong laterEnv none "msg-1" (claimedQueue workerId ⟨0, 1, 0⟩)
      have hFresh := h.refreshes laterEnv none (claimedQueue workerId ⟨0, 1, 0⟩) rfl _ (hRow workerId _)
        ⟨rfl, ⟨0, 1, 0⟩, rfl⟩
      rw [show (claimedFirst workerId ⟨0, 1, 0⟩).id = "msg-1" from rfl, afterHeartbeat_of_error hError] at hFresh
      exact not_kept_and_refreshed (hRow workerId _) hFresh
    refine ⟨hFits, fun hReads => ?_⟩
    obtain ⟨tick, hLike⟩ := readsAs_iff.mp hReads
    have hKept := h.spares laterEnv none "msg-1" (claimedQueue other tick) _ (hRow other tick) ⟨rfl, tick, rfl⟩
    exact not_kept_and_refreshed hKept (heartbeat_refreshes hFits hLike laterEnv none rfl (hRow other tick) rfl rfl)
  · rintro ⟨hFits, hApart⟩
    constructor
    · intro env lifecycle id db row hRow hIssued
      exact heartbeat_spares hFits hApart env lifecycle id hRow hIssued
    · rintro env lifecycle db hLease row hRow ⟨hStatus, tick, hToken⟩
      exact heartbeat_refreshes hFits (like_claimToken_self workerId tick) env lifecycle hLease hRow hStatus hToken

/-- The underscore in the one name stands for the dash in the other. -/
theorem underscore_extends_other_claim : ¬ ExtendsOwnClaims "worker_1" "worker-1" := by
  intro h
  have hKept := h.spares laterEnv none "msg-1" (claimedQueue "worker-1" ⟨0, 1, 0⟩)
    (claimedFirst "worker-1" ⟨0, 1, 0⟩) List.mem_cons_self ⟨rfl, ⟨0, 1, 0⟩, rfl⟩
  revert hKept
  rw [Table.mem_rows]
  decide +kernel

end Mempal.Queue

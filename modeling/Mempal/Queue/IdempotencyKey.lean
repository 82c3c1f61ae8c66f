import Mempal.Queue.Conservation

set_option autoImplicit false

/-! Clients enqueue under explicit keys, in any interleaving. The ingest and the fenced calls check for a conflict and
insert in one transaction; the others do so in separate statements, and a row that another client stores in between
is not looked at again. -/

namespace Mempal.Queue

open Foundation

/-- What the store compares: the kind and the source hash. -/
def NewMessage.identity (message : NewMessage) : String × Option String := (message.kind, some message.sourceHash)

/-- The kind and the source hash stored for an id, the pending row first. -/
def stored (db : QueueDb) (id : String) : Option (String × Option String) :=
  match db.pending.find? id with
  | some row => some (row.kind, some row.sourceHash)
  | none => (db.completions.find? id).map fun row => (row.kind, row.sourceHash)

variable {kind id sourceHash key payload : String} {db db' : QueueDb} {message : NewMessage} {call : Call}
  {fence : Option QueueError} {state : QueueState} {a : Env × QueueStep}

theorem pendingConflicts_eq_false {row : PendingRow} :
    pendingConflicts row kind sourceHash = false ↔ (row.kind, some row.sourceHash) = (kind, some sourceHash) := by
  simp [pendingConflicts]

theorem completionConflicts_eq_false {row : CompletionRow} :
    completionConflicts row kind sourceHash = false ↔ (row.kind, row.sourceHash) = (kind, some sourceHash) := by
  simp [completionConflicts]

theorem explicitKeyConflicts_eq_false :
    explicitKeyConflicts db message.id message.kind message.sourceHash = false ↔
      ∀ s, stored db message.id = some s → s = message.identity := by
  unfold explicitKeyConflicts stored
  cases db.pending.find? message.id with
  | some row => simp [pendingConflicts_eq_false, NewMessage.identity]
  | none =>
    cases db.completions.find? message.id with
    | none => simp
    | some row => simp [completionConflicts_eq_false, NewMessage.identity]

theorem stored_eq_none_iff : stored db id = none ↔ ¬ Known db id := by
  rw [known_iff, not_not]
  unfold stored QueueDb.entry
  cases db.pending.find? id with
  | some row => simp
  | none => simp

inductive Stores (message : NewMessage) (db db' : QueueDb) : Prop where
  | same (hPending : db'.pending = db.pending) (hCompletions : db'.completions = db.completions)
  | first (hUnknown : ¬ Known db message.id) (hPending : db'.pending = db.pending.insertOrIgnore message.row)
      (hCompletions : db'.completions = db.completions)

theorem stored_congr (hPending : db'.pending = db.pending)
    (hCompletions : db'.completions = db.completions) (id : String) : stored db' id = stored db id := by
  rw [stored, stored, hPending, hCompletions]

theorem find?_insertOrIgnore_row (hUnknown : ¬ Known db message.id)
    (hPending : db'.pending = db.pending.insertOrIgnore message.row) (id : String) :
    db'.pending.find? id = if message.id = id then some message.row else db.pending.find? id := by
  have hNone : db.pending.find? message.id = none := by
    rw [known_iff, not_not] at hUnknown
    exact congrArg Prod.fst hUnknown
  rw [hPending, Table.find?_insertOrIgnore, show message.row.id = message.id from rfl]
  by_cases hId : message.id = id
  · subst hId
    rw [if_pos rfl, if_pos rfl, hNone]
    rfl
  · rw [if_neg hId, if_neg hId]

theorem stored_first (hUnknown : ¬ Known db message.id)
    (hPending : db'.pending = db.pending.insertOrIgnore message.row)
    (hCompletions : db'.completions = db.completions) (id : String) :
    stored db' id = if message.id = id then some message.identity else stored db id := by
  rw [stored, find?_insertOrIgnore_row hUnknown hPending, hCompletions]
  by_cases hId : message.id = id
  · rw [if_pos hId, if_pos hId]
    rfl
  · rw [if_neg hId, if_neg hId, stored]

variable {s : String × Option String} {env : Env} {schedule : List (Env × QueueStep)}

theorem Stores.stored_of_some (h : Stores message db db')
    (hStored : stored db id = some s) : stored db' id = some s := by
  cases h with
  | same hPending hCompletions => rw [stored_congr hPending hCompletions, hStored]
  | first hUnknown hPending hCompletions =>
    rw [stored_first hUnknown hPending hCompletions, if_neg, hStored]
    rintro rfl
    rw [stored_eq_none_iff.mpr hUnknown] at hStored
    cases hStored

theorem insertUnlessKnown_stores (message : NewMessage) (db : QueueDb) :
    Stores message db (insertUnlessKnown message db) := by
  by_cases hKnown : Known db message.id
  · rw [insertUnlessKnown_of_known hKnown]
    exact .same rfl rfl
  · rw [insertUnlessKnown_of_unknown hKnown]
    exact .first hKnown rfl rfl

theorem insertWithinBudget_stores {config : QueueConfig} (hUnknown : ¬ Known db message.id) :
    Stores message db (insertWithinBudget config message db).1 := by
  unfold insertWithinBudget
  split
  · exact .same rfl rfl
  · split
    · exact .same rfl rfl
    · unfold insertAlone insertNew
      split
      · exact .same rfl rfl
      · exact .first hUnknown rfl rfl

theorem stored_of_known (h : Stores message db db')
    (hAgrees : ∀ s, stored db message.id = some s → s = message.identity) (hKnown : Known db' message.id) :
    stored db' message.id = some message.identity := by
  cases h with
  | same hPending hCompletions =>
    cases hStored : stored db message.id with
    | none =>
      rw [← stored_congr hPending hCompletions] at hStored
      exact absurd hKnown (stored_eq_none_iff.mp hStored)
    | some s => rw [stored_congr hPending hCompletions, hStored, hAgrees s hStored]
  | first hUnknown hPending hCompletions => rw [stored_first hUnknown hPending hCompletions, if_pos rfl]

section Hash
variable (blake3 : List UInt8 → String) (config : QueueConfig)

def QueueOp.keyMessage (env : Env) : QueueOp → Option NewMessage
  | .enqueue (.explicitKey key) kind payload => some (newMessage blake3 env (.explicitKey key) kind payload)
  | .enqueueKeyFenced _ kind payload key _ => some (newMessage blake3 env (.explicitKey key) kind payload)
  | _ => none

def Call.keyMessage : Call → Option NewMessage
  | .keyCompletions call => some (call.message blake3)
  | .keyInsert call => some (call.message blake3)
  | .claimProbe _ => none
  | .claimTx _ _ => none

/-- The message of the explicit-key call that a step begins or continues. -/
def keyMessage (state : QueueState) : Env × QueueStep → Option NewMessage
  | (env, .call slot op) => if (state.calls slot).isSome then none else op.keyMessage blake3 env
  | (_, .resume slot) => (state.calls slot).bind (Call.keyMessage blake3)
  | (_, .abandon _) => none

def IsKeyStep : QueueStep → Prop
  | .call _ (.enqueue (.explicitKey _) _ _) => True
  | .call _ (.enqueueKeyFenced _ _ _ _ _) => True
  | .call _ _ => False
  | .resume _ => True
  | .abandon _ => True

/-- The step runs the `INSERT` of its call, alone or in the transaction that also checks for a conflict. -/
def RunsInsert (state : QueueState) : QueueStep → Prop
  | .call _ (.enqueue _ kind _) => kind = ingestAsyncKind
  | .call _ (.enqueueKeyFenced lease kind _ _ _) => lease.isSome = true ∨ kind = ingestAsyncKind
  | .call _ _ => False
  | .resume slot => ∃ call, state.calls slot = some (.keyInsert call)
  | .abandon _ => False

/-- No other call waits for the id with another kind or payload when its first row is about to be stored. -/
def Unopposed (state : QueueState) (a : Env × QueueStep) : Prop :=
  ∀ message, keyMessage blake3 state a = some message → RunsInsert state a.2 → ¬ Known state.db message.id →
    ∀ slot call other, slot ≠ a.2.slot → state.calls slot = some call → call.keyMessage blake3 = some other →
      other.id = message.id → other.identity = message.identity

def Checked (db : QueueDb) : Call → Prop
  | .keyCompletions call => ∀ row, db.pending.find? (call.message blake3).id = some row →
      (row.kind, some row.sourceHash) = (call.message blake3).identity
  | .keyInsert call => ∀ s, stored db (call.message blake3).id = some s → s = (call.message blake3).identity
  | .claimProbe _ => False
  | .claimTx _ _ => False

def AllChecked (state : QueueState) : Prop := ∀ slot call, state.calls slot = some call → Checked blake3 state.db call

theorem Checked.congr (h : Checked blake3 db call)
    (hPending : db'.pending = db.pending) (hCompletions : db'.completions = db.completions) :
    Checked blake3 db' call := by
  cases call with
  | keyCompletions call =>
    intro row hRow
    rw [hPending] at hRow
    exact h row hRow
  | keyInsert call =>
    intro s hStored
    rw [stored_congr hPending hCompletions] at hStored
    exact h s hStored
  | claimProbe | claimTx => exact h

theorem Checked.stores (h : Checked blake3 db call) (hStores : Stores message db db')
    (hAgrees : ¬ Known db message.id → ∀ other, call.keyMessage blake3 = some other → other.id = message.id →
      other.identity = message.identity) : Checked blake3 db' call := by
  cases hStores with
  | same hPending hCompletions => exact h.congr blake3 hPending hCompletions
  | first hUnknown hPending hCompletions =>
    cases call with
    | keyCompletions call =>
      intro row hRow
      rw [find?_insertOrIgnore_row hUnknown hPending] at hRow
      split at hRow
      · rename_i hId
        cases hRow
        exact (hAgrees hUnknown _ rfl hId.symm).symm
      · exact h row hRow
    | keyInsert call =>
      intro s hStored
      rw [stored_first hUnknown hPending hCompletions] at hStored
      split at hStored
      · rename_i hId
        cases hStored
        exact (hAgrees hUnknown _ rfl hId.symm).symm
      · exact h s hStored
    | claimProbe | claimTx => exact h

/-- What one step of an explicit-key call gives: the tables store at most the message, only by its `INSERT`; a
returned id is stored as the caller's; a returned conflict or fence error is all that a differing row allows;
and a call that goes on has checked what it has read. -/
structure KeyOutcome (inserts : Prop) (fence : Option QueueError) (message : NewMessage) (db : QueueDb)
    (result : QueueDb × Progress) : Prop where
  stores : Stores message db result.1
  idle : ¬ inserts → result.1.pending = db.pending ∧ result.1.completions = db.completions
  returns : ∀ id, result.2 = .returned (.ok (.enqueued id)) →
    id = message.id ∧ stored result.1 message.id = some message.identity
  refuses : ∀ s, stored db message.id = some s → s ≠ message.identity → ∀ r, result.2 = .returned r →
    r = .error .idempotencyConflict ∨ ∃ e, fence = some e ∧ r = .error e
  waits : ∀ call, result.2 = .waits call → Checked blake3 result.1 call ∧ call.keyMessage blake3 = some message

variable {blake3 config} {inserts : Prop}

theorem keyOutcome_conflict :
    KeyOutcome blake3 inserts fence message db (db, .returned (.error .idempotencyConflict)) where
  stores := .same rfl rfl
  idle _ := ⟨rfl, rfl⟩
  returns id h := by cases h
  refuses s _ _ r h := by
    cases h
    exact Or.inl rfl
  waits call h := by cases h

theorem keyOutcome_fence {e : QueueError} :
    KeyOutcome blake3 inserts (some e) message db (db, .returned (.error e)) where
  stores := .same rfl rfl
  idle _ := ⟨rfl, rfl⟩
  returns id h := by cases h
  refuses s _ _ r h := by
    cases h
    exact Or.inr ⟨e, rfl, rfl⟩
  waits call h := by cases h

theorem keyOutcome_waits (hChecked : Checked blake3 db call) (hMessage : call.keyMessage blake3 = some message) :
    KeyOutcome blake3 inserts fence message db (db, .waits call) where
  stores := .same rfl rfl
  idle _ := ⟨rfl, rfl⟩
  returns id h := by cases h
  refuses s _ _ r h := by cases h
  waits call' h := by
    cases h
    exact ⟨hChecked, hMessage⟩

theorem keyOutcome_insert
    (result : Except QueueError String) (hInserts : inserts) (hStores : Stores message db db')
    (hAgrees : ∀ s, stored db message.id = some s → s = message.identity)
    (hId : ∀ id, result = .ok id → id = message.id ∧ Known db' message.id) :
    KeyOutcome blake3 inserts fence message db (db', .returned (result.map .enqueued)) where
  stores := hStores
  idle h := absurd hInserts h
  returns id h := by
    cases result with
    | error e => cases h
    | ok id' =>
      cases h
      exact ⟨(hId id rfl).1, stored_of_known hStores hAgrees (hId id rfl).2⟩
  refuses s hStored hNe r h := absurd (hAgrees s hStored) hNe
  waits call h := by cases h

theorem insertAlone_id (h : (insertAlone message db).2 = .ok id) : id = message.id := by
  unfold insertAlone insertNew at h
  split at h <;> cases h
  rfl

theorem insertWithinBudget_id (h : (insertWithinBudget config message db).2 = .ok id) : id = message.id := by
  unfold insertWithinBudget at h
  split at h
  · cases h
  · split at h
    · cases h
    · exact insertAlone_id h

theorem enqueueIngest_keyOutcome (hInserts : inserts) (hKind : message.kind = ingestAsyncKind) :
    KeyOutcome blake3 inserts fence message db
      (returned .enqueued (enqueueIngestWithByteBudget config (.explicitKey key) message db)) := by
  unfold enqueueIngestWithByteBudget
  split
  · exact keyOutcome_conflict
  · rename_i hConflict
    have hAgrees : ∀ s, stored db message.id = some s → s = message.identity := by
      rw [← explicitKeyConflicts_eq_false, hKind]
      simpa [EnqueueIdentity.isExplicit] using hConflict
    split
    · rename_i hExists
      refine keyOutcome_insert _ hInserts (.same rfl rfl) hAgrees fun id hId => ?_
      cases hId
      exact ⟨rfl, (Bool.and_eq_true_iff.mp hExists).2⟩
    · rename_i hExists
      have hUnknown : ¬ Known db message.id := by simpa [Known] using hExists
      refine keyOutcome_insert _ hInserts (insertWithinBudget_stores hUnknown) hAgrees fun id hId => ?_
      have hSame := insertWithinBudget_id hId
      exact ⟨hSame, hSame ▸ known_insertWithinBudget hId⟩

theorem beginKeyCall_keyOutcome (call : KeyCall) (db : QueueDb) :
    KeyOutcome blake3 inserts fence (call.message blake3) db (beginKeyCall blake3 call db) := by
  simp only [beginKeyCall]
  split
  · rename_i hNone
    refine keyOutcome_waits (fun row hRow => ?_) rfl
    rw [hNone] at hRow
    cases hRow
  · rename_i row hRow
    split
    · exact keyOutcome_conflict
    · rename_i hAgrees
      refine keyOutcome_waits (fun s hStored => ?_) rfl
      simp only [stored, hRow, Option.some.injEq] at hStored
      rw [← hStored]
      exact pendingConflicts_eq_false.mp (by simpa using hAgrees)

theorem beginEnqueue_keyOutcome (hInserts : kind = ingestAsyncKind → inserts) :
    KeyOutcome blake3 inserts fence (newMessage blake3 env (.explicitKey key) kind payload) db
      (beginEnqueue blake3 config env (.explicitKey key) kind payload db) := by
  simp only [beginEnqueue]
  split
  · rename_i hKind
    exact enqueueIngest_keyOutcome (hInserts hKind) hKind
  · exact beginKeyCall_keyOutcome ⟨kind, payload, key, env.nowSecs⟩ db

theorem begin_keyOutcome {op : QueueOp} {slot : Nat} (hMessage : op.keyMessage blake3 env = some message) :
    KeyOutcome blake3 (RunsInsert state (.call slot op)) (fenceError env (.call slot op)) message db
      (begin blake3 config env op db) := by
  cases op with
  | enqueue identity kind payload =>
    cases identity with
    | explicitKey key =>
      cases hMessage
      exact beginEnqueue_keyOutcome fun hKind => hKind
    | _ => cases hMessage
  | enqueueKeyFenced lease kind payload key operation =>
    cases hMessage
    cases lease with
    | none => exact beginEnqueue_keyOutcome fun hKind => Or.inr hKind
    | some lease =>
      cases hFence : requireRuntimeWriterLease env lease operation with
      | error e =>
        simp only [begin, fenceError, enqueueIdempotentWithKeyFailFastFenced, hFence]
        exact keyOutcome_fence
      | ok u =>
        simp only [begin, fenceError, enqueueIdempotentWithKeyFailFastFenced, hFence]
        split
        · exact keyOutcome_conflict
        · rename_i hAgrees
          refine keyOutcome_insert _ (Or.inl rfl) (insertUnlessKnown_stores _ db) ?_ fun id hId => ?_
          · exact explicitKeyConflicts_eq_false.mp (by simpa using hAgrees)
          · cases hId
            exact ⟨rfl, known_insertUnlessKnown _ db⟩
  | _ => cases hMessage

theorem resume_keyOutcome (hMessage : call.keyMessage blake3 = some message)
    (hChecked : Checked blake3 db call) (hInserts : ∀ keyCall, call = .keyInsert keyCall → inserts) :
    KeyOutcome blake3 inserts fence message db (resume blake3 env call db) := by
  cases call with
  | keyCompletions call =>
    cases hMessage
    simp only [resume]
    split
    · exact keyOutcome_conflict
    · rename_i hAgrees
      refine keyOutcome_waits (fun s hStored => ?_) rfl
      unfold stored at hStored
      split at hStored
      · rename_i row hRow
        cases hStored
        exact hChecked row hRow
      · rw [Option.map_eq_some_iff] at hStored
        obtain ⟨row, hRow, rfl⟩ := hStored
        rw [hRow] at hAgrees
        exact completionConflicts_eq_false.mp (by simpa using hAgrees)
  | keyInsert call =>
    cases hMessage
    refine keyOutcome_insert (.ok _) (hInserts call rfl) (insertUnlessKnown_stores _ db) hChecked
      fun id hId => ?_
    cases hId
    exact ⟨rfl, known_insertUnlessKnown _ db⟩
  | claimProbe | claimTx => cases hMessage

section
variable (hChecked : AllChecked blake3 state)
include hChecked

theorem step_keyOutcome (hMessage : keyMessage blake3 state a = some message) :
    ∃ result, (queueMachine blake3 config).step state a = settle state a.2.slot result ∧
      KeyOutcome blake3 (RunsInsert state a.2) (fenceError a.1 a.2) message state.db result := by
  obtain ⟨env, what⟩ := a
  cases what with
  | call slot op =>
    simp only [keyMessage] at hMessage
    cases hSlot : state.calls slot with
    | some call => simp [hSlot] at hMessage
    | none =>
      simp only [hSlot, Option.isSome_none, Bool.false_eq_true, if_false] at hMessage
      refine ⟨begin blake3 config env op state.db, ?_, begin_keyOutcome hMessage⟩
      simp only [queueMachine, step, hSlot, QueueStep.slot]
  | resume slot =>
    simp only [keyMessage, Option.bind_eq_some_iff] at hMessage
    obtain ⟨call, hSlot, hMessage⟩ := hMessage
    refine ⟨resume blake3 env call state.db, ?_, resume_keyOutcome hMessage (hChecked slot call hSlot) ?_⟩
    · simp only [queueMachine, step, hSlot, QueueStep.slot]
    · rintro keyCall rfl
      exact ⟨keyCall, hSlot⟩
  | abandon slot => cases hMessage

theorem step_idle (hKey : IsKeyStep a.2) (hNone : keyMessage blake3 state a = none) :
    ((queueMachine blake3 config).next state a).db = state.db ∧
      ∀ slot call, ((queueMachine blake3 config).next state a).calls slot = some call →
        state.calls slot = some call := by
  obtain ⟨env, what⟩ := a
  cases what with
  | call slot op =>
    simp only [keyMessage] at hNone
    cases hSlot : state.calls slot with
    | some call => simp [Machine.next, queueMachine, step, hSlot]
    | none =>
      simp only [hSlot, Option.isSome_none, Bool.false_eq_true, if_false] at hNone
      unfold IsKeyStep at hKey
      unfold QueueOp.keyMessage at hNone
      split at hNone <;> simp_all
  | resume slot =>
    simp only [keyMessage] at hNone
    cases hSlot : state.calls slot with
    | none => simp [Machine.next, queueMachine, step, hSlot]
    | some call =>
      have hCall := hChecked slot call hSlot
      rw [hSlot, Option.bind_some] at hNone
      cases call with
      | keyCompletions | keyInsert => cases hNone
      | claimProbe | claimTx => exact hCall.elim
  | abandon slot =>
    refine ⟨rfl, fun other call hCall => ?_⟩
    simp only [Machine.next, queueMachine, step, setCall] at hCall
    split at hCall
    · cases hCall
    · exact hCall

theorem next_checked (hKey : IsKeyStep a.2) (hUnopposed : Unopposed blake3 state a) :
    AllChecked blake3 ((queueMachine blake3 config).next state a) := by
  cases hMessage : keyMessage blake3 state a with
  | none =>
    obtain ⟨hDb, hCalls⟩ := step_idle hChecked hKey hMessage
    intro slot call hCall
    rw [hDb]
    exact hChecked slot call (hCalls slot call hCall)
  | some message =>
    obtain ⟨⟨db, progress⟩, hStep, hOutcome⟩ := step_keyOutcome hChecked hMessage
    have hOther : ∀ slot call, slot ≠ a.2.slot → state.calls slot = some call → Checked blake3 db call := by
      intro slot call hSlot hCall
      by_cases hInserts : RunsInsert state a.2
      · exact (hChecked slot call hCall).stores blake3 hOutcome.stores fun hUnknown other =>
          hUnopposed message hMessage hInserts hUnknown slot call other hSlot hCall
      · obtain ⟨hPending, hCompletions⟩ := hOutcome.idle hInserts
        exact (hChecked slot call hCall).congr blake3 hPending hCompletions
    intro slot call hCall
    rw [Machine.next, hStep] at hCall ⊢
    rw [settle_db]
    rcases settle_calls hCall with ⟨_, hNew⟩ | ⟨hSlot, hOld⟩
    · exact (hOutcome.waits call hNew).1
    · exact hOther slot call hSlot hOld

theorem next_stores (hKey : IsKeyStep a.2) :
    ((queueMachine blake3 config).next state a).db = state.db ∨ ∃ message, keyMessage blake3 state a = some message ∧
      Stores message state.db ((queueMachine blake3 config).next state a).db := by
  cases hMessage : keyMessage blake3 state a with
  | none => exact .inl (step_idle hChecked hKey hMessage).1
  | some message =>
    obtain ⟨result, hStep, hOutcome⟩ := step_keyOutcome hChecked hMessage
    rw [Machine.next, hStep, settle_db]
    exact .inr ⟨message, rfl, hOutcome.stores⟩

theorem next_stored (hKey : IsKeyStep a.2) (h : stored state.db id = some s) :
    stored ((queueMachine blake3 config).next state a).db id = some s := by
  obtain hDb | ⟨_, _, hStores⟩ := next_stores hChecked hKey
  · rwa [hDb]
  · exact hStores.stored_of_some h

end

variable (blake3) in
/-- Every pending row carries the hash of its own kind and payload. -/
def Hashed (db : QueueDb) : Prop :=
  ∀ id row, db.pending.find? id = some row → row.sourceHash = hashSource blake3 row.kind row.payload

theorem keyMessage_hash (h : keyMessage blake3 state a = some message) :
    message.sourceHash = hashSource blake3 message.kind message.payload := by
  obtain ⟨env, what⟩ := a
  cases what with
  | call slot op =>
    simp only [keyMessage] at h
    split at h
    · cases h
    · unfold QueueOp.keyMessage at h
      split at h <;> cases h <;> rfl
  | resume slot =>
    simp only [keyMessage, Option.bind_eq_some_iff] at h
    obtain ⟨call, _, h⟩ := h
    unfold Call.keyMessage at h
    split at h <;> cases h <;> rfl
  | abandon slot => cases h

theorem Hashed.stores (h : Hashed blake3 db)
    (hStores : Stores message db db') (hHash : message.sourceHash = hashSource blake3 message.kind message.payload) :
    Hashed blake3 db' := by
  intro id row hRow
  cases hStores with
  | same hPending _ =>
    rw [hPending] at hRow
    exact h id row hRow
  | first hUnknown hPending _ =>
    rw [find?_insertOrIgnore_row hUnknown hPending] at hRow
    split at hRow
    · cases hRow
      exact hHash
    · exact h id row hRow

theorem next_hashed (hChecked : AllChecked blake3 state) (hKey : IsKeyStep a.2) (h : Hashed blake3 state.db) :
    Hashed blake3 ((queueMachine blake3 config).next state a).db := by
  obtain hDb | ⟨_, hMessage, hStores⟩ := next_stores hChecked hKey
  · rwa [hDb]
  · exact h.stores hStores (keyMessage_hash hMessage)

theorem utf8_injective : Function.Injective utf8 := by
  intro text text' h
  exact String.toByteArray_inj.mp (ByteArray.ext (Array.toList_inj.mp h))

theorem hashSource_payload {payload' : String} (hInjective : Function.Injective blake3)
    (h : hashSource blake3 kind payload = hashSource blake3 kind payload') : payload = payload' :=
  utf8_injective (List.append_cancel_left (hInjective h))

variable (blake3) in
/-- A step of a run in which clients only enqueue under explicit keys and none opposes another's first row. -/
def UnopposedKeyStep (state : QueueState) (a : Env × QueueStep) : Prop := IsKeyStep a.2 ∧ Unopposed blake3 state a

theorem run_checked (hRun : (queueMachine blake3 config).Along (UnopposedKeyStep blake3) (.start db) schedule) :
    AllChecked blake3 ((queueMachine blake3 config).final (.start db) schedule) :=
  Machine.invariant_along (fun _ _ hChecked hStep => next_checked hChecked hStep.1 hStep.2)
    (fun _ _ hCall => by cases hCall) hRun

theorem run_hashed (hRun : (queueMachine blake3 config).Along (UnopposedKeyStep blake3) (.start db) schedule)
    (hHashed : Hashed blake3 db) : Hashed blake3 ((queueMachine blake3 config).final (.start db) schedule).db :=
  (Machine.invariant_along
    (I := fun state : QueueState => AllChecked blake3 state ∧ Hashed blake3 state.db)
    (fun _ _ h hStep => ⟨next_checked h.1 hStep.1 hStep.2, next_hashed h.1 hStep.1 h.2⟩)
    ⟨fun _ _ hCall => (by cases hCall), hHashed⟩ hRun).2

theorem final_stored (hChecked : AllChecked blake3 state)
    (hRun : (queueMachine blake3 config).Along (UnopposedKeyStep blake3) state schedule)
    (h : stored state.db id = some s) :
    stored ((queueMachine blake3 config).final state schedule).db id = some s :=
  (Machine.invariant_along
    (I := fun state : QueueState => AllChecked blake3 state ∧ stored state.db id = some s)
    (fun _ _ h hStep => ⟨next_checked h.1 hStep.1 hStep.2, next_stored h.1 hStep.1 h.2⟩)
    ⟨hChecked, h⟩ hRun).2

variable (blake3 config) in
/-- In an unopposed run, an id that a call returns stands for the caller's kind and payload from then on, and a
call whose payload differs from the stored one ends in a conflict, or at the fence. -/
theorem explicitKey_faithful (db : QueueDb) (schedule past future : List (Env × QueueStep)) (a : Env × QueueStep)
    (message : NewMessage)
    (hRun : (queueMachine blake3 config).Along (UnopposedKeyStep blake3) (.start db) schedule)
    (hSplit : schedule = past ++ a :: future)
    (hMessage : keyMessage blake3 ((queueMachine blake3 config).final (.start db) past) a = some message) :
    (∀ id, (queueMachine blake3 config).output ((queueMachine blake3 config).final (.start db) past) a =
        .returned (.ok (.enqueued id)) →
      id = message.id ∧
      stored ((queueMachine blake3 config).final (.start db) schedule).db id = some message.identity ∧
      (Function.Injective blake3 → Hashed blake3 db →
        ∀ row, ((queueMachine blake3 config).final (.start db) schedule).db.pending.find? id = some row →
          row.payload = message.payload)) ∧
    (∀ s, stored ((queueMachine blake3 config).final (.start db) past).db message.id = some s →
      s ≠ message.identity → ∀ r,
      (queueMachine blake3 config).output ((queueMachine blake3 config).final (.start db) past) a = .returned r →
      r = .error .idempotencyConflict ∨ ∃ e, fenceError a.1 a.2 = some e ∧ r = .error e) := by
  subst hSplit
  obtain ⟨hPast, hKey, hFuture⟩ := (Machine.along_append _ _ _ _).mp hRun
  have hChecked := run_checked hPast
  obtain ⟨result, hStep, hOutcome⟩ := step_keyOutcome hChecked hMessage
  have hOutput : ∀ r, (queueMachine blake3 config).output ((queueMachine blake3 config).final (.start db) past) a =
      .returned r → result.2 = .returned r := by
    intro r h
    rw [Machine.output, hStep] at h
    exact settle_returned h
  constructor
  · intro id hReturned
    obtain ⟨rfl, hStored⟩ := hOutcome.returns id (hOutput _ hReturned)
    have hNext : stored ((queueMachine blake3 config).next
        ((queueMachine blake3 config).final (.start db) past) a).db message.id = some message.identity := by
      rw [Machine.next, hStep, settle_db]
      exact hStored
    have hFinal := final_stored (next_checked hChecked hKey.1 hKey.2) hFuture hNext
    rw [← Machine.final_cons, ← Machine.final_append] at hFinal
    refine ⟨rfl, hFinal, fun hInjective hHashed row hRow => ?_⟩
    have hHash := run_hashed hRun hHashed _ row hRow
    simp only [stored, hRow, Option.some.injEq, NewMessage.identity, Prod.mk.injEq] at hFinal
    rw [hFinal.1, hFinal.2, keyMessage_hash hMessage] at hHash
    exact (hashSource_payload hInjective hHash).symm
  · intro s hStored hNe r hReturned
    exact hOutcome.refuses s hStored hNe r (hOutput r hReturned)

end Hash

/-- A hash that tells payloads of different lengths apart. -/
def lengthHash (bytes : List UInt8) : String := Nat.repr bytes.length

/-- Two clients look for one key with one payload, both store it, and the second one comes back with another. -/
def sharedKey : List (Env × QueueStep) :=
  let enqueue (payload : String) : QueueOp := .enqueue (.explicitKey "key") "note" payload
  [(quietEnv 0, .call 0 (enqueue "first payload")), (quietEnv 1, .call 1 (enqueue "first payload")),
    (quietEnv 2, .resume 0), (quietEnv 3, .resume 1), (quietEnv 4, .resume 0), (quietEnv 5, .resume 1),
    (quietEnv 6, .call 1 (enqueue "second"))]

theorem sharedKey_unopposed :
    (queueMachine lengthHash .default).Along (UnopposedKeyStep lengthHash) (.start .empty) sharedKey := by
  have hNote : ¬ "note" = ingestAsyncKind := by decide
  refine ⟨⟨trivial, fun _ _ hInsert => absurd hInsert hNote⟩, ⟨trivial, fun _ _ hInsert => absurd hInsert hNote⟩,
    ⟨trivial, fun _ _ hInsert => ?_⟩, ⟨trivial, fun _ _ hInsert => ?_⟩, ⟨trivial, ?_⟩, ⟨trivial, ?_⟩,
    ⟨trivial, fun _ _ hInsert => absurd hInsert hNote⟩, trivial⟩
  · obtain ⟨_, hCall⟩ := hInsert
    cases hCall
  · obtain ⟨_, hCall⟩ := hInsert
    cases hCall
  · -- the other client waits with the same payload
    rintro message hMessage _ _ slot call other hSlot hCall hOther _
    cases hMessage
    match slot with
    | 0 => exact absurd rfl hSlot
    | 1 =>
      cases hCall
      cases hOther
      rfl
    | _ + 2 => cases hCall
  · rintro message hMessage _ hUnknown
    cases hMessage
    exact hUnknown.elim rfl

def afterSharedKey (steps : Nat) : QueueState :=
  (queueMachine lengthHash .default).final (.start .empty) (sharedKey.take steps)

/-- Both are told that the message is queued and the row holds their payload; the other payload is refused. -/
theorem sharedKey_faithful :
    (queueMachine lengthHash .default).output (afterSharedKey 4) (quietEnv 4, .resume 0) =
        .returned (.ok (.enqueued "msg-dedup-40")) ∧
      (queueMachine lengthHash .default).output (afterSharedKey 5) (quietEnv 5, .resume 1) =
        .returned (.ok (.enqueued "msg-dedup-40")) ∧
      stored (afterSharedKey 7).db "msg-dedup-40" = some ("note", some "18") ∧
      (queueMachine lengthHash .default).output (afterSharedKey 6)
          (quietEnv 6, .call 1 (.enqueue (.explicitKey "key") "note" "second")) =
        .returned (.error .idempotencyConflict) := by
  have hFirst := explicitKey_faithful lengthHash .default .empty sharedKey (sharedKey.take 4) (sharedKey.drop 5)
    (quietEnv 4, .resume 0) _ sharedKey_unopposed rfl rfl
  have hOther := explicitKey_faithful lengthHash .default .empty sharedKey (sharedKey.take 6) []
    (quietEnv 6, .call 1 (.enqueue (.explicitKey "key") "note" "second")) _ sharedKey_unopposed rfl rfl
  refine ⟨by decide, by decide, (hFirst.1 "msg-dedup-40" (by decide)).2.1, ?_⟩
  rcases hOther.2 ("note", some "18") (by decide) (by decide) _ rfl with hConflict | ⟨_, hFence, _⟩
  · exact congrArg _ hConflict
  · cases hFence

/-- Two clients look for the key before either has stored a row; the second one stores its payload first. -/
def racedKey : List (Env × QueueStep) :=
  [(quietEnv 0, .call 0 (.enqueue (.explicitKey "key") "note" "first payload")),
    (quietEnv 1, .resume 0),
    (quietEnv 2, .call 1 (.enqueue (.explicitKey "key") "note" "second")),
    (quietEnv 3, .resume 1),
    (quietEnv 4, .resume 1)]

/-- The first client is told that its message is queued, and the row holds the other payload. -/
theorem racedKey_hides_payload :
    (keyMessage lengthHash ((queueMachine lengthHash .default).final (.start .empty) racedKey)
      (quietEnv 5, .resume 0)).map (fun message => (message.id, message.identity)) =
        some ("msg-dedup-40", "note", some "18") ∧
    (queueMachine lengthHash .default).output
      ((queueMachine lengthHash .default).final (.start .empty) racedKey) (quietEnv 5, .resume 0) =
        .returned (.ok (.enqueued "msg-dedup-40")) ∧
    stored ((queueMachine lengthHash .default).final (.start .empty) (racedKey ++ [(quietEnv 5, .resume 0)])).db
      "msg-dedup-40" = some ("note", some "11") := by
  decide

end Mempal.Queue

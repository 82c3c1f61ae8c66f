import Mempal.Queue.Lifecycle

set_option autoImplicit false

/-! An id that an enqueue call returns is in one of the tables. A call whose derived id is already there inserts
nothing, and gives the id back or reports a conflict. -/

namespace Mempal.Queue

open Foundation

def Known (db : QueueDb) (id : String) : Prop := queueMessageIdentityExists db id = true

variable {db : QueueDb} {id : String} {message : NewMessage} {identity : EnqueueIdentity} {env : Env}
  {state : QueueState}

theorem known_iff : Known db id ↔ db.entry id ≠ (none, none) := by
  simp only [Known, queueMessageIdentityExists, QueueDb.entry, Table.contains, Bool.or_eq_true, ne_eq,
    Prod.mk.injEq, not_and_or, Option.isSome_iff_ne_none]

theorem known_of_pending (h : db.pending.contains id = true) : Known db id := by
  simp [Known, queueMessageIdentityExists, h]

theorem known_inserted (message : NewMessage) (db : QueueDb) :
    Known { db with pending := db.pending.insertOrIgnore message.row } message.id := by
  apply known_of_pending
  rw [Table.contains, Table.find?_insertOrIgnore, if_pos (show message.row.id = message.id from rfl)]
  rfl

theorem known_insertUnlessKnown (message : NewMessage) (db : QueueDb) :
    Known (insertUnlessKnown message db) message.id := by
  unfold insertUnlessKnown
  split
  · rename_i hKnown
    simp [Known, queueMessageIdentityExists, hKnown]
  · exact known_inserted message db

theorem known_insertAlone (h : (insertAlone message db).2 = .ok id) : Known (insertAlone message db).1 id := by
  unfold insertAlone insertNew at *
  split at h
  · cases h
  · rename_i hNew
    cases h
    simp only [hNew]
    exact known_inserted message db

theorem known_insertWithinBudget {config : QueueConfig} (h : (insertWithinBudget config message db).2 = .ok id) :
    Known (insertWithinBudget config message db).1 id := by
  unfold insertWithinBudget at *
  split at h
  · cases h
  · split at h
    · cases h
    · rename_i hFits
      simp only [hFits]
      exact known_insertAlone h

theorem known_enqueueIngest {config : QueueConfig}
    (h : (enqueueIngestWithByteBudget config identity message db).2 = .ok id) :
    Known (enqueueIngestWithByteBudget config identity message db).1 id := by
  unfold enqueueIngestWithByteBudget at *
  split at h
  · cases h
  · split at h
    · rename_i hConflict hExists
      cases h
      rw [if_neg hConflict, if_pos hExists]
      exact (Bool.and_eq_true_iff.mp hExists).2
    · rename_i hConflict hExists
      rw [if_neg hConflict, if_neg hExists]
      exact known_insertWithinBudget h

theorem returned_eq {α : Type} {reply : α → Reply} {r : Reply} {result : QueueDb × Except QueueError α}
    (h : (returned reply result).2 = .returned (.ok r)) : ∃ x, result.2 = .ok x ∧ reply x = r := by
  obtain ⟨db, result⟩ := result
  cases result with
  | error e => cases h
  | ok x =>
    cases h
    exact ⟨x, rfl, rfl⟩

section Hash
variable (blake3 : List UInt8 → String) (config : QueueConfig)

theorem known_beginEnqueue {kind payload : String}
    (h : (beginEnqueue blake3 config env identity kind payload db).2 = .returned (.ok (.enqueued id))) :
    Known (beginEnqueue blake3 config env identity kind payload db).1 id := by
  simp only [beginEnqueue] at *
  split at h
  · rename_i hKind
    obtain ⟨x, hResult, hReply⟩ := returned_eq h
    cases hReply
    rw [if_pos hKind]
    exact known_enqueueIngest hResult
  · rename_i hKind
    simp only [hKind, if_false]
    cases identity with
    | fresh =>
      obtain ⟨x, hResult, hReply⟩ := returned_eq h
      cases hReply
      exact known_insertAlone hResult
    | sourceHash =>
      cases h
      exact known_insertUnlessKnown _ db
    | explicitKey key =>
      simp only [beginKeyCall] at h
      split at h
      · cases h
      · split at h <;> cases h

variable {op : QueueOp} {r : Except QueueError Reply} {result : QueueDb × Progress} {a : Env × QueueStep}
  {fence : Option QueueError}

theorem known_begin (h : (begin blake3 config env op db).2 = .returned (.ok (.enqueued id))) :
    Known (begin blake3 config env op db).1 id := by
  cases op with
  | enqueue identity kind payload => exact known_beginEnqueue blake3 config h
  | enqueueFenced lease kind payload operation =>
    cases lease with
    | none => exact known_beginEnqueue blake3 config h
    | some lease =>
      obtain ⟨x, hResult, hReply⟩ := returned_eq h
      cases hReply
      simp only [begin, returned, enqueueFenced] at *
      split at hResult
      · cases hResult
      · split at hResult
        · rename_i hKind
          simp only [hKind, if_true]
          exact known_insertWithinBudget hResult
        · rename_i hKind
          simp only [hKind, if_false]
          exact known_insertAlone hResult
  | enqueueKeyFenced lease kind payload key operation =>
    cases lease with
    | none => exact known_beginEnqueue blake3 config h
    | some lease =>
      obtain ⟨x, hResult, hReply⟩ := returned_eq h
      cases hReply
      simp only [begin, returned, enqueueIdempotentWithKeyFailFastFenced] at *
      split at hResult
      · cases hResult
      · split at hResult
        · cases hResult
        · rename_i hNew
          cases hResult
          simp only [hNew]
          exact known_insertUnlessKnown _ db
  | claim request =>
    simp only [begin, beginClaim] at h
    split at h
    · cases h
    · cases h
    · split at h <;> cases h
  | reclaimStale | requeueWriterLeaseFailures => cases h
  | _ =>
    obtain ⟨x, _, hReply⟩ := returned_eq h
    cases hReply

theorem known_resume {call : Call} (h : (resume blake3 env call db).2 = .returned (.ok (.enqueued id))) :
    Known (resume blake3 env call db).1 id := by
  cases call with
  | keyCompletions | claimProbe =>
    simp only [resume] at h
    split at h <;> cases h
  | keyInsert call =>
    cases h
    exact known_insertUnlessKnown _ db
  | claimTx request staleCutoff =>
    obtain ⟨x, _, hReply⟩ := returned_eq h
    cases hReply

theorem settle_returned {slot : Nat} (h : (settle state slot result).2 = .returned r) : result.2 = .returned r := by
  obtain ⟨db, progress⟩ := result
  cases progress with
  | waits next => cases h
  | returned r' =>
    cases h
    rfl

theorem settle_of_returned {slot : Nat} (h : result.2 = .returned r) : (settle state slot result).2 = .returned r := by
  obtain ⟨db, progress⟩ := result
  cases h
  rfl

theorem known_of_enqueued (h : (queueMachine blake3 config).output state a = .returned (.ok (.enqueued id))) :
    Known ((queueMachine blake3 config).next state a).db id := by
  obtain ⟨env, what⟩ := a
  cases what with
  | call slot op =>
    simp only [Machine.next, Machine.output, queueMachine, step] at *
    split at h
    · cases h
    · rw [settle_db]
      exact known_begin blake3 config (settle_returned h)
  | resume slot =>
    simp only [Machine.next, Machine.output, queueMachine, step] at *
    split at h
    · cases h
    · rw [settle_db]
      exact known_resume blake3 (settle_returned h)
  | abandon slot => cases h

def Call.derivedId : Call → Option String
  | .keyCompletions call => some (call.message blake3).id
  | .keyInsert call => some (call.message blake3).id
  | .claimProbe _ => none
  | .claimTx _ _ => none

def QueueOp.derivedId : QueueOp → Option String
  | .enqueue .sourceHash kind payload => some (idempotentSourceMessageId (hashSource blake3 kind payload))
  | .enqueue (.explicitKey idempotencyKey) kind _ => some (idempotentKeyMessageId blake3 kind idempotencyKey)
  | .enqueueKeyFenced _ kind _ idempotencyKey _ => some (idempotentKeyMessageId blake3 kind idempotencyKey)
  | _ => none

/-- The derived id of the enqueue call that a step begins or continues. -/
def enqueuesUnder (state : QueueState) : QueueStep → Option String
  | .call slot op => if (state.calls slot).isSome then none else op.derivedId blake3
  | .resume slot => (state.calls slot).bind (Call.derivedId blake3)
  | .abandon _ => none

/-- The error with which the writer lease fence stops a fenced enqueue. -/
def fenceError (env : Env) : QueueStep → Option QueueError
  | .call _ (.enqueueKeyFenced (some lease) _ _ _ operation) =>
    match requireRuntimeWriterLease env lease operation with
    | .error e => some e
    | .ok () => none
  | _ => none

def Echoes (fence : Option QueueError) (id : String) : Progress → Prop
  | .returned (.ok reply) => reply = .enqueued id
  | .returned (.error e) => e = .idempotencyConflict ∨ fence = some e
  | .waits call => call.derivedId blake3 = some id

theorem insertUnlessKnown_of_known (h : Known db message.id) : insertUnlessKnown message db = db := by
  unfold insertUnlessKnown
  split
  · rfl
  · rename_i hNot
    have hPending : db.pending.contains message.id = true := by
      simpa [Known, queueMessageIdentityExists, hNot] using h
    obtain ⟨row, hRow⟩ := Option.isSome_iff_exists.mp hPending
    rw [Table.insertOrIgnore_of_taken (r := message.row) hRow]

theorem insertUnlessKnown_of_unknown (h : ¬ Known db message.id) :
    insertUnlessKnown message db = { db with pending := db.pending.insertOrIgnore message.row } := by
  rw [insertUnlessKnown, if_neg]
  intro hCompleted
  exact h (by simp [Known, queueMessageIdentityExists, hCompleted])

theorem enqueueIngest_known (hDerived : identity ≠ .fresh) (h : Known db message.id) :
    (returned .enqueued (enqueueIngestWithByteBudget config identity message db)).1 = db ∧
      Echoes blake3 fence message.id
        (returned .enqueued (enqueueIngestWithByteBudget config identity message db)).2 := by
  have hExists : (identity != .fresh && queueMessageIdentityExists db message.id) = true := by
    simp [hDerived, show queueMessageIdentityExists db message.id = true from h]
  simp only [enqueueIngestWithByteBudget, hExists, if_true]
  split
  · exact ⟨rfl, Or.inl rfl⟩
  · exact ⟨rfl, rfl⟩

theorem beginEnqueue_known {kind payload : String}
    (hDerived : (QueueOp.enqueue identity kind payload).derivedId blake3 = some id) (h : Known db id) :
    (beginEnqueue blake3 config env identity kind payload db).1 = db ∧
      Echoes blake3 fence id (beginEnqueue blake3 config env identity kind payload db).2 := by
  simp only [beginEnqueue]
  cases identity with
  | fresh => cases hDerived
  | sourceHash =>
    cases hDerived
    split
    · exact enqueueIngest_known blake3 config (by simp) h
    · exact ⟨insertUnlessKnown_of_known h, rfl⟩
  | explicitKey key =>
    cases hDerived
    split
    · exact enqueueIngest_known blake3 config (by simp) h
    · refine ⟨beginKeyCall_db blake3 _ db, ?_⟩
      simp only [beginKeyCall]
      split
      · rfl
      · split
        · exact Or.inl rfl
        · rfl

theorem begin_known {slot : Nat} (env : Env) (hDerived : op.derivedId blake3 = some id) (h : Known db id) :
    (begin blake3 config env op db).1 = db ∧
      Echoes blake3 (fenceError env (.call slot op)) id (begin blake3 config env op db).2 := by
  cases op with
  | enqueue identity kind payload => exact beginEnqueue_known blake3 config hDerived h
  | enqueueKeyFenced lease kind payload key operation =>
    cases lease with
    | none => exact beginEnqueue_known blake3 config hDerived h
    | some lease =>
      cases hDerived
      cases hFence : requireRuntimeWriterLease env lease operation with
      | error e =>
        simp only [begin, fenceError, enqueueIdempotentWithKeyFailFastFenced, hFence]
        exact ⟨rfl, Or.inr rfl⟩
      | ok u =>
        simp only [begin, fenceError, enqueueIdempotentWithKeyFailFastFenced, hFence]
        split
        · exact ⟨rfl, Or.inl rfl⟩
        · exact ⟨insertUnlessKnown_of_known h, rfl⟩
  | _ => cases hDerived

theorem resume_known (env : Env) {call : Call} (hDerived : call.derivedId blake3 = some id) (h : Known db id) :
    (resume blake3 env call db).1 = db ∧ Echoes blake3 fence id (resume blake3 env call db).2 := by
  cases call with
  | keyCompletions call =>
    simp only [resume]
    split
    · exact ⟨rfl, Or.inl rfl⟩
    · exact ⟨rfl, hDerived⟩
  | keyInsert call =>
    cases hDerived
    exact ⟨insertUnlessKnown_of_known h, rfl⟩
  | claimProbe | claimTx => cases hDerived

def QueueStep.slot : QueueStep → Nat
  | .call slot _ => slot
  | .resume slot => slot
  | .abandon slot => slot

/-- The same for the outcome of a step; a call that waits has its next statement for the same id. -/
def EchoesOutcome (fence : Option QueueError) (id : String) (slot : Nat) (state : QueueState) (o : Outcome) : Prop :=
  o = .returned (.ok (.enqueued id)) ∨ o = .returned (.error .idempotencyConflict) ∨
    (o = .waits ∧ enqueuesUnder blake3 state (.resume slot) = some id) ∨
    ∃ e, fence = some e ∧ o = .returned (.error e)

theorem settle_echoes {slot : Nat} (h : Echoes blake3 fence id result.2) :
    EchoesOutcome blake3 fence id slot (settle state slot result).1 (settle state slot result).2 := by
  obtain ⟨db, progress⟩ := result
  cases progress with
  | waits call =>
    refine Or.inr (Or.inr (Or.inl ⟨rfl, ?_⟩))
    simp only [settle, setCall, enqueuesUnder, if_true, Option.bind_some]
    exact h
  | returned r =>
    cases r with
    | ok reply => exact Or.inl (by rw [settle, show reply = .enqueued id from h])
    | error e =>
      rcases h with rfl | hFence
      · exact Or.inr (Or.inl rfl)
      · exact Or.inr (Or.inr (Or.inr ⟨e, hFence, rfl⟩))

theorem step_known (hDerived : enqueuesUnder blake3 state a.2 = some id) (h : Known state.db id) :
    ((queueMachine blake3 config).next state a).db = state.db ∧
      EchoesOutcome blake3 (fenceError a.1 a.2) id a.2.slot ((queueMachine blake3 config).next state a)
        ((queueMachine blake3 config).output state a) := by
  obtain ⟨env, what⟩ := a
  cases what with
  | call slot op =>
    simp only [enqueuesUnder] at hDerived
    cases hSlot : state.calls slot with
    | some call => simp [hSlot] at hDerived
    | none =>
      simp only [hSlot, Option.isSome_none, Bool.false_eq_true, if_false] at hDerived
      obtain ⟨hDb, hEchoes⟩ := begin_known blake3 config env hDerived h
      simp only [Machine.next, Machine.output, queueMachine, step, hSlot, settle_db]
      exact ⟨hDb, settle_echoes blake3 hEchoes⟩
  | resume slot =>
    simp only [enqueuesUnder, Option.bind_eq_some_iff] at hDerived
    obtain ⟨call, hSlot, hDerived⟩ := hDerived
    obtain ⟨hDb, hEchoes⟩ := resume_known blake3 env hDerived h
    simp only [Machine.next, Machine.output, queueMachine, step, hSlot, settle_db]
    exact ⟨hDb, settle_echoes blake3 hEchoes⟩
  | abandon slot => cases hDerived

end Hash

end Mempal.Queue

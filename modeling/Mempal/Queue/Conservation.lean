import Mempal.Queue.Enqueue

set_option autoImplicit false

/-! In every run whose id readings do not repeat, the two tables have no message in common and a message that is in one
of them never leaves both. -/

namespace Mempal.Queue

open Foundation
open WriterLease (holdsLease)

/-- The clock, process and counter readings of a schedule. -/
def ticks (schedule : List (Env × QueueStep)) : List Tick := schedule.map fun a => a.1.tick

variable {past schedule future : List (Env × QueueStep)} {a : Env × QueueStep} {db : QueueDb} {state : QueueState}
  {id : String} {env : Env} {call : Call}

theorem tick_notMem_of_nodup
    (h : (ticks schedule).Nodup) (hSplit : schedule = past ++ a :: future) : a.1.tick ∉ ticks past := by
  subst hSplit
  rw [ticks, List.map_append, List.map_cons, List.nodup_append] at h
  intro hMem
  exact h.2.2 _ hMem _ List.mem_cons_self rfl

structure Sound (past : List (Env × QueueStep)) (db : QueueDb) : Prop where
  disjoint : ∀ id row completion, db.entry id ≠ (some row, some completion)
  ids : ∀ id, db.entry id ≠ (none, none) → IsDedupId id ∨ ∃ tick ∈ ticks past, id = nextId "msg" tick
  tokens : ∀ id row c, db.entry id = (some row, c) → row.status = .claimed →
    ∃ worker, ∃ tick ∈ ticks past, row.claimToken = some (claimToken worker tick)

theorem sound_empty : Sound [] QueueDb.empty := by
  constructor
  · intro id row completion h
    cases h
  · intro id h
    exact absurd rfl h
  · intro id row c h
    cases h

theorem Sound.mono (h : Sound past db) (a : Env × QueueStep) : Sound (past ++ [a]) db := by
  have hSub : ∀ tick ∈ ticks past, tick ∈ ticks (past ++ [a]) := by
    intro tick hTick
    rw [ticks, List.map_append]
    exact List.mem_append_left _ hTick
  refine ⟨h.disjoint, ?_, ?_⟩
  · intro id hId
    rcases h.ids id hId with hDedup | ⟨tick, hTick, hEq⟩
    · exact Or.inl hDedup
    · exact Or.inr ⟨tick, hSub tick hTick, hEq⟩
  · intro id row c hEntry hClaimed
    obtain ⟨worker, tick, hTick, hEq⟩ := h.tokens id row c hEntry hClaimed
    exact ⟨worker, tick, hSub tick hTick, hEq⟩

theorem Sound.fresh {tick : Tick} (h : Sound past db) (hTick : tick ∉ ticks past) :
    db.entry (nextId "msg" tick) = (none, none) := by
  by_contra hKnown
  rcases h.ids _ hKnown with hDedup | ⟨tick', hTick', hEq⟩
  · exact nextId_not_dedup tick hDedup
  · exact hTick (nextId_injective "msg" hEq ▸ hTick')

theorem Sound.step {db' : QueueDb} {claim : Option ClaimedMessage} (h : Sound past db) (hTick : a.1.tick ∉ ticks past)
    (hAdvances : Advances a.1.tick claim db db')
    (hClaim : ∀ message, claim = some message → ∃ worker, message.claimToken = claimToken worker a.1.tick) :
    Sound (past ++ [a]) db' := by
  have hOld := h.mono a
  have hNow : a.1.tick ∈ ticks (past ++ [a]) := by simp [ticks]
  have hSubmit : ∀ id row c, db.entry id = (none, c) → db'.entry id = (some row, c) →
      (row.id = nextId "msg" a.1.tick ∨ (c = none ∧ IsDedupId row.id)) → c = none := by
    intro id row c hBefore hAfter hId
    rcases hId with hId | hId
    · have hFresh := h.fresh hTick
      rw [← hId, id_of_entry hAfter, hBefore] at hFresh
      exact congrArg Prod.snd hFresh
    · exact hId.1
  constructor
  · intro id row completion hEntry
    rcases hAdvances id with hEvolve | ⟨row', c, hBefore, hAfter, _, hId⟩
    · rw [hEntry] at hEvolve
      generalize hBefore : db.entry id = before at hEvolve
      cases hEvolve with
      | stay | rewrite => exact h.disjoint id _ _ hBefore
    · have hNone := hSubmit id row' c hBefore hAfter hId
      rw [hAfter, hNone] at hEntry
      cases hEntry
  · intro id hKnown
    rcases hAdvances id with hEvolve | ⟨row, c, hBefore, hAfter, _, hId⟩
    · refine hOld.ids id fun hNone => hKnown ?_
      rw [hNone] at hEvolve
      generalize db'.entry id = after at hEvolve
      cases hEvolve
      rfl
    · rw [id_of_entry hAfter] at hId
      rcases hId with hId | hId
      · exact Or.inr ⟨_, hNow, hId⟩
      · exact Or.inl hId.2
  · intro id row c hEntry hClaimed
    rcases hAdvances id with hEvolve | ⟨row', c', _, hAfter, hStatus, _⟩
    · rw [hEntry] at hEvolve
      generalize hBefore : db.entry id = before at hEvolve
      cases hEvolve with
      | stay => exact hOld.tokens id row c hBefore hClaimed
      | rewrite _ hRow =>
        rcases hRow.claimed hClaimed with ⟨hWas, hToken⟩ | ⟨message, hMessage, _, hToken⟩
        · rw [hToken]
          exact hOld.tokens id _ c hBefore hWas
        · obtain ⟨worker, hWorker⟩ := hClaim message hMessage
          exact ⟨worker, _, hNow, by rw [hToken, hWorker]⟩
    · rw [hEntry] at hAfter
      cases hAfter
      rw [hStatus] at hClaimed
      cases hClaimed

variable {message : ClaimedMessage} {completion : CompletionRow}

section Hash
variable (blake3 : List UInt8 → String) (config : QueueConfig)

theorem returned_claim {α : Type} {reply : α → Reply} (h : ∀ x message, reply x ≠ .claimed message)
    (result : QueueDb × Except QueueError α) : (returned reply result).2.claim = none := by
  obtain ⟨db, result⟩ := result
  cases result with
  | error e => rfl
  | ok x =>
    simp only [returned, Except.map]
    cases hReply : reply x with
    | claimed message => exact absurd hReply (h x message)
    | _ => rfl

theorem beginEnqueue_claim {identity : EnqueueIdentity} {payload : String} (env : Env) (kind : String) (db : QueueDb) :
    (beginEnqueue blake3 config env identity kind payload db).2.claim = none := by
  simp only [beginEnqueue]
  split
  · exact returned_claim (by simp) _
  · cases identity with
    | fresh => exact returned_claim (by simp) _
    | sourceHash => rfl
    | explicitKey key =>
      simp only [beginKeyCall]
      split
      · rfl
      · split <;> rfl

theorem begin_claim (env : Env) (op : QueueOp) (db : QueueDb) : (begin blake3 config env op db).2.claim = none := by
  cases op with
  | enqueue identity kind payload => exact beginEnqueue_claim blake3 config env kind db
  | enqueueFenced lease kind | enqueueKeyFenced lease kind =>
    cases lease with
    | none => exact beginEnqueue_claim blake3 config env kind db
    | some lease => exact returned_claim (by simp) _
  | claim request =>
    simp only [begin, beginClaim]
    split
    · rfl
    · rfl
    · split <;> rfl
  | reclaimStale | requeueWriterLeaseFailures => rfl
  | _ => exact returned_claim (by simp) _

theorem resume_claim (h : (resume blake3 env call db).2.claim = some message) :
    ∃ request staleCutoff, call = .claimTx request staleCutoff ∧
      claimTx env request staleCutoff db = .ok ((resume blake3 env call db).1, some message) := by
  cases call with
  | keyCompletions | claimProbe =>
    simp only [resume] at h
    split at h <;> cases h
  | keyInsert call => cases h
  | claimTx request staleCutoff =>
    refine ⟨request, staleCutoff, rfl, ?_⟩
    simp only [resume, returned] at *
    cases hRun : claimTx env request staleCutoff db with
    | error e => simp [hRun, commitOrRollback, Except.map, Progress.claim] at h
    | ok result =>
      simp only [hRun, commitOrRollback, Except.map, Progress.claim] at h
      rw [← h]
      rfl

theorem resume_token (h : (resume blake3 env call db).2.claim = some message) :
    ∃ worker, message.claimToken = claimToken worker env.tick := by
  obtain ⟨request, staleCutoff, _, hRun⟩ := resume_claim blake3 h
  rcases claimTx_cases hRun with ⟨hNone, _⟩ | ⟨row, _, _, hSome, _⟩
  · cases hNone
  · cases hSome
    exact ⟨_, rfl⟩

theorem issued_token (h : issued (a, (queueMachine blake3 config).output state a) = some message) :
    ∃ worker, message.claimToken = claimToken worker a.1.tick := by
  obtain ⟨env, what⟩ := a
  cases what with
  | call slot op =>
    simp only [Machine.output, queueMachine, step] at h
    split at h
    · cases h
    · rw [issued_settle, begin_claim] at h
      cases h
  | resume slot =>
    simp only [Machine.output, queueMachine, step] at h
    split at h
    · cases h
    · rw [issued_settle] at h
      exact resume_token blake3 h
  | abandon slot => cases h

theorem next_sound (h : Sound past state.db) (hTick : a.1.tick ∉ ticks past) :
    Sound (past ++ [a]) ((queueMachine blake3 config).next state a).db :=
  h.step hTick (step_advances blake3 config state a) fun _ hMessage => issued_token blake3 config hMessage

abbrev reached (schedule : List (Env × QueueStep)) : QueueState :=
  (queueMachine blake3 config).final (.start .empty) schedule

theorem run_sound (h : (ticks schedule).Nodup) : Sound schedule (reached blake3 config schedule).db :=
  Machine.invariant_history (I := fun past (state : QueueState) => Sound past state.db)
    (P := fun past a => a.1.tick ∉ ticks past) (fun _ _ _ hSound hTick => next_sound blake3 config hSound hTick)
    sound_empty fun _ _ _ hSplit => tick_notMem_of_nodup h hSplit

theorem next_known (a : Env × QueueStep) (h : Known state.db id) :
    Known ((queueMachine blake3 config).next state a).db id := by
  rw [known_iff] at *
  rcases step_advances blake3 config state a id with hEvolve | ⟨row, c, _, hAfter, _⟩
  · generalize state.db.entry id = before at h hEvolve
    generalize ((queueMachine blake3 config).next state a).db.entry id = after at hEvolve
    cases hEvolve with
    | stay => exact h
    | rewrite | finish => simp
  · rw [hAfter]
    simp

theorem final_known (schedule : List (Env × QueueStep))
    (h : Known state.db id) : Known ((queueMachine blake3 config).final state schedule).db id :=
  Machine.invariant (I := fun state : QueueState => Known state.db id)
    (fun _ a hKnown => next_known blake3 config a hKnown) h schedule

theorem Sound.xor (h : Sound past db) (hKnown : Known db id) :
    Xor (db.pending.contains id = true) (db.completions.contains id = true) := by
  have hNot := h.disjoint id
  rw [known_iff] at hKnown
  simp only [QueueDb.entry, Table.contains] at *
  cases hPending : db.pending.find? id with
  | none =>
    cases hCompletion : db.completions.find? id with
    | none => simp [hPending, hCompletion] at hKnown
    | some completion => simp [Xor]
  | some row =>
    cases hCompletion : db.completions.find? id with
    | none => simp [Xor]
    | some completion => exact absurd (by rw [hPending, hCompletion]) (hNot row completion)

end Hash

section Hash
variable (blake3 : List UInt8 → String) (config : QueueConfig)

theorem next_finished (hSound : Sound past state.db) (hTick : a.1.tick ∉ ticks past)
    (h : state.db.entry id = (none, some completion)) :
    ((queueMachine blake3 config).next state a).db.entry id = (none, some completion) := by
  rcases step_advances blake3 config state a id with hEvolve | ⟨row, c, hBefore, hAfter, _, hId⟩
  · rw [h] at hEvolve
    generalize ((queueMachine blake3 config).next state a).db.entry id = after at hEvolve
    cases hEvolve
    rfl
  · rw [h, Prod.mk.injEq] at hBefore
    obtain ⟨_, rfl⟩ := hBefore
    rw [id_of_entry hAfter] at hId
    rcases hId with rfl | hId
    · rw [hSound.fresh hTick] at h
      cases h
    · cases hId.1

theorem final_finished (hFresh : (ticks (past ++ future)).Nodup)
    (h : (reached blake3 config past).db.entry id = (none, some completion)) :
    (reached blake3 config (past ++ future)).db.entry id = (none, some completion) := by
  induction future using List.reverseRecOn with
  | nil => rwa [List.append_nil]
  | append_singleton future a ih =>
    rw [← List.append_assoc] at hFresh ⊢
    have hBefore : (ticks (past ++ future)).Nodup := by
      rw [ticks, List.map_append] at hFresh
      exact (List.nodup_append.mp hFresh).1
    rw [reached, Machine.final_append]
    exact next_finished blake3 config (run_sound blake3 config hBefore) (tick_notMem_of_nodup hFresh rfl)
      (ih hBefore)

theorem Sound.entry_of_completion (h : Sound past db) (hFind : db.completions.find? id = some completion) :
    db.entry id = (none, some completion) := by
  cases hPending : db.pending.find? id with
  | none => rw [QueueDb.entry, hPending, hFind]
  | some row => exact absurd (by rw [QueueDb.entry, hPending, hFind]) (h.disjoint id row completion)

/-- No message is in both tables, an id that was returned stays in one of them, a finished message keeps its
completion, and an enqueue under an id that is already known inserts nothing. -/
theorem messages_conserved (schedule : List (Env × QueueStep)) (hFresh : (ticks schedule).Nodup) :
    (∀ id, ¬ ((reached blake3 config schedule).db.pending.contains id = true ∧
      (reached blake3 config schedule).db.completions.contains id = true)) ∧
    (∀ past a future id, schedule = past ++ a :: future →
      (queueMachine blake3 config).output (reached blake3 config past) a =
        .returned (.ok (.enqueued id)) →
      Xor ((reached blake3 config schedule).db.pending.contains id = true)
        ((reached blake3 config schedule).db.completions.contains id = true)) ∧
    (∀ past future id completion, schedule = past ++ future →
      (reached blake3 config past).db.completions.find? id = some completion →
      (reached blake3 config schedule).db.entry id = (none, some completion)) ∧
    (∀ state a id, enqueuesUnder blake3 state a.2 = some id → Known state.db id →
      ((queueMachine blake3 config).next state a).db = state.db ∧
      EchoesOutcome blake3 (fenceError a.1 a.2) id a.2.slot ((queueMachine blake3 config).next state a)
        ((queueMachine blake3 config).output state a)) := by
  have hSound := run_sound blake3 config hFresh
  refine ⟨?_, ?_, ?_, fun state a id => step_known blake3 config⟩
  · rintro id ⟨hPending, hCompletion⟩
    have hXor := hSound.xor (known_of_pending hPending)
    simp [Xor, hPending, hCompletion] at hXor
  · rintro past a future id rfl hReturned
    refine hSound.xor ?_
    rw [reached, Machine.final_append, Machine.final_cons]
    exact final_known blake3 config future (known_of_enqueued blake3 config hReturned)
  · rintro past future id completion rfl hFind
    have hPast : (ticks past).Nodup := by
      rw [ticks, List.map_append] at hFresh
      exact (List.nodup_append.mp hFresh).1
    exact final_finished blake3 config hFresh
      ((run_sound blake3 config hPast).entry_of_completion hFind)

/-- The entry holds the message of the row, or what is left of it when it is finished. -/
def HoldsMessage (row : PendingRow) : Entry → Prop
  | (some row', _) => (row'.kind, row'.sourceHash, row'.payload, row'.createdAt) =
      (row.kind, row.sourceHash, row.payload, row.createdAt)
  | (none, some completion) => completion.TimeOf row
  | (none, none) => False

variable {row : PendingRow}

theorem Evolve.holdsMessage {claim : Option ClaimedMessage} {e e' : Entry} (h : Evolve claim e e')
    (hHolds : HoldsMessage row e) : HoldsMessage row e' := by
  cases h with
  | stay => exact hHolds
  | rewrite c h =>
    rw [HoldsMessage, h.kind, h.sourceHash, h.payload, h.createdAt]
    exact hHolds
  | finish row' c completion h =>
    have hTime : row'.createdAt = row.createdAt := congrArg (·.2.2.2) hHolds
    rwa [HoldsMessage, CompletionRow.TimeOf, ← hTime]

/-- What is enqueued is kept as it is until it is finished. -/
theorem messages_unchanged (past future : List (Env × QueueStep)) (hFresh : (ticks (past ++ future)).Nodup)
    (hRow : (reached blake3 config past).db.pending.find? id = some row) :
    HoldsMessage row ((reached blake3 config (past ++ future)).db.entry id) := by
  induction future using List.reverseRecOn with
  | nil =>
    rw [List.append_nil, QueueDb.entry, hRow]
    rfl
  | append_singleton future a ih =>
    rw [← List.append_assoc] at hFresh ⊢
    have hBefore : (ticks (past ++ future)).Nodup := by
      rw [ticks, List.map_append] at hFresh
      exact (List.nodup_append.mp hFresh).1
    have hHolds := ih hBefore
    rw [reached, Machine.final_append]
    rcases step_advances blake3 config _ a id with hEvolve | ⟨_, c, hNone, _⟩
    · exact hEvolve.holdsMessage hHolds
    · -- only a finished message has left the queue, and its id is not used again
      rw [hNone] at hHolds
      cases c with
      | none => cases hHolds
      | some completion =>
        have hStays := next_finished blake3 config (run_sound blake3 config hBefore)
          (tick_notMem_of_nodup hFresh rfl) hNone
        exact hStays ▸ hHolds

end Hash

/-- One second, no leases, and a counter that tells the readings apart. -/
def quietEnv (counter : Nat) : Env := ⟨1000, ⟨1000, 1, counter⟩, Table.empty⟩

def deliveredOnce : List (Env × QueueStep) :=
  [(quietEnv 0, .call 0 (.enqueue .sourceHash "note" "text")),
    (quietEnv 1, .call 1 (.claim ⟨.next, "worker", 60, none⟩)),
    (quietEnv 2, .resume 1),
    (quietEnv 3, .call 1 (.confirm none
      ⟨"msg-dedup-h", "note", "text", 0, claimToken "worker" (quietEnv 2).tick, "h", 1, 1⟩)),
    (quietEnv 4, .call 0 (.enqueue .sourceHash "note" "text"))]

theorem deliveredOnce_conserved : (ticks deliveredOnce).Nodup ∧
    (reached (fun _ => "h") .default deliveredOnce).db.completions.contains "msg-dedup-h" = true ∧
    Xor ((reached (fun _ => "h") .default deliveredOnce).db.pending.contains "msg-dedup-h" = true)
      ((reached (fun _ => "h") .default deliveredOnce).db.completions.contains "msg-dedup-h" = true) :=
  ⟨by decide, by decide,
    (messages_conserved (fun _ => "h") .default deliveredOnce (by decide)).2.1 [] _ _ _ rfl (by decide)⟩

theorem deliveredOnce_unchanged :
    HoldsMessage (newMessage (fun _ => "h") (quietEnv 0) .sourceHash "note" "text").row
      ((reached (fun _ => "h") .default deliveredOnce).db.entry "msg-dedup-h") :=
  messages_unchanged _ _ (deliveredOnce.take 1) (deliveredOnce.drop 1) (by decide) (by decide +kernel)

end Mempal.Queue

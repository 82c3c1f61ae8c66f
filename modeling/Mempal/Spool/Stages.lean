import Mempal.Spool.Invariant

set_option autoImplicit false

/-! One lemma for each function of the spool says what its stages do; a step of a thread is then one lemma. -/

namespace Mempal.Spool

open Foundation Queue
open WriterLease (RuntimeWriterLease)

variable {request : Request} {r : SpoolState} {action : SpoolAction} {o : Outside} {drain : Drain}
  {record : StoredRecord} {stem : String} {stage : ParkStage} {file : File} {t' : Nat} {e : Event}
  {lease : Option RuntimeWriterLease} {listed : List StoredRecord}

section Config
variable {config : SpoolConfig}

section Step
variable {past : List (SpoolAction × Event)} {s s' : SpoolState} {t : Nat} {event : SpoolAction × Event} {pc : Pc}

variable (config) in
/-- What a step of thread `t` to the stage `pc` gives the other threads. -/
structure StepSpec (past : List (SpoolAction × Event)) (s : SpoolState) (t : Nat) (s' : SpoolState)
    (event : SpoolAction × Event) (pc : Pc) : Prop where
  threads : s'.threads = Function.update s.threads t pc
  files : Effect config past s t s'.files
  known : ∀ id, Known s.queue id → Known s'.queue id
  delivered : ∀ request, Delivered config s.queue request → Delivered config s'.queue request
  ok : PcOk config (past ++ [event]) s' pc
  holds : ∀ stem, pc.holds = some stem →
    (s.threads t).holds = some stem ∨ ∃ contents, s.files.read (.record stem) = some contents
  locked : pc.locked = true → s'.appendLock = some t
  lock : ∀ t', s.appendLock = some t' → t' ≠ t → s'.appendLock = some t'
  acknowledged : ∀ request outcome, event.2 = .appendReturned request (.ok outcome) → Safe config s' request
  created : ∀ id, createdId config event = some id → ¬ Known s.queue id ∧ Known s'.queue id

theorem Safe.step (hSafe : Safe config s request) (h : Durable config past s)
    (hSpec : StepSpec config past s t s' event pc) : Safe config s' request := by
  rcases hSafe with hHolds | hDelivered
  · rcases hSpec.files.holds h hHolds with hHolds | hDelivered
    · exact Or.inl hHolds
    · exact Or.inr (hSpec.delivered _ hDelivered)
  · exact Or.inr (hSpec.delivered _ hDelivered)

theorem Conflicted.append (h : Conflicted past request) (event : SpoolAction × Event) :
    Conflicted (past ++ [event]) request := by
  obtain ⟨action, created, hMem⟩ := h
  exact ⟨action, created, List.mem_append_left _ hMem⟩

theorem Pc.claim_of_holds (h : PcOk config past s pc) (hHolds : pc.holds = some stem) :
    ∃ request, s.files.read (.claim stem) = some (.record request) := by
  cases pc with
  | claim drain record stage => cases stage <;> cases hHolds <;> first | exact ⟨_, h⟩ | exact ⟨_, h.1⟩
  | park parker file stage =>
    cases parker with
    | drain drain record => cases stage <;> cases hHolds <;> exact ⟨_, h.1 ▸ h.2.1⟩
    | _ => cases hHolds
  | release record error stage => cases stage <;> cases hHolds <;> first | exact ⟨_, h⟩ | exact h.elim
  | _ => cases hHolds

theorem Unheld.step {contents : Contents} (hUnheld : Unheld s stem) (h : Durable config past s)
    (hClaim : s.files.read (.claim stem) = some contents) (hSpec : StepSpec config past s t s' event pc) :
    Unheld s' stem := by
  intro t' hHolds
  rw [hSpec.threads] at hHolds
  by_cases hEq : t' = t
  · subst hEq
    rw [Function.update_self] at hHolds
    rcases hSpec.holds stem hHolds with hBefore | ⟨_, hRecord⟩
    · exact hUnheld t' hBefore
    · rw [h.record_free hClaim] at hRecord
      cases hRecord
  · rw [Function.update_of_ne hEq] at hHolds
    exact hUnheld t' hHolds

theorem ParkStage.Chosen.step (hChosen : stage.Chosen s file)
    (h : Durable config past s) (hSpec : StepSpec config past s t s' event pc)
    (hClaim : ∀ stem, file = .claim stem → (s.threads t).holds ≠ some stem)
    (hRecord : (∀ stem, file ≠ .claim stem) → (s.threads t).locked = false) : stage.Chosen s' file := by
  cases stage with
  | move dest taken =>
    obtain ⟨⟨digest, rfl⟩, hFree⟩ := hChosen
    exact ⟨⟨digest, rfl⟩, fun hTaken => hSpec.files.free_frame h (hFree hTaken) hClaim hRecord⟩
  | _ => trivial

theorem PcOk.frame (h : Durable config past s) (hSpec : StepSpec config past s t s' event pc)
    (hNe : t' ≠ t) : PcOk config (past ++ [event]) s' (s.threads t') := by
  have hOk := h.threads t'
  have hHeld : ∀ stem, (s.threads t').holds = some stem → (s.threads t).holds ≠ some stem :=
    fun stem hOurs hTheirs => hNe (h.holders t' t stem hOurs hTheirs)
  have hClaim : ∀ stem contents, (s.threads t').holds = some stem →
      s.files.read (.claim stem) = some contents → s'.files.read (.claim stem) = some contents :=
    fun stem contents hOurs hRead =>
      hSpec.files.claim_frame h hRead (hHeld stem hOurs) fun _ hUnheld => hUnheld t' hOurs
  have hMutex : (s.threads t').locked = true → (s.threads t).locked = false := by
    intro hOurs
    by_contra hTheirs
    have hLock := h.locked t (by simpa using hTheirs)
    rw [h.locked t' hOurs] at hLock
    exact hNe (Option.some.inj hLock)
  generalize s.threads t' = pc' at *
  cases pc' with
  | idle | list | drain | forget => trivial
  | append request stage =>
    cases stage with
    | syncExisting | syncPublished => exact Safe.step hOk h hSpec
    | _ => trivial
  | recover lease known recovered stage =>
    cases stage with
    | readRecord stem claimed =>
      obtain ⟨hRead, hUnheld⟩ := hOk
      refine ⟨hSpec.files.claim_frame h hRead (hUnheld t) fun hLocked => ?_, hUnheld.step h hRead hSpec⟩
      rw [hMutex rfl] at hLocked
      cases hLocked
    | removeClaim stem => exact hOk.elim
    | _ => trivial
  | claim drain record stage =>
    cases stage with
    | syncRemoved => trivial
    | remove => exact ⟨hClaim _ _ rfl hOk.1, hSpec.delivered _ hOk.2⟩
    | _ => exact hClaim _ _ rfl hOk
  | park parker file stage =>
    cases parker with
    | recovery lease known => exact hOk.elim
    | listing lease listed =>
      have hStays
          (hFile : (∃ stem bytes, file = .record stem ∧ s.files.read file = some (.undecodable bytes)) ∧
            stage.Chosen s file) :
          (∃ stem bytes, file = .record stem ∧ s'.files.read file = some (.undecodable bytes)) ∧
            stage.Chosen s' file := by
        obtain ⟨⟨stem, bytes, rfl, hRead⟩, hChosen⟩ := hFile
        refine ⟨⟨stem, bytes, rfl, hSpec.files.record_frame h hRead (hMutex rfl)⟩, hChosen.step h hSpec ?_ ?_⟩
        · rintro _ ⟨⟩
        · exact fun _ => hMutex rfl
      cases stage with
      | sync => trivial
      | _ => exact hStays hOk
    | drain drain record =>
      have hStays (hHolds : (Pc.park (.drain drain record) file stage).holds = some record.stem)
          (hFile : file = .claim record.stem ∧ s.files.read file = some (.record record.request) ∧
            Conflicted past record.request ∧ stage.Chosen s file) :
          file = .claim record.stem ∧ s'.files.read file = some (.record record.request) ∧
            Conflicted (past ++ [event]) record.request ∧ stage.Chosen s' file := by
        obtain ⟨rfl, hRead, hConflict, hChosen⟩ := hFile
        refine ⟨rfl, hClaim _ _ hHolds hRead, hConflict.append event, hChosen.step h hSpec ?_ ?_⟩
        · rintro _ ⟨⟩
          exact hHeld _ hHolds
        · exact fun hNot => absurd rfl (hNot record.stem)
      cases stage with
      | sync => trivial
      | _ => exact hStays rfl hOk
  | release record error stage =>
    cases stage with
    | checkRecord | restore => exact hClaim _ _ rfl hOk
    | forget | sync => trivial
    | _ => exact hOk.elim

theorem Durable.step (h : Durable config past s) (hSpec : StepSpec config past s t s' event pc) :
    Durable config (past ++ [event]) s' := by
  have hSelf : s'.threads t = pc := by rw [hSpec.threads, Function.update_self]
  have hOther : ∀ t', t' ≠ t → s'.threads t' = s.threads t' := by
    intro t' hNe
    rw [hSpec.threads, Function.update_of_ne hNe]
  -- a stem that the thread newly holds had a record, so no thread held its claim
  have hSole : ∀ t' stem, t' ≠ t → pc.holds = some stem → (s.threads t').holds ≠ some stem := by
    intro t' stem hNe hOurs hTheirs
    rcases hSpec.holds stem hOurs with hBefore | ⟨_, hRecord⟩
    · exact hNe (h.holders t' t stem hTheirs hBefore)
    · obtain ⟨_, hClaim⟩ := Pc.claim_of_holds (h.threads t') hTheirs
      rw [h.record_free hClaim] at hRecord
      cases hRecord
  constructor
  · exact hSpec.files.exclusive h
  · exact fun _ _ hRead => hSpec.files.read_claim h hRead
  · exact fun _ _ _ hRead => (hSpec.files.read_quarantine h hRead).append event
  · intro t'
    by_cases hEq : t' = t
    · rw [hEq, hSelf]
      exact hSpec.ok
    · rw [hOther t' hEq]
      exact PcOk.frame h hSpec hEq
  · intro t₁ t₂ stem hHolds₁ hHolds₂
    by_cases hEq₁ : t₁ = t
    · by_cases hEq₂ : t₂ = t
      · rw [hEq₁, hEq₂]
      · rw [hEq₁, hSelf] at hHolds₁
        rw [hOther t₂ hEq₂] at hHolds₂
        exact absurd hHolds₂ (hSole t₂ stem hEq₂ hHolds₁)
    · rw [hOther t₁ hEq₁] at hHolds₁
      by_cases hEq₂ : t₂ = t
      · rw [hEq₂, hSelf] at hHolds₂
        exact absurd hHolds₁ (hSole t₁ stem hEq₁ hHolds₂)
      · rw [hOther t₂ hEq₂] at hHolds₂
        exact h.holders t₁ t₂ stem hHolds₁ hHolds₂
  · intro t' hLocked
    by_cases hEq : t' = t
    · rw [hEq, hSelf] at hLocked
      rw [hEq]
      exact hSpec.locked hLocked
    · rw [hOther t' hEq] at hLocked
      exact hSpec.lock t' (h.locked t' hLocked) hEq
  · intro action request outcome hMem
    rcases List.mem_append.mp hMem with hBefore | hNow
    · exact (h.acknowledged action request outcome hBefore).step h hSpec
    · exact hSpec.acknowledged request outcome (congrArg Prod.snd (List.mem_singleton.mp hNow)).symm
  · rw [List.filterMap_append, List.nodup_append]
    refine ⟨h.created, ?_, ?_⟩
    · cases hId : createdId config event <;> simp [hId]
    · intro id hBefore id' hNow hEq
      obtain ⟨event', hMem, hId⟩ := List.mem_filterMap.mp hNow
      rw [List.mem_singleton.mp hMem, ← hEq] at hId
      exact (hSpec.created id hId).1 (h.known id hBefore)
  · intro id hMem
    rw [List.filterMap_append] at hMem
    rcases List.mem_append.mp hMem with hBefore | hNow
    · exact hSpec.known id (h.known id hBefore)
    · obtain ⟨event', hMem, hId⟩ := List.mem_filterMap.mp hNow
      rw [List.mem_singleton.mp hMem] at hId
      exact (hSpec.created id hId).2

variable (config) in
def Steps (past : List (SpoolAction × Event)) (s : SpoolState) (t : Nat) (action : SpoolAction)
    (result : SpoolState × Event) : Prop := ∃ pc, StepSpec config past s t result.1 (action, result.2) pc

theorem Durable.steps {result : SpoolState × Event} (h : Durable config past s)
    (hSteps : Steps config past s t action result) : Durable config (past ++ [(action, result.2)]) result.1 := by
  obtain ⟨_, hSpec⟩ := hSteps
  exact h.step hSpec

theorem Durable.own_lock {lock : Option Nat} (h : Durable config past s) (hMutex : (s.threads t).locked = true) :
    ∀ t', s.appendLock = some t' → t' ≠ t → lock = some t' := by
  intro t' hHeld hNe
  rw [h.locked t hMutex] at hHeld
  exact absurd (Option.some.inj hHeld).symm hNe

def Event.Silent : Event → Prop
  | .quiet | .drainReturned _ | .appendReturned _ (.error _) => True
  | _ => False

theorem stepSpec_goto (hThreads : r.threads = s.threads)
    (hQueue : r.queue = s.queue) (hFiles : Effect config past s t r.files)
    (hOk : PcOk config (past ++ [(action, e)]) (r.goto t pc) pc) (hHolds : ∀ stem, pc.holds = some stem →
      (s.threads t).holds = some stem ∨ ∃ contents, s.files.read (.record stem) = some contents)
    (hLocked : pc.locked = true → r.appendLock = some t)
    (hLock : ∀ t', s.appendLock = some t' → t' ≠ t → r.appendLock = some t') (hSilent : e.Silent) :
    StepSpec config past s t (r.goto t pc) (action, e) pc where
  threads := by
    rw [← hThreads]
    rfl
  files := hFiles
  known id hKnown := by
    rw [show (r.goto t pc).queue = s.queue from hQueue]
    exact hKnown
  delivered request hDelivered := by
    rw [show (r.goto t pc).queue = s.queue from hQueue]
    exact hDelivered
  ok := hOk
  holds := hHolds
  locked := hLocked
  lock := hLock
  acknowledged request outcome hEvent := by
    cases hEvent
    exact hSilent.elim
  created id hId := by
    cases e with
    | enqueueReturned _ _ _ => exact hSilent.elim
    | _ => cases hId

theorem stepSpec_locked (h : Durable config past s) (hMutex : (s.threads t).locked = true)
    (hFiles : Effect config past s t r.files)
    (hOk : PcOk config (past ++ [(action, .quiet)]) (r.goto t pc) pc)
    (hKept : (r.threads, r.queue, r.appendLock, pc.holds) = (s.threads, s.queue, s.appendLock, none)) :
    StepSpec config past s t (r.move t pc).1 (action, (r.move t pc).2) pc := by
  simp only [Prod.mk.injEq] at hKept
  obtain ⟨hThreads, hQueue, hLock, hHolds⟩ := hKept
  refine stepSpec_goto hThreads hQueue hFiles hOk ?_ (fun _ => hLock.trans (h.locked t hMutex))
    (fun _ hHeld _ => hLock.trans hHeld) trivial
  intro stem hSome
  rw [hHolds] at hSome
  cases hSome

theorem stepSpec_unlocked (hFiles : Effect config past s t r.files)
    (hOk : PcOk config (past ++ [(action, e)]) (r.goto t pc) pc)
    (hHolds : ∀ stem, pc.holds = some stem → (s.threads t).holds = some stem)
    (hKept : (r.threads, r.queue, r.appendLock, pc.locked) = (s.threads, s.queue, s.appendLock, false))
    (hSilent : e.Silent) : StepSpec config past s t (r.goto t pc) (action, e) pc := by
  simp only [Prod.mk.injEq] at hKept
  obtain ⟨hThreads, hQueue, hLock, hLocked⟩ := hKept
  refine stepSpec_goto hThreads hQueue hFiles hOk (fun stem hSome => Or.inl (hHolds stem hSome)) ?_
    (fun _ hHeld _ => hLock.trans hHeld) hSilent
  intro hSome
  rw [hLocked] at hSome
  cases hSome

theorem steps_free (hFiles : Effect config past s t r.files)
    (hOk : PcOk config (past ++ [(action, e)]) (r.goto t pc) pc) (hHolds : pc.holds = none)
    (hKept : (r.threads, r.queue, r.appendLock, pc.locked) = (s.threads, s.queue, s.appendLock, false))
    (hSilent : e.Silent) : Steps config past s t action (r.goto t pc, e) := by
  refine ⟨_, stepSpec_unlocked hFiles hOk (fun stem hSome => ?_) hKept hSilent⟩
  rw [hHolds] at hSome
  cases hSome

theorem steps_holding (hOk : PcOk config (past ++ [(action, .quiet)]) (s.goto t pc) pc)
    (hHolds : (s.threads t).holds = pc.holds) (hLocked : pc.locked = false) :
    Steps config past s t action (s.move t pc) :=
  ⟨_, stepSpec_unlocked .same hOk (fun _ hSome => hHolds.trans hSome) (by rw [hLocked]) trivial⟩

section
variable (h : Durable config past s)
include h

theorem steps_locked (hMutex : (s.threads t).locked = true)
    (hOk : PcOk config (past ++ [(action, .quiet)]) (s.goto t pc) pc) (hHolds : pc.holds = none) :
    Steps config past s t action (s.move t pc) :=
  ⟨_, stepSpec_locked h hMutex .same hOk (by rw [hHolds])⟩

theorem steps_failRecords (hMutex : (s.threads t).locked = true) (error : SpoolError) :
    Steps config past s t action (s.failRecords t error) :=
  ⟨_, stepSpec_goto (r := s.unlock) rfl rfl .same trivial (fun _ hSome => by cases hSome) (fun hSome => by cases hSome)
    (h.own_lock hMutex) trivial⟩

theorem stepSpec_returnAppend {result : Except SpoolError AppendOutcome} (hMutex : (s.threads t).locked = true)
    (hSafe : ∀ outcome, result = .ok outcome → Safe config s request) :
    StepSpec config past s t (s.returnAppend t request result).1 (action, .appendReturned request result) .idle where
  threads := rfl
  files := .same
  known _ hKnown := hKnown
  delivered _ hDelivered := hDelivered
  ok := trivial
  holds _ hSome := by cases hSome
  locked hSome := by cases hSome
  lock := h.own_lock hMutex
  acknowledged _ outcome hEvent := by
    cases hEvent
    exact hSafe outcome rfl
  created id hId := by cases hId

theorem appendStep_spec {stage : AppendStage} (hPc : s.threads t = .append request stage)
    (hFit : stage = .publish → s.files.read (.record (recordStem config request)) = none ∧
      s.files.read (.claim (recordStem config request)) = none) :
    Steps config past s t action (appendStep config t o request s stage) := by
  have hMutex : (s.threads t).locked = true := by rw [hPc]; rfl
  have hOk := h.threads t
  rw [hPc] at hOk
  have hMove (stage' : AppendStage) (hStage : PcOk config (past ++ [(action, .quiet)]) s (.append request stage')) :
      Steps config past s t action (s.move t (.append request stage')) :=
    steps_locked h hMutex (by cases stage' <;> exact hStage) rfl
  have hFail (error : SpoolError) : Steps config past s t action (s.returnAppend t request (.error error)) :=
    ⟨_, stepSpec_returnAppend h hMutex fun _ hOutcome => by cases hOutcome⟩
  cases stage with
  | checkRecord | checkClaim | chooseFile =>
    simp only [appendStep]
    split
    · exact hMove _ trivial
    · exact hMove _ trivial
  | readExisting file =>
    simp only [appendStep]
    split
    · exact hFail _
    · exact hFail _
    · rename_i existing hRead
      split
      · rename_i hSame
        exact hMove _ (Or.inl ⟨file, hSame ▸ hRead⟩)
      · exact hFail _
  | syncExisting | syncPublished => exact ⟨_, stepSpec_returnAppend h hMutex fun _ _ => hOk⟩
  | measure =>
    simp only [appendStep]
    split
    · exact hFail _
    · split
      · exact hFail _
      · exact hMove _ trivial
  | publish =>
    simp only [appendStep]
    split
    · exact hFail _
    · obtain ⟨hRecord, hClaim⟩ := hFit rfl
      exact ⟨_, stepSpec_locked h hMutex (.publish hMutex hRecord hClaim)
        (Or.inl (Directory.holds_write _ _ _)) rfl⟩

theorem recoverStep_spec
    {known : Finset String} {recovered : Bool} {stage : RecoverStage}
    (hPc : s.threads t = .recover lease known recovered stage)
    (hFit : ∀ stem, stage.stem = some stem → Unheld s stem) :
    Steps config past s t action (recoverStep t o lease known recovered s stage) := by
  have hMutex : (s.threads t).locked = true := by rw [hPc]; rfl
  have hOk := h.threads t
  rw [hPc] at hOk
  cases stage with
  | nextEntry =>
    simp only [recoverStep]
    split
    · split
      · exact steps_locked h hMutex trivial rfl
      · exact steps_locked h hMutex trivial rfl
    · split
      · exact steps_failRecords h hMutex _
      · exact steps_locked h hMutex trivial rfl
  | checkRecord stem =>
    simp only [recoverStep]
    split
    · exact steps_locked h hMutex trivial rfl
    · exact steps_locked h hMutex trivial rfl
  | restore stem =>
    simp only [recoverStep]
    split
    · exact steps_failRecords h hMutex _
    · rename_i hThere
      obtain ⟨contents, hRead⟩ : ∃ contents, s.files.read (.claim stem) = some contents := by
        cases hRead : s.files.read (.claim stem) with
        | none => simp [hRead] at hThere
        | some contents => exact ⟨contents, rfl⟩
      obtain ⟨request, rfl⟩ := h.claims stem contents hRead
      exact ⟨_, stepSpec_locked h hMutex (.unclaim hRead (Or.inr ⟨hMutex, hFit stem rfl⟩)) trivial rfl⟩
  | readClaim stem =>
    simp only [recoverStep]
    split
    · exact steps_failRecords h hMutex _
    · rename_i bytes hRead
      obtain ⟨request, hContents⟩ := h.claims stem _ hRead
      cases hContents
    · rename_i claimed hRead
      refine steps_locked h hMutex ⟨hRead, fun t' => ?_⟩ rfl
      -- the thread itself holds no claim
      by_cases hEq : t' = t
      · subst hEq
        simp [SpoolState.goto, Pc.holds]
      · simpa [SpoolState.goto, Function.update_of_ne hEq] using hFit stem rfl t'
  | readRecord stem claimed =>
    have hNone := h.record_free hOk.1
    simp only [recoverStep, hNone]
    exact steps_failRecords h hMutex _
  | removeClaim stem => exact hOk.elim

theorem listStep_spec (hPc : s.threads t = .list lease listed) :
    Steps config past s t action (listStep t o lease listed s) := by
  have hMutex : (s.threads t).locked = true := by rw [hPc]; rfl
  unfold listStep
  split
  · exact ⟨_, stepSpec_goto (r := s.unlock) rfl rfl .same trivial (fun _ hSome => by cases hSome)
      (fun hSome => by cases hSome) (h.own_lock hMutex) trivial⟩
  · split
    · exact steps_failRecords h hMutex _
    · rename_i stem _ _ bytes hRead
      exact steps_locked h hMutex ⟨⟨stem, bytes, rfl, hRead⟩, trivial⟩ rfl
    · exact steps_locked h hMutex trivial rfl

end

theorem drainStep_spec (hFit : ∀ record todo, drain.todo = record :: todo → ∀ contents,
      s.files.read (.record record.stem) = some contents → contents = .record record.request) :
    Steps config past s t action (drainStep t o drain s) := by
  unfold drainStep
  split
  · exact steps_free .same trivial rfl rfl trivial
  · rename_i record todo hTodo
    split
    · exact steps_free .same trivial rfl rfl trivial
    · split
      · exact steps_free .same trivial rfl rfl trivial
      · rename_i hThere
        obtain ⟨contents, hRead⟩ := Option.ne_none_iff_exists'.mp (by simpa using hThere)
        obtain rfl := hFit record todo hTodo contents hRead
        refine ⟨.claim { drain with todo := todo } record .register, stepSpec_goto rfl rfl (.claim hRead) ?_ ?_
           (fun hSome => by cases hSome) (fun _ hHeld _ => hHeld) trivial⟩
        · exact (Directory.read_rename hRead _ _).trans (if_pos rfl)
        · rintro stem ⟨⟩
          exact Or.inr ⟨_, hRead⟩

theorem forgetStep_spec {result : Except SpoolError Drain} :
    Steps config past s t action (forgetStep t stem result s) := by
  cases result <;> exact steps_free .same trivial rfl rfl trivial

variable {db : QueueDb}

theorem Stores.known {db' : QueueDb} {message : NewMessage} (h : Stores message db db') {id : String}
    (hKnown : Known db id) : Known db' id := by
  by_contra hUnknown
  cases hStored : stored db id with
  | none => exact stored_eq_none_iff.mp hStored hKnown
  | some identity =>
    rw [← stored_eq_none_iff, h.stored_of_some hStored] at hUnknown
    cases hUnknown

variable (config) in
theorem enqueueRecord_outcome {env : Env} (lease : Option RuntimeWriterLease) (request : Request) :
    Stores (requestMessage config env request) db (enqueueRecord config env lease request db).1 ∧
      ∀ id, (enqueueRecord config env lease request db).2 = .ok id →
        Delivered config (enqueueRecord config env lease request db).1 request := by
  have hKeyed (hAgrees : explicitKeyConflicts db (requestMessage config env request).id
      (requestMessage config env request).kind (requestMessage config env request).sourceHash = false) :
      Delivered config (insertUnlessKnown (requestMessage config env request) db) request :=
    stored_of_known (insertUnlessKnown_stores _ db) (explicitKeyConflicts_eq_false.mp hAgrees)
      (known_insertUnlessKnown _ db)
  cases lease with
  | some lease =>
    simp only [enqueueRecord, enqueueIdempotentWithKeyFailFastFenced]
    split
    · exact ⟨.same rfl rfl, fun id hOk => by cases hOk⟩
    · split
      · exact ⟨.same rfl rfl, fun id hOk => by cases hOk⟩
      · rename_i hAgrees
        exact ⟨insertUnlessKnown_stores _ db, fun _ _ => hKeyed (by simpa using hAgrees)⟩
  | none =>
    simp only [enqueueRecord]
    split
    · rename_i hKind
      have hOutcome : KeyOutcome config.blake3 True none (requestMessage config env request) db
          (returned .enqueued (enqueueIngestWithByteBudget config.queue (.explicitKey request.idempotencyKey)
            (requestMessage config env request) db)) :=
        enqueueIngest_keyOutcome trivial hKind
      refine ⟨hOutcome.stores, fun id hOk => (hOutcome.returns id ?_).2⟩
      simp only [returned, hOk]
      rfl
    · split
      · exact ⟨.same rfl rfl, fun id hOk => by cases hOk⟩
      · rename_i hAgrees
        exact ⟨insertUnlessKnown_stores _ db, fun _ _ => hKeyed (by simpa using hAgrees)⟩

theorem enqueue_spec
    {enqueued : QueueDb × Except QueueError String} (hPc : s.threads t = .claim drain record .enqueue)
    (hClaim : s.files.read (.claim record.stem) = some (.record record.request))
    (hStores : Stores (requestMessage config o.env record.request) s.queue enqueued.1)
    (hDelivered : ∀ id, enqueued.2 = .ok id → Delivered config enqueued.1 record.request) :
    StepSpec config past s t ({ s with queue := enqueued.1 }.goto t (afterEnqueue drain record enqueued.2))
      (.step t' o, .enqueueReturned record.request enqueued.2
        (!queueMessageIdentityExists s.queue (requestMessage config o.env record.request).id &&
          queueMessageIdentityExists enqueued.1 (requestMessage config o.env record.request).id))
      (afterEnqueue drain record enqueued.2) where
  threads := rfl
  files := .same
  known _ hKnown := Stores.known hStores hKnown
  delivered _ hStored := hStores.stored_of_some hStored
  ok := by
    cases hResult : enqueued.2 with
    | ok id => exact ⟨hClaim, hDelivered id hResult⟩
    | error error =>
      cases error with
      | idempotencyConflict => exact ⟨rfl, hClaim, ⟨_, _, List.mem_append_right _ List.mem_cons_self⟩, trivial⟩
      | _ => exact hClaim
  holds stem hSome := by
    rw [hPc]
    left
    cases hResult : enqueued.2 with
    | ok id => simpa [hResult, afterEnqueue, Pc.holds] using hSome
    | error error => cases error <;> simpa [hResult, afterEnqueue, Pc.holds] using hSome
  locked hSome := by
    cases hResult : enqueued.2 with
    | ok id => simp [hResult, afterEnqueue, Pc.locked] at hSome
    | error error => cases error <;> simp [hResult, afterEnqueue, Pc.locked] at hSome
  lock _ hHeld _ := hHeld
  acknowledged _ _ hEvent := by cases hEvent
  created id hId := by
    unfold createdId at hId
    split at hId
    · rename_i hEvent
      cases hId
      injection hEvent with hRequest _ hCreated
      subst hRequest
      obtain ⟨hBefore, hAfter⟩ := Bool.and_eq_true_iff.mp hCreated
      refine ⟨?_, hAfter⟩
      rw [Known, Bool.not_eq_true]
      exact Bool.not_eq_eq_eq_not.mp hBefore
    · cases hId

theorem claimStep_spec {stage : ClaimStage}
    (h : Durable config past s) (hPc : s.threads t = .claim drain record stage) :
    Steps config past s t (.step t' o) (claimStep config t o drain record s stage) := by
  have hOk := h.threads t
  rw [hPc] at hOk
  cases stage with
  | register =>
    refine ⟨_, stepSpec_unlocked .same hOk (fun stem hSome => ?_) rfl trivial⟩
    rw [hPc]
    exact hSome
  | sync =>
    simp only [claimStep]
    split
    · exact steps_free .same trivial rfl rfl trivial
    · exact steps_holding hOk (by rw [hPc]; rfl) rfl
  | enqueue =>
    have hOutcome : ∀ enqueued : QueueDb × Except QueueError String,
        enqueued = (if o.fault then (s.queue, .error .sqlite)
          else enqueueRecord config o.env drain.lease record.request s.queue) →
        Stores (requestMessage config o.env record.request) s.queue enqueued.1 ∧
          ∀ id, enqueued.2 = .ok id → Delivered config enqueued.1 record.request := by
      rintro _ rfl
      split
      · exact ⟨.same rfl rfl, fun id hResult => by cases hResult⟩
      · exact enqueueRecord_outcome config drain.lease record.request
    simp only [claimStep]
    generalize hEnqueued : (if o.fault then (s.queue, .error .sqlite)
      else enqueueRecord config o.env drain.lease record.request s.queue) = enqueued
    obtain ⟨hStores, hDelivered⟩ := hOutcome enqueued hEnqueued.symm
    exact ⟨_, enqueue_spec hPc hOk hStores hDelivered⟩
  | remove =>
    simp only [claimStep]
    split
    · exact steps_free .same trivial rfl rfl trivial
    · exact steps_free (.deliver (by rw [hPc]; rfl) hOk.1 hOk.2) trivial rfl rfl trivial
  | syncRemoved =>
    simp only [claimStep]
    split
    · exact steps_free .same trivial rfl rfl trivial
    · exact steps_free .same trivial rfl rfl trivial

/-- `quarantine` for a drain whose record is in conflict. -/
theorem parkStep_drain_spec (h : Durable config past s)
    (hPc : s.threads t = .park (.drain drain record) file stage)
    (hFit : ∀ dest, stage = .move dest true → s.files.read dest = s.files.read file) :
    Steps config past s t action (parkStep config t o (.drain drain record) file s stage) := by
  have hOk := h.threads t
  rw [hPc] at hOk
  have hGiveUp : Steps config past s t action (Parker.failed (.drain drain record) t s) :=
    steps_free .same trivial rfl rfl trivial
  cases stage with
  | read =>
    obtain ⟨rfl, hRead, hConflict, _⟩ := hOk
    simp only [parkStep, hRead]
    exact steps_holding ⟨rfl, hRead, hConflict.append _, trivial⟩ (by rw [hPc]; rfl) rfl
  | look contents =>
    obtain ⟨rfl, hRead, hConflict, _⟩ := hOk
    refine steps_holding ⟨rfl, hRead, hConflict.append _, ⟨_, rfl⟩, fun hTaken => ?_⟩ (by rw [hPc]; rfl) rfl
    exact Option.not_isSome_iff_eq_none.mp fun hSome => Bool.false_ne_true (hTaken.symm.trans hSome)
  | move dest taken =>
    obtain ⟨rfl, hRead, hConflict, ⟨digest, rfl⟩, hFree⟩ := hOk
    have hHolds : (s.threads t).holds = some record.stem := by rw [hPc]; rfl
    simp only [parkStep]
    split
    · exact hGiveUp
    · have hEffect : Effect config past s t (if taken then s.files.remove (.claim record.stem)
          else s.files.rename (.claim record.stem) (.quarantine (.claim record.stem) digest)) := by
        cases taken with
        | true => exact .parkAgain hHolds hRead ((hFit _ rfl).trans hRead)
        | false => exact .park hHolds hRead hConflict (hFree rfl)
      exact steps_free hEffect trivial rfl rfl trivial
  | sync =>
    simp only [parkStep]
    split
    · exact hGiveUp
    · exact steps_free .same trivial rfl rfl trivial

/-- `quarantine` for the listing, which met an undecodable file. -/
theorem parkStep_listing_spec (h : Durable config past s)
    (hPc : s.threads t = .park (.listing lease listed) file stage) :
    Steps config past s t action (parkStep config t o (.listing lease listed) file s stage) := by
  have hMutex : (s.threads t).locked = true := by rw [hPc]; rfl
  have hOk := h.threads t
  rw [hPc] at hOk
  cases stage with
  | read =>
    obtain ⟨⟨stem, bytes, rfl, hRead⟩, _⟩ := hOk
    simp only [parkStep, hRead]
    exact steps_locked h hMutex ⟨⟨stem, bytes, rfl, hRead⟩, trivial⟩ rfl
  | look contents =>
    obtain ⟨⟨stem, bytes, rfl, hRead⟩, _⟩ := hOk
    refine steps_locked h hMutex ⟨⟨stem, bytes, rfl, hRead⟩, ⟨_, rfl⟩, fun hTaken => ?_⟩ rfl
    exact Option.not_isSome_iff_eq_none.mp fun hSome => Bool.false_ne_true (hTaken.symm.trans hSome)
  | move dest taken =>
    obtain ⟨⟨stem, bytes, rfl, hRead⟩, ⟨digest, rfl⟩, hFree⟩ := hOk
    simp only [parkStep]
    split
    · exact steps_failRecords h hMutex _
    · have hEffect : Effect config past s t (if taken then s.files.remove (.record stem)
          else s.files.rename (.record stem) (.quarantine (.record stem) digest)) := by
        cases taken with
        | true => exact .discardAgain hMutex hRead
        | false => exact .discard hMutex hRead (hFree rfl)
      exact ⟨_, stepSpec_locked h hMutex hEffect trivial rfl⟩
  | sync =>
    simp only [parkStep]
    split
    · exact steps_failRecords h hMutex _
    · exact steps_locked h hMutex trivial rfl

theorem releaseStep_spec {error : QueueError}
    {stage : ReleaseStage} (h : Durable config past s) (hPc : s.threads t = .release record error stage) :
    Steps config past s t action (releaseStep t o record error s stage) := by
  have hOk := h.threads t
  rw [hPc] at hOk
  cases stage with
  | checkRecord =>
    have hNone := h.record_free hOk
    simp only [releaseStep, hNone]
    exact steps_holding hOk (by rw [hPc]; rfl) rfl
  | restore =>
    simp only [releaseStep]
    split
    · exact steps_free .same trivial rfl rfl trivial
    · exact steps_free (.unclaim hOk (Or.inl (by rw [hPc]; rfl))) trivial rfl rfl trivial
  | readClaim | readRecord | remove => exact hOk.elim
  | forget released =>
    simp only [releaseStep]
    split
    · exact steps_free .same trivial rfl rfl trivial
    · exact steps_free .same trivial rfl rfl trivial
  | sync => exact steps_free .same trivial rfl rfl trivial

end Step

end Config

end Mempal.Spool

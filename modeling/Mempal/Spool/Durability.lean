import Mempal.Spool.Stages

set_option autoImplicit false

/-! The invariant holds in the runs where three checks of the spool are still true when it acts on them: that nothing
stands under the name an append publishes, that a record is the one that was listed when it is claimed, and that a
claim to be recovered belongs to no drain under way. -/

namespace Mempal.Spool

open Foundation Queue

variable {action : SpoolAction}

section Config
variable {config : SpoolConfig}

section Step
variable {past : List (SpoolAction × Event)} {s : SpoolState} {t : Nat} {pc : Pc}

theorem PcOk.append (hOk : PcOk config past s pc) (event : SpoolAction × Event) :
    PcOk config (past ++ [event]) s pc := by
  cases pc with
  | park parker file stage =>
    cases parker with
    | drain drain record =>
      cases stage with
      | sync => trivial
      | _ => exact ⟨hOk.1, hOk.2.1, hOk.2.2.1.append event, hOk.2.2.2⟩
    | listing lease listed => cases stage <;> exact hOk
    | recovery lease known => exact hOk
  | append _ stage | recover _ _ _ stage | claim _ _ stage | release _ _ stage => cases stage <;> exact hOk
  | _ => trivial

section
variable (h : Durable config past s)
include h

theorem Durable.wait (action : SpoolAction) : Durable config (past ++ [(action, .quiet)]) s where
  exclusive := h.exclusive
  claims := h.claims
  parked file digest request hRead := (h.parked file digest request hRead).append _
  threads t := (h.threads t).append _
  holders := h.holders
  locked := h.locked
  acknowledged action' request outcome hMem := by
    rcases List.mem_append.mp hMem with hBefore | hNow
    · exact h.acknowledged action' request outcome hBefore
    · cases List.mem_singleton.mp hNow
  created := by
    rw [List.filterMap_append]
    exact (List.append_nil _).symm ▸ h.created
  known := by
    rw [List.filterMap_append]
    exact (List.append_nil _).symm ▸ h.known

theorem Durable.crash : Durable config (past ++ [(.crash, .quiet)])
      { s with appendLock := none, activeClaims := ∅, threads := fun _ => .idle } :=
  { h.wait .crash with
    threads := fun _ => trivial
    holders := fun _ _ _ hSome => by cases hSome
    locked := fun _ hSome => by cases hSome }

theorem beginCall_durable (hOk : ∀ past s, PcOk config past s pc) (hHolds : pc.holds = none) :
    Durable config (past ++ [(action, (beginCall t pc s).2)]) (beginCall t pc s).1 := by
  unfold beginCall
  split
  · rename_i hIdle hFree
    refine h.step (stepSpec_goto (r := { s with appendLock := some t }) rfl rfl .same (hOk _ _) ?_ (fun _ => rfl) ?_
      trivial)
    · intro stem hSome
      rw [hHolds] at hSome
      cases hSome
    · intro t' hHeld
      rw [hFree] at hHeld
      cases hHeld
  · exact h.wait action

theorem threadStep_durable {o : Outside} (hFit : Respects config s (.step t o)) :
    Durable config (past ++ [(.step t o, (threadStep config t o s).2)]) (threadStep config t o s).1 := by
  unfold threadStep
  simp only [Respects] at hFit
  cases hPc : s.threads t with
  | idle => exact h.wait (.step t o)
  | append request stage =>
    refine h.steps (appendStep_spec h hPc fun hStage => ?_)
    simpa [hPc, hStage] using hFit
  | recover lease known recovered stage =>
    exact h.steps (recoverStep_spec h hPc (by simpa [hPc] using hFit))
  | list lease listed => exact h.steps (listStep_spec h hPc)
  | drain drain =>
    refine h.steps (drainStep_spec fun record todo hTodo => ?_)
    obtain ⟨lease, drained, _⟩ := drain
    cases hTodo
    simpa [hPc] using hFit
  | claim drain record stage => exact h.steps (claimStep_spec h hPc)
  | park parker file stage =>
    cases parker with
    | recovery lease known =>
      have hOk := h.threads t
      rw [hPc] at hOk
      exact hOk.elim
    | listing lease listed => exact h.steps (parkStep_listing_spec h hPc)
    | drain drain record =>
      refine h.steps (parkStep_drain_spec h hPc fun dest hStage => ?_)
      subst hStage
      simpa [hPc] using hFit
  | forget stem result => exact h.steps forgetStep_spec
  | release record error stage => exact h.steps (releaseStep_spec h hPc)

theorem next_durable (hFit : Respects config s action) :
    Durable config (past ++ [(action, (spoolMachine config).output s action)])
      ((spoolMachine config).next s action) := by
  cases action with
  | append | drain => exact beginCall_durable h (fun _ _ => trivial) rfl
  | step t o => exact threadStep_durable h hFit
  | crash => exact h.crash

end

end Step

/-- A spool before its first call: nothing but record files, of whatever contents, and any queue. -/
def startState (files : Directory File Contents) (queue : QueueDb) : SpoolState :=
  ⟨files, queue, none, ∅, fun _ => .idle⟩

variable (config) in
theorem start_durable {files : Directory File Contents} {queue : QueueDb}
    (hFiles : ∀ file contents, files.read file = some contents → ∃ stem, file = .record stem) :
    Durable config [] (startState files queue) := by
  have hNone : ∀ file, (∀ stem, file ≠ .record stem) → files.read file = none := by
    intro file hOther
    by_contra hSome
    obtain ⟨contents, hRead⟩ := Option.ne_none_iff_exists'.mp hSome
    obtain ⟨stem, hFile⟩ := hFiles file contents hRead
    exact hOther stem hFile
  constructor
  · exact fun stem => Or.inr (hNone _ (by simp))
  · intro stem contents hRead
    rw [show (startState files queue).files = files from rfl, hNone _ (by simp)] at hRead
    cases hRead
  · intro file digest request hRead
    rw [show (startState files queue).files = files from rfl, hNone _ (by simp)] at hRead
    cases hRead
  · exact fun _ => trivial
  · exact fun _ _ _ hSome => by cases hSome
  · exact fun _ hSome => by cases hSome
  · exact fun _ _ _ hMem => by cases hMem
  · exact List.nodup_nil
  · exact fun _ hMem => by cases hMem

variable (config) in
/-- In a run whose steps find what they have to, at every point: an acknowledged record is in a file or in the
queue; a record in quarantine was reported as a conflict; and no message was created twice. -/
theorem acknowledged_records_kept (files : Directory File Contents) (queue : QueueDb)
    (hFiles : ∀ file contents, files.read file = some contents → ∃ stem, file = .record stem)
    (actions past future : List SpoolAction) (hSplit : actions = past ++ future)
    (hFit : (spoolMachine config).Along (Respects config) (startState files queue) actions) :
    let trace := (spoolMachine config).trace (startState files queue) past
    let final := (spoolMachine config).final (startState files queue) past
    (∀ action request outcome, (action, Event.appendReturned request (.ok outcome)) ∈ trace →
      Safe config final request) ∧
    (∀ file digest request, final.files.read (.quarantine file digest) = some (.record request) →
      Conflicted trace request) ∧
    (trace.filterMap (createdId config)).Nodup := by
  subst hSplit
  have hPast := (((spoolMachine config).along_append _ past future).mp hFit).1
  have hDurable := Machine.invariant_trace (m := spoolMachine config) (P := Respects config) (I := Durable config)
    (fun _ _ _ h hOp => next_durable h hOp) (start_durable config hFiles) hPast
  exact ⟨hDurable.acknowledged, hDurable.parked, hDurable.created⟩

end Config

def plainConfig : SpoolConfig where
  blake3 bytes := String.ofList (bytes.map fun byte => Char.ofNat byte.toNat)
  encode request := utf8 request.payload
  maxBytes := 1000
  queue := .default

def firstRecord : Request := ⟨"hook_user_prompt", "one", "key"⟩

def secondRecord : Request := ⟨"hook_user_prompt", "two", "key"⟩

def goesOn (t : Nat) : SpoolAction := .step t ⟨false, none, 0, quietEnv 0⟩

def fails (t : Nat) : SpoolAction := .step t ⟨true, none, 0, quietEnv 0⟩

def meets (t : Nat) : SpoolAction := .step t ⟨false, some (recordStem plainConfig firstRecord), 0, quietEnv 0⟩

def appends (t : Nat) (request : Request) : List SpoolAction :=
  .append t request :: List.replicate 5 (goesOn t)

def lists (t : Nat) : List SpoolAction := [.drain t none, goesOn t, meets t, goesOn t]

def respectsUnrecovered (config : SpoolConfig) (s : SpoolState) : SpoolAction → Bool
  | .step t _ =>
    match s.threads t with
    | .append request .publish =>
      (s.files.read (.record (recordStem config request))).isNone &&
        (s.files.read (.claim (recordStem config request))).isNone
    | .drain ⟨_, _, record :: _⟩ => (s.files.read (.record record.stem)).all (· = .record record.request)
    | .recover _ _ _ stage => stage.stem.isNone
    | .park (.drain _ _) file (.move dest true) => s.files.read dest = s.files.read file
    | _ => true
  | _ => true

theorem respects_of_unrecovered {config : SpoolConfig} {s : SpoolState} (h : respectsUnrecovered config s action = true) :
    Respects config s action := by
  cases action with
  | step t o =>
    simp only [respectsUnrecovered] at h
    simp only [Respects]
    cases hPc : s.threads t with
    | append request stage => cases stage <;> simp_all
    | recover lease known recovered stage => simp_all
    | drain drain =>
      obtain ⟨lease, drained, todo⟩ := drain
      cases todo with
      | nil => trivial
      | cons record todo =>
        simp only [hPc] at h
        intro contents hRead
        simpa [hRead] using h
    | park parker file stage =>
      cases parker with
      | drain drain record =>
        cases stage with
        | move dest taken => cases taken <;> simp_all
        | _ => trivial
      | _ => trivial
    | _ => trivial
  | _ => trivial

def deliveringRun : List SpoolAction := appends 0 firstRecord ++ lists 1 ++ List.replicate 8 (goesOn 1)

theorem deliveringRun_keeps :
    let final := (spoolMachine plainConfig).final (startState Table.empty .empty) deliveringRun
    Safe plainConfig final firstRecord ∧ final.files.rows = [] := by
  have hFit : (spoolMachine plainConfig).Along (fun s a => respectsUnrecovered plainConfig s a = true)
      (startState Table.empty .empty) deliveringRun := by decide +kernel
  have hKept := acknowledged_records_kept plainConfig Table.empty .empty (fun _ _ hRead => by cases hRead)
    deliveringRun deliveringRun [] (List.append_nil _).symm
    ((spoolMachine plainConfig).along_mono (fun _ _ => respects_of_unrecovered) hFit)
  have hAppended : Event.appendReturned firstRecord (.ok .appended) ∈
      ((spoolMachine plainConfig).trace (startState Table.empty .empty) deliveringRun).map Prod.snd := by
    decide +kernel
  obtain ⟨⟨action, _⟩, hMem, rfl⟩ := List.mem_map.mp hAppended
  exact ⟨hKept.1 action firstRecord _ hMem, by decide +kernel⟩

/-- Two drains list a record; the second to claim takes the one that came after it and delivers the listed one. -/
def staleListing : List SpoolAction :=
  appends 0 firstRecord ++ lists 1 ++ lists 2 ++ List.replicate 7 (goesOn 2) ++ appends 0 secondRecord ++
    List.replicate 5 (goesOn 1)

/-- A failed drain puts its record back between the two checks of an append, which then replaces it. -/
def replacedRelease : List SpoolAction :=
  appends 0 firstRecord ++ lists 1 ++ List.replicate 3 (goesOn 1) ++ [fails 1] ++
    [.append 0 secondRecord, goesOn 0] ++ List.replicate 2 (goesOn 1) ++ List.replicate 4 (goesOn 0)

/-- A claim is recovered before it is registered, so that two drains use one claim file. -/
def sharedClaim : List SpoolAction :=
  appends 0 firstRecord ++ lists 1 ++ [goesOn 1] ++
    [.drain 2 none, meets 2, goesOn 2, goesOn 2, goesOn 2, meets 2, goesOn 2] ++ List.replicate 3 (goesOn 2) ++
    List.replicate 6 (goesOn 1) ++ appends 0 secondRecord ++ lists 3 ++ [goesOn 3] ++ List.replicate 2 (goesOn 2)

def Loses (request : Request) (actions : List SpoolAction) : Prop :=
  Event.appendReturned request (.ok .appended) ∈
    ((spoolMachine plainConfig).trace (startState Table.empty .empty) actions).map Prod.snd ∧
  ¬ Safe plainConfig ((spoolMachine plainConfig).final (startState Table.empty .empty) actions) request

instance (request : Request) (actions : List SpoolAction) : Decidable (Loses request actions) :=
  inferInstanceAs (Decidable (_ ∧ _))

theorem raced_runs_lose :
    Loses secondRecord staleListing ∧ Loses firstRecord replacedRelease ∧ Loses secondRecord sharedClaim := by
  decide +kernel

end Mempal.Spool

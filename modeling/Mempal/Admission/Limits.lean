import Mempal.Admission.Steps
import Mempal.Foundation.Digits

set_option autoImplicit false

/-! In every run from an empty profile the recorded holders keep to the limits, a living admission keeps its row and its
lease, generations increase, and an acquire that is not disturbed counts the living holders only. -/

namespace Mempal.Admission

open Foundation

variable {host : Host} {config : DbAdmissionConfig} {legacy : HolderLiveness} {s t u : System}

def Runs (host : Host) (config : DbAdmissionConfig) (legacy : HolderLiveness) (s t : System) : Prop :=
  ∃ n, (admissionMachine host config).final s (List.replicate n (.advance .ok legacy)) = t

theorem Runs.trans (h : Runs host config legacy s t) (h' : Runs host config legacy t u) :
    Runs host config legacy s u := by
  obtain ⟨n, rfl⟩ := h
  obtain ⟨n', rfl⟩ := h'
  exact ⟨n + n', by rw [List.replicate_add, Machine.final_append]⟩

variable {c : Critical} {reaped : ReapedHolders}

theorem Runs.step (hCritical : s.critical = some c) :
    Runs host config legacy s (advanceStep host config .ok legacy s c).1 := by
  refine ⟨1, ?_⟩
  simp [admissionMachine, Machine.next, hCritical]

def System.heldAt (s : System) (path : String) : Bool :=
  (s.leases.read path).any fun inode => s.admissions.any (·.inode = inode)

structure Swept (s t : System) : Prop where
  file : t.file = s.file
  heldAt : ∀ path, t.heldAt path = s.heldAt path

theorem locked_eq {inode : Nat} (hCritical : s.critical = some c) (hStage : c.stage.lease = none) :
    s.locked inode = s.admissions.any (·.inode = inode) := by
  simp [System.locked, hCritical, hStage]

theorem removeUnreferencedLease_swept {critical : Option Critical} (hCritical : s.critical = some c)
    (hStage : c.stage.lease = none) (path : String) :
    Swept s { removeUnreferencedLease .ok path s with critical := critical } := by
  unfold removeUnreferencedLease
  cases hRead : s.leases.read path with
  | none => exact ⟨rfl, fun _ => rfl⟩
  | some inode =>
    dsimp only
    split
    · exact ⟨rfl, fun _ => rfl⟩
    · rename_i hFree
      rw [locked_eq hCritical hStage, Bool.not_eq_true] at hFree
      refine ⟨rfl, fun other => ?_⟩
      unfold System.heldAt
      rw [Directory.read_remove]
      split
      · rename_i hSame
        rw [← hSame, hRead]
        exact hFree.symm
      · rfl

theorem Swept.trans (h : Swept s t) (h' : Swept t u) : Swept s u :=
  ⟨h'.file.trans h.file, fun path => (h'.heldAt path).trans (h.heldAt path)⟩

section Acquire
variable {pid unixSecs : Nat} {request : DbAdmissionRequest} {processIdentity : String} {state : AdmissionState}
  {rest : List String}

theorem sweep_runs
    (hCritical : s.critical = some ⟨pid, .acquire request processIdentity unixSecs, .sweep state rest⟩) :
    ∃ t, Runs host config legacy s t ∧ Swept s t ∧
      t.critical = some ⟨pid, .acquire request processIdentity unixSecs, .reap state [] state.holders ⟨0, []⟩⟩ := by
  induction rest generalizing s with
  | nil => exact ⟨_, Runs.step hCritical, ⟨rfl, fun _ => rfl⟩, rfl⟩
  | cons path rest ih =>
    obtain ⟨s₁, hStep, hNext, hSwept₁⟩ : ∃ s₁, Runs host config legacy s s₁ ∧
        s₁.critical = some ⟨pid, .acquire request processIdentity unixSecs, .sweep state rest⟩ ∧ Swept s s₁ :=
      ⟨_, Runs.step hCritical, rfl, removeUnreferencedLease_swept hCritical rfl path⟩
    obtain ⟨t, hRuns, hSwept, hAt⟩ := ih hNext
    exact ⟨t, hStep.trans hRuns, hSwept₁.trans hSwept, hAt⟩

variable {call : Call}

theorem sweepReaped_runs
    (hCritical : s.critical = some ⟨pid, call, .sweepReaped state rest reaped⟩) :
    ∃ t, Runs host config legacy s t ∧
      t.critical = some ⟨pid, call, .settle state reaped⟩ := by
  induction rest generalizing s with
  | nil => exact ⟨_, Runs.step hCritical, rfl⟩
  | cons path rest ih =>
    obtain ⟨s₁, hStep, hNext⟩ : ∃ s₁, Runs host config legacy s s₁ ∧
        s₁.critical = some ⟨pid, call, .sweepReaped state rest reaped⟩ :=
      ⟨_, Runs.step hCritical, rfl⟩
    obtain ⟨t, hRuns, hAt⟩ := ih hNext
    exact ⟨t, hStep.trans hRuns, hAt⟩

theorem persist_runs
    (hCritical : s.critical = some ⟨pid, call, .persist state reaped⟩) :
    ∃ t, Runs host config legacy s t ∧
      t.critical = some ⟨pid, call, .settle state reaped⟩ := by
  cases hReaped : reaped.reapedStaleHoldersThisSnapshot with
  | zero =>
    refine ⟨_, Runs.step hCritical, ?_⟩
    simp [advanceStep, hReaped, System.goto]
  | succ count =>
    obtain ⟨s₁, hStep, hNext⟩ : ∃ s₁, Runs host config legacy s s₁ ∧ s₁.critical =
        some ⟨pid, call,
          .sweepReaped state (unreferencedLeases host { s with file := state } state.holders) reaped⟩ := by
      refine ⟨_, Runs.step hCritical, ?_⟩
      simp [advanceStep, hReaped, saveState, System.goto]
    obtain ⟨t, hRuns, hAt⟩ := sweepReaped_runs hNext
    exact ⟨t, hStep.trans hRuns, hAt⟩

theorem holderLiveness_eq (hCritical : s.critical = some c) (hStage : c.stage.lease = none)
    {holder : DbAdmissionHolder} (hVersion : holder.leaseVersion = 1) :
    holderLiveness host s .ok legacy holder =
      if s.heldAt (host.leasePath holder.token) then .live else .dead := by
  unfold holderLiveness holderLeaseLiveness System.heldAt
  rw [hVersion]
  cases s.leases.read (host.leasePath holder.token) with
  | none => rfl
  | some inode => simp [locked_eq hCritical hStage]

theorem reap_runs {rest kept : List DbAdmissionHolder} (hVersion : ∀ holder ∈ rest, holder.leaseVersion = 1)
    (hCritical : s.critical = some ⟨pid, call, .reap state kept rest reaped⟩) :
    ∃ t reaped', Runs host config legacy s t ∧
      t.critical = some ⟨pid, call, .persist { state with
        holders := kept ++ rest.filter fun holder => s.heldAt (host.leasePath holder.token) } reaped'⟩ := by
  induction rest generalizing s kept reaped with
  | nil => exact ⟨_, reaped, Runs.step hCritical, by rw [List.filter_nil, List.append_nil]; rfl⟩
  | cons holder rest ih =>
    have hProbe : holderLiveness host s .ok legacy holder = _ :=
      holderLiveness_eq hCritical rfl (hVersion holder List.mem_cons_self)
    let probed := reapOne holder kept reaped (holderLiveness host s .ok legacy holder)
    obtain ⟨s₁, hStep, hNext, hHeld⟩ : ∃ s₁, Runs host config legacy s s₁ ∧ s₁.critical =
        some ⟨pid, call, .reap state probed.1 rest probed.2⟩ ∧
        ∀ path, s₁.heldAt path = s.heldAt path := ⟨_, Runs.step hCritical, rfl, fun _ => rfl⟩
    obtain ⟨t, reaped', hRuns, hAt⟩ := ih (fun row hRow => hVersion row (List.mem_cons_of_mem _ hRow)) hNext
    refine ⟨t, reaped', hStep.trans hRuns, hAt.trans ?_⟩
    have hKept : probed.1 = if s.heldAt (host.leasePath holder.token) then kept ++ [holder] else kept := by
      simp only [probed, hProbe]
      split <;> rfl
    simp only [hHeld]
    rw [hKept, List.filter_cons]
    split
    · rw [List.append_assoc, List.singleton_append]
    · rfl

theorem acquire_counts_live (h : Kept host config s) (hFree : s.critical = none)
    (hValid : validateRequest request config = .ok ()) (legacy : HolderLiveness) :
    ∃ n reaped, ((admissionMachine host config).final s
      (.begin pid (.acquire request processIdentity unixSecs) :: List.replicate n (.advance .ok legacy))).critical =
        some ⟨pid, .acquire request processIdentity unixSecs, .settle { s.file with
          holders := s.file.holders.filter fun holder => s.heldAt (host.leasePath holder.token) } reaped⟩ := by
  let call : Call := .acquire request processIdentity unixSecs
  let s₀ : System := { s with critical := some ⟨pid, call, .sweepStaged⟩ }
  have hBegin : (admissionMachine host config).next s (.begin pid call) = s₀ := by
    simp [admissionMachine, Machine.next, beginStep, call, hValid, hFree, s₀]
  obtain ⟨s₁, hLoad, hAt₁, hSwept₁⟩ : ∃ s₁, Runs host config legacy s₀ s₁ ∧
      s₁.critical = some ⟨pid, call, .load⟩ ∧ Swept s s₁ := ⟨_, Runs.step rfl, rfl, rfl, fun _ => rfl⟩
  obtain ⟨s₂, hSweep, hAt₂, hSwept₂⟩ : ∃ s₂, Runs host config legacy s₁ s₂ ∧ s₂.critical =
      some ⟨pid, call, .sweep s₁.file (unreferencedLeases host s₁ s₁.file.holders)⟩ ∧ Swept s₁ s₂ :=
    ⟨_, Runs.step hAt₁, rfl, rfl, fun _ => rfl⟩
  obtain ⟨s₃, hReap, hSwept₃, hAt₃⟩ : ∃ s₃, Runs host config legacy s₂ s₃ ∧ _ := sweep_runs hAt₂
  obtain ⟨s₄, reaped, hPersist, hAt₄⟩ : ∃ s₄ reaped, Runs host config legacy s₃ s₄ ∧ _ :=
    reap_runs (by rw [hSwept₁.file]; exact h.version) hAt₃
  obtain ⟨s₅, hSettle, hAt₅⟩ : ∃ s₅, Runs host config legacy s₄ s₅ ∧ _ := persist_runs hAt₄
  obtain ⟨n, hN⟩ := hLoad.trans (hSweep.trans (hReap.trans (hPersist.trans hSettle)))
  refine ⟨n, reaped, ?_⟩
  have hHeld := ((hSwept₁.trans hSwept₂).trans hSwept₃).heldAt
  rw [Machine.final_cons, hBegin, hN, hAt₅]
  simp only [hHeld, hSwept₁.file, List.nil_append]

end Acquire

def Precedes (e : Action × Event) (s : System) : Prop :=
  ∀ a, e.2 = .acquired a → a.generation ≤ s.file.nextGeneration

section Run
variable (hHolders : config.maxHolders < u64Max) (hCache : config.maxCacheBytes < u64Max) {actions : List Action}
  (hPaths : (admissionMachine host config).Along (fun s _ => LeasesApart host s) emptySystem actions)
include hHolders hCache hPaths

theorem run_sound : Sound host config ((admissionMachine host config).final emptySystem actions) :=
  Machine.invariant_along (P := fun s _ => LeasesApart host s)
    (fun _ action h hApart => (step_ok hHolders hCache hApart h action).sound) emptySystem_sound hPaths

theorem generations_increase :
    ((admissionMachine host config).trace emptySystem actions).Pairwise fun e e' =>
      ∀ a a', e.2 = .acquired a → e'.2 = .acquired a' → a'.generation < u64Max → a.generation < a'.generation := by
  have hLeave : ∀ s action, Sound host config s → LeasesApart host s →
      Precedes (action, (admissionMachine host config).output s action) ((admissionMachine host config).next s action) :=
    fun s action h hApart a hOut => ((step_ok hHolders hCache hApart h action).acquired a hOut).last.le
  refine Machine.pairwise_trace_along (P := fun s _ => LeasesApart host s)
    (fun s action h hApart => (step_ok hHolders hCache hApart h action).sound) hLeave ?_ ?_ emptySystem_sound hPaths
  · exact fun e s action h hApart hAfter a hOut =>
      (hAfter a hOut).trans (step_ok hHolders hCache hApart h action).grows
  · intro e s action h hApart hAfter a a' hOut hOut' hBelow
    exact (hAfter a hOut).trans_lt (((step_ok hHolders hCache hApart h action).acquired a' hOut').fresh hBelow)

end Run

theorem locked_of_mem {a : ProfileDbAdmission} (hMem : a ∈ s.admissions) : s.locked a.inode = true := by
  unfold System.locked
  rw [Bool.or_eq_true]
  exact Or.inl (List.any_eq_true.mpr ⟨a, hMem, by simp⟩)

/-- The admission limits, for limits that the saturating sums cannot reach (`acquire` passes 16 and 256 MiB), in a run
whose tokens in use have leases of different names. -/
theorem admission_limits (host : Host) (config : DbAdmissionConfig) (hHolders : config.maxHolders < u64Max)
    (hCache : config.maxCacheBytes < u64Max) (actions : List Action)
    (hPaths : (admissionMachine host config).Along (fun s _ => LeasesApart host s) emptySystem actions) :
    let m := admissionMachine host config
    let s := m.final emptySystem actions
    -- a living admission keeps its row, and its lease file stays and stays locked
    (s.file.nextGeneration < u64Max → ∀ a ∈ s.admissions, a.releasing = false →
      (∃ holder ∈ s.file.holders, matchesAdmission a holder = true) ∧
      s.leases.read (host.leasePath a.token) = some a.inode ∧ s.locked a.inode = true) ∧
    s.file.holders.length ≤ config.maxHolders ∧
    (s.file.holders.map (·.configuredCacheBytes)).sum ≤ config.maxCacheBytes ∧
    (∀ past action future a, actions = past ++ action :: future →
      m.output (m.final emptySystem past) action = .acquired a →
        let after := m.next (m.final emptySystem past) action
        ∃ holder ∈ after.file.holders, matchesAdmission a holder = true ∧
          (holder.holderClass.isServiceHolder = false →
            after.file.holders.length + config.reservedServiceHolders ≤ config.maxHolders)) ∧
    (m.trace emptySystem actions).Pairwise (fun e e' => ∀ a a', e.2 = .acquired a → e'.2 = .acquired a' →
      a'.generation < u64Max → a.generation < a'.generation) ∧
    -- the next acquire counts the holders whose locks are held, and no others
    (s.critical = none → ∀ pid request processIdentity unixSecs legacy, validateRequest request config = .ok () →
      ∃ n reaped, (m.final s (.begin pid (.acquire request processIdentity unixSecs) ::
        List.replicate n (.advance .ok legacy))).critical =
          some ⟨pid, .acquire request processIdentity unixSecs, .settle { s.file with
            holders := s.file.holders.filter fun holder => s.heldAt (host.leasePath holder.token) } reaped⟩) := by
  intro m s
  have h : Sound host config s := run_sound hHolders hCache hPaths
  refine ⟨?_, h.kept.fits.count, h.kept.fits.cache, ?_, generations_increase hHolders hCache hPaths, ?_⟩
  · intro hBelow a hMem hLive
    exact ⟨h.kept.covers hBelow a hMem hLive, h.kept.held hBelow a hMem hLive, locked_of_mem hMem⟩
  · rintro past action future a rfl hOut
    obtain ⟨hPast, hApart, _⟩ := (Machine.along_append _ _ _ _).mp hPaths
    exact ((step_ok hHolders hCache hApart (run_sound hHolders hCache hPast) action).acquired a hOut).recorded
  · intro hFree pid request processIdentity unixSecs legacy hValid
    exact acquire_counts_live h.kept hFree hValid legacy

def plainHost : Host :=
  ⟨".palace.db.admission.json", fun bytes =>
    Digits.padded 16 24 (bytes.foldl (fun sum byte => (sum * 257 + byte.toNat) % 16 ^ 24) 0)⟩

def crashedRun : List Action :=
  let steps (n : Nat) : List Action := List.replicate n (.advance .ok .live)
  .begin 1 (.acquire ⟨.cli, 1, 1024⟩ "p" 5) :: steps 9 ++ .begin 2 (.acquire ⟨.mcp, 1, 1024⟩ "q" 6) :: steps 10 ++
    .die 1 :: .begin 3 (.acquire ⟨.hook, 2, 4096⟩ "r" 7) :: steps 13

theorem crashedRun_limited :
    let s := (admissionMachine plainHost .default).final emptySystem crashedRun
    (s.file.holders.map (·.pid) = [2, 3] ∧ s.file.holders.length ≤ 16) ∧
      (s.file.holders.map (·.configuredCacheBytes)).sum ≤ 256 * 1024 * 1024 := by
  have h := admission_limits plainHost .default (by decide) (by decide) crashedRun (by decide +kernel)
  exact ⟨⟨by decide +kernel, h.2.1⟩, h.2.2.1⟩

end Mempal.Admission

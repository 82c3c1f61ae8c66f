import Mempal.Admission.Invariant

set_option autoImplicit false

/-! Every file operation keeps the invariant: a lease whose lock is held answers as live and is not swept, the copy of the
state that is published covers every admission that is not being released, and only `publish` hands out a generation.
-/

namespace Mempal.Admission

open Foundation

variable {host : Host} {config : DbAdmissionConfig} {s s' : System} {state : AdmissionState}

structure Admitted (config : DbAdmissionConfig) (s s' : System) (a : ProfileDbAdmission) : Prop where
  last : a.generation = s'.file.nextGeneration
  fresh : a.generation < u64Max → s.file.nextGeneration < a.generation
  recorded : ∃ holder ∈ s'.file.holders, matchesAdmission a holder = true ∧
    Spares config holder s'.file.holders.length

structure StepOk (host : Host) (config : DbAdmissionConfig) (s : System) (r : System × Event) : Prop where
  sound : Sound host config r.1
  grows : s.file.nextGeneration ≤ r.1.file.nextGeneration
  acquired : ∀ a, r.2 = .acquired a → Admitted config s r.1 a

theorem Shrinks.critical (s : System) (critical : Option Critical) : Shrinks s { s with critical := critical } :=
  ⟨rfl, rfl, rfl, List.Sublist.refl _, fun a hMem => ⟨a, hMem, Or.inl rfl⟩⟩

variable {event : Event} {stage : Stage} {io : Io} {a : ProfileDbAdmission}

theorem StepOk.same (h : Sound host config s) (hEvent : ∀ a, event ≠ .acquired a) : StepOk host config s (s, event) :=
  ⟨h, Nat.le_refl _, fun a hEq => absurd hEq (hEvent a)⟩

theorem StepOk.leave (hKept : Kept host config s') (hGrows : s.file.nextGeneration ≤ s'.file.nextGeneration)
    (hEvent : ∀ a, event ≠ .acquired a) : StepOk host config s (s'.leave event) where
  sound := ⟨hKept.shrinks (Shrinks.critical s' none), by rintro _ ⟨⟩, by rintro _ ⟨⟩⟩
  grows := hGrows
  acquired a hEq := absurd hEq (hEvent a)

variable {c : Critical} {path : String} {inode : Nat}

theorem StepOk.goto (hRelease : ReleaseOk s c.call) (hKept : Kept host config s')
    (hStage : StageOk host config s' stage) (hAdmissions : s'.admissions = s.admissions)
    (hGrows : s.file.nextGeneration ≤ s'.file.nextGeneration) : StepOk host config s (s'.goto c stage) where
  sound := by
    refine ⟨hKept.shrinks (Shrinks.critical s' _), ?_, ?_⟩
    · rintro _ ⟨⟩
      exact hStage.shrinks (Shrinks.critical s' _)
    · rintro _ ⟨⟩
      exact hRelease.mono hGrows fun a hMem _ => hAdmissions ▸ hMem
  grows := hGrows
  acquired := by rintro _ ⟨⟩

theorem Local.frame (h : Local s state) (hFile : s'.file = s.file) (hAdmissions : s'.admissions = s.admissions) :
    Local s' state where
  next := by rw [hFile]; exact h.next
  rows := by rw [hFile]; exact h.rows
  covers := by
    unfold Covers Below
    rw [hFile, hAdmissions]
    exact h.covers

theorem Kept.save (h : Kept host config s) (hLocal : Local s state) : Kept host config { s with file := state } := by
  have hBelow : Below { s with file := state } → Below s := by
    unfold Below
    rw [← hLocal.next]
    exact id
  exact
    { h with
      range := hLocal.next.trans_le h.range
      fits := h.fits.sublist hLocal.rows
      version := fun holder hMem => h.version holder (hLocal.rows.subset hMem)
      generation := fun a hMem => (h.generation a hMem).trans_eq hLocal.next.symm
      distinct := fun hB => h.distinct (hBelow hB)
      covers := fun hB => hLocal.covers (hBelow hB)
      held := fun hB => h.held (hBelow hB) }

theorem Local.saved (hLocal : Local s state) : Local { s with file := state } state where
  next := rfl
  rows := List.Sublist.refl _
  covers hB := hLocal.covers (by unfold Below at hB ⊢; rwa [← hLocal.next])

theorem Kept.remove (h : Kept host config s) (hUnneeded : Unneeded host s path) :
    Kept host config { s with leases := s.leases.remove path } :=
  { h with
    held := fun hBelow a hMem hLive => by
      rw [Directory.read_remove, if_neg (hUnneeded hBelow a hMem hLive).symm]
      exact h.held hBelow a hMem hLive }

theorem Kept.unneeded (h : Kept host config s) (hRead : s.leases.read path = some inode)
    (hUnused : ∀ a ∈ s.admissions, a.inode ≠ inode) : Unneeded host s path := by
  rintro hBelow a hMem hLive rfl
  rw [h.held hBelow a hMem hLive, Option.some.injEq] at hRead
  exact hUnused a hMem hRead

theorem unused_of_unlocked (h : ¬ s.locked inode = true) : ∀ a ∈ s.admissions, a.inode ≠ inode := by
  intro a hMem hEq
  apply h
  unfold System.locked
  rw [Bool.or_eq_true]
  left
  rw [List.any_eq_true]
  exact ⟨a, hMem, by simpa using hEq⟩

theorem removeUnreferencedLease_spec (h : Kept host config s) (path : String) :
    Kept host config (removeUnreferencedLease io path s) ∧ (removeUnreferencedLease io path s).file = s.file ∧
      (removeUnreferencedLease io path s).admissions = s.admissions := by
  unfold removeUnreferencedLease
  split
  · exact ⟨h, rfl, rfl⟩
  · exact ⟨h, rfl, rfl⟩
  all_goals
    split
    · exact ⟨h, rfl, rfl⟩
    · rename_i inode hRead
      split
      · exact ⟨h, rfl, rfl⟩
      · rename_i hFree
        exact ⟨h.remove (h.unneeded hRead (unused_of_unlocked hFree)), rfl, rfl⟩

theorem holderLiveness_ne_dead {legacy : HolderLiveness} (h : Kept host config s) (hBelow : Below s)
    (hMem : a ∈ s.admissions) (hLive : a.releasing = false) {holder : DbAdmissionHolder}
    (hMatches : matchesAdmission a holder = true) (hVersion : holder.leaseVersion = 1) :
    holderLiveness host s io legacy holder ≠ .dead := by
  have hToken : holder.token = a.token := by
    unfold matchesAdmission at hMatches
    simp only [Bool.and_eq_true, decide_eq_true_eq] at hMatches
    exact hMatches.1.1
  have hLocked : s.locked a.inode = true := by
    unfold System.locked
    rw [Bool.or_eq_true]
    left
    exact List.any_eq_true.mpr ⟨a, hMem, by simp⟩
  have hRead := h.held hBelow a hMem hLive
  unfold holderLiveness holderLeaseLiveness
  rw [hVersion, hToken, hRead]
  cases io <;> simp [hLocked]

theorem Local.reapOne {kept rest : List DbAdmissionHolder} (hKept : Kept host config s) {holder : DbAdmissionHolder}
    (h : Local s { state with holders := kept ++ holder :: rest }) (reaped : ReapedHolders) (io : Io)
    (legacy : HolderLiveness) :
    Local s { state with
      holders := (Admission.reapOne holder kept reaped (holderLiveness host s io legacy holder)).1 ++ rest } := by
  have hVersion : holder.leaseVersion = 1 := by
    apply hKept.version
    apply h.rows.subset
    simp
  cases hLiveness : holderLiveness host s io legacy holder with
  | live | unknown => simpa [Admission.reapOne] using h
  | dead =>
    refine ⟨h.next, List.Sublist.trans ?_ h.rows, ?_⟩
    · exact List.Sublist.append_left (List.sublist_cons_self holder rest) kept
    · intro hBelow a hMem hLive
      obtain ⟨row, hRow, hMatches⟩ := h.covers hBelow a hMem hLive
      refine ⟨row, ?_, hMatches⟩
      rw [List.mem_append, List.mem_cons] at hRow
      rw [List.mem_append]
      rcases hRow with hRow | rfl | hRow
      · exact Or.inl hRow
      · exact absurd hLiveness (holderLiveness_ne_dead hKept hBelow hMem hLive hMatches hVersion)
      · exact Or.inr hRow

section Limits
variable (hHolders : config.maxHolders < u64Max) (hCache : config.maxCacheBytes < u64Max)
include hHolders hCache

theorem settleStep_ok (h : Kept host config s) (hLocal : Local s state)
    (hRelease : ReleaseOk s c.call) (reaped : ReapedHolders) :
    StepOk host config s (settleStep host config s c state reaped) := by
  unfold settleStep
  cases hCall : c.call with
  | acquire request processIdentity unixSecs =>
    dsimp only
    split
    · exact .leave h le_rfl (by simp)
    · rename_i hBudget
      refine .goto hRelease h ?_ rfl le_rfl
      have hMet := fun holder hClass hBytes => budget_sound holder hHolders hCache hClass hBytes hBudget
      exact ⟨hLocal.rows, hLocal.covers, rfl, by rw [hLocal.next], rfl, (hMet _ rfl rfl).1, (hMet _ rfl rfl).2⟩
  | snapshot | release => exact .leave h le_rfl (by simp)

end Limits

theorem Opening.frame {holder : DbAdmissionHolder} (h : Opening config s state holder) (hFile : s'.file = s.file)
    (hAdmissions : s'.admissions = s.admissions) : Opening config s' state holder :=
  { h with
    rows := by rw [hFile]; exact h.rows
    covers := by
      unfold Covers Below
      rw [hFile, hAdmissions]
      exact h.covers
    generation := by rw [hFile]; exact h.generation }

theorem Kept.create (h : Kept host config s) (hFree : s.leases.read path = none) :
    Kept host config { s with leases := s.leases.write path s.inodes, inodes := s.inodes + 1 } :=
  { h with
    bound := fun a hMem => Nat.lt_succ_of_lt (h.bound a hMem)
    held := fun hBelow a hMem hLive => by
      have hRead := h.held hBelow a hMem hLive
      rw [Directory.read_write, if_neg, hRead]
      rintro rfl
      rw [hFree] at hRead
      cases hRead }

theorem sortHolders_perm (holders : List DbAdmissionHolder) : (sortHolders holders).Perm holders :=
  List.perm_insertionSort _ _

theorem Opening.grows {holder : DbAdmissionHolder} (h : Opening config s state holder)
    (hNext : s.file.nextGeneration ≤ u64Max) : s.file.nextGeneration ≤ holder.generation := by
  rw [h.generation]
  unfold saturatingAdd
  omega

section Publish
variable {holder : DbAdmissionHolder}

theorem Kept.published (h : Kept host config s) (hOpening : Opening config s state holder) :
    Kept host config { s with
      file := { state with holders := sortHolders (state.holders ++ [holder]) } } := by
  have hPerm := sortHolders_perm (state.holders ++ [holder])
  have hGrows := hOpening.grows h.range
  have hBelow : holder.generation < u64Max → Below s := fun hB => Nat.lt_of_le_of_lt hGrows hB
  exact
    { h with
      range := by
        rw [hOpening.next, hOpening.generation]
        unfold saturatingAdd u64Max
        omega
      fits := hOpening.fits.perm hPerm
      version := fun row hRow => by
        rcases List.mem_append.mp (hPerm.subset hRow) with hOld | hNew
        · exact h.version row (hOpening.rows.subset hOld)
        · rw [List.mem_singleton.mp hNew]
          exact hOpening.version
      generation := fun a hMem => ((h.generation a hMem).trans hGrows).trans_eq hOpening.next.symm
      distinct := fun hB => h.distinct (hBelow (hOpening.next ▸ hB))
      covers := fun hB a hMem hLive => by
        obtain ⟨row, hRow, hMatches⟩ := hOpening.covers (hBelow (hOpening.next ▸ hB)) a hMem hLive
        exact ⟨row, hPerm.symm.subset (List.mem_append_left _ hRow), hMatches⟩
      held := fun hB => h.held (hBelow (hOpening.next ▸ hB)) }

theorem NewLease.unneeded (h : Kept host config s) (hNew : NewLease host s holder inode) :
    Unneeded host s (host.leasePath holder.token) :=
  h.unneeded hNew.named hNew.unused

theorem Opening.fresh (hOpening : Opening config s state holder) (hB : holder.generation < u64Max) :
    s.file.nextGeneration < holder.generation := by
  have hEq := hOpening.generation
  unfold saturatingAdd at hEq
  omega

theorem Kept.admitted (h : Kept host config s) (hOpening : Opening config s state holder)
    (hNew : NewLease host s holder inode) (pid : Nat) :
    Kept host config { s with
      file := { state with holders := sortHolders (state.holders ++ [holder]) }
      admissions := ⟨pid, holder.ownerIdentity, holder.token, holder.generation, inode, false⟩ :: s.admissions } := by
  have hPublished := h.published hOpening
  exact
    { hPublished with
      generation := fun a hMem => by
        rcases List.mem_cons.mp hMem with rfl | hOld
        · exact hOpening.next.ge
        · exact hPublished.generation a hOld
      distinct := fun hB => by
        refine List.nodup_cons.mpr ⟨?_, hPublished.distinct hB⟩
        intro hMem
        obtain ⟨a, hA, hEq⟩ := List.mem_map.mp hMem
        change a.generation = holder.generation at hEq
        have hOld := h.generation a hA
        have hFresh := hOpening.fresh (hOpening.next ▸ hB)
        omega
      bound := fun a hMem => by
        rcases List.mem_cons.mp hMem with rfl | hOld
        · exact hNew.bound
        · exact h.bound a hOld
      covers := fun hB a hMem hLive => by
        rcases List.mem_cons.mp hMem with rfl | hOld
        · refine ⟨holder, (sortHolders_perm _).symm.subset (by simp), ?_⟩
          simp [matchesAdmission]
        · exact hPublished.covers hB a hOld hLive
      held := fun hB a hMem hLive => by
        rcases List.mem_cons.mp hMem with rfl | hOld
        · exact hNew.named
        · exact hPublished.held hB a hOld hLive }

theorem publish_ok (h : Kept host config s) (hOpening : Opening config s state holder)
    (hNew : NewLease host s holder inode) (c : Critical) : let admission : ProfileDbAdmission :=
      ⟨c.pid, holder.ownerIdentity, holder.token, holder.generation, inode, false⟩
    StepOk host config s ({ s with
      file := { state with holders := sortHolders (state.holders ++ [holder]) }
      admissions := admission :: s.admissions }.leave (.acquired admission)) where
  sound := ⟨(h.admitted hOpening hNew c.pid).shrinks (Shrinks.critical _ none), by rintro _ ⟨⟩, by rintro _ ⟨⟩⟩
  grows := (hOpening.grows h.range).trans_eq hOpening.next.symm
  acquired := by
    rintro _ ⟨⟩
    have hPerm := sortHolders_perm (state.holders ++ [holder])
    refine ⟨hOpening.next.symm, hOpening.fresh, holder, hPerm.symm.subset (by simp), by simp [matchesAdmission], ?_⟩
    change Spares config holder (sortHolders (state.holders ++ [holder])).length
    rw [hPerm.length_eq, List.length_append, List.length_singleton]
    exact hOpening.spares

end Publish

theorem admitStep_ok (h : Sound host config s) (hCritical : s.critical = some c) :
    StepOk host config s (admitStep host io s c) := by
  have hStage := h.stage c hCritical
  have hRelease := h.release c hCritical
  unfold admitStep
  cases hAt : c.stage with
  | createLease state holder =>
    rw [hAt] at hStage
    dsimp only
    split
    · rename_i hCreate
      rw [Bool.and_eq_true, Option.isNone_iff_eq_none] at hCreate
      refine .goto hRelease (h.kept.create hCreate.2) ⟨Opening.frame hStage rfl rfl, ?_, ?_, ?_⟩ rfl le_rfl
      · simp
      · exact Nat.lt_succ_self _
      · exact fun a hMem => Nat.ne_of_lt (h.kept.bound a hMem)
    · exact .leave h.kept le_rfl (by simp)
  | lockLease state holder inode =>
    rw [hAt] at hStage
    cases io with
    | ok => exact .goto hRelease h.kept ⟨state, hStage.1, hStage.2, rfl⟩ rfl le_rfl
    | failedLate => exact .leave h.kept le_rfl (by simp)
    | failed | aborted => exact .goto hRelease h.kept (hStage.2.unneeded h.kept) rfl le_rfl
  | publish state holder inode =>
    rw [hAt] at hStage
    obtain ⟨before, hOpening, hNew, rfl⟩ := hStage
    have hUnneeded := hNew.unneeded h.kept
    have hGrows := hOpening.grows h.kept.range
    cases io with
    | ok => exact publish_ok h.kept hOpening hNew c
    | failedLate =>
      refine .goto hRelease (h.kept.published hOpening) ?_ rfl (hGrows.trans_eq hOpening.next.symm)
      exact fun hB => hUnneeded (Nat.lt_of_le_of_lt (hGrows.trans_eq hOpening.next.symm) hB)
    | failed | aborted => exact .goto hRelease h.kept hUnneeded rfl le_rfl
  | withdraw holder =>
    rw [hAt] at hStage
    cases io with
    | ok | failedLate => exact .leave (h.kept.remove hStage) le_rfl (by simp)
    | failed | aborted => exact .leave h.kept le_rfl (by simp)
  | _ => exact .same h (by simp)

variable {admission : ProfileDbAdmission}

theorem Local.retain (h : Local s state) (hRelease : ReleaseOk s (.release admission)) :
    Local s { state with holders := state.holders.filter fun holder => !matchesAdmission admission holder } := by
  refine ⟨h.next, List.filter_sublist.trans h.rows, ?_⟩
  intro hBelow a hMem hLive
  obtain ⟨row, hRow, hMatches⟩ := h.covers hBelow a hMem hLive
  refine ⟨row, List.mem_filter.mpr ⟨hRow, ?_⟩, hMatches⟩
  rw [Bool.not_eq_true', Bool.eq_false_iff]
  intro hOther
  unfold matchesAdmission at hMatches hOther
  simp only [Bool.and_eq_true, decide_eq_true_eq] at hMatches hOther
  exact hRelease admission rfl hBelow a hMem hLive (hMatches.1.2.symm.trans hOther.1.2)

def System.tokens (s : System) : List String :=
  match s.critical with
  | some ⟨_, .release admission, _⟩ => admission.token :: s.admissions.map (·.token)
  | _ => s.admissions.map (·.token)

/-- The digests in the names of the leases tell the tokens in use apart. -/
def LeasesApart (host : Host) (s : System) : Prop :=
  ∀ token ∈ s.tokens, ∀ token' ∈ s.tokens, host.leasePath token = host.leasePath token' → token = token'

instance (host : Host) (s : System) : Decidable (LeasesApart host s) :=
  inferInstanceAs (Decidable (∀ token ∈ s.tokens, ∀ token' ∈ s.tokens,
    host.leasePath token = host.leasePath token' → token = token'))

theorem LeasesApart.release (h : LeasesApart host s) (hCritical : s.critical = some c)
    (hCall : c.call = .release admission) (hMem : a ∈ s.admissions)
    (hPath : host.leasePath a.token = host.leasePath admission.token) : a.token = admission.token := by
  obtain ⟨pid, call, stage⟩ := c
  obtain rfl : call = .release admission := hCall
  have hTokens : s.tokens = admission.token :: s.admissions.map (·.token) := by rw [System.tokens, hCritical]
  refine h _ ?_ _ ?_ hPath
  · rw [hTokens]
    exact List.mem_cons_of_mem _ (List.mem_map_of_mem hMem)
  · rw [hTokens]
    exact List.mem_cons_self

theorem Local.unneeded {token : String} (h : Local s state)
    (hPath : ∀ a ∈ s.admissions, host.leasePath a.token = host.leasePath token → a.token = token)
    (hAll : state.holders.all (·.token ≠ token) = true) : Unneeded host s (host.leasePath token) := by
  intro hBelow a hMem hLive hEq
  obtain ⟨row, hRow, hMatches⟩ := h.covers hBelow a hMem hLive
  unfold matchesAdmission at hMatches
  simp only [Bool.and_eq_true, decide_eq_true_eq] at hMatches
  have hOther := List.all_eq_true.mp hAll row hRow
  rw [decide_eq_true_eq, hMatches.1.1] at hOther
  exact hOther (hPath a hMem hEq)

theorem saveState_spec (h : Kept host config s) (hLocal : Local s state) :
    Kept host config (saveState io state s).1 ∧ (saveState io state s).1.admissions = s.admissions ∧
      (saveState io state s).1.file.nextGeneration = s.file.nextGeneration ∧
      ((saveState io state s).2 = true → Local (saveState io state s).1 state) := by
  cases io with
  | ok => exact ⟨h.save hLocal, rfl, hLocal.next, fun _ => hLocal.saved⟩
  | failedLate => exact ⟨h.save hLocal, rfl, hLocal.next, by rintro ⟨⟩⟩
  | failed | aborted => exact ⟨h, rfl, rfl, by rintro ⟨⟩⟩

theorem StepOk.saved (h : Kept host config s) (hRelease : ReleaseOk s c.call) (hLocal : Local s state) (io : Io)
    (hStage : ∀ s', Local s' state → StageOk host config s' stage) :
    StepOk host config s (if (saveState io state s).2 then (saveState io state s).1.goto c stage
      else (saveState io state s).1.leave (.refused .sidecar)) := by
  obtain ⟨hKept, hAdmissions, hNext, hSaves⟩ := saveState_spec h hLocal
  split
  · rename_i hSaved
    exact .goto hRelease hKept (hStage _ (hSaves hSaved)) hAdmissions hNext.ge
  · exact .leave hKept hNext.ge (by simp)

theorem releaseStep_ok (hPaths : LeasesApart host s) (h : Sound host config s)
    (hCritical : s.critical = some c) (hCall : c.call = .release admission) :
    StepOk host config s (releaseStep host io s c admission) := by
  have hStage := h.stage c hCritical
  have hRelease := h.release c hCritical
  unfold releaseStep
  cases hAt : c.stage with
  | retain state =>
    rw [hAt] at hStage
    have hRetained := Local.retain hStage (hCall ▸ hRelease)
    dsimp only
    split
    · exact .goto hRelease h.kept hRetained rfl le_rfl
    · exact .saved h.kept hRelease hRetained io fun _ hLocal => hLocal
  | unlink state released =>
    rw [hAt] at hStage
    dsimp only
    split
    · rename_i hAll
      have hUnneeded := Local.unneeded hStage (fun a hMem => hPaths.release hCritical hCall hMem) hAll
      cases io with
      | ok | failedLate => exact .leave (h.kept.remove hUnneeded) le_rfl (by simp)
      | failed | aborted => exact .leave h.kept le_rfl (by simp)
    · exact .leave h.kept le_rfl (by simp)
  | _ => exact .same h (by simp)

theorem Sound.shrinks (h : Sound host config s) (hShrinks : Shrinks s s')
    (hCritical : ∀ c, s'.critical = some c → s.critical = some c) : Sound host config s' where
  kept := h.kept.shrinks hShrinks
  stage c hC := (h.stage c (hCritical c hC)).shrinks hShrinks
  release c hC := (h.release c (hCritical c hC)).mono (by rw [hShrinks.file]) fun _ hMem hLive => hShrinks.live hMem hLive

theorem shrinks_filter (s : System) (p : ProfileDbAdmission → Bool) :
    Shrinks s { s with admissions := s.admissions.filter p } :=
  ⟨rfl, rfl, rfl, List.filter_sublist.map _, fun a hMem => ⟨a, List.mem_of_mem_filter hMem, Or.inl rfl⟩⟩

theorem shrinks_releasing (s : System) (admission : ProfileDbAdmission) :
    Shrinks s { s with
      admissions := s.admissions.map fun a => if a.inode = admission.inode then { a with releasing := true } else a } where
  file := rfl
  leases := rfl
  inodes := rfl
  generations := by
    rw [List.map_map, List.map_congr_left (l := s.admissions) (g := (·.generation))]
    intro a _
    dsimp only [Function.comp_apply]
    split <;> rfl
  admissions a hMem := by
    obtain ⟨b, hB, rfl⟩ := List.mem_map.mp hMem
    refine ⟨b, hB, ?_⟩
    split
    · exact Or.inr rfl
    · exact Or.inl rfl

theorem beginStep_ok {pid : Nat} {call : Call} (h : Sound host config s) :
    StepOk host config s (beginStep config pid call s) := by
  have hBusy (s' : System) (hShrinks : Shrinks s s') (hCritical : s'.critical = s.critical) :
      StepOk host config s (s', .refused .busy) :=
    ⟨h.shrinks hShrinks (fun c hC => hCritical ▸ hC), by rw [hShrinks.file], by rintro _ ⟨⟩⟩
  have hEnter (s' : System) (hShrinks : Shrinks s s') (hCritical : s'.critical = s.critical)
      (hRelease : ReleaseOk s' call) :
      StepOk host config s ({ s' with critical := some ⟨pid, call, .sweepStaged⟩ }, .quiet) := by
    have hSound := h.shrinks hShrinks (fun c hC => hCritical ▸ hC)
    refine ⟨⟨hSound.kept.shrinks (Shrinks.critical s' _), ?_, ?_⟩, by rw [hShrinks.file], by rintro _ ⟨⟩⟩
    · rintro _ ⟨⟩
      trivial
    · rintro _ ⟨⟩
      exact hRelease.mono (Nat.le_refl _) fun a hMem _ => hMem
  have hUnchanged := Shrinks.critical s s.critical
  unfold beginStep
  cases call with
  | acquire request processIdentity unixSecs =>
    dsimp only
    split
    · exact .same h (by simp)
    · split
      · exact hBusy s hUnchanged rfl
      · exact hEnter s hUnchanged rfl (by rintro _ ⟨⟩)
  | snapshot =>
    dsimp only
    split
    · exact hBusy s hUnchanged rfl
    · exact hEnter s hUnchanged rfl (by rintro _ ⟨⟩)
  | release admission =>
    dsimp only
    split
    · rename_i hMember
      split
      · exact hBusy _ (shrinks_releasing s admission) rfl
      · refine hEnter _ (shrinks_releasing s admission) rfl ?_
        rintro _ ⟨⟩ hBelow a hMem hLive hSame
        -- the admission itself is being released now, and no other has its generation
        have hOld := (shrinks_releasing s admission).live hMem hLive
        have hEq : a = admission := List.inj_on_of_nodup_map (h.kept.distinct hBelow) hOld hMember hSame
        obtain ⟨b, _, hB⟩ := List.mem_map.mp hMem
        split at hB
        · rw [← hB] at hLive
          cases hLive
        · rename_i hOther
          rw [hB, hEq] at hOther
          exact hOther rfl
    · exact .same h (by simp)

theorem closeStep_sound (h : Sound host config s) (inode : Nat) : Sound host config (closeStep inode s) := by
  unfold closeStep
  split
  · split
    · exact h
    · exact h.shrinks (shrinks_filter s _) fun c hC => hC
  · exact h.shrinks (shrinks_filter s _) fun c hC => hC

theorem dieStep_sound (h : Sound host config s) (pid : Nat) : Sound host config (dieStep pid s) := by
  have hShrinks := shrinks_filter s (·.pid ≠ pid)
  refine h.shrinks ⟨rfl, rfl, rfl, hShrinks.generations, hShrinks.admissions⟩ ?_
  intro c hC
  exact (Option.filter_eq_some_iff.mp hC).1

theorem StepOk.swept (h : Kept host config s) (hRelease : ReleaseOk s c.call) (hLocal : Local s state)
    (hStage : ∀ s', Local s' state → StageOk host config s' stage) :
    StepOk host config s (if io = .aborted then s.leave (.refused .sidecar)
      else (removeUnreferencedLease io path s).goto c stage) := by
  obtain ⟨hKept, hFile, hAdmissions⟩ := removeUnreferencedLease_spec h path
  split
  · exact .leave h le_rfl (by simp)
  · exact .goto hRelease hKept (hStage _ (hLocal.frame hFile hAdmissions)) hAdmissions (by rw [hFile])

section Machine
variable (hHolders : config.maxHolders < u64Max) (hCache : config.maxCacheBytes < u64Max)
  (hPaths : LeasesApart host s)
include hHolders hCache hPaths

theorem advanceStep_ok (h : Sound host config s) (hCritical : s.critical = some c) (io : Io)
    (legacy : HolderLiveness) : StepOk host config s (advanceStep host config io legacy s c) := by
  have hStage := h.stage c hCritical
  have hRelease := h.release c hCritical
  unfold advanceStep
  cases hAt : c.stage with
  | sweepStaged =>
    dsimp only
    split
    · exact .goto hRelease h.kept trivial rfl le_rfl
    · exact .leave h.kept le_rfl (by simp)
  | load =>
    dsimp only
    split
    · exact .goto hRelease h.kept h.kept.here rfl le_rfl
    · exact .leave h.kept le_rfl (by simp)
  | sweep state rest =>
    rw [hAt] at hStage
    cases rest with
    | nil =>
      dsimp only
      split
      · exact .goto hRelease h.kept hStage rfl le_rfl
      · exact .goto hRelease h.kept hStage rfl le_rfl
    | cons path rest => exact .swept h.kept hRelease hStage fun _ hLocal => hLocal
  | reap state kept rest reaped =>
    rw [hAt] at hStage
    cases rest with
    | nil =>
      refine .goto hRelease h.kept ?_ rfl le_rfl
      simpa [StageOk] using hStage
    | cons holder rest =>
      exact .goto hRelease h.kept (Local.reapOne h.kept hStage reaped io legacy) rfl le_rfl
  | persist state reaped =>
    rw [hAt] at hStage
    dsimp only
    split
    · exact .goto hRelease h.kept hStage rfl le_rfl
    · exact .saved h.kept hRelease hStage io fun _ hLocal => hLocal
  | sweepReaped state rest reaped =>
    rw [hAt] at hStage
    cases rest with
    | nil => exact .goto hRelease h.kept hStage rfl le_rfl
    | cons path rest => exact .swept h.kept hRelease hStage fun _ hLocal => hLocal
  | settle state reaped =>
    rw [hAt] at hStage
    exact settleStep_ok hHolders hCache h.kept hStage hRelease reaped
  | retain | unlink =>
    dsimp only
    split
    · rename_i admission hCall
      exact releaseStep_ok hPaths h hCritical hCall
    · exact .same h (by simp)
  | _ => exact admitStep_ok h hCritical

theorem step_ok (h : Sound host config s) (action : Action) :
    StepOk host config s ((admissionMachine host config).step s action) := by
  cases action with
  | begin pid call => exact beginStep_ok h
  | advance io legacy =>
    simp only [admissionMachine]
    split
    · exact .same h (by simp)
    · rename_i c hCritical
      exact advanceStep_ok hHolders hCache hPaths h hCritical io legacy
  | close inode =>
    refine ⟨closeStep_sound h inode, ?_, by rintro _ ⟨⟩⟩
    simp only [admissionMachine, closeStep]
    repeat' split
    all_goals exact Nat.le_refl _
  | die pid => exact ⟨dieStep_sound h pid, Nat.le_refl _, by rintro _ ⟨⟩⟩

end Machine

theorem emptySystem_sound : Sound host config emptySystem where
  kept :=
    { range := Nat.zero_le _
      fits := ⟨Nat.zero_le _, Nat.zero_le _⟩
      version := by rintro _ ⟨⟩
      generation := by rintro _ ⟨⟩
      distinct := fun _ => List.nodup_nil
      bound := by rintro _ ⟨⟩
      covers := by rintro _ _ ⟨⟩
      held := by rintro _ _ ⟨⟩ }
  stage := by rintro _ ⟨⟩
  release := by rintro _ ⟨⟩

end Mempal.Admission

import Mathlib.Algebra.GroupWithZero.Nat
import Mempal.Admission.Basic

set_option autoImplicit false

/-! The recorded holders stay within the limits, and an admission that is not being released is recorded and has its
lease file. -/

namespace Mempal.Admission

def cacheBytes (holders : List DbAdmissionHolder) : Nat := (holders.map (·.configuredCacheBytes)).sum

theorem activeCacheBytes_eq {holders : List DbAdmissionHolder} :
    activeCacheBytes holders = min u64Max (cacheBytes holders) := by
  have hFold : ∀ total, total ≤ u64Max → holders.foldl
      (fun total holder => saturatingAdd total holder.configuredCacheBytes) total =
        min u64Max (total + cacheBytes holders) := by
    induction holders with
    | nil =>
      intro total hTotal
      simp [cacheBytes, hTotal]
    | cons holder holders ih =>
      intro total _
      rw [List.foldl_cons, ih _ (by simp [saturatingAdd])]
      simp only [cacheBytes, List.map_cons, List.sum_cons, saturatingAdd]
      omega
  have hTotal := hFold 0 (Nat.zero_le _)
  rwa [Nat.zero_add] at hTotal

structure Fits (config : DbAdmissionConfig) (holders : List DbAdmissionHolder) : Prop where
  count : holders.length ≤ config.maxHolders
  cache : cacheBytes holders ≤ config.maxCacheBytes

variable {holders holders' : List DbAdmissionHolder} {holder : DbAdmissionHolder}

theorem Fits.sublist {config : DbAdmissionConfig} (h : Fits config holders) (hSub : holders'.Sublist holders) :
    Fits config holders' where
  count := hSub.length_le.trans h.count
  cache := (List.Sublist.sum_le_sum (hSub.map _) (fun _ _ => Nat.zero_le _)).trans h.cache

theorem Fits.perm {config : DbAdmissionConfig} (h : Fits config holders) (hPerm : holders'.Perm holders) :
    Fits config holders' where
  count := hPerm.length_eq.trans_le h.count
  cache := ((hPerm.map _).sum_eq).trans_le h.cache

def Spares (config : DbAdmissionConfig) (holder : DbAdmissionHolder) (count : Nat) : Prop :=
  holder.holderClass.isServiceHolder = false → count + config.reservedServiceHolders ≤ config.maxHolders

theorem budget_sound {request : DbAdmissionRequest} {config : DbAdmissionConfig} (holder : DbAdmissionHolder)
    (hHolders : config.maxHolders < u64Max) (hCache : config.maxCacheBytes < u64Max)
    (hClass : holder.holderClass = request.holderClass)
    (hBytes : holder.configuredCacheBytes = request.configuredCacheBytes)
    (h : budgetExceededReason holders.length request config (activeCacheBytes holders) = none) :
    Fits config (holders ++ [holder]) ∧ Spares config holder (holders.length + 1) := by
  rw [activeCacheBytes_eq] at h
  unfold budgetExceededReason saturatingAdd at h
  split at h
  · cases h
  · split at h
    · cases h
    · split at h
      · cases h
      · rename_i hSeats
        refine ⟨⟨?_, ?_⟩, ?_⟩
        · rw [List.length_append, List.length_singleton]
          omega
        · simp only [cacheBytes, List.map_append, List.sum_append, List.map_singleton, List.sum_singleton, hBytes]
          change cacheBytes holders + _ ≤ _
          omega
        · intro hOther
          rw [hClass] at hOther
          simp only [hOther, Bool.not_false, Bool.true_and, Bool.and_eq_true, decide_eq_true_eq, not_and,
            Nat.not_lt] at hSeats
          omega

section

variable (host : Host) (config : DbAdmissionConfig)

def Below (s : System) : Prop := s.file.nextGeneration < u64Max

def Covers (s : System) (holders : List DbAdmissionHolder) : Prop :=
  Below s → ∀ a ∈ s.admissions, a.releasing = false → ∃ holder ∈ holders, matchesAdmission a holder = true

structure Local (s : System) (state : AdmissionState) : Prop where
  next : state.nextGeneration = s.file.nextGeneration
  rows : state.holders.Sublist s.file.holders
  covers : Covers s state.holders

structure Opening (s : System) (state : AdmissionState) (holder : DbAdmissionHolder) : Prop where
  rows : state.holders.Sublist s.file.holders
  covers : Covers s state.holders
  next : state.nextGeneration = holder.generation
  generation : holder.generation = max (saturatingAdd s.file.nextGeneration 1) 1
  version : holder.leaseVersion = 1
  fits : Fits config (state.holders ++ [holder])
  spares : Spares config holder (state.holders.length + 1)

structure NewLease (s : System) (holder : DbAdmissionHolder) (inode : Nat) : Prop where
  named : s.leases.read (host.leasePath holder.token) = some inode
  bound : inode < s.inodes
  unused : ∀ a ∈ s.admissions, a.inode ≠ inode

def Unneeded (s : System) (path : String) : Prop :=
  Below s → ∀ a ∈ s.admissions, a.releasing = false → host.leasePath a.token ≠ path

def StageOk (s : System) : Stage → Prop
  | .sweepStaged | .load => True
  | .sweep state _ | .persist state _ | .sweepReaped state _ _ | .settle state _ | .retain state | .unlink state _ =>
    Local s state
  | .reap state kept rest _ => Local s { state with holders := kept ++ rest }
  | .createLease state holder => Opening config s state holder
  | .lockLease state holder inode => Opening config s state holder ∧ NewLease host s holder inode
  | .publish state holder inode =>
    ∃ before, Opening config s before holder ∧ NewLease host s holder inode ∧
      state = { before with holders := sortHolders (before.holders ++ [holder]) }
  | .withdraw holder => Unneeded host s (host.leasePath holder.token)

structure Kept (s : System) : Prop where
  range : s.file.nextGeneration ≤ u64Max
  fits : Fits config s.file.holders
  version : ∀ holder ∈ s.file.holders, holder.leaseVersion = 1
  generation : ∀ a ∈ s.admissions, a.generation ≤ s.file.nextGeneration
  distinct : Below s → (s.admissions.map (·.generation)).Nodup
  bound : ∀ a ∈ s.admissions, a.inode < s.inodes
  covers : Covers s s.file.holders
  held : Below s → ∀ a ∈ s.admissions, a.releasing = false → s.leases.read (host.leasePath a.token) = some a.inode

def ReleaseOk (s : System) (call : Call) : Prop :=
  ∀ admission, call = .release admission → Below s →
    ∀ a ∈ s.admissions, a.releasing = false → a.generation ≠ admission.generation

structure Sound (s : System) : Prop where
  kept : Kept host config s
  stage : ∀ c, s.critical = some c → StageOk host config s c.stage
  release : ∀ c, s.critical = some c → ReleaseOk s c.call

end

variable {host : Host} {config : DbAdmissionConfig} {s s' : System} {state : AdmissionState}

theorem Kept.here (h : Kept host config s) : Local s s.file := ⟨rfl, List.Sublist.refl _, h.covers⟩

structure Shrinks (s s' : System) : Prop where
  file : s'.file = s.file
  leases : s'.leases = s.leases
  inodes : s'.inodes = s.inodes
  generations : (s'.admissions.map (·.generation)).Sublist (s.admissions.map (·.generation))
  admissions : ∀ a ∈ s'.admissions, ∃ b ∈ s.admissions, a = b ∨ a = { b with releasing := true }

theorem Shrinks.live {a : ProfileDbAdmission} (h : Shrinks s s') (hMem : a ∈ s'.admissions)
    (hLive : a.releasing = false) : a ∈ s.admissions := by
  obtain ⟨b, hB, rfl | rfl⟩ := h.admissions a hMem
  · exact hB
  · cases hLive

theorem Shrinks.below (h : Shrinks s s') (hBelow : Below s') : Below s := by
  unfold Below at hBelow ⊢
  rwa [h.file] at hBelow

theorem Shrinks.covers (h : Shrinks s s') (hCovers : Covers s holders) : Covers s' holders :=
  fun hBelow a hMem hLive => hCovers (h.below hBelow) a (h.live hMem hLive) hLive

theorem Local.shrinks (hLocal : Local s state) (h : Shrinks s s') : Local s' state :=
  ⟨by rw [h.file]; exact hLocal.next, by rw [h.file]; exact hLocal.rows, h.covers hLocal.covers⟩

theorem Opening.shrinks (hOpening : Opening config s state holder) (h : Shrinks s s') :
    Opening config s' state holder :=
  { hOpening with
    rows := by rw [h.file]; exact hOpening.rows
    covers := h.covers hOpening.covers
    generation := by rw [h.file]; exact hOpening.generation }

theorem NewLease.shrinks {inode : Nat} (hNew : NewLease host s holder inode) (h : Shrinks s s') :
    NewLease host s' holder inode where
  named := by rw [h.leases]; exact hNew.named
  bound := by rw [h.inodes]; exact hNew.bound
  unused a hMem := by
    obtain ⟨b, hB, rfl | rfl⟩ := h.admissions a hMem
    · exact hNew.unused _ hB
    · exact hNew.unused b hB

theorem StageOk.shrinks {stage : Stage} (hStage : StageOk host config s stage) (h : Shrinks s s') :
    StageOk host config s' stage := by
  cases stage with
  | sweepStaged => trivial
  | load => trivial
  | createLease state holder => exact Opening.shrinks hStage h
  | lockLease state holder inode => exact ⟨hStage.1.shrinks h, hStage.2.shrinks h⟩
  | publish state holder inode =>
    obtain ⟨before, hOpening, hNew, hState⟩ := hStage
    exact ⟨before, hOpening.shrinks h, hNew.shrinks h, hState⟩
  | withdraw holder => exact fun hBelow a hMem hLive => hStage (h.below hBelow) a (h.live hMem hLive) hLive
  | reap state kept rest reaped => exact Local.shrinks hStage h
  | _ => exact Local.shrinks hStage h

theorem ReleaseOk.mono {call : Call} (h : ReleaseOk s call)
    (hGrows : s.file.nextGeneration ≤ s'.file.nextGeneration)
    (hAdmissions : ∀ a ∈ s'.admissions, a.releasing = false → a ∈ s.admissions) : ReleaseOk s' call :=
  fun admission hCall hBelow a hMem hLive =>
    h admission hCall (Nat.lt_of_le_of_lt hGrows hBelow) a (hAdmissions a hMem hLive) hLive

theorem Kept.shrinks (hKept : Kept host config s) (h : Shrinks s s') : Kept host config s' where
  range := by rw [h.file]; exact hKept.range
  fits := by rw [h.file]; exact hKept.fits
  version := by rw [h.file]; exact hKept.version
  generation a hMem := by
    rw [h.file]
    obtain ⟨b, hB, rfl | rfl⟩ := h.admissions a hMem
    · exact hKept.generation _ hB
    · exact hKept.generation b hB
  distinct hBelow := (hKept.distinct (h.below hBelow)).sublist h.generations
  bound a hMem := by
    rw [h.inodes]
    obtain ⟨b, hB, rfl | rfl⟩ := h.admissions a hMem
    · exact hKept.bound _ hB
    · exact hKept.bound b hB
  covers := by rw [h.file]; exact h.covers hKept.covers
  held hBelow a hMem hLive := by
    rw [h.leases]
    exact hKept.held (h.below hBelow) a (h.live hMem hLive) hLive

end Mempal.Admission

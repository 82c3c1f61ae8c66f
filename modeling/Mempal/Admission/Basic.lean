import Mathlib.Algebra.BigOperators.Group.List.Basic
import Mathlib.Algebra.Order.Group.Nat
import Mathlib.Data.List.Sort
import Mempal.Foundation.Directory
import Mempal.Foundation.Machine

set_option autoImplicit false

/-! A state file beside the database records the holders of connections, and each holder keeps a lock on a lease file
of its own. -/

namespace Mempal.Admission

open Foundation

inductive DbHolderClass where
  | daemon
  | mcp
  | api
  | cli
  | hook
  | unknown
deriving DecidableEq, Repr

def DbHolderClass.display : DbHolderClass → String
  | .daemon => "daemon"
  | .mcp => "mcp"
  | .api => "api"
  | .cli => "cli"
  | .hook => "hook"
  | .unknown => "unknown"

def DbHolderClass.isServiceHolder : DbHolderClass → Bool
  | .daemon | .mcp => true
  | _ => false

structure DbAdmissionConfig where
  maxHolders : Nat
  maxCacheBytes : Nat
  reservedServiceHolders : Nat
deriving DecidableEq, Repr

def DbAdmissionConfig.new (maxHolders maxCacheBytes : Nat) : DbAdmissionConfig :=
  ⟨maxHolders, maxCacheBytes, if 2 < maxHolders then 2 else maxHolders⟩

/-- What `acquire` passes; nothing but the tests calls `acquire_with_config` otherwise. -/
def DbAdmissionConfig.default : DbAdmissionConfig := .new 16 (256 * 1024 * 1024)

structure DbAdmissionRequest where
  holderClass : DbHolderClass
  connectionCount : Nat
  configuredCacheBytes : Nat
deriving DecidableEq, Repr

inductive BudgetExceededReason where
  | holderLimit
  | cacheBudget
  | reservedServiceSlots
deriving DecidableEq, Repr

inductive DbAdmissionError where
  | invalidRequest (message : String)
  | busy
  | budgetExceeded (activeHolders maxHolders activeCacheBytes maxCacheBytes requestedCacheBytes reapedStaleHolders
      reservedServiceHolders serviceHolders : Nat) (reason : BudgetExceededReason)
  /-- Any failure of the file system or of a sidecar's checks. -/
  | sidecar
deriving DecidableEq, Repr

structure DbAdmissionHolder where
  holderClass : DbHolderClass
  ownerIdentity : String
  pid : Nat
  generation : Nat
  acquiredAtUnixSecs : Nat
  connectionCount : Nat
  configuredCacheBytes : Nat
  token : String
  leaseVersion : Nat
deriving DecidableEq, Repr

inductive UnknownHolderReason where
  | unknownLeaseVersion
  | leaseOpenUnavailable
  | leaseLockUnavailable
  | legacyProcessIdentityUnverifiable
deriving DecidableEq, Repr

inductive HolderLiveness where
  | live
  | dead
  | unknown (reason : UnknownHolderReason)
deriving DecidableEq, Repr

structure AdmissionState where
  nextGeneration : Nat
  holders : List DbAdmissionHolder
deriving DecidableEq, Repr

structure ReapedHolders where
  reapedStaleHoldersThisSnapshot : Nat
  unknownHolderDiagnostics : List (Nat × UnknownHolderReason)
deriving DecidableEq, Repr

/-- The greatest `u64`, and the greatest `usize` of the platforms it runs on. -/
def u64Max : Nat := 2 ^ 64 - 1

def saturatingAdd (a b : Nat) : Nat := min u64Max (a + b)

def validateRequest (request : DbAdmissionRequest) (config : DbAdmissionConfig) : Except DbAdmissionError Unit :=
  if request.connectionCount = 0 then .error (.invalidRequest "connection_count must be positive")
  else if request.configuredCacheBytes = 0 then .error (.invalidRequest "configured_cache_bytes must be positive")
  else if config.maxHolders = 0 || config.maxCacheBytes = 0 then
    .error (.invalidRequest "profile limits must be positive")
  else if config.maxHolders < config.reservedServiceHolders then
    .error (.invalidRequest "reserved_service_holders must not exceed max_holders")
  else .ok ()

def budgetExceededReason (activeHolders : Nat) (request : DbAdmissionRequest) (config : DbAdmissionConfig)
    (activeCacheBytes : Nat) : Option BudgetExceededReason :=
  if config.maxHolders ≤ activeHolders then some .holderLimit
  else if config.maxCacheBytes < saturatingAdd activeCacheBytes request.configuredCacheBytes then some .cacheBudget
  else if !request.holderClass.isServiceHolder && decide (0 < config.reservedServiceHolders) &&
      decide (config.maxHolders < saturatingAdd (saturatingAdd activeHolders 1) config.reservedServiceHolders) then
    some .reservedServiceSlots
  else none

def activeCacheBytes (holders : List DbAdmissionHolder) : Nat :=
  holders.foldl (fun total holder => saturatingAdd total holder.configuredCacheBytes) 0

def serviceHolders (holders : List DbAdmissionHolder) : Nat :=
  (holders.filter (·.holderClass.isServiceHolder)).length

/-- An admission that a process holds. `inode` is its open lease file, and `releasing` says that its drop has begun. -/
structure ProfileDbAdmission where
  pid : Nat
  ownerIdentity : String
  token : String
  generation : Nat
  inode : Nat
  releasing : Bool
deriving DecidableEq, Repr

inductive Call where
  | acquire (request : DbAdmissionRequest) (processIdentity : String) (unixSecs : Nat)
  | snapshot
  | release (admission : ProfileDbAdmission)
deriving DecidableEq, Repr

/-- The next file operation of a critical section, with what the section has read so far. -/
inductive Stage where
  | sweepStaged
  | load
  | sweep (state : AdmissionState) (rest : List String)
  | reap (state : AdmissionState) (kept rest : List DbAdmissionHolder) (reaped : ReapedHolders)
  | persist (state : AdmissionState) (reaped : ReapedHolders)
  | sweepReaped (state : AdmissionState) (rest : List String) (reaped : ReapedHolders)
  | settle (state : AdmissionState) (reaped : ReapedHolders)
  | createLease (state : AdmissionState) (holder : DbAdmissionHolder)
  | lockLease (state : AdmissionState) (holder : DbAdmissionHolder) (inode : Nat)
  | publish (state : AdmissionState) (holder : DbAdmissionHolder) (inode : Nat)
  | withdraw (holder : DbAdmissionHolder)
  | retain (state : AdmissionState)
  | unlink (state : AdmissionState) (released : Bool)
deriving DecidableEq, Repr

structure Critical where
  pid : Nat
  call : Call
  stage : Stage
deriving DecidableEq, Repr

structure System where
  file : AdmissionState
  /-- The lease files: a name stands for an inode. -/
  leases : Directory String Nat
  inodes : Nat
  admissions : List ProfileDbAdmission
  /-- Who holds the lock of the state. -/
  critical : Option Critical
deriving DecidableEq

/-- How a file operation ends; `failedLate` fails after it has had its effect. -/
inductive Io where
  | ok
  | failed
  | failedLate
  | aborted
deriving DecidableEq, Repr

structure DbAdmissionSnapshot where
  holders : List DbAdmissionHolder
  reaped : ReapedHolders
  configuredHolderLimit : Nat
  reservedServiceHolders : Nat
  serviceHolders : Nat
  configuredCacheBytes : Nat
  activeCacheBytes : Nat
  availableCacheBytes : Nat
deriving DecidableEq, Repr

inductive Event where
  | quiet
  | acquired (admission : ProfileDbAdmission)
  | observed (snapshot : DbAdmissionSnapshot)
  | released (released : Bool)
  | refused (error : DbAdmissionError)
deriving DecidableEq, Repr

inductive Action where
  | begin (pid : Nat) (call : Call)
  | advance (io : Io) (legacy : HolderLiveness)
  | close (inode : Nat)
  | die (pid : Nat)
deriving DecidableEq, Repr

/-- The name of the state file and the digits of `blake3`, which name tokens and lease files. -/
structure Host where
  stateName : String
  blake3 : List UInt8 → List Char

def Host.digest (host : Host) (text : String) : String :=
  String.ofList ((host.blake3 text.toUTF8.data.toList).take 24)

def Host.admissionToken (host : Host) (ownerIdentity : String) (generation acquiredAtUnixSecs : Nat) : String :=
  host.digest (ownerIdentity ++ "\x00" ++ toString generation ++ "\x00" ++ toString acquiredAtUnixSecs)

/-- `holder_lease_path`: a token does not appear in the name of its lease, only its digest does. -/
def Host.leasePath (host : Host) (token : String) : String :=
  host.stateName ++ "." ++ host.digest token ++ ".lease"

def Stage.lease : Stage → Option Nat
  | .publish _ _ inode => some inode
  | _ => none

def System.locked (s : System) (inode : Nat) : Bool :=
  s.admissions.any (·.inode = inode) || s.critical.any (·.stage.lease = some inode)

def System.leave (s : System) (event : Event) : System × Event := ({ s with critical := none }, event)

def System.goto (s : System) (c : Critical) (stage : Stage) : System × Event :=
  ({ s with critical := some { c with stage := stage } }, .quiet)

def holderLeaseLiveness (s : System) (io : Io) (path : String) : HolderLiveness :=
  match io with
  | .failed => .unknown .leaseOpenUnavailable
  | _ =>
    match s.leases.read path with
    | none => .dead
    | some inode =>
      if io ≠ .ok then .unknown .leaseLockUnavailable
      else if s.locked inode then .live
      else .dead

def holderLiveness (host : Host) (s : System) (io : Io) (legacy : HolderLiveness) (holder : DbAdmissionHolder) :
    HolderLiveness :=
  match holder.leaseVersion with
  | 1 => holderLeaseLiveness s io (host.leasePath holder.token)
  | 0 =>
    if (s.leases.read (host.leasePath holder.token)).isSome then
      holderLeaseLiveness s io (host.leasePath holder.token)
    else legacy
  | _ => .unknown .unknownLeaseVersion

def unreferencedLeases (host : Host) (s : System) (holders : List DbAdmissionHolder) : List String :=
  (s.leases.rows.map Prod.fst).filter fun path => !(holders.map fun holder => host.leasePath holder.token).contains path

def removeUnreferencedLease (io : Io) (path : String) (s : System) : System :=
  match io with
  | .failed | .aborted => s
  | .ok | .failedLate =>
    match s.leases.read path with
    | none => s
    | some inode => if s.locked inode then s else { s with leases := s.leases.remove path }

/-- One holder of `reap_stale_holders`. -/
def reapOne (holder : DbAdmissionHolder) (kept : List DbAdmissionHolder) (reaped : ReapedHolders) :
    HolderLiveness → List DbAdmissionHolder × ReapedHolders
  | .live => (kept ++ [holder], reaped)
  | .unknown reason =>
    (kept ++ [holder], { reaped with
      unknownHolderDiagnostics := reaped.unknownHolderDiagnostics ++ [(holder.generation, reason)] })
  | .dead =>
    (kept, { reaped with
      reapedStaleHoldersThisSnapshot := saturatingAdd reaped.reapedStaleHoldersThisSnapshot 1 })

def sortHolders (holders : List DbAdmissionHolder) : List DbAdmissionHolder :=
  holders.insertionSort fun a b => a.generation < b.generation ∨ a.generation = b.generation ∧ a.pid ≤ b.pid

def matchesAdmission (admission : ProfileDbAdmission) (holder : DbAdmissionHolder) : Bool :=
  holder.token = admission.token && holder.generation = admission.generation &&
    holder.ownerIdentity = admission.ownerIdentity

/-- After the reaping: the budgets of `acquire`, or the answer of `snapshot`. -/
def settleStep (host : Host) (config : DbAdmissionConfig) (s : System) (c : Critical) (state : AdmissionState)
    (reaped : ReapedHolders) : System × Event :=
  let cache := activeCacheBytes state.holders
  match c.call with
  | .acquire request processIdentity unixSecs =>
    match budgetExceededReason state.holders.length request config cache with
    | some reason =>
      s.leave (.refused (.budgetExceeded state.holders.length config.maxHolders cache config.maxCacheBytes
        request.configuredCacheBytes reaped.reapedStaleHoldersThisSnapshot config.reservedServiceHolders
        (serviceHolders state.holders) reason))
    | none =>
      let generation := max (saturatingAdd state.nextGeneration 1) 1
      let ownerIdentity :=
        "mempal-" ++ request.holderClass.display ++ "-" ++ toString c.pid ++ "-" ++ processIdentity
      s.goto c (.createLease { state with nextGeneration := generation }
        { holderClass := request.holderClass, ownerIdentity := ownerIdentity, pid := c.pid
          generation := generation, acquiredAtUnixSecs := unixSecs, connectionCount := request.connectionCount
          configuredCacheBytes := request.configuredCacheBytes
          token := host.admissionToken ownerIdentity generation unixSecs, leaseVersion := 1 })
  | _ =>
    s.leave (.observed
      { holders := state.holders, reaped := reaped, configuredHolderLimit := config.maxHolders
        reservedServiceHolders := config.reservedServiceHolders, serviceHolders := serviceHolders state.holders
        configuredCacheBytes := config.maxCacheBytes, activeCacheBytes := cache
        availableCacheBytes := config.maxCacheBytes - cache })

/-- `save_state` by an atomic rename; the flag says whether the call reports an error. -/
def saveState (io : Io) (state : AdmissionState) (s : System) : System × Bool :=
  match io with
  | .ok => ({ s with file := state }, true)
  | .failedLate => ({ s with file := state }, false)
  | .failed | .aborted => (s, false)

/-- The part of `acquire` after the budgets. -/
def admitStep (host : Host) (io : Io) (s : System) (c : Critical) : System × Event :=
  match c.stage with
  | .createLease state holder =>
    let path := host.leasePath holder.token
    if io = .ok && (s.leases.read path).isNone then
      { s with leases := s.leases.write path s.inodes, inodes := s.inodes + 1 }.goto c (.lockLease state holder s.inodes)
    else s.leave (.refused .sidecar)
  | .lockLease state holder inode =>
    match io with
    | .ok => s.goto c (.publish { state with holders := sortHolders (state.holders ++ [holder]) } holder inode)
    -- the lock is taken, but the file or its directory cannot be synced
    | .failedLate => s.leave (.refused .sidecar)
    | .failed | .aborted => s.goto c (.withdraw holder)
  | .publish state holder inode =>
    let saved := saveState io state s
    if saved.2 then
      let admission : ProfileDbAdmission :=
        ⟨c.pid, holder.ownerIdentity, holder.token, holder.generation, inode, false⟩
      { saved.1 with admissions := admission :: saved.1.admissions }.leave (.acquired admission)
    else saved.1.goto c (.withdraw holder)
  | .withdraw holder =>
    match io with
    | .failed | .aborted => s.leave (.refused .sidecar)
    | .ok | .failedLate =>
      { s with leases := s.leases.remove (host.leasePath holder.token) }.leave (.refused .sidecar)
  | _ => (s, .quiet)

/-- The part of `release` after its sweep. -/
def releaseStep (host : Host) (io : Io) (s : System) (c : Critical) (admission : ProfileDbAdmission) :
    System × Event :=
  match c.stage with
  | .retain state =>
    let holders := state.holders.filter fun holder => !matchesAdmission admission holder
    if holders.length = state.holders.length then s.goto c (.unlink { state with holders := holders } false)
    else
      let saved := saveState io { state with holders := holders } s
      if saved.2 then saved.1.goto c (.unlink { state with holders := holders } true)
      else saved.1.leave (.refused .sidecar)
  | .unlink state released =>
    if state.holders.all (·.token ≠ admission.token) then
      match io with
      | .ok => { s with leases := s.leases.remove (host.leasePath admission.token) }.leave (.released released)
      | .failedLate => { s with leases := s.leases.remove (host.leasePath admission.token) }.leave (.refused .sidecar)
      | .failed | .aborted => s.leave (.refused .sidecar)
    else s.leave (.released released)
  | _ => (s, .quiet)

def advanceStep (host : Host) (config : DbAdmissionConfig) (io : Io) (legacy : HolderLiveness) (s : System)
    (c : Critical) : System × Event :=
  match c.stage with
  | .sweepStaged => if io = .ok then s.goto c .load else s.leave (.refused .sidecar)
  | .load =>
    if io = .ok then s.goto c (.sweep s.file (unreferencedLeases host s s.file.holders))
    else s.leave (.refused .sidecar)
  | .sweep state [] =>
    match c.call with
    | .release _ => s.goto c (.retain state)
    | _ => s.goto c (.reap state [] state.holders ⟨0, []⟩)
  | .sweep state (path :: rest) =>
    if io = .aborted then s.leave (.refused .sidecar)
    else (removeUnreferencedLease io path s).goto c (.sweep state rest)
  | .reap state kept [] reaped => s.goto c (.persist { state with holders := kept } reaped)
  | .reap state kept (holder :: rest) reaped =>
    let probed := reapOne holder kept reaped (holderLiveness host s io legacy holder)
    s.goto c (.reap state probed.1 rest probed.2)
  | .persist state reaped =>
    if reaped.reapedStaleHoldersThisSnapshot = 0 then s.goto c (.settle state reaped)
    else
      let saved := saveState io state s
      if saved.2 then saved.1.goto c (.sweepReaped state (unreferencedLeases host saved.1 state.holders) reaped)
      else saved.1.leave (.refused .sidecar)
  | .sweepReaped state [] reaped => s.goto c (.settle state reaped)
  | .sweepReaped state (path :: rest) reaped =>
    if io = .aborted then s.leave (.refused .sidecar)
    else (removeUnreferencedLease io path s).goto c (.sweepReaped state rest reaped)
  | .settle state reaped => settleStep host config s c state reaped
  | .createLease _ _ | .lockLease _ _ _ | .publish _ _ _ | .withdraw _ => admitStep host io s c
  | .retain _ | .unlink _ _ =>
    match c.call with
    | .release admission => releaseStep host io s c admission
    | _ => (s, .quiet)

def beginStep (config : DbAdmissionConfig) (pid : Nat) (call : Call) (s : System) : System × Event :=
  let enter (s : System) : System × Event :=
    match s.critical with
    | some _ => (s, .refused .busy)
    | none => ({ s with critical := some ⟨pid, call, .sweepStaged⟩ }, .quiet)
  match call with
  | .acquire request _ _ =>
    match validateRequest request config with
    | .error error => (s, .refused error)
    | .ok () => enter s
  | .snapshot => enter s
  | .release admission =>
    if admission ∈ s.admissions then
      enter { s with
        admissions := s.admissions.map fun a =>
          if a.inode = admission.inode then { a with releasing := true } else a }
    else (s, .quiet)

def closeStep (inode : Nat) (s : System) : System :=
  match s.critical with
  | some ⟨_, .release admission, _⟩ =>
    if admission.inode = inode then s
    else { s with admissions := s.admissions.filter fun a => !(a.releasing && a.inode = inode) }
  | _ => { s with admissions := s.admissions.filter fun a => !(a.releasing && a.inode = inode) }

def dieStep (pid : Nat) (s : System) : System :=
  { s with
    admissions := s.admissions.filter (·.pid ≠ pid)
    critical := s.critical.filter (·.pid ≠ pid) }

def admissionMachine (host : Host) (config : DbAdmissionConfig) : Machine System Action Event where
  step s
    | .begin pid call => beginStep config pid call s
    | .advance io legacy =>
      match s.critical with
      | none => (s, .quiet)
      | some c => advanceStep host config io legacy s c
    | .close inode => (closeStep inode s, .quiet)
    | .die pid => (dieStep pid s, .quiet)

def emptySystem : System := ⟨⟨0, []⟩, Table.empty, 0, [], none⟩

end Mempal.Admission

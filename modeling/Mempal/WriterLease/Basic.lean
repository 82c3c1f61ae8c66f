import Mempal.Clock
import Mempal.Foundation.Table

set_option autoImplicit false

/-! The tables `runtime_writer_leases` and `runtime_writer_lease_generations`, and every transaction on them. -/

namespace Mempal.WriterLease

open Foundation

structure LeaseRow where
  name : String
  owner : String
  generation : Int
  pid : Int
  bootId : Option String
  sessionId : String
  acquiredAt : String
  expiresAt : String
  heartbeatAt : String
  mode : String
  metadataJson : Option String
deriving DecidableEq, Repr

def i64Max : Int := 2 ^ 63 - 1

/-- A generation counter, with the table's `CHECK` constraint and the integer range as fields. -/
structure GenerationRow where
  name : String
  lastGeneration : Int
  positive : 0 < lastGeneration
  bounded : lastGeneration ≤ i64Max
deriving DecidableEq

structure LeaseDb where
  leases : Table LeaseRow.name
  generations : Table GenerationRow.name

@[ext] theorem LeaseDb.ext {db db' : LeaseDb} (hLeases : db.leases = db'.leases)
    (hGenerations : db.generations = db'.generations) : db = db' := by
  cases db
  cases db'
  simp_all

instance : DecidableEq LeaseDb := fun db db' =>
  decidable_of_iff (db.leases = db'.leases ∧ db.generations = db'.generations)
    ⟨fun h => LeaseDb.ext h.1 h.2, fun h => ⟨congrArg _ h, congrArg _ h⟩⟩

structure RuntimeWriterLease where
  name : String
  owner : String
  generation : UInt64
  pid : UInt32
  bootId : Option String
  sessionId : String
  acquiredAt : String
  expiresAt : String
  heartbeatAt : String
  mode : String
  metadataJson : Option String
  remainingSecs : Int
deriving DecidableEq, Repr

inductive HolderLiveness where
  | live
  | dead
  | unverifiable
deriving DecidableEq, Repr

/-- What the operating system answers during one transaction. -/
structure Oracle where
  bootId : Option String
  daemonOwnerMatchesProcess : String → UInt32 → Bool
  processLiveness : UInt32 → Option String → Option String → HolderLiveness

structure Env where
  now : Nat
  oracle : Oracle

variable (oracle : Oracle) (env : Env) (lease : RuntimeWriterLease)

def daemonIsLiveHolder (owner : String) (pid : UInt32) (bootId : Option String) : Bool :=
  match bootId with
  | none => false
  | some expected => oracle.bootId == some expected && oracle.daemonOwnerMatchesProcess owner pid

def holderIsLive (owner : String) (pid : UInt32) (bootId : Option String) (mode : String) (metadataJson : Option String) :
    Bool :=
  if mode = "daemon" then daemonIsLiveHolder oracle owner pid bootId
  else oracle.processLiveness pid bootId metadataJson == .live

def holderShouldRetain (owner : String) (pid : UInt32) (bootId : Option String) (mode : String)
    (metadataJson : Option String) : Bool :=
  if mode = "daemon" then daemonIsLiveHolder oracle owner pid bootId
  else oracle.processLiveness pid bootId metadataJson != .dead

/-- `u32::try_from` on a stored process id. -/
def pidOf (pid : Int) : Option UInt32 :=
  if 0 ≤ pid ∧ pid < 2 ^ 32 then some (UInt32.ofNat pid.toNat) else none

/-- `generation as i64`. -/
def asI64 (n : UInt64) : Int := if n.toNat < 2 ^ 63 then n.toNat else n.toNat - 2 ^ 64

/-- `u64::try_from(generation).unwrap_or(u64::MAX)`. -/
def toU64 (n : Int) : UInt64 := if 0 ≤ n then UInt64.ofNat n.toNat else UInt64.ofNat (2 ^ 64 - 1)

def rowShouldRetain (row : LeaseRow) : Bool :=
  (pidOf row.pid).any fun pid => holderShouldRetain oracle row.owner pid row.bootId row.mode row.metadataJson

/-- `expires_at < strftime(.., 'now')`; a comparison with `NULL` selects nothing. -/
def expired (now : Nat) (row : LeaseRow) : Bool := (strftimeNow now).any fun text => row.expiresAt < text

/-- `expires_at >= strftime(.., 'now')`. -/
def unexpired (now : Nat) (row : LeaseRow) : Bool := (strftimeNow now).any fun text => text ≤ row.expiresAt

def fences (name owner sessionId : String) (generation : Int) (row : LeaseRow) : Bool :=
  row.name = name && row.owner = owner && row.sessionId = sessionId && row.generation = generation

def sameLease : LeaseRow → Bool :=
  fences lease.name lease.owner lease.sessionId (asI64 lease.generation)

/-- `runtime_writer_lease_cleanup_expired_tx`: the remaining rows and the number removed. -/
def cleanupExpiredTx (preserveLiveHolders : Bool) (leases : Table LeaseRow.name) : Table LeaseRow.name × Nat :=
  (leases.rows.filter (expired env.now)).foldl
    (fun acc row =>
      if preserveLiveHolders && rowShouldRetain env.oracle row then acc
      else
        let selects := fences row.name row.owner row.sessionId row.generation
        (acc.1.delete selects, acc.2 + acc.1.count selects))
    (leases, 0)

inductive AcquirePolicy where
  | standard
  | preserveLiveHolders
  | rebindDeadDaemon
deriving DecidableEq, Repr

def rebindDeadDaemon (name : String) (leases : Table LeaseRow.name) : Table LeaseRow.name :=
  (leases.rows.filter fun row => row.name = name).foldl
    (fun acc row =>
      if rowShouldRetain env.oracle row then acc
      else acc.delete (fences name row.owner row.sessionId row.generation))
    leases

/-- How a transaction body ends without a result: a panic in time arithmetic, or a counter that left the
integers and no longer reads as one. -/
inductive Fault where
  | timeOverflow
  | generationOverflow
deriving DecidableEq, Repr

/-- The upsert of `runtime_writer_lease_generations` and the counter it leaves behind. -/
def bumpGeneration (generations : Table GenerationRow.name) (name : String) :
    Except Fault (Table GenerationRow.name × Int) :=
  match generations.find? name with
  | none => .ok (generations.insertOrIgnore ⟨name, 1, by decide, by decide⟩, 1)
  | some row =>
    if h : row.lastGeneration + 1 ≤ i64Max then
      .ok (generations.update (fun r => r.name = name)
        (fun r => ⟨r.name, row.lastGeneration + 1, by have := row.positive; omega, h⟩) (fun _ => rfl),
        row.lastGeneration + 1)
    else .error .generationOverflow

/-- The arguments of an acquire, with what the calling process contributes to the row. -/
structure AcquireArgs where
  name : String
  owner : String
  mode : String
  ttlSecs : UInt64
  persistedMetadataJson : String
  pid : UInt32
  sessionId : String
deriving DecidableEq, Repr

def remainingSecs (ttlSecs : UInt64) : Int := if ttlSecs.toNat < 2 ^ 63 then ttlSecs.toNat else i64Max

/-- `runtime_writer_lease_acquire_with_cleanup_policy`. -/
def acquire (policy : AcquirePolicy) (args : AcquireArgs) (db : LeaseDb) :
    Except Fault (LeaseDb × Option RuntimeWriterLease) :=
  let cleaned := (cleanupExpiredTx env (policy != .standard) db.leases).1
  let leases := if policy = .rebindDeadDaemon then rebindDeadDaemon env args.name cleaned else cleaned
  match addSecs env.now args.ttlSecs with
  | none => .error .timeOverflow
  | some expiry =>
    if leases.contains args.name then .ok (⟨leases, db.generations⟩, none)
    else
      match bumpGeneration db.generations args.name with
      | .error fault => .error fault
      | .ok (generations, lastGeneration) =>
        let generation := toU64 lastGeneration
        let row : LeaseRow :=
          { name := args.name, owner := args.owner, generation := asI64 generation, pid := args.pid.toNat
            bootId := env.oracle.bootId, sessionId := args.sessionId, acquiredAt := formatRfc3339 env.now
            expiresAt := formatRfc3339 expiry, heartbeatAt := formatRfc3339 env.now, mode := args.mode
            metadataJson := some args.persistedMetadataJson }
        .ok (⟨leases.insertOrIgnore row, generations⟩, some
          { name := args.name, owner := args.owner, generation := generation, pid := args.pid
            bootId := env.oracle.bootId, sessionId := args.sessionId, acquiredAt := formatRfc3339 env.now
            expiresAt := formatRfc3339 expiry, heartbeatAt := formatRfc3339 env.now, mode := args.mode
            metadataJson := some args.persistedMetadataJson, remainingSecs := remainingSecs args.ttlSecs })

/-- `runtime_writer_lease_renew_fenced`. -/
def renew (ttlSecs : UInt64) (db : LeaseDb) : Except Fault (LeaseDb × Bool) :=
  let leases := (cleanupExpiredTx env true db.leases).1
  match addSecs env.now ttlSecs with
  | none => .error .timeOverflow
  | some expiry =>
    let selects := fun row => sameLease lease row && unexpired env.now row
    .ok (⟨leases.update selects
        (fun row => { row with expiresAt := formatRfc3339 expiry, heartbeatAt := formatRfc3339 env.now })
        (fun _ => rfl), db.generations⟩, leases.count selects != 0)

/-- `runtime_writer_lease_release_fenced_until`. -/
def release (db : LeaseDb) : LeaseDb × Bool :=
  (⟨db.leases.delete (sameLease lease), db.generations⟩, db.leases.count (sameLease lease) != 0)

/-- `runtime_writer_lease_cleanup_expired`. -/
def cleanupExpired (db : LeaseDb) : LeaseDb × Nat :=
  let cleaned := cleanupExpiredTx env false db.leases
  (⟨cleaned.1, db.generations⟩, cleaned.2)

/-- The `EXISTS` query that `is_active`, the database fence and the queue fence share. -/
def holdsLease (now : Nat) (lease : RuntimeWriterLease) (leases : Table LeaseRow.name) : Bool :=
  leases.rows.any fun row => sameLease lease row && unexpired now row

/-- `runtime_writer_lease_is_active_fenced`. -/
def isActive (db : LeaseDb) : LeaseDb × Bool :=
  let leases := (cleanupExpiredTx env true db.leases).1
  (⟨leases, db.generations⟩, holdsLease env.now lease leases)

/-- `with_runtime_writer_lease_transaction_until` around a write: whether it commits. -/
def writeDatabase (db : LeaseDb) : LeaseDb × Bool :=
  let leases := (cleanupExpiredTx env true db.leases).1
  if holdsLease env.now lease leases then (⟨leases, db.generations⟩, true) else (db, false)

/-- `require_runtime_writer_lease` of the queue: the check alone, without a cleanup. -/
def writeQueue (db : LeaseDb) : LeaseDb × Bool :=
  (db, holdsLease env.now lease db.leases)

/-- `runtime_writer_lease_restore_if_unheld`. -/
def restoreIfUnheld (ttlSecs : UInt64) (db : LeaseDb) : Except Fault (LeaseDb × Bool) :=
  let leases := (cleanupExpiredTx env true db.leases).1
  if !holderIsLive env.oracle lease.owner lease.pid lease.bootId lease.mode lease.metadataJson then
    .ok (⟨leases, db.generations⟩, false)
  else if (db.generations.find? lease.name).map GenerationRow.lastGeneration ≠ some (lease.generation.toNat : Int)
  then .ok (⟨leases, db.generations⟩, false)
  else if leases.rows.any (sameLease lease) then .ok (⟨leases, db.generations⟩, true)
  else if leases.count (fun row => row.name = lease.name) ≠ 0 then .ok (⟨leases, db.generations⟩, false)
  else
    match addSecs env.now ttlSecs with
    | none => .error .timeOverflow
    | some expiry =>
      .ok (⟨leases.insertOrIgnore
        { name := lease.name, owner := lease.owner, generation := asI64 lease.generation
          pid := lease.pid.toNat, bootId := lease.bootId, sessionId := lease.sessionId
          acquiredAt := formatRfc3339 env.now, expiresAt := formatRfc3339 expiry
          heartbeatAt := formatRfc3339 env.now, mode := lease.mode, metadataJson := lease.metadataJson },
        db.generations⟩, true)

end Mempal.WriterLease

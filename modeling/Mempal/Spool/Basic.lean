import Mathlib.Data.Finset.Erase
import Mathlib.Data.Finset.Insert
import Mempal.Foundation.Directory
import Mempal.Foundation.Machine
import Mempal.Queue.Operations

set_option autoImplicit false

/-! Threads append to and drain one shared spool. Each stage of a call ends with one call of the file system, the queue
or a mutex, and other threads move between the stages. -/

namespace Mempal.Spool

open Foundation Queue
open WriterLease (RuntimeWriterLease)

/-- `HookIpcEnqueueRequest`, and a `SpoolRecord` with the same fields. -/
structure Request where
  kind : String
  payload : String
  idempotencyKey : String
deriving DecidableEq, Repr

inductive Contents where
  | record (request : Request)
  | undecodable (bytes : List UInt8)
deriving DecidableEq, Repr

/-- The names `{stem}.json`, `{stem}.claim` and `{file}.{digest}.quarantine`. -/
inductive File where
  | record (stem : String)
  | claim (stem : String)
  | quarantine (file : File) (digest : String)
deriving DecidableEq, Repr

structure SpoolConfig where
  blake3 : List UInt8 → String
  encode : Request → List UInt8
  maxBytes : Nat
  queue : QueueConfig

section Config
variable (config : SpoolConfig)

def Contents.bytes : Contents → List UInt8
  | .record request => config.encode request
  | .undecodable bytes => bytes

def recordStem (request : Request) : String :=
  config.blake3 (utf8 request.kind ++ [0] ++ utf8 request.idempotencyKey)

def quarantineFile (file : File) (contents : Contents) : File :=
  .quarantine file (config.blake3 (contents.bytes config))

end Config

inductive SpoolError where
  | io
  | decode (file : File)
  | full (recordBytes activeBytes limitBytes : Nat)
  | conflict
  | uncertain
  | queue (error : QueueError)
deriving DecidableEq, Repr

inductive AppendOutcome where
  | appended
  | alreadyPresent
deriving DecidableEq, Repr

structure StoredRecord where
  stem : String
  request : Request
deriving DecidableEq, Repr

inductive AppendStage where
  | checkRecord
  | checkClaim
  | chooseFile
  | readExisting (file : File)
  | syncExisting
  | measure
  | publish
  | syncPublished

inductive RecoverStage where
  | nextEntry
  | checkRecord (stem : String)
  | restore (stem : String)
  | readClaim (stem : String)
  | readRecord (stem : String) (claimed : Request)
  | removeClaim (stem : String)

inductive ClaimStage where
  | register
  | sync
  | enqueue
  | remove
  | syncRemoved

inductive ParkStage where
  | read
  | look (contents : Contents)
  | move (dest : File) (taken : Bool)
  | sync

inductive ReleaseStage where
  | checkRecord
  | restore
  | readClaim
  | readRecord (claimed : Request)
  | remove
  | forget (released : Bool)
  | sync

/-- The locals of `drain_claimed` between two records. -/
structure Drain where
  lease : Option RuntimeWriterLease
  drained : Nat
  todo : List StoredRecord

/-- Who called `quarantine`, and where to go on. -/
inductive Parker where
  | recovery (lease : Option RuntimeWriterLease) (known : Finset String)
  | listing (lease : Option RuntimeWriterLease) (listed : List StoredRecord)
  | drain (drain : Drain) (record : StoredRecord)

inductive Pc where
  | idle
  | append (request : Request) (stage : AppendStage)
  | recover (lease : Option RuntimeWriterLease) (known : Finset String) (recovered : Bool) (stage : RecoverStage)
  | list (lease : Option RuntimeWriterLease) (listed : List StoredRecord)
  | drain (drain : Drain)
  | claim (drain : Drain) (record : StoredRecord) (stage : ClaimStage)
  | park (parker : Parker) (file : File) (stage : ParkStage)
  | forget (stem : String) (result : Except SpoolError Drain)
  | release (record : StoredRecord) (error : QueueError) (stage : ReleaseStage)

structure SpoolState where
  files : Directory File Contents
  queue : QueueDb
  appendLock : Option Nat
  activeClaims : Finset String
  threads : Nat → Pc

/-- What a stage learns from outside: whether its call fails, the next directory entry, the bytes that the
directory was found to hold, and what a transaction of the queue reads. -/
structure Outside where
  fault : Bool
  entry : Option String
  activeBytes : Nat
  env : Env

inductive Event where
  | quiet
  | appendReturned (request : Request) (result : Except SpoolError AppendOutcome)
  | drainReturned (result : Except SpoolError Nat)
  | enqueueReturned (request : Request) (result : Except QueueError String) (created : Bool)
deriving DecidableEq

namespace SpoolState

variable (s : SpoolState) (t : Nat)

def goto (pc : Pc) : SpoolState := { s with threads := Function.update s.threads t pc }

def move (pc : Pc) : SpoolState × Event := (s.goto t pc, .quiet)

def unlock : SpoolState := { s with appendLock := none }

def returnAppend (request : Request) (result : Except SpoolError AppendOutcome) : SpoolState × Event :=
  ((s.goto t .idle).unlock, .appendReturned request result)

/-- An error of `records`, which holds the append mutex. -/
def failRecords (error : SpoolError) : SpoolState × Event :=
  ((s.goto t .idle).unlock, .drainReturned (.error error))

def returnDrain (result : Except SpoolError Nat) : SpoolState × Event :=
  (s.goto t .idle, .drainReturned result)

end SpoolState

section Config
variable (config : SpoolConfig)

def appendStep (t : Nat) (o : Outside) (request : Request) (s : SpoolState) : AppendStage → SpoolState × Event
  | .checkRecord =>
    if (s.files.read (.record (recordStem config request))).isSome then s.move t (.append request .chooseFile)
    else s.move t (.append request .checkClaim)
  | .checkClaim =>
    if (s.files.read (.claim (recordStem config request))).isSome then s.move t (.append request .chooseFile)
    else s.move t (.append request .measure)
  | .chooseFile =>
    if (s.files.read (.record (recordStem config request))).isSome then
      s.move t (.append request (.readExisting (.record (recordStem config request))))
    else s.move t (.append request (.readExisting (.claim (recordStem config request))))
  | .readExisting file =>
    match s.files.read file with
    | none => s.returnAppend t request (.error .io)
    | some (.undecodable _) => s.returnAppend t request (.error (.decode file))
    | some (.record existing) =>
      if existing = request then s.move t (.append request .syncExisting)
      else s.returnAppend t request (.error .conflict)
  | .syncExisting => s.returnAppend t request (if o.fault then .error .uncertain else .ok .alreadyPresent)
  | .measure =>
    let recordBytes := (config.encode request).length
    if o.fault then s.returnAppend t request (.error .io)
    else if recordBytes > config.maxBytes || o.activeBytes > config.maxBytes - recordBytes then
      s.returnAppend t request (.error (.full recordBytes o.activeBytes config.maxBytes))
    else s.move t (.append request .publish)
  | .publish =>
    -- the rename of the written temporary file
    if o.fault then s.returnAppend t request (.error .io)
    else
      { s with files := s.files.write (.record (recordStem config request)) (.record request) }.move t
        (.append request .syncPublished)
  | .syncPublished => s.returnAppend t request (if o.fault then .error .uncertain else .ok .appended)

/-- `recover_stale_claims` at one entry, with the active claims as they were at its start. -/
def recoverStep (t : Nat) (o : Outside) (lease : Option RuntimeWriterLease) (known : Finset String)
    (recovered : Bool) (s : SpoolState) : RecoverStage → SpoolState × Event
  | .nextEntry =>
    match o.entry with
    | some stem =>
      if stem ∈ known then s.move t (.recover lease known recovered .nextEntry)
      else s.move t (.recover lease known recovered (.checkRecord stem))
    | none => if recovered && o.fault then s.failRecords t .io else s.move t (.list lease [])
  | .checkRecord stem =>
    if (s.files.read (.record stem)).isSome then s.move t (.recover lease known recovered (.readClaim stem))
    else s.move t (.recover lease known recovered (.restore stem))
  | .restore stem =>
    if o.fault || (s.files.read (.claim stem)).isNone then s.failRecords t .io
    else
      { s with files := s.files.rename (.claim stem) (.record stem) }.move t
        (.recover lease known true .nextEntry)
  | .readClaim stem =>
    match s.files.read (.claim stem) with
    | none => s.failRecords t .io
    | some (.undecodable _) => s.move t (.park (.recovery lease known) (.claim stem) .read)
    | some (.record claimed) => s.move t (.recover lease known recovered (.readRecord stem claimed))
  | .readRecord stem claimed =>
    match s.files.read (.record stem) with
    | none => s.failRecords t .io
    | some (.undecodable _) => s.move t (.park (.recovery lease known) (.record stem) .read)
    | some (.record existing) =>
      if claimed ≠ existing then s.failRecords t .conflict
      else s.move t (.recover lease known recovered (.removeClaim stem))
  | .removeClaim stem =>
    if o.fault || (s.files.read (.claim stem)).isNone then s.failRecords t .io
    else
      { s with files := s.files.remove (.claim stem) }.move t (.recover lease known true .nextEntry)

/-- The loop of `records` over the directory; at its end the mutex is given back. -/
def listStep (t : Nat) (o : Outside) (lease : Option RuntimeWriterLease) (listed : List StoredRecord)
    (s : SpoolState) : SpoolState × Event :=
  match o.entry with
  | none => s.unlock.move t (.drain ⟨lease, 0, listed.insertionSort fun left right => left.stem ≤ right.stem⟩)
  | some stem =>
    match s.files.read (.record stem) with
    | none => s.failRecords t .io
    | some (.undecodable _) => s.move t (.park (.listing lease listed) (.record stem) .read)
    | some (.record request) => s.move t (.list lease (listed ++ [⟨stem, request⟩]))

/-- The head of the loop of `drain_claimed`, with the rename of `claim`. -/
def drainStep (t : Nat) (o : Outside) (drain : Drain) (s : SpoolState) : SpoolState × Event :=
  match drain.todo with
  | [] => s.returnDrain t (.ok drain.drained)
  | record :: todo =>
    if o.fault then s.returnDrain t (.error .io)
    else if (s.files.read (.record record.stem)).isNone then s.move t (.drain { drain with todo := todo })
    else
      { s with files := s.files.rename (.record record.stem) (.claim record.stem) }.move t
        (.claim { drain with todo := todo } record .register)

def requestMessage (env : Env) (request : Request) : NewMessage :=
  newMessage config.blake3 env (.explicitKey request.idempotencyKey) request.kind request.payload

def enqueueRecord (env : Env) (lease : Option RuntimeWriterLease) (request : Request) (db : QueueDb) :
    QueueDb × Except QueueError String :=
  let message := requestMessage config env request
  match lease with
  | some lease => enqueueIdempotentWithKeyFailFastFenced env lease "drain ingress spool" message db
  | none =>
    if request.kind = ingestAsyncKind then
      enqueueIngestWithByteBudget config.queue (.explicitKey request.idempotencyKey) message db
    else if explicitKeyConflicts db message.id message.kind message.sourceHash then
      (db, .error .idempotencyConflict)
    else (insertUnlessKnown message db, .ok message.id)

def afterEnqueue (drain : Drain) (record : StoredRecord) : Except QueueError String → Pc
  | .ok _ => .claim drain record .remove
  | .error .idempotencyConflict => .park (.drain drain record) (.claim record.stem) .read
  | .error error => .release record error .checkRecord

def claimStep (t : Nat) (o : Outside) (drain : Drain) (record : StoredRecord) (s : SpoolState) :
    ClaimStage → SpoolState × Event
  | .register =>
    { s with activeClaims := insert record.stem s.activeClaims }.move t (.claim drain record .sync)
  | .sync =>
    if o.fault then s.move t (.forget record.stem (.error .uncertain))
    else s.move t (.claim drain record .enqueue)
  | .enqueue =>
    let id := (requestMessage config o.env record.request).id
    let enqueued := if o.fault then (s.queue, .error .sqlite)
      else enqueueRecord config o.env drain.lease record.request s.queue
    let created := !queueMessageIdentityExists s.queue id && queueMessageIdentityExists enqueued.1 id
    ({ s with queue := enqueued.1 }.goto t (afterEnqueue drain record enqueued.2),
      .enqueueReturned record.request enqueued.2 created)
  | .remove =>
    if o.fault || (s.files.read (.claim record.stem)).isNone then s.move t (.forget record.stem (.error .io))
    else { s with files := s.files.remove (.claim record.stem) }.move t (.claim drain record .syncRemoved)
  | .syncRemoved =>
    if o.fault then s.move t (.forget record.stem (.error .io))
    else s.move t (.forget record.stem (.ok { drain with drained := drain.drained + 1 }))

def Parker.failed (parker : Parker) (t : Nat) (s : SpoolState) : SpoolState × Event :=
  match parker with
  | .recovery _ _ | .listing _ _ => s.failRecords t .io
  | .drain _ record => s.move t (.forget record.stem (.error .io))

def Parker.next : Parker → Pc
  | .recovery lease known => .recover lease known true .nextEntry
  | .listing lease listed => .list lease listed
  | .drain rest record => .forget record.stem (.ok rest)

/-- `quarantine`. -/
def parkStep (t : Nat) (o : Outside) (parker : Parker) (file : File) (s : SpoolState) :
    ParkStage → SpoolState × Event
  | .read =>
    match s.files.read file with
    | none => parker.failed t s
    | some contents => s.move t (.park parker file (.look contents))
  | .look contents =>
    let dest := quarantineFile config file contents
    s.move t (.park parker file (.move dest (s.files.read dest).isSome))
  | .move dest taken =>
    if o.fault || (s.files.read file).isNone then parker.failed t s
    else
      { s with files := if taken then s.files.remove file else s.files.rename file dest }.move t
        (.park parker file .sync)
  | .sync => if o.fault then parker.failed t s else s.move t parker.next

/-- `forget_claim`, and what `drain_claimed` does after it. -/
def forgetStep (t : Nat) (stem : String) (result : Except SpoolError Drain) (s : SpoolState) :
    SpoolState × Event :=
  let forgotten := { s with activeClaims := s.activeClaims.erase stem }
  match result with
  | .ok drain => forgotten.move t (.drain drain)
  | .error error => forgotten.returnDrain t (.error error)

/-- `release_claim`. A file that cannot be read ends it before the claim is forgotten. -/
def releaseStep (t : Nat) (o : Outside) (record : StoredRecord) (error : QueueError) (s : SpoolState) :
    ReleaseStage → SpoolState × Event
  | .checkRecord =>
    if (s.files.read (.record record.stem)).isSome then s.move t (.release record error .readClaim)
    else s.move t (.release record error .restore)
  | .restore =>
    if o.fault || (s.files.read (.claim record.stem)).isNone then s.move t (.release record error (.forget false))
    else
      { s with files := s.files.rename (.claim record.stem) (.record record.stem) }.move t
        (.release record error (.forget true))
  | .readClaim =>
    match s.files.read (.claim record.stem) with
    | none => s.returnDrain t (.error .io)
    | some (.undecodable _) => s.returnDrain t (.error (.decode (.claim record.stem)))
    | some (.record claimed) => s.move t (.release record error (.readRecord claimed))
  | .readRecord claimed =>
    match s.files.read (.record record.stem) with
    | none => s.returnDrain t (.error .io)
    | some (.undecodable _) => s.returnDrain t (.error (.decode (.record record.stem)))
    | some (.record existing) =>
      if claimed = existing then s.move t (.release record error .remove)
      else s.move t (.release record error (.forget false))
  | .remove =>
    if o.fault || (s.files.read (.claim record.stem)).isNone then s.move t (.release record error (.forget false))
    else
      { s with files := s.files.remove (.claim record.stem) }.move t (.release record error (.forget true))
  | .forget released =>
    let forgotten := { s with activeClaims := s.activeClaims.erase record.stem }
    if released then forgotten.move t (.release record error .sync) else forgotten.returnDrain t (.error .io)
  | .sync => s.returnDrain t (.error (if o.fault then .io else .queue error))

inductive SpoolAction where
  | append (thread : Nat) (request : Request)
  | drain (thread : Nat) (lease : Option RuntimeWriterLease)
  | step (thread : Nat) (outside : Outside)
  | crash

def threadStep (t : Nat) (o : Outside) (s : SpoolState) : SpoolState × Event :=
  match s.threads t with
  | .idle => (s, .quiet)
  | .append request stage => appendStep config t o request s stage
  | .recover lease known recovered stage => recoverStep t o lease known recovered s stage
  | .list lease listed => listStep t o lease listed s
  | .drain drain => drainStep t o drain s
  | .claim drain record stage => claimStep config t o drain record s stage
  | .park parker file stage => parkStep config t o parker file s stage
  | .forget stem result => forgetStep t stem result s
  | .release record error stage => releaseStep t o record error s stage

def beginCall (t : Nat) (pc : Pc) (s : SpoolState) : SpoolState × Event :=
  match s.threads t, s.appendLock with
  | .idle, none => { s with appendLock := some t }.move t pc
  | _, _ => (s, .quiet)

def spoolMachine : Machine SpoolState SpoolAction Event where
  step s
    | .append t request => beginCall t (.append request .checkRecord) s
    | .drain t lease => beginCall t (.recover lease s.activeClaims false .nextEntry) s
    | .step t o => threadStep config t o s
    | .crash => ({ s with appendLock := none, activeClaims := ∅, threads := fun _ => .idle }, .quiet)

end Config

end Mempal.Spool

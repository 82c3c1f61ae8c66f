import Mathlib.Data.List.Infix
import Mempal.Foundation.Connection

set_option autoImplicit false

/-! A file next to the database holds disk space back. A write that runs into a full disk removes the file and is tried
once more. -/

namespace Mempal.WriteReserve

open Foundation

/-- An error with its chain of sources: whether one of them is SQLite's disk-full code, and their texts. -/
structure WriteError where
  diskFull : Bool
  texts : List String
deriving DecidableEq, Repr

def containsIgnoreCase (text pattern : String) : Bool :=
  decide (pattern.toList <:+: text.toList.map Char.toLower)

def writeErrorIsSqliteFull (error : WriteError) : Bool :=
  error.diskFull || error.texts.any fun text =>
    containsIgnoreCase text "database or disk is full" || containsIgnoreCase text "disk full" ||
      containsIgnoreCase text "enospc"

def reserveLockError : WriteError := ⟨false, ["write reserve lock wait timed out"]⟩

def alreadyOpenError : WriteError := ⟨false, ["cannot start a transaction within a transaction"]⟩

def noTransactionError : WriteError := ⟨false, ["cannot commit - no transaction is active"]⟩

/-- How the removal of the reserve file ends, if the file is there. -/
inductive Removal where
  | removed
  | notRemoved
  | notSynced
deriving DecidableEq, Repr

/-- A connection with the reserve next to it. `fates`, `removals` and `locks` are the coming answers of SQLite, of
the file system and of the reserve's lock file. -/
structure Session (D : Type) where
  conn : Connection D
  reserve : Bool
  lockHeld : Bool
  fates : List (Fate WriteError)
  removals : List Removal
  locks : List Bool
deriving DecidableEq, Repr

variable {D α : Type}

namespace Session

def statement (f : D → Except WriteError D) (s : Session D) : Except WriteError D × Session D :=
  ((s.conn.update f (s.fates.headD .runs)).1,
    { s with conn := (s.conn.update f (s.fates.headD .runs)).2, fates := s.fates.tail })

def begin (s : Session D) : Except WriteError D × Session D :=
  ((s.conn.begin alreadyOpenError (s.fates.headD .runs)).1,
    { s with conn := (s.conn.begin alreadyOpenError (s.fates.headD .runs)).2, fates := s.fates.tail })

def commit (s : Session D) : Except WriteError D × Session D :=
  ((s.conn.commit noTransactionError (s.fates.headD .runs)).1,
    { s with conn := (s.conn.commit noTransactionError (s.fates.headD .runs)).2, fates := s.fates.tail })

/-- `ROLLBACK`, whose error every caller drops. -/
def rollback (s : Session D) : Session D := { s with conn := s.conn.rollback }

def consumeWriteReserve (s : Session D) : Bool × Session D :=
  let rest := { s with removals := s.removals.tail }
  if !s.reserve then (false, rest)
  else
    match s.removals.headD .removed with
    | .removed => (true, { rest with reserve := false })
    | .notRemoved => (false, rest)
    | .notSynced => (false, { rest with reserve := false })

end Session

/-- One attempt of a write, with the sessions in which it starts and ends. -/
structure Attempt (D α : Type) where
  start : Session D
  result : Except WriteError α
  session : Session D

def fenced (body : Session D → Except WriteError α × Session D) :
    List (D → Except WriteError D) → Session D → Except WriteError α × Session D
  | [], s => body s
  | check :: fence, s =>
    match s.statement check with
    | (.error error, s') => (.error error, s')
    | (.ok _, s') => fenced body fence s'

/-- `BEGIN IMMEDIATE`, the body, and `COMMIT` or `ROLLBACK`. -/
def transaction (body : Session D → Except WriteError α × Session D) (s : Session D) : Attempt D α :=
  match s.begin with
  | (.error error, s') => ⟨s, .error error, s'⟩
  | (.ok _, s') =>
    match body s' with
    | (.error error, s'') => ⟨s, .error error, s''.rollback⟩
    | (.ok value, s'') =>
      match s''.commit with
      | (.ok _, s''') => ⟨s, .ok value, s'''⟩
      | (.error error, s''') => ⟨s, .error error, s'''.rollback⟩

/-- A write through the reserve: its attempts in order, and how it ends. -/
structure Reserved (D α : Type) where
  attempts : List (Attempt D α)
  result : Except WriteError α
  session : Session D

/-- The loop of `with_write_reserve_retry`: a second attempt is the last, as the reserve is consumed by then. -/
def retryLoop (attempt : Session D → Attempt D α) (s : Session D) : Reserved D α :=
  let first := attempt s
  match first.result with
  | .ok value => ⟨[first], .ok value, first.session⟩
  | .error error =>
    if !writeErrorIsSqliteFull error then ⟨[first], .error error, first.session⟩
    else
      match first.session.consumeWriteReserve with
      | (false, s') => ⟨[first], .error error, s'⟩
      | (true, s') => ⟨[first, attempt s'], (attempt s').result, (attempt s').session⟩

/-- The free `with_write_reserve_retry`. The lock is a file lock that the same process cannot take twice. -/
def withWriteReserveRetry (attempt : Session D → Attempt D α) (s : Session D) : Reserved D α :=
  let rest := { s with locks := s.locks.tail }
  if s.lockHeld || !s.locks.headD true then ⟨[], .error reserveLockError, rest⟩
  else
    let out := retryLoop attempt { rest with lockHeld := true }
    { out with session := { out.session with lockHeld := false } }

/-- The writes of `Database` that a body can call: through the reserve (`with_write_reserve_retry` and
`with_runtime_writer_lease_write_retry`), or not (`with_runtime_writer_lease_transaction_until`). -/
inductive Entry where
  | reserve
  | plain
deriving DecidableEq, Repr

/-- A write of `Database`: inside a transaction it only runs its fence and its body. -/
def Entry.call (entry : Entry) (fence : List (D → Except WriteError D))
    (body : Session D → Except WriteError α × Session D) (s : Session D) : Except WriteError α × Session D :=
  if s.conn.working.isSome then fenced body fence s
  else
    match entry with
    | .reserve =>
      let out := withWriteReserveRetry (transaction (fenced body fence)) s
      (out.result, out.session)
    | .plain =>
      let out := transaction (fenced body fence) s
      (out.result, out.session)

/-- Statements by which a body controls transactions itself. -/
inductive Control where
  | begin
  | commit
  | rollback
deriving DecidableEq, Repr

def Control.exec : Control → Session D → Except WriteError D × Session D
  | .begin, s => s.begin
  | .commit, s => s.commit
  | .rollback, s => (.ok s.conn.stored, s.rollback)

/-- The body of a write: what it does next may depend on every answer it got. -/
inductive Body (D α : Type) where
  | done (result : Except WriteError α)
  | statement (sql : D → Except WriteError D) (next : Except WriteError D → Body D α)
  | control (control : Control) (next : Except WriteError D → Body D α)
  | write (entry : Entry) (fence : List (D → Except WriteError D)) (inner : Body D α)
    (next : Except WriteError α → Body D α)

def Body.run : Body D α → Session D → Except WriteError α × Session D
  | .done result, s => (result, s)
  | .statement sql next, s => (next (s.statement sql).1).run (s.statement sql).2
  | .control c next, s => (next (c.exec s).1).run (c.exec s).2
  | .write entry fence inner next, s =>
    (next (entry.call fence inner.run s).1).run (entry.call fence inner.run s).2

/-- The two ways in which an outermost write goes through the reserve: in a transaction of its own, with the checks
of a lease, or as the opening of the database, which makes its connection and controls its transactions. -/
inductive Route (D : Type) where
  | database (fence : List (D → Except WriteError D))
  | bootstrap

def opening (body : Session D → Except WriteError α × Session D) (s : Session D) : Attempt D α :=
  match body s.rollback with
  | (.ok value, s') => ⟨s, .ok value, s'⟩
  | (.error error, s') => ⟨s, .error error, s'.rollback⟩

def Route.attempt (route : Route D) (body : Body D α) : Session D → Attempt D α :=
  match route with
  | .database fence => transaction (fenced body.run fence)
  | .bootstrap => opening body.run

def Route.through (route : Route D) (body : Body D α) (s : Session D) : Reserved D α :=
  withWriteReserveRetry (route.attempt body) s

end Mempal.WriteReserve

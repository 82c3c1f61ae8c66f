import Mempal.Foundation.Machine
import Mempal.Schema.Migrations

set_option autoImplicit false

/-! `Database::open` as a machine that takes one step for each statement. A transaction works on a copy that replaces
the database at its commit. -/

namespace Mempal.Schema

open Foundation

variable (tokenize contentHash : String → String)

def contentHashBackfillBatch : Nat := 1000

def hashRow (row : DrawerRow) : DrawerRow :=
  if row.contentHash = none then { row with contentHash := some (contentHash row.content) } else row

def hashRows : Nat → List DrawerRow → List DrawerRow
  | _, [] => []
  | limit, row :: rows =>
    if row.contentHash = none then
      match limit with
      | 0 => row :: rows
      | limit + 1 => hashRow contentHash row :: hashRows limit rows
    else row :: hashRows limit rows

inductive Process where
  | idle
  | migrating (current : Nat) (tasks : List Task)
  | executing (current : Nat) (task : Task) (rest : List Statement) (working : SchemaDb) (tasks : List Task)
  | hashing (current : Nat) (task : Task) (tasks : List Task)
  | selecting (current : Nat) (task : Task) (tasks : List Task)
  | indexing (current : Nat) (task : Task) (rows : List (Int × String)) (tasks : List Task)

def Process.inFollowUp : Process → Bool
  | .hashing .. | .selecting .. | .indexing .. => true
  | _ => false

structure OpenState where
  db : SchemaDb
  process : Process
  /-- The tasks carried out to their end, each with the version that its run had read first. -/
  applied : List (Nat × Task)

def Task.version : Task → Nat
  | .migrate version | .repair version => version

inductive OpenAction where
  | openDatabase
  /-- The next statement, which the file system may let fail. -/
  | step (works : Bool)
  | crash
deriving DecidableEq

abbrev Opened := Option (Except SchemaError Unit)

namespace OpenState

variable (s : OpenState)

def closed (db : SchemaDb) : OpenState := ⟨db, .idle, []⟩

def fail (error : SchemaError) : OpenState × Opened := ({ s with process := .idle }, some (.error error))

def finish (current : Nat) (task : Task) (tasks : List Task) : OpenState :=
  { s with process := .migrating current tasks, applied := s.applied ++ [(current, task)] }

def commit (current : Nat) (task : Task) (working : SchemaDb) (tasks : List Task) : OpenState :=
  if task.version = 5 then { s with db := working, process := .hashing current task tasks }
  else if task = .migrate 17 then { s with db := working, process := .selecting current task tasks }
  else finish { s with db := working } current task tasks

def startOpen : OpenState × Opened :=
  if currentSchemaVersion < s.db.version then
    s.fail (.unsupportedSchemaVersion s.db.version currentSchemaVersion)
  else if s.db.version < currentSchemaVersion then
    ({ s with process := .migrating s.db.version (tasks s.db.version) }, none)
  else
    match schemaRepairsRequired s.db with
    | .error error => s.fail error
    | .ok true => ({ s with process := .migrating s.db.version (tasks s.db.version) }, none)
    | .ok false => (s, some (.ok ()))

def advance : OpenState × Opened :=
  match s.process with
  | .idle => (s, none)
  | .migrating _ [] => ({ s with process := .idle }, some (.ok ()))
  | .migrating current (task :: tasks) =>
    match plan current s.db task with
    | none => (s.finish current task tasks, none)
    | some statements => ({ s with process := .executing current task statements s.db tasks }, none)
  | .executing current task [] working tasks => (s.commit current task working tasks, none)
  | .executing current task (statement :: rest) working tasks =>
    match working.exec statement with
    | .error error => s.fail error
    | .ok working => ({ s with process := .executing current task rest working tasks }, none)
  | .hashing current task tasks =>
    if s.db.drawers.all fun row => row.contentHash ≠ none then (s.finish current task tasks, none)
    else
      ({ s with db := { s.db with drawers := hashRows contentHash contentHashBackfillBatch s.db.drawers } }, none)
  | .selecting current task tasks =>
    match s.db.requireColumns "drawers" ["content", "deleted_at"] with
    | .error error => s.fail error
    | .ok () => ({ s with process := .indexing current task s.db.liveRows tasks }, none)
  | .indexing current task [] tasks => (s.finish current task tasks, none)
  | .indexing current task ((rowid, content) :: rows) tasks =>
    match s.db.fts with
    | none => s.fail (.noSuchTable "drawers_fts")
    | some entries =>
      ({ s with
        db := { s.db with fts := some (entries ++ [(rowid, tokenize content)]) }
        process := .indexing current task rows tasks }, none)

def act : OpenAction → OpenState × Opened
  | .openDatabase =>
    match s.process with
    | .idle => s.startOpen
    | _ => (s, none)
  | .step true => s.advance tokenize contentHash
  | .step false =>
    match s.process with
    | .idle => (s, none)
    | _ => s.fail .io
  | .crash => ({ s with process := .idle }, none)

end OpenState

def openMachine : Machine OpenState OpenAction Opened := ⟨fun s a => s.act tokenize contentHash a⟩

def hashAll (db : SchemaDb) : SchemaDb := { db with drawers := db.drawers.map (hashRow contentHash) }

def indexRows (rows : List (Int × String)) (db : SchemaDb) : SchemaDb :=
  { db with fts := db.fts.map (· ++ rows.map fun row => (row.1, tokenize row.2)) }

def followUp (task : Task) (db : SchemaDb) : SchemaDb :=
  if task.version = 5 then hashAll contentHash db
  else if task = .migrate 17 then indexRows tokenize db.liveRows db
  else db

def effect (db : SchemaDb) : Nat × Task → Except SchemaError SchemaDb
  | (current, task) =>
    match plan current db task with
    | none => .ok db
    | some statements => (statements.foldlM SchemaDb.exec db).map (followUp tokenize contentHash task)

def effects (start : SchemaDb) (applied : List (Nat × Task)) : Except SchemaError SchemaDb :=
  applied.foldlM (effect tokenize contentHash) start

end Mempal.Schema

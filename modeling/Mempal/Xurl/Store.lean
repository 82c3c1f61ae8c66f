import Mempal.Foundation.Machine
import Mempal.Xurl.Basic

set_option autoImplicit false

/-! `insert_turns` writes a list of turns one by one; a reconcile does that and then deletes the rows of its scope that
the snapshot does not have. -/

namespace Mempal.Xurl

open Foundation Foundation.Text

inductive XurlError where
  | parse (message : String)
  | database
deriving DecidableEq, Repr

structure InsertStats where
  inserted : Nat
  skipped : Nat
  updated : Nat
  removed : Nat
  turnIds : List String
deriving DecidableEq, Repr

/-- Where a statement may fail: at a turn of the list, when the stored rows are read, at a stale row, at the release. -/
inductive FaultPoint where
  | turn (index : Nat)
  | scan
  | stale (id : String)
  | release
deriving DecidableEq

inductive Outcome where
  | inserted (id : String)
  | skipped (id : String)
  | updated (id : String)
deriving DecidableEq

namespace InsertStats

def zero : InsertStats := ⟨0, 0, 0, 0, []⟩

def add (stats : InsertStats) : Outcome → InsertStats
  | .inserted id => { stats with inserted := stats.inserted + 1, turnIds := stats.turnIds ++ [id] }
  | .skipped id => { stats with skipped := stats.skipped + 1, turnIds := stats.turnIds ++ [id] }
  | .updated id => { stats with updated := stats.updated + 1, turnIds := stats.turnIds ++ [id] }

end InsertStats

/-- `SAVEPOINT` and `RELEASE`, or `ROLLBACK TO` after an error. -/
def savepoint {α : Type} (db : TurnDb) (result : TurnDb × Except XurlError α) : TurnDb × Except XurlError α :=
  match result.2 with
  | .error error => (db, .error error)
  | .ok a => (result.1, .ok a)

section Write

variable (sha256 : String → List UInt8)

def findExistingLegacyHermesTurn (db : TurnDb) (turn : RawTurn) : Option TurnRow :=
  db.turns.rows.find? fun row =>
    row.sessionId = turn.sessionId && row.tool = turn.tool && row.turnIndex = turn.turnIndex &&
      row.hermesProfile = none && row.messageId = none

def findExistingTurn (db : TurnDb) (turn : RawTurn) : Option TurnRow :=
  if turn.tool = .hermes ∧ turn.hermesProfile ≠ none ∧ turn.messageId ≠ none then
    match db.turns.rows.find? fun row =>
        row.tool = turn.tool && row.hermesProfile = turn.hermesProfile && row.sessionId = turn.sessionId &&
          row.messageId = turn.messageId with
    | some row => some row
    | none => findExistingLegacyHermesTurn db turn
  else
    db.turns.rows.find? fun row =>
      row.sessionId = turn.sessionId && row.tool = turn.tool && row.turnIndex = storageTurnIndex sha256 turn

def newRow (turn : RawTurn) : TurnRow where
  id := turnIdFor sha256 turn
  sessionId := turn.sessionId
  tool := turn.tool
  turnIndex := storageTurnIndex sha256 turn
  role := turn.role
  content := turn.content
  details := turn.details.stored

/-- The row after an `UPDATE`: neither the role nor the index is among the columns it sets. -/
def TurnRow.rewrite (turn : RawTurn) (row : TurnRow) : TurnRow :=
  { row with content := turn.content, details := turn.details.stored }

/-- `update_turn_metadata`, which leaves the content. -/
def TurnRow.redate (turn : RawTurn) (row : TurnRow) : TurnRow := { row with details := turn.details.stored }

/-- An `INSERT` or `UPDATE` of `conversation_turns`. -/
def TurnDb.write (db : TurnDb) (turn : RawTurn) (table : Option TurnTable) (outcome : Outcome) :
    TurnDb × Except XurlError Outcome :=
  if isNan turn.details.timestampEpoch then (db, .error .database)
  else
    match table with
    | none => (db, .error .database)
    | some turns => ({ db with turns := turns }, .ok outcome)

def insertTurn (db : TurnDb) (turn : RawTurn) : TurnDb × Except XurlError Outcome :=
  match findExistingTurn sha256 db turn with
  | none =>
    db.write turn (db.turns.insert (newRow sha256 turn)) (.inserted (turnIdFor sha256 turn))
  | some existing =>
    if existing.content = turn.content then
      if existing.details = turn.details then (db, .ok (.skipped existing.id))
      else db.write turn (db.turns.update existing.id (TurnRow.redate turn)) (.updated existing.id)
    else
      match db.write turn (db.turns.update existing.id (TurnRow.rewrite turn)) (.updated existing.id) with
      | (written, .error error) => (written, .error error)
      | (written, .ok outcome) => (written.deleteVectors existing.id, .ok outcome)

def insertEach (fault : FaultPoint → Bool) :
    Nat → InsertStats → TurnDb → List RawTurn → TurnDb × Except XurlError InsertStats
  | _, stats, db, [] => (db, .ok stats)
  | index, stats, db, turn :: turns =>
    if fault (.turn index) then (db, .error .database)
    else
      match insertTurn sha256 db turn with
      | (written, .error error) => (written, .error error)
      | (written, .ok outcome) => insertEach fault (index + 1) (stats.add outcome) written turns

def insertTurns (fault : FaultPoint → Bool) (db : TurnDb) (turns : List RawTurn) :
    TurnDb × Except XurlError InsertStats :=
  savepoint db (insertEach sha256 fault 0 .zero db turns)

end Write

def isNonEmpty (text : Option String) : Bool := text.any (· ≠ "")

def RawTurn.identity (turn : RawTurn) : String × Option String := (turn.sessionId, turn.messageId)

namespace Scope

/-- The condition that `validate_snapshot` and `validate_codex_snapshot` put on each turn. -/
def admits (scope : Scope) (turn : RawTurn) : Bool :=
  match scope with
  | .hermes profile sessionId cwd =>
    turn.tool = .hermes && turn.hermesProfile = some profile && (sessionId = none || sessionId = some turn.sessionId) &&
      pathIsInScope turn.details.projectPath cwd && isNonEmpty turn.messageId
  | .codex sessionId cwd =>
    turn.tool = .codex && turn.sessionId = sessionId && pathIsInScope turn.details.projectPath cwd &&
      isNonEmpty turn.messageId

def validateCodexTurns (scope : Scope) : List (Option String) → List RawTurn → Except XurlError Unit
  | _, [] => .ok ()
  | seen, turn :: turns =>
    if !isNonEmpty turn.messageId then .error (.parse "Codex reconcile snapshot lacks a stable source identity")
    else if !scope.admits turn || turn.messageId ∈ seen then
      .error (.parse "Codex reconcile snapshot contains an ambiguous turn outside its source scope")
    else validateCodexTurns scope (turn.messageId :: seen) turns

def validate (scope : Scope) (turns : List RawTurn) : Except XurlError Unit :=
  match scope with
  | .hermes profile _ _ =>
    if isBlank profile then .error (.parse "Hermes reconcile requires a non-empty profile")
    else if turns.all scope.admits then .ok ()
    else
      .error (.parse ("Hermes reconcile snapshot contains a turn outside its stable " ++
        "profile/session/message identity scope"))
  | .codex sessionId _ =>
    if isBlank sessionId || turns.isEmpty then
      .error (.parse "Codex reconcile requires a non-empty session and snapshot")
    else validateCodexTurns scope [] turns

end Scope

def isSeen (turns : List RawTurn) (row : TurnRow) : Bool :=
  row.messageId ≠ none && turns.any fun turn => turn.identity = (row.sessionId, row.messageId)

def staleTurnIds (scope : Scope) (turns : List RawTurn) (db : TurnDb) : List String :=
  (db.turns.rows.filter fun row => scope.owns row && !isSeen turns row).map TurnRow.id

def deleteEach (fault : FaultPoint → Bool) : TurnDb → List String → TurnDb × Except XurlError Unit
  | db, [] => (db, .ok ())
  | db, id :: ids =>
    -- The failing statement may be the second one of the two.
    if fault (.stale id) then (db.deleteVectors id, .error .database)
    else deleteEach fault { db.deleteVectors id with turns := db.turns.delete id } ids

section Reconcile

variable (sha256 : String → List UInt8) (fault : FaultPoint → Bool)

def reconcileBody (scope : Scope) (turns : List RawTurn) (db : TurnDb) : TurnDb × Except XurlError InsertStats :=
  match insertTurns sha256 fault db turns with
  | (written, .error error) => (written, .error error)
  | (written, .ok stats) =>
    if fault .scan then (written, .error .database)
    else
      let stale := staleTurnIds scope turns written
      match deleteEach fault written stale with
      | (deleted, .error error) => (deleted, .error error)
      | (deleted, .ok ()) =>
        if fault .release then (deleted, .error .database) else (deleted, .ok { stats with removed := stale.length })

/-- `reconcile_hermes_snapshot` and `reconcile_codex_snapshot`. -/
def reconcileSnapshot (scope : Scope) (turns : List RawTurn) (db : TurnDb) :
    TurnDb × Except XurlError InsertStats :=
  match scope.validate turns with
  | .error error => (db, .error error)
  | .ok () => savepoint db (reconcileBody sha256 fault scope turns db)

end Reconcile

inductive XurlOp where
  | importTurns (turns : List RawTurn)
  | reconcile (scope : Scope) (turns : List RawTurn)
  /-- The embedder writes a vector for a stored turn. -/
  | writeVector (vector : TurnVector)

def writeVector (db : TurnDb) (vector : TurnVector) : TurnDb × Except XurlError InsertStats :=
  if db.turns.rows.any fun row => row.id = vector.turnId then
    ({ db with
      vectors := (db.vectors.filter fun other =>
        (other.turnId, other.chunkIndex) ≠ (vector.turnId, vector.chunkIndex)) ++ [vector] }, .ok .zero)
  else (db, .error .database)

def xurlMachine (sha256 : String → List UInt8) :
    Machine TurnDb ((FaultPoint → Bool) × XurlOp) (Except XurlError InsertStats) where
  step db a :=
    match a.2 with
    | .importTurns turns => insertTurns sha256 a.1 db turns
    | .reconcile scope turns => reconcileSnapshot sha256 a.1 scope turns db
    | .writeVector vector => writeVector db vector

end Mempal.Xurl

import Mathlib.Data.List.Nodup
import Mempal.Foundation.Digits
import Mempal.Foundation.Text

set_option autoImplicit false

/-! The rows of `conversation_turns` with the constraints of the table, the identities derived from a turn, and the scopes
in which a snapshot of a source is authoritative. -/

namespace Mempal.Xurl

open Foundation Foundation.Text

inductive Tool where
  | cc
  | codex
  | hermes
deriving DecidableEq, Repr

inductive Role where
  | user
  | assistant
deriving DecidableEq, Repr

inductive Provenance where
  | human
  | agent
  | system
deriving DecidableEq, Repr

structure TurnMetadata where
  hermesProfile : Option String
  sessionTitle : Option String
  sessionSource : Option String
  messageId : Option String
  toolName : Option String
  toolCallId : Option String
  previousMessageId : Option String
  nextMessageId : Option String
deriving DecidableEq, Repr

/-- The fields of a turn that `stored_metadata_matches` compares. The timestamp, by which the stored turns are listed,
is the bit pattern of a double. -/
structure TurnDetails where
  timestampEpoch : UInt64
  projectPath : Option String
  gitBranch : Option String
  isCsaDelegated : Bool
  provenance : Provenance
  metadata : TurnMetadata
deriving DecidableEq, Repr

structure RawTurn where
  sessionId : String
  tool : Tool
  role : Role
  content : String
  turnIndex : Nat
  details : TurnDetails
deriving DecidableEq, Repr

structure TurnRow where
  id : String
  sessionId : String
  tool : Tool
  turnIndex : Nat
  role : Role
  content : String
  details : TurnDetails
deriving DecidableEq, Repr

def RawTurn.messageId (turn : RawTurn) : Option String := turn.details.metadata.messageId

def RawTurn.hermesProfile (turn : RawTurn) : Option String := turn.details.metadata.hermesProfile

def TurnRow.messageId (row : TurnRow) : Option String := row.details.metadata.messageId

def TurnRow.hermesProfile (row : TurnRow) : Option String := row.details.metadata.hermesProfile

def negativeZero : UInt64 := 0x8000000000000000

/-- A value that is not a number is stored as `NULL`, which the column refuses. -/
def isNan (bits : UInt64) : Bool :=
  bits &&& 0x7FF0000000000000 = 0x7FF0000000000000 && bits &&& 0x000FFFFFFFFFFFFF ≠ 0

/-- Values without a fraction are stored as integers, so that negative zero comes back as zero. -/
def storedReal (bits : UInt64) : UInt64 := if bits = negativeZero then 0 else bits

def TurnDetails.stored (details : TurnDetails) : TurnDetails :=
  { details with timestampEpoch := storedReal details.timestampEpoch }

section Identity

variable (sha256 : String → List UInt8)

def hexDigest (text : String) : List Char := (sha256 text).flatMap fun byte => Digits.padded 16 2 byte.toNat

def generateTurnIdFromParts (parts : List String) : String :=
  "turn_" ++ String.ofList ((hexDigest sha256 (String.join (parts.map (· ++ "\x00")))).take 16)

/-- `u32::from_le_bytes` of the first four bytes. -/
def digestIndex (text : String) : Nat :=
  ((sha256 text).take 4).foldr (fun byte index => byte.toNat + 256 * index) 0

def Tool.asStr : Tool → String
  | .cc => "cc"
  | .codex => "codex"
  | .hermes => "hermes"

def codexTurnIndex (sessionId messageId : String) : Nat := digestIndex sha256 (sessionId ++ "\x00" ++ messageId)

def hermesTurnIndex (profile sessionId messageId : String) : Nat :=
  digestIndex sha256 (profile ++ "\x00" ++ sessionId ++ "\x00" ++ messageId)

def turnIdFor (turn : RawTurn) : String :=
  match turn.tool, turn.hermesProfile, turn.messageId with
  | .hermes, some profile, some messageId =>
    generateTurnIdFromParts sha256 [turn.tool.asStr, profile, turn.sessionId, messageId]
  | .codex, _, some messageId =>
    "turn_" ++ String.ofList (hexDigest sha256 ("codex\x00" ++ turn.sessionId ++ "\x00" ++ messageId))
  | tool, _, _ =>
    generateTurnIdFromParts sha256
      [turn.sessionId, tool.asStr, String.ofList (Digits.padded 10 1 turn.turnIndex)]

def storageTurnIndex (turn : RawTurn) : Nat :=
  match turn.tool, turn.hermesProfile, turn.messageId with
  | .hermes, some profile, some messageId => hermesTurnIndex sha256 profile turn.sessionId messageId
  | .codex, _, some messageId => codexTurnIndex sha256 turn.sessionId messageId
  | _, _, _ => turn.turnIndex

end Identity

def TurnRow.slot (row : TurnRow) : String × Tool × Nat := (row.sessionId, row.tool, row.turnIndex)

/-- The key of `idx_ct_hermes_message_identity`, which covers some rows only. -/
def TurnRow.hermesIdentity? (row : TurnRow) : Option (String × String × String) :=
  match row.tool, row.hermesProfile, row.messageId with
  | .hermes, some profile, some messageId => some (profile, row.sessionId, messageId)
  | _, _, _ => none

/-- The primary key, `UNIQUE(session_id, tool, turn_index)` and the unique index on messages. -/
structure Constraints (rows : List TurnRow) : Prop where
  ids : (rows.map TurnRow.id).Nodup
  slots : (rows.map TurnRow.slot).Nodup
  identities : (rows.filterMap TurnRow.hermesIdentity?).Nodup

instance (rows : List TurnRow) : Decidable (Constraints rows) :=
  decidable_of_iff ((rows.map TurnRow.id).Nodup ∧ (rows.map TurnRow.slot).Nodup ∧
    (rows.filterMap TurnRow.hermesIdentity?).Nodup) ⟨fun h => ⟨h.1, h.2.1, h.2.2⟩, fun h => ⟨h.1, h.2, h.3⟩⟩

structure TurnTable where
  rows : List TurnRow
  valid : Constraints rows

namespace TurnTable

def checked (rows : List TurnRow) : Option TurnTable := if h : Constraints rows then some ⟨rows, h⟩ else none

def insert (table : TurnTable) (row : TurnRow) : Option TurnTable := checked (table.rows ++ [row])

def update (table : TurnTable) (id : String) (f : TurnRow → TurnRow) : Option TurnTable :=
  checked (table.rows.map fun row => if row.id = id then f row else row)

def delete (table : TurnTable) (id : String) : TurnTable where
  rows := table.rows.filter fun row => row.id ≠ id
  valid := ⟨table.valid.ids.sublist (List.filter_sublist.map _), table.valid.slots.sublist (List.filter_sublist.map _),
    table.valid.identities.sublist (List.filter_sublist.filterMap _)⟩

end TurnTable

structure TurnVector where
  turnId : String
  chunkIndex : Nat
  vector : List UInt8
deriving DecidableEq

structure TurnDb where
  turns : TurnTable
  vectors : List TurnVector

namespace TurnDb

def empty : TurnDb := ⟨⟨[], ⟨List.nodup_nil, List.nodup_nil, List.nodup_nil⟩⟩, []⟩

def deleteVectors (db : TurnDb) (id : String) : TurnDb :=
  { db with vectors := db.vectors.filter fun vector => vector.turnId ≠ id }

end TurnDb

def normalizeCwdFilter (cwd : String) : String :=
  if trim cwd = "/" then trim cwd else String.ofList ((trim cwd).toList.reverse.dropWhile (· = '/')).reverse

def isBelow (path above : String) : Bool := decide (above.toList ++ ['/'] <+: path.toList)

def pathIsInScope (projectPath cwdFilter : Option String) : Bool :=
  match (cwdFilter.map normalizeCwdFilter).filter (· ≠ "") with
  | none => true
  | some cwd =>
    match (projectPath.map normalizeCwdFilter).filter (· ≠ "") with
    | none => false
    | some path => path = cwd || isBelow path cwd || isBelow cwd path

inductive Scope where
  | hermes (profile : String) (sessionId cwd : Option String)
  | codex (sessionId : String) (cwd : Option String)
deriving DecidableEq

/-- The rows that `stale_turn_ids` and `stale_codex_turn_ids` look at. -/
def Scope.owns (scope : Scope) (row : TurnRow) : Bool :=
  match scope with
  | .hermes profile sessionId cwd =>
    row.tool = .hermes &&
      (row.hermesProfile = some profile ||
        (profile = "default" && row.hermesProfile = none && row.messageId = none)) &&
      (sessionId = none || sessionId = some row.sessionId) && pathIsInScope row.details.projectPath cwd
  | .codex sessionId cwd =>
    row.tool = .codex && row.sessionId = sessionId && pathIsInScope row.details.projectPath cwd

end Mempal.Xurl

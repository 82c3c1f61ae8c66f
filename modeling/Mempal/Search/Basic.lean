import Mathlib.Data.List.Sort
import Mempal.Drawers.VectorProject
import Mempal.Foundation.Fields

set_option autoImplicit false

/-! The rows with the columns a search result is made of, the text that the full-text index holds for each row number,
the vectors, the explicit tunnels and the patterns; and the queries over them that the stages of a search issue. -/

namespace Mempal.Search

open Foundation Foundation.Text Drawers

inductive KnowledgeTier where
  | qi
  | shu
  | daoRen
  | daoTian
deriving DecidableEq, Repr

inductive SourceType where
  | agentInference
  | userExplicit
  | agentObservation
  | systemGenerated
  | manual
deriving DecidableEq, Repr

/-- Columns that a result copies and no stage reads. -/
structure Details where
  sourceType : SourceType
  confidence : ℚ
  statement : Option String
  anchorId : String
  parentAnchorId : Option String
  isPinned : Bool
deriving DecidableEq

structure SearchRow extends DrawerRow where
  chunkIndex : Option Int
  validFrom : Option String
  validUntil : Option String
  domain : MemoryDomain
  field : Option String
  tier : Option KnowledgeTier
  anchorKind : AnchorKind
  importance : Int
  storedImportance : Option ℚ
  stalePenaltyApplied : Option ℚ
  details : Details
deriving DecidableEq

/-- `COALESCE(NULLIF(effective_importance, 0.0), importance * COALESCE(stale_penalty_applied, 1.0))`. -/
def SearchRow.effectiveImportance (row : SearchRow) : ℚ :=
  (row.storedImportance.filter (· ≠ 0)).getD (row.importance * row.stalePenaltyApplied.getD 1)

structure RouteDecision where
  wing : Option String
  room : Option String
  confidence : ℚ
  reason : String
deriving DecidableEq

inductive SearchResultSource where
  | project
  | global
  | tunnelCrossProject
deriving DecidableEq, Repr

structure NeighborChunk where
  drawerId : String
  content : String
  chunkIndex : Nat
deriving DecidableEq, Repr

structure ChunkNeighbors where
  prev : Option NeighborChunk
  next : Option NeighborChunk
deriving DecidableEq, Repr

structure ResultFacts where
  drawerId : String
  wing : String
  room : Option String
  sourceFile : String
  source : SearchResultSource
  memoryKind : MemoryKind
  domain : MemoryDomain
  field : String
  tier : Option KnowledgeTier
  status : Option KnowledgeStatus
  anchorKind : AnchorKind
  importance : Int
  details : Details
  route : RouteDecision
  chunkIndex : Option Int
deriving DecidableEq

structure SearchResult extends ResultFacts where
  content : String
  similarity : ℚ
  neighbors : Option ChunkNeighbors
  tunnelHints : List String
  effectiveImportance : ℚ
  matchedPatternId : Option String
deriving DecidableEq

def sourceFileOrSynthetic (drawerId : String) (sourceFile : Option String) : String :=
  ((sourceFile.map trim).filter (· ≠ "")).getD ("mempal://drawer/" ++ drawerId)

def resultFromDrawer (row : SearchRow) (source : SearchResultSource) (similarity : ℚ) (route : RouteDecision) :
    SearchResult where
  drawerId := row.id
  content := row.content
  wing := row.wing
  room := row.room
  sourceFile := sourceFileOrSynthetic row.id row.sourceFile
  source := source
  memoryKind := row.memoryKind
  domain := row.domain
  field := row.field.getD "general"
  tier := row.tier
  status := row.status
  anchorKind := row.anchorKind
  importance := row.importance
  details := row.details
  similarity := similarity
  route := route
  chunkIndex := row.chunkIndex
  neighbors := none
  tunnelHints := []
  effectiveImportance := row.effectiveImportance
  matchedPatternId := none

def classifyRow : Option String → SearchResultSource
  | some _ => .project
  | none => .global

def memoryKindSlug : MemoryKind → String
  | .evidence => "evidence"
  | .knowledge => "knowledge"
  | .atomicFact => "atomic_fact"
  | .decision => "decision"
  | .case => "case"
  | .skill => "skill"
  | .foresight => "foresight"
  | .profileFact => "profile_fact"
  | .profileTrait => "profile_trait"

def domainSlug : MemoryDomain → String
  | .project => "project"
  | .user => "user"
  | .agent => "agent"
  | .skill => "skill"
  | .global => "global"

def tierSlug : KnowledgeTier → String
  | .qi => "qi"
  | .shu => "shu"
  | .daoRen => "dao_ren"
  | .daoTian => "dao_tian"

def statusSlug : KnowledgeStatus → String
  | .active => "active"
  | .superseded => "superseded"
  | .pendingReview => "pending_review"
  | .candidate => "candidate"
  | .promoted => "promoted"
  | .canonical => "canonical"
  | .demoted => "demoted"
  | .retired => "retired"

def anchorKindSlug : AnchorKind → String
  | .global => "global"
  | .repo => "repo"
  | .worktree => "worktree"

structure SearchFilters where
  memoryKind : Option String
  domain : Option String
  field : Option String
  tier : Option String
  status : Option String
  anchorKind : Option String
deriving DecidableEq, Repr

def SearchFilters.empty : SearchFilters := ⟨none, none, none, none, none, none⟩

def SearchFilters.isEmpty (filters : SearchFilters) : Bool :=
  filters.memoryKind.isNone && filters.domain.isNone && filters.field.isNone && filters.tier.isNone &&
    filters.status.isNone && filters.anchorKind.isNone

def matchesFilters (filters : SearchFilters) (result : SearchResult) : Bool :=
  filters.memoryKind.all (· = memoryKindSlug result.memoryKind) &&
    filters.domain.all (· = domainSlug result.domain) &&
    filters.field.all (· = result.field) &&
    filters.tier.all (fun value => result.tier.any (value = tierSlug ·)) &&
    filters.status.all (fun value => result.status.any (value = statusSlug ·)) &&
    filters.anchorKind.all (· = anchorKindSlug result.anchorKind)

def retainSearchFilters (filters : SearchFilters) (results : List SearchResult) : List SearchResult :=
  if filters.isEmpty then results else results.filter (matchesFilters filters)

/-- The part of `build_retrieval_filter_clause` after the scope; a missing column equals no value. -/
def metadataClause (filters : SearchFilters) (row : SearchRow) : Bool :=
  filters.memoryKind.all (· = memoryKindSlug row.memoryKind) &&
    filters.domain.all (· = domainSlug row.domain) &&
    filters.field.all (some · = row.field) &&
    filters.tier.all (fun value => row.tier.any (value = tierSlug ·)) &&
    filters.status.all (fun value => row.status.any (value = statusSlug ·)) &&
    filters.anchorKind.all (· = anchorKindSlug row.anchorKind)

/-- Both the id and the row number tell the rows apart. -/
structure SearchTable extends Table fun row : SearchRow => row.id where
  rowids : (rows.map fun row => row.rowid).Nodup

structure TunnelEndpoint where
  wing : String
  room : Option String
deriving DecidableEq, Repr

structure ExplicitTunnel where
  left : TunnelEndpoint
  right : TunnelEndpoint
deriving DecidableEq, Repr

structure Pattern where
  patternId : String
  signature : Embedding
  exemplarIds : List String
  modelId : Option String
  isActive : Bool
  projectId : Option String
deriving DecidableEq

/-- The tunnels that are not deleted and the patterns stand in the order of their queries. -/
structure SearchDb where
  drawers : SearchTable
  index : List (Nat × String)
  vectors : VectorTable
  tunnels : List ExplicitTunnel
  patterns : List Pattern

section Queries
variable (db : SearchDb)

def findDrawer (id : String) : Option SearchRow := db.drawers.find? id

def getDrawer (id : String) : Option SearchRow := (findDrawer db id).filter fun row => row.isActive

/-- `ORDER BY chunk_index, id`. -/
def chunkOrder (a b : SearchRow) : Prop :=
  a.chunkIndex.getD 0 < b.chunkIndex.getD 0 ∨ (a.chunkIndex.getD 0 = b.chunkIndex.getD 0 ∧ a.id ≤ b.id)

instance : DecidableRel chunkOrder := fun _ _ => inferInstanceAs (Decidable (_ ∨ _))

def takeNeighbor (index : Int) (neighbors : ChunkNeighbors) (row : SearchRow) : ChunkNeighbors :=
  match row.chunkIndex with
  | none => neighbors
  | some rowIndex =>
    if rowIndex < 0 || 2 ^ 32 ≤ rowIndex then neighbors
    else
      let chunk : NeighborChunk := ⟨row.id, row.content, rowIndex.toNat⟩
      if rowIndex = index - 1 && neighbors.prev.isNone then { neighbors with prev := some chunk }
      else if rowIndex = index + 1 && neighbors.next.isNone then { neighbors with next := some chunk }
      else neighbors

/-- The `WHERE` clause of `neighbor_chunks`. -/
def isNeighbor (sourceFile wing : String) (room : Option String) (index : Int) (row : SearchRow) : Bool :=
  row.isActive && row.sourceFile = some sourceFile && row.wing = wing && row.room = room &&
    (row.chunkIndex = some (index - 1) || row.chunkIndex = some (index + 1))

def neighborChunks (sourceFile wing : String) (room : Option String) (index : Int) : ChunkNeighbors :=
  ((db.drawers.rows.filter (isNeighbor sourceFile wing room index)).insertionSort chunkOrder).foldl
    (takeNeighbor index) ⟨none, none⟩

def tunnelWings (room : String) : List String :=
  ((db.drawers.rows.filter fun row => row.isActive && row.room = some room).map fun row => row.wing).eraseDups

/-- `find_tunnels`, read as the map from a room to its wings: more than one wing has the room. `GROUP_CONCAT` joins
the wings with commas, and the text is split at them. -/
def findTunnels (room : String) : Option (List String) :=
  if room ≠ "" && 1 < (tunnelWings db room).length then
    some (((Fields.join [','] (tunnelWings db room)).splitOn ',').map String.ofList)
  else none

def hasTunnels : Bool :=
  db.drawers.rows.any fun row => row.isActive && row.room.any fun room => (findTunnels db room).isSome

/-- `CAST(.. AS INTEGER)`: the number a text starts with. -/
def castInteger (text : String) : Int :=
  let chars := text.toList.dropWhile isWhitespace
  let digits (l : List Char) : Int := ((l.takeWhile Char.isDigit).foldl (fun n c => 10 * n + (c.toNat - 48)) 0 : Nat)
  match chars with
  | '-' :: rest => - digits rest
  | '+' :: rest => digits rest
  | _ => digits chars

/-- `ORDER BY CAST(added_at AS INTEGER) DESC, id DESC`. -/
def recentOrder (a b : SearchRow) : Prop :=
  castInteger b.addedAt < castInteger a.addedAt ∨ (castInteger a.addedAt = castInteger b.addedAt ∧ b.id ≤ a.id)

instance : DecidableRel recentOrder := fun _ _ => inferInstanceAs (Decidable (_ ∨ _))

def isTunnelDrawer (room excludeDrawerId projectId : String) (row : SearchRow) : Bool :=
  row.isActive && row.room = some room && row.id ≠ excludeDrawerId && row.projectId.any (· ≠ projectId)

def tunnelDrawersForRoom (room excludeDrawerId : String) (currentProjectId : Option String) (limit : Nat) :
    List SearchRow :=
  match currentProjectId with
  | none => []
  | some projectId =>
    ((db.drawers.rows.filter (isTunnelDrawer room excludeDrawerId projectId)).insertionSort recentOrder).take limit

def normalizeTunnelEndpoint (endpoint : TunnelEndpoint) : Option TunnelEndpoint :=
  if trim endpoint.wing = "" then none
  else some ⟨trim endpoint.wing, (endpoint.room.map trim).filter (· ≠ "")⟩

def formatTunnelEndpoint (endpoint : TunnelEndpoint) : String :=
  match endpoint.room.filter (· ≠ "") with
  | some room => endpoint.wing ++ ":" ++ room
  | none => endpoint.wing

def ExplicitTunnel.neighbor (current : TunnelEndpoint) (tunnel : ExplicitTunnel) : Option TunnelEndpoint :=
  if tunnel.left = current then some tunnel.right else if tunnel.right = current then some tunnel.left else none

/-- `explicit_tunnel_hints`: the ends one hop away, as a sorted set of texts. -/
def explicitTunnelHints (wing : String) (room : Option String) : Option (List String) :=
  (normalizeTunnelEndpoint ⟨wing, room⟩).map fun source =>
    let ends := ((db.tunnels.filterMap (ExplicitTunnel.neighbor source)).filter (· ≠ source)).dedup
    ((ends.map formatTunnelEndpoint).dedup).insertionSort (· ≤ ·)

end Queries

def chunkRow (rowid : Nat) (id content project : String) (chunkIndex : Option Int) : SearchRow where
  rowid := rowid
  id := id
  content := content
  contentHash := none
  wing := "docs"
  room := some "guide"
  sourceFile := some "guide.md"
  sourceRoot := none
  projectId := some project
  addedAt := "100"
  memoryKind := .evidence
  status := none
  mergeCount := 0
  admissionOwner := none
  compactedInto := none
  deletedAt := none
  chunkIndex := chunkIndex
  validFrom := none
  validUntil := none
  domain := .project
  field := none
  tier := none
  anchorKind := .repo
  importance := 0
  storedImportance := none
  stalePenaltyApplied := none
  details := ⟨.agentObservation, 7 / 10, none, "", none, false⟩

end Mempal.Search

import Mempal.Search.Basic

set_option autoImplicit false

/-! A search takes candidates by vector and by keyword, fuses the two rankings, drops what the filters exclude, adds
tunnel hints and results from other projects, weighs by importance and age, cuts the page and attaches to each
result the chunks next to it. -/

namespace Mempal.Search

open Foundation.Text Drawers

inductive DecayMode where
  | none
  | exponential
  | linear
  | step
deriving DecidableEq, Repr

structure DecayConfig where
  mode : DecayMode
  halfLifeDays : Nat
  stepFullDays : Nat
  stepReducedWeight : ℚ
deriving DecidableEq

structure SearchConfig where
  excludeRawTurns : Bool
  rawTurnWings : List String
  rawTurnRooms : List String
  decay : DecayConfig
  patternsEnabled : Bool
  surfacingThreshold : ℚ
  patternBoost : ℚ
  modelId : String
  tunnelFanoutCap : Nat
  tunnelHintsDisplayCap : Nat
  tunnelPenalty : ℚ
deriving DecidableEq

/-- What a search relies on from outside: whether a text matches a full-text query, the rank of a row, which FTS5
computes from the whole index, the word segmenter, the nearest vectors, the cosine similarity, the exponential,
the clock and the reading of time stamps. -/
structure SearchEnv where
  matchesText : String → String → Bool
  bm25 : String → List (Nat × String) → Nat → ℚ
  jiebaCutForSearch : String → List String
  knn : Embedding → Nat → ProjectFilterMode → VectorTable → List (String × ℚ)
  cosineSimilarity : Embedding → Embedding → ℚ
  exp : ℚ → ℚ
  nowSecs : Int
  parseTemporalTimestampSecs : String → Option Int

/-- With a vector the search is hybrid, without one it is by keyword only. -/
structure SearchRequest where
  query : String
  vector : Option Embedding
  route : RouteDecision
  mode : ProjectFilterMode
  filters : SearchFilters
  withNeighbors : Bool
  includeRawTurns : Bool
  includeExpired : Bool
  topK : Nat
deriving DecidableEq

inductive SearchError where
  | invalidTopK
  | prepareSearch
  | executeSearch
  | invalidEmbeddingBlob (drawerId : String)
  | keywordSearch
deriving DecidableEq, Repr

def scopeProjectId : ProjectFilterMode → Option String
  | .project projectId => some projectId
  | .projectPlusGlobal projectId => some projectId
  | .all => none
  | .nullOnly => none

section Stages
variable (env : SearchEnv) (config : SearchConfig) (db : SearchDb) (request : SearchRequest)

def retrievalClause (row : SearchRow) : Bool :=
  filterClause request.mode request.route.wing request.route.room row.toDrawerRow && metadataClause request.filters row

/-- The joined rows of `drawer_vectors` and `drawers` that satisfy the clause. -/
def vectorCandidates : List (VectorRow × SearchRow) :=
  db.vectors.table.rows.filterMap fun v => ((findDrawer db v.id).filter (retrievalClause request)).map (v, ·)

/-- `count_vector_candidate_drawers`: without a vector table the drawers are counted. -/
def countVectorCandidateDrawers : Nat :=
  if db.vectors.dimension.isSome then (vectorCandidates db request).length
  else (db.drawers.rows.filter (retrievalClause request)).length

def exactVectorCandidateLimit : Nat := 4096

def computeKnnK (topK : Nat) : Nat := max 100 (min (topK * 50) exactVectorCandidateLimit)

def unhydrated (row : SearchRow) (similarity : ℚ) : SearchResult where
  drawerId := row.id
  content := row.content
  wing := row.wing
  room := row.room
  sourceFile := sourceFileOrSynthetic row.id row.sourceFile
  source := classifyRow row.projectId
  memoryKind := .evidence
  domain := .project
  field := ""
  tier := none
  status := none
  anchorKind := .global
  importance := 0
  details := ⟨.agentInference, 1 / 2, none, "", none, false⟩
  similarity := similarity
  route := request.route
  chunkIndex := none
  neighbors := none
  tunnelHints := []
  effectiveImportance := 0
  matchedPatternId := none

def hydrateResultMetadata (result : SearchResult) : SearchResult :=
  match getDrawer db result.drawerId with
  | some row => resultFromDrawer row result.source result.similarity result.route
  | none => result

/-- `cosine_distance_from_blob_with_norm`: vectors of another dimension have no distance. -/
def cosineDistance (queryVector embedding : Embedding) : Option ℚ :=
  if embedding.length = queryVector.length then some (max 0 (min 2 (1 - env.cosineSimilarity embedding queryVector)))
  else none

def exactOrder (a b : Option ℚ × SearchRow) : Prop :=
  match a.1, b.1 with
  | some x, some y => x < y ∨ (x = y ∧ a.2.id ≤ b.2.id)
  | some _, none => True
  | none, some _ => False
  | none, none => a.2.id ≤ b.2.id

instance : DecidableRel exactOrder := fun a b => by
  unfold exactOrder
  split <;> infer_instance

def rankExactCandidates (queryVector : Embedding) (topK : Nat) : List (Option ℚ × SearchRow) :=
  (((vectorCandidates db request).map fun c => (cosineDistance env queryVector c.1.embedding, c.2)).insertionSort
    exactOrder).take topK

def exactResult (ranked : Option ℚ × SearchRow) : Except SearchError SearchResult :=
  match ranked.1 with
  | some distance => .ok (unhydrated request ranked.2 (1 - distance))
  | none => .error (.invalidEmbeddingBlob ranked.2.id)

def searchByVectorScopedExact (queryVector : Embedding) (topK : Nat) : Except SearchError (List SearchResult) :=
  if 2 ^ 63 ≤ topK then .error .invalidTopK
  else if db.vectors.dimension.isNone then .error .prepareSearch
  else ((rankExactCandidates env db request queryVector topK).mapM (exactResult request)).map
    (List.map (hydrateResultMetadata db))

/-- `build_vector_search_sql`: the project is checked on the vector and, with the wing and the room, on the
drawer. -/
def knnMatches (queryVector : Embedding) (topK : Nat) : List (SearchRow × ℚ) :=
  let matched := (env.knn queryVector (computeKnnK topK) request.mode db.vectors).filter fun m =>
    (db.vectors.find? m.1).any fun v => request.mode.accepts v.projectId
  let joined := matched.filterMap fun m =>
    ((findDrawer db m.1).filter fun row =>
      filterClause request.mode request.route.wing request.route.room row.toDrawerRow).map (·, m.2)
  (joined.insertionSort fun a b => a.2 ≤ b.2).take topK

def searchByVectorScopedKnn (queryVector : Embedding) (topK : Nat) : Except SearchError (List SearchResult) :=
  if 2 ^ 63 ≤ topK then .error .invalidTopK
  else if db.vectors.dimension.isNone then .error .prepareSearch
  else if db.vectors.dimension ≠ some queryVector.length then .error .executeSearch
  else .ok ((knnMatches env db request queryVector topK).map fun m =>
    hydrateResultMetadata db (unhydrated request m.1 (1 - m.2)))

def searchByVectorWithFilters (queryVector : Embedding) (topK : Nat) : Except SearchError (List SearchResult) :=
  if topK = 0 || countVectorCandidateDrawers db request = 0 then .ok []
  else if countVectorCandidateDrawers db request ≤ exactVectorCandidateLimit then
    searchByVectorScopedExact env db request queryVector topK
  else searchByVectorScopedKnn env db request queryVector topK

def splitWhitespace (text : String) : List String :=
  ((text.toList.splitOnP isWhitespace).filter (· ≠ [])).map String.ofList

/-- `segment_cjk_query`: of the segments of a term, those that contain no other one. -/
def segmentCjkQuery (query : String) : List String :=
  (splitWhitespace query).flatMap fun term =>
    if containsCjk term then
      let words := (env.jiebaCutForSearch term).filter fun word => !isBlank word
      words.filter fun word => !(1 < word.length && words.any fun other => other ≠ word && hasText word other)
    else [term]

def buildFtsMatchQuery (query : String) : Option String :=
  let terms := ((segmentCjkQuery env query).filter (· ≠ "")).map fun term =>
    String.ofList ('"' :: term.toList.flatMap (fun c => if c = '"' then ['"', '"'] else [c]) ++ ['"'])
  if terms.isEmpty then none else some (" AND ".intercalate terms)

def ftsMatches (matchQuery : String) : List SearchRow :=
  (db.index.filter fun entry => env.matchesText matchQuery entry.2).filterMap fun entry =>
    (db.drawers.rows.find? fun row => row.rowid = entry.1).filter (retrievalClause request)

/-- `search_fts_filtered`, `ORDER BY fts.rank LIMIT ..`. -/
def searchFtsFiltered (limit : Nat) : Except SearchError (List String) :=
  match buildFtsMatchQuery env request.query with
  | none => .ok []
  | some matchQuery =>
    if 2 ^ 63 ≤ limit then .error .keywordSearch
    else
      let byRank := (ftsMatches env db request matchQuery).insertionSort fun a b =>
        env.bm25 matchQuery db.index a.rowid ≤ env.bm25 matchQuery db.index b.rowid
      .ok ((byRank.take limit).map fun row => row.id)

def rankScore (id : String) (ids : List String) : ℚ :=
  ((ids.zipIdx.filter fun entry => entry.1 = id).map fun entry => 1 / (60 + (entry.2 : ℚ) + 1)).sum

structure FusedRank where
  id : String
  score : ℚ
deriving DecidableEq

/-- `compare_score_desc_then_id`. -/
def fusedOrder (a b : FusedRank) : Prop := b.score < a.score ∨ (a.score = b.score ∧ a.id ≤ b.id)

instance : DecidableRel fusedOrder := fun _ _ => inferInstanceAs (Decidable (_ ∨ _))

def fuse (lists : List (List String)) : List FusedRank :=
  (lists.flatten.eraseDups.map fun id => ⟨id, (lists.map (rankScore id)).sum⟩).insertionSort fusedOrder

def rrfMerge (vectorResults : List SearchResult) (ftsIds : List String) (topK : Nat) : List SearchResult :=
  let fused := fuse [vectorResults.map fun result => result.drawerId, ftsIds]
  let lookup (id : String) : Option SearchResult :=
    match vectorResults.find? fun result => result.drawerId = id with
    | some result => some result
    | none => (getDrawer db id).map fun row => resultFromDrawer row (classifyRow row.projectId) 0 request.route
  (fused.filterMap fun rank => (lookup rank.id).map fun result => { result with similarity := rank.score }).take topK

def isRawTurn (wing : String) (room : Option String) (memoryKind : MemoryKind) : Bool :=
  if room = some "facts" || memoryKind = .profileFact then false
  else
    (config.rawTurnWings.filter (· ≠ "")).any (fun start => start.toList.isPrefixOf wing.toList) ||
      room.any fun room => (config.rawTurnRooms.filter (· ≠ "")).any (· = room)

def isExcludedRawTurnResult (result : SearchResult) : Bool :=
  result.importance = 0 && isRawTurn config result.wing result.room result.memoryKind

def excludesRawTurns : Bool := config.excludeRawTurns && !request.includeRawTurns

/-- The two `retain` calls that stand before and after the tunnels. -/
def retainWanted (results : List SearchResult) : List SearchResult :=
  let results := retainSearchFilters request.filters results
  if excludesRawTurns config request then results.filter fun result => !isExcludedRawTurnResult config result
  else results

def tunnelHintsOf (result : SearchResult) (room : String) (wings : List String) : List String :=
  let otherWings := wings.filter (· ≠ result.wing)
  let combined := ((explicitTunnelHints db result.wing (some room)).getD []).foldl
    (fun hints hint => if hint ∈ hints then hints else hints ++ [hint]) otherWings
  let shown := combined.take config.tunnelHintsDisplayCap
  if config.tunnelHintsDisplayCap < combined.length then
    shown ++ ["… +" ++ toString (combined.length - config.tunnelHintsDisplayCap) ++ " more"]
  else shown

def withTunnelHints (result : SearchResult) : SearchResult :=
  match result.room with
  | none => result
  | some room =>
    match findTunnels db room with
    | none => result
    | some wings => { result with tunnelHints := tunnelHintsOf config db result room wings }

structure Fanout where
  seenIds : List String
  added : List SearchResult

def tunnelResult (result : SearchResult) (row : SearchRow) : SearchResult :=
  let base := resultFromDrawer row .tunnelCrossProject result.similarity result.route
  { base with
    similarity := base.similarity * config.tunnelPenalty
    effectiveImportance := base.effectiveImportance * config.tunnelPenalty }

/-- The loop over the drawers of one room; it stops when `room` further drawers were taken. -/
def fanOut (result : SearchResult) : Nat → Fanout → List SearchRow → Fanout
  | _, fanout, [] => fanout
  | 0, fanout, _ => fanout
  | left + 1, fanout, row :: rows =>
    if row.id ∈ fanout.seenIds then fanOut result (left + 1) fanout rows
    else fanOut result left ⟨row.id :: fanout.seenIds, fanout.added ++ [tunnelResult config result row]⟩ rows

def fanOutResult (fanout : Fanout) (result : SearchResult) : Fanout :=
  match result.room with
  | none => fanout
  | some room =>
    if config.tunnelFanoutCap = 0 then fanout
    else fanOut config result config.tunnelFanoutCap fanout
      (tunnelDrawersForRoom db room result.drawerId (scopeProjectId request.mode) (config.tunnelFanoutCap + 1))

/-- `inject_tunnel_hints_with_cap`. -/
def injectTunnels (results : List SearchResult) : List SearchResult :=
  if hasTunnels db then
    results.map (withTunnelHints config db) ++
      (results.foldl (fanOutResult config db request) ⟨results.map fun result => result.drawerId, []⟩).added
  else results

def validityWindowContainsAt (validFrom validUntil : Option String) : Bool :=
  !(validFrom.bind env.parseTemporalTimestampSecs).any (env.nowSecs < ·) &&
    !(validUntil.bind env.parseTemporalTimestampSecs).any (· < env.nowSecs)

def retainCurrentlyValidResults (results : List SearchResult) : List SearchResult :=
  if request.includeExpired then results
  else results.filter fun result =>
    (findDrawer db result.drawerId).all fun row => validityWindowContainsAt env row.validFrom row.validUntil

def applyConsistentEffectiveImportance (result : SearchResult) : SearchResult :=
  if result.source = .tunnelCrossProject then result
  else
    match findDrawer db result.drawerId with
    | some row => { result with effectiveImportance := row.effectiveImportance }
    | none => result

/-- `list_patterns` for active ones, with the model that made them. -/
def loadActivePatternsForSearch : List Pattern :=
  db.patterns.filter fun pattern =>
    pattern.isActive &&
      (scopeProjectId request.mode).all (fun p => pattern.projectId = some p || pattern.projectId.isNone) &&
      pattern.modelId = some config.modelId

def boostBy (queryVector : Embedding) (result : SearchResult) (pattern : Pattern) : SearchResult :=
  if pattern.signature = [] || env.cosineSimilarity queryVector pattern.signature < config.surfacingThreshold then
    result
  else if result.drawerId ∈ pattern.exemplarIds then
    { result with
      effectiveImportance := result.effectiveImportance + config.patternBoost
      matchedPatternId := some pattern.patternId }
  else result

/-- `apply_pattern_boost`, for one result. -/
def applyPatternBoost (result : SearchResult) : SearchResult :=
  match request.vector with
  | none => result
  | some queryVector =>
    if queryVector = [] || !config.patternsEnabled then result
    else (loadActivePatternsForSearch config db request).foldl (boostBy env config queryVector) result

def searchDecayFactorAt (addedAt : String) : ℚ :=
  match env.parseTemporalTimestampSecs addedAt with
  | none => 1
  | some addedAtSecs =>
    let ageDays : ℚ := (max (env.nowSecs - addedAtSecs) 0 : Int) / 86400
    match config.decay.mode with
    | .none => 1
    | .exponential => env.exp (-(693 / 1000) * ageDays / config.decay.halfLifeDays)
    | .linear => max (1 - ageDays / config.decay.halfLifeDays) 0
    | .step => if ageDays ≤ config.decay.stepFullDays then 1 else config.decay.stepReducedWeight

def decayResult (result : SearchResult) : SearchResult :=
  let factor := ((findDrawer db result.drawerId).map fun row => searchDecayFactorAt env config row.addedAt).getD 1
  { result with
    similarity := result.similarity * factor
    effectiveImportance := result.effectiveImportance * factor }

/-- `sort_by_similarity_desc_then_id`. -/
def similarityOrder (a b : SearchResult) : Prop :=
  b.similarity < a.similarity ∨ (a.similarity = b.similarity ∧ a.drawerId ≤ b.drawerId)

instance : DecidableRel similarityOrder := fun _ _ => inferInstanceAs (Decidable (_ ∨ _))

def applyTemporalDecay (results : List SearchResult) : List SearchResult :=
  if config.decay.mode = .none then results
  else (results.map (decayResult env config db)).insertionSort similarityOrder

def rerankByEffectiveImportance (results : List SearchResult) : List SearchResult :=
  results.insertionSort fun a b => b.effectiveImportance ≤ a.effectiveImportance

def candidateTopK : Nat :=
  if (request.vector.isSome && !request.filters.isEmpty) || excludesRawTurns config request ||
      !request.includeExpired || config.decay.mode ≠ .none then
    max 100 (min (request.topK * 20) (2 ^ 64 - 1))
  else request.topK

def searchCandidates : Except SearchError (List SearchResult) := do
  let topK := candidateTopK config request
  match request.vector with
  | some queryVector =>
    let vectorResults ← searchByVectorWithFilters env db request queryVector topK
    let ftsIds ← searchFtsFiltered env db request topK
    return if ftsIds.isEmpty then vectorResults else rrfMerge db request vectorResults ftsIds topK
  | none =>
    let ftsIds ← searchFtsFiltered env db request topK
    return rrfMerge db request [] ftsIds topK

def assemblePage (candidates : List SearchResult) : List SearchResult :=
  let tunnelled := injectTunnels config db request (retainWanted config request candidates)
  let valid := retainCurrentlyValidResults env db request (retainWanted config request tunnelled)
  let weighed := (valid.map (applyConsistentEffectiveImportance db)).map (applyPatternBoost env config db request)
  (rerankByEffectiveImportance (applyTemporalDecay env config db weighed)).take request.topK

def searchPage : Except SearchError (List SearchResult) :=
  if request.topK = 0 then .ok [] else (searchCandidates env config db request).map (assemblePage env config db request)

/-- `inject_chunk_neighbors`, for one result. -/
def withNeighbors (result : SearchResult) : SearchResult :=
  match result.chunkIndex with
  | none => result
  | some index =>
    let neighbors := neighborChunks db result.sourceFile result.wing result.room index
    if neighbors.prev.isSome || neighbors.next.isSome then { result with neighbors := some neighbors } else result

/-- `search_with_vector_and_scope_options` and `search_bm25_only_with_options`. -/
def search : Except SearchError (List SearchResult) :=
  (searchPage env config db request).map fun page =>
    if request.withNeighbors && request.topK ≤ 10 then page.map (withNeighbors db) else page

end Stages

end Mempal.Search

import Mempal.Search.Neighbors
import Mempal.Search.Stages

set_option autoImplicit false

/-! A search scoped to one project shows drawers of other projects only as results marked as tunnel hits. -/

namespace Mempal.Search

open Foundation Foundation.Observation

/-- A result on the page, before neighbours are attached, and its drawer. -/
structure Shows (db : SearchDb) (request : SearchRequest) (result : SearchResult) (row : SearchRow) : Prop where
  mem : row ∈ db.drawers.rows
  clause : retrievable request row = true
  facts : result.toResultFacts = (resultFromDrawer row .project 0 request.route).toResultFacts
  content : result.content = row.content
  bare : result.neighbors = none

variable {page : List SearchResult} {result : SearchResult}

theorem shows_of_mem_searchPage {env : SearchEnv} {config : SearchConfig} {db : SearchDb} {p : String}
    {request : SearchRequest} (hMode : request.mode = .project p)
    (hPage : searchPage env config db request = .ok page) (h : result ∈ page) (hUnmarked : result.isTunnel = false) :
    ∃ row, Shows db request result row := by
  unfold searchPage at hPage
  split at hPage
  · cases hPage
    cases h
  · cases hCandidates : searchCandidates env config db request with
    | error e =>
      rw [hCandidates] at hPage
      cases hPage
    | ok candidates =>
      rw [hCandidates] at hPage
      cases hPage
      obtain ⟨candidate, hMem, rfl⟩ := mem_assemblePage h hUnmarked
      obtain ⟨row, hRow, hClause, similarity, rfl⟩ := fromProject_searchCandidates hMode hCandidates candidate hMem
      have hMark := isMarking_markCandidate env config db request
      exact ⟨row, hRow, hClause, hMark.facts _, hMark.content_eq _, hMark.neighbors _⟩

/-- Neighbours are not asked for, or the places next to each drawer that the search may retrieve are owned. -/
def NeighborsOwned (db : SearchDb) (request : SearchRequest) (p : String) : Prop :=
  request.withNeighbors = true → request.topK ≤ 10 →
    ∀ row ∈ db.drawers.rows, retrievable request row = true → ∀ index, row.chunkIndex = some index →
      FirstOwned db p (sourceFileOrSynthetic row.id row.sourceFile) row.wing row.room index

/-- The content of a result is that of its drawer, which has the project; no chunk attached to the result belongs
to another one. -/
structure OwnText (db : SearchDb) (p : String) (result : SearchResult) : Prop where
  content : ∃ row ∈ db.drawers.rows, row.id = result.drawerId ∧ row.projectId = some p ∧ result.content = row.content
  chunks : ∀ chunk ∈ result.chunks, ¬ BelongsElsewhere db p chunk.drawerId

def attachNeighbors (db : SearchDb) (request : SearchRequest) (result : SearchResult) : SearchResult :=
  if request.withNeighbors && request.topK ≤ 10 then withNeighbors db result else result

section Isolation
variable {env : SearchEnv} {config : SearchConfig} {db : SearchDb} {p : String} {request : SearchRequest}

theorem search_eq (env : SearchEnv) (config : SearchConfig) (db : SearchDb) (request : SearchRequest) :
    search env config db request = (searchPage env config db request).map (List.map (attachNeighbors db request)) := by
  unfold search attachNeighbors
  cases searchPage env config db request with
  | error e => rfl
  | ok page =>
    refine congrArg Except.ok ?_
    split
    · rfl
    · exact (List.map_id page).symm

theorem attachNeighbors_eq (db : SearchDb) (request : SearchRequest) (result : SearchResult) :
    attachNeighbors db request result =
      { result with neighbors := (attachNeighbors db request result).neighbors } := by
  unfold attachNeighbors withNeighbors
  split
  · split
    · rfl
    · dsimp only
      split <;> rfl
  · rfl

theorem isTunnel_attachNeighbors (result : SearchResult) :
    (attachNeighbors db request result).isTunnel = result.isTunnel := by
  rw [attachNeighbors_eq]
  rfl

/-- The results of a search, up to what `obs` shows of them. -/
theorem map_search {β : Type*} (obs : SearchResult → β) :
    (search env config db request).map (List.map obs) =
      (searchPage env config db request).map (List.map (obs ∘ attachNeighbors db request)) := by
  rw [search_eq]
  cases searchPage env config db request with
  | error e => rfl
  | ok page => exact congrArg Except.ok List.map_map

theorem chunks_withNeighbors {index : Int} (hIndex : result.chunkIndex = some index)
    (hBare : result.neighbors = none) :
    (withNeighbors db result).chunks = (neighborChunks db result.sourceFile result.wing result.room index).chunks := by
  unfold withNeighbors
  rw [hIndex]
  dsimp only
  split
  · rfl
  · rename_i hNone
    rw [Bool.not_eq_true, Bool.or_eq_false_iff, Option.isSome_eq_false_iff, Option.isSome_eq_false_iff,
      Option.isNone_iff_eq_none, Option.isNone_iff_eq_none] at hNone
    rw [SearchResult.chunks, hBare, ChunkNeighbors.chunks, hNone.1, hNone.2]
    rfl

theorem attachNeighbors_off (h : ¬ (request.withNeighbors = true ∧ request.topK ≤ 10)) :
    attachNeighbors db request result = result :=
  if_neg (by rwa [Bool.and_eq_true, decide_eq_true_eq])

theorem attachNeighbors_on (h : request.withNeighbors = true ∧ request.topK ≤ 10) :
    attachNeighbors db request result = withNeighbors db result :=
  if_pos (by rwa [Bool.and_eq_true, decide_eq_true_eq])

variable {row : SearchRow}

theorem Shows.firstOwned {index : Int} (h : Shows db request result row) (hOwned : NeighborsOwned db request p)
    (hOn : request.withNeighbors = true ∧ request.topK ≤ 10) (hIndex : result.chunkIndex = some index) :
    FirstOwned db p result.sourceFile result.wing result.room index := by
  rw [h.facts] at hIndex ⊢
  exact hOwned hOn.1 hOn.2 row h.mem h.clause index hIndex

theorem chunks_attachNeighbors (h : Shows db request result row) (hOwned : NeighborsOwned db request p) :
    ∀ chunk ∈ (attachNeighbors db request result).chunks, ¬ BelongsElsewhere db p chunk.drawerId := by
  have hNone : result.chunks = [] := by rw [SearchResult.chunks, h.bare]; rfl
  by_cases hOn : request.withNeighbors = true ∧ request.topK ≤ 10
  · rw [attachNeighbors_on hOn]
    cases hIndex : result.chunkIndex with
    | none =>
      rw [withNeighbors, hIndex, hNone]
      exact fun _ hMem => absurd hMem List.not_mem_nil
    | some index =>
      rw [chunks_withNeighbors hIndex h.bare]
      exact (h.firstOwned hOwned hOn hIndex).chunks
  · rw [attachNeighbors_off hOn, hNone]
    exact fun _ hMem => absurd hMem List.not_mem_nil

theorem attachNeighbors_edit (h : Shows db request result row) (hOwned : NeighborsOwned db request p)
    (edit : ForeignEdit db p) : attachNeighbors edit.result request result = attachNeighbors db request result := by
  by_cases hOn : request.withNeighbors = true ∧ request.topK ≤ 10
  · rw [attachNeighbors_on hOn, attachNeighbors_on hOn, withNeighbors, withNeighbors]
    cases hIndex : result.chunkIndex with
    | none => rfl
    | some index =>
      dsimp only
      rw [edit.neighborChunks_edit, edit.applyNeighbors_of_owned (h.firstOwned hOwned hOn hIndex).chunks]
  · rw [attachNeighbors_off hOn, attachNeighbors_off hOn]

theorem searchPage_edit (hMode : request.mode = .project p) (edit : ForeignEdit db p)
    (hOrder : edit.KeepsOrder env request) :
    (searchPage env config edit.result request).map (List.map SearchResult.withoutForeignContent) =
      (searchPage env config db request).map (List.map SearchResult.withoutForeignContent) := by
  unfold searchPage
  split
  · rfl
  · rw [searchCandidates_edit edit hMode hOrder]
    cases searchCandidates env config db request with
    | error e => rfl
    | ok candidates => exact congrArg Except.ok (assemblePage_edit edit candidates)

theorem search_edit (hMode : request.mode = .project p) (hOwned : NeighborsOwned db request p) (edit : ForeignEdit db p)
    (hOrder : edit.KeepsOrder env request) :
    (search env config edit.result request).map (List.map SearchResult.unmarked) =
      (search env config db request).map (List.map SearchResult.unmarked) := by
  rw [map_search, map_search]
  refine except_map_eq_of_obs (searchPage_edit hMode edit hOrder) fun page' page _ hPage a _ b hb hSame => ?_
  obtain ⟨hContent, hEq⟩ := SearchResult.eq_of_withoutForeignContent hSame
  rw [Function.comp_apply, Function.comp_apply, SearchResult.unmarked, SearchResult.unmarked,
    isTunnel_attachNeighbors, isTunnel_attachNeighbors]
  cases hMarked : a.isTunnel with
  | true =>
    have hMarkedB : b.isTunnel = true := by rw [hContent]; exact hMarked
    rw [hMarkedB]
    rfl
  | false =>
    rw [hEq hMarked] at hb ⊢
    obtain ⟨row, hShows⟩ := shows_of_mem_searchPage hMode hPage hb hMarked
    rw [hMarked, attachNeighbors_edit hShows hOwned edit]

theorem search_ownText (hMode : request.mode = .project p) (hOwned : NeighborsOwned db request p)
    {results : List SearchResult} (h : search env config db request = .ok results) :
    ∀ result ∈ results, result.isTunnel = false → OwnText db p result := by
  intro result hMem hUnmarked
  rw [search_eq] at h
  cases hPage : searchPage env config db request with
  | error e =>
    rw [hPage] at h
    cases h
  | ok page =>
    rw [hPage] at h
    cases h
    obtain ⟨bare, hBare, rfl⟩ := List.mem_map.mp hMem
    rw [isTunnel_attachNeighbors] at hUnmarked
    obtain ⟨row, hShows⟩ := shows_of_mem_searchPage hMode hPage hBare hUnmarked
    refine ⟨⟨row, hShows.mem, ?_, project_of_filterClause hMode hShows.clause, ?_⟩, chunks_attachNeighbors hShows hOwned⟩
    · rw [attachNeighbors_eq, hShows.facts]
      rfl
    · rw [attachNeighbors_eq]
      exact hShows.content

end Isolation

/-- A chunk of project p, and a drawer of project q with the given position. -/
def sharedFile (position : Option Int) : SearchDb where
  drawers := ⟨⟨[chunkRow 1 "a" "alpha" "p" (some 0), chunkRow 2 "b" "beta" "q" position], by simp [chunkRow]⟩,
    by simp [chunkRow]⟩
  index := [(1, "alpha"), (2, "beta")]
  vectors := ⟨some 1, ⟨[⟨"a", [0], some "p"⟩, ⟨"b", [0], some "q"⟩], by decide⟩, by simp [Table.mem_rows]⟩
  tunnels := []
  patterns := []

/-- Every text matches, and all ranks are equal. -/
def plainEnv : SearchEnv where
  matchesText _ _ := true
  bm25 _ _ _ := 0
  jiebaCutForSearch text := [text]
  knn _ _ _ _ := []
  cosineSimilarity _ _ := 0
  exp _ := 1
  nowSecs := 1000
  parseTemporalTimestampSecs _ := none

def plainConfig : SearchConfig where
  excludeRawTurns := false
  rawTurnWings := []
  rawTurnRooms := []
  decay := ⟨.none, 30, 30, 1⟩
  patternsEnabled := false
  surfacingThreshold := 1
  patternBoost := 0
  modelId := ""
  tunnelFanoutCap := 1
  tunnelHintsDisplayCap := 8
  tunnelPenalty := 1

def scopedRequest : SearchRequest where
  query := "alpha"
  vector := some [0]
  route := ⟨none, none, 0, ""⟩
  mode := .project "p"
  filters := .empty
  withNeighbors := true
  includeRawTurns := false
  includeExpired := true
  topK := 5

def rewriteOther : ForeignEdit (sharedFile (some 1)) "p" where
  row := chunkRow 2 "b" "beta" "q" (some 1)
  mem := List.mem_cons_of_mem _ List.mem_cons_self
  foreign := rfl
  content := "gamma"
  index := [(1, "alpha"), (2, "gamma")]
  others := rfl

theorem firstOwned_sharedFile {sourceFile wing : String} {room : Option String} (index : Int) :
    FirstOwned (sharedFile none) "p" sourceFile wing room index := by
  intro row hRow _ position hSome hForeign
  rcases List.mem_cons.mp hRow with rfl | hRow
  · cases hForeign
  · rw [List.mem_singleton.mp hRow] at hSome
    cases hSome

end Mempal.Search

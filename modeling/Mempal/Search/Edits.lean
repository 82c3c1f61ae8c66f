import Mempal.Foundation.Fallible
import Mempal.Search.Pipeline

set_option autoImplicit false

/-! An edit gives one drawer of another project new content; in the index it may change the entries of that drawer. -/

namespace Mempal.Search

open Foundation Drawers

def SearchTable.setContent (drawers : SearchTable) (id content : String) : SearchTable where
  toTable := drawers.toTable.update (fun row => row.id = id) (fun row => { row with content }) fun _ => rfl
  rowids := by
    have hSame : ((drawers.toTable.update (fun row => row.id = id) (fun row => { row with content })
        fun _ => rfl).rows.map fun row => row.rowid) = drawers.rows.map fun row => row.rowid := by
      rw [Table.update, List.map_map]
      apply List.map_congr_left
      intro row _
      dsimp only [Function.comp_apply]
      split <;> rfl
    rw [hSame]
    exact drawers.rowids

/-- A drawer of a project other than `p`, its new content and the index after the change. -/
structure ForeignEdit (db : SearchDb) (p : String) where
  row : SearchRow
  mem : row ∈ db.drawers.rows
  foreign : row.projectId.any (· ≠ p) = true
  content : String
  index : List (Nat × String)
  others : (index.filter fun entry => entry.1 ≠ row.rowid) = db.index.filter fun entry => entry.1 ≠ row.rowid

variable {rowid : Nat} {row : SearchRow}

namespace ForeignEdit

variable {db : SearchDb} {p : String} (edit : ForeignEdit db p)

def result : SearchDb :=
  { db with drawers := db.drawers.setContent edit.row.id edit.content, index := edit.index }

def apply (row : SearchRow) : SearchRow := if row.id = edit.row.id then { row with content := edit.content } else row

theorem rows_result : edit.result.drawers.rows = db.drawers.rows.map edit.apply := by
  apply List.map_congr_left
  intro row _
  simp only [apply, decide_eq_true_eq]

theorem apply_eq (row : SearchRow) : edit.apply row = { row with content := (edit.apply row).content } := by
  unfold apply
  split <;> rfl

variable {β : Type*} {f : SearchRow → β}

theorem read_apply (hf : ∀ row content, f { row with content } = f row) (row : SearchRow) :
    f (edit.apply row) = f row := by
  rw [apply_eq, hf]

theorem comp_apply (hf : ∀ row content, f { row with content } = f row) :
    f ∘ edit.apply = f := funext (edit.read_apply hf)

theorem apply_of_project (hRow : row ∈ db.drawers.rows) (hProject : row.projectId = some p) : edit.apply row = row := by
  apply if_neg
  intro hId
  have hSame : row = edit.row := Table.eq_of_key_eq (t := db.drawers.toTable) hRow edit.mem hId
  have hForeign := edit.foreign
  rw [← hSame, hProject] at hForeign
  simp at hForeign

theorem findDrawer_result (id : String) : findDrawer edit.result id = (findDrawer db id).map edit.apply := by
  rw [findDrawer, SearchDb.drawers, result, SearchTable.setContent, Table.find?_update]
  simp only [decide_eq_true_eq]
  rfl

theorem select_result {pred : SearchRow → Bool} (hPred : ∀ row content, pred { row with content } = pred row)
    (hf : ∀ row content, f { row with content } = f row) :
    (edit.result.drawers.rows.filter pred).map f = (db.drawers.rows.filter pred).map f := by
  rw [rows_result, List.filter_map, edit.comp_apply hPred, List.map_map, edit.comp_apply hf]

theorem filter_map_apply (pred : SearchRow → Bool) (hPred : ∀ row content, pred { row with content } = pred row)
    (hScope : ∀ row, pred row = true → row.projectId = some p) {found : Option SearchRow}
    (hFound : ∀ row, found = some row → row ∈ db.drawers.rows) :
    (found.map edit.apply).filter pred = found.filter pred := by
  cases found with
  | none => rfl
  | some row =>
    have hRead := edit.read_apply hPred row
    rw [Option.map_some, Option.filter_some, Option.filter_some, hRead]
    cases hAdmits : pred row with
    | false => rfl
    | true => rw [edit.apply_of_project (hFound row rfl) (hScope row hAdmits)]

theorem filter_findDrawer (pred : SearchRow → Bool) (hPred : ∀ row content, pred { row with content } = pred row)
    (hScope : ∀ row, pred row = true → row.projectId = some p) (id : String) :
    (findDrawer edit.result id).filter pred = (findDrawer db id).filter pred := by
  rw [findDrawer_result]
  exact edit.filter_map_apply pred hPred hScope fun row hFind => (Table.find?_eq_some_iff.mp hFind).1

theorem find?_rowid_result :
    (edit.result.drawers.rows.find? fun row => row.rowid = rowid) =
      (db.drawers.rows.find? fun row => row.rowid = rowid).map edit.apply := by
  rw [rows_result, List.find?_map, edit.comp_apply fun _ _ => rfl]

theorem getDrawer_of_project (hRow : row ∈ db.drawers.rows) (hProject : row.projectId = some p) :
    getDrawer edit.result row.id = getDrawer db row.id := by
  have hFind : findDrawer db row.id = some row := Table.find?_of_mem (t := db.drawers.toTable) hRow
  rw [getDrawer, getDrawer, findDrawer_result, hFind, Option.map_some, edit.apply_of_project hRow hProject]

end ForeignEdit

section Candidates
variable {env : SearchEnv} {config : SearchConfig} {db : SearchDb} {p : String} {request : SearchRequest}

theorem retrievalClause_content (request : SearchRequest) (row : SearchRow) (content : String) :
    retrievalClause request { row with content } = retrievalClause request row := rfl

theorem project_of_filterClause {wing room : Option String} (hMode : request.mode = .project p)
    (h : filterClause request.mode wing room row.toDrawerRow = true) : row.projectId = some p := by
  rw [hMode, filterClause, Bool.and_eq_true] at h
  simpa [ProjectFilterMode.accepts] using h.2

theorem project_of_retrievalClause (hMode : request.mode = .project p) (h : retrievalClause request row = true) :
    row.projectId = some p :=
  project_of_filterClause hMode (Bool.and_eq_true_iff.mp h).1

theorem mem_vectorCandidates {v : VectorRow} (h : (v, row) ∈ vectorCandidates db request) :
    row ∈ db.drawers.rows ∧ retrievalClause request row = true := by
  obtain ⟨v', _, hJoin⟩ := List.mem_filterMap.mp h
  obtain ⟨row', hRow', hEq⟩ := Option.map_eq_some_iff.mp hJoin
  obtain ⟨hFind, hClause⟩ := Option.filter_eq_some_iff.mp hRow'
  cases hEq
  exact ⟨(Table.find?_eq_some_iff.mp hFind).1, hClause⟩

variable (edit : ForeignEdit db p)

theorem vectorCandidates_edit (hMode : request.mode = .project p) :
    vectorCandidates edit.result request = vectorCandidates db request := by
  apply List.filterMap_congr
  intro v _
  rw [edit.filter_findDrawer _ (retrievalClause_content request) fun row => project_of_retrievalClause hMode]

theorem countVectorCandidateDrawers_edit (hMode : request.mode = .project p) :
    countVectorCandidateDrawers edit.result request = countVectorCandidateDrawers db request := by
  have hRows : (edit.result.drawers.rows.filter (retrievalClause request)).length =
      (db.drawers.rows.filter (retrievalClause request)).length := by
    have hIds := edit.select_result (f := fun row => row.id) (retrievalClause_content request) fun _ _ => rfl
    rw [← List.length_map (f := fun row : SearchRow => row.id), hIds, List.length_map]
  rw [countVectorCandidateDrawers, vectorCandidates_edit edit hMode, hRows]
  rfl

theorem hydrate_edit (hRow : row ∈ db.drawers.rows) (hProject : row.projectId = some p) {result : SearchResult}
    (hId : result.drawerId = row.id) : hydrateResultMetadata edit.result result = hydrateResultMetadata db result := by
  rw [hydrateResultMetadata, hydrateResultMetadata, hId, edit.getDrawer_of_project hRow hProject]

variable {queryVector : Embedding} {topK : Nat} {matchQuery : String}

theorem mem_rankExactCandidates {ranked : Option ℚ × SearchRow}
    (h : ranked ∈ rankExactCandidates env db request queryVector topK) :
    ranked.2 ∈ db.drawers.rows ∧ retrievalClause request ranked.2 = true := by
  have hMem := (List.mem_insertionSort _).mp (List.mem_of_mem_take h)
  obtain ⟨⟨v, row⟩, hCandidate, rfl⟩ := List.mem_map.mp hMem
  exact mem_vectorCandidates hCandidate

theorem drawerId_exactResult {ranked : Option ℚ × SearchRow} {result : SearchResult}
    (h : exactResult request ranked = .ok result) : result.drawerId = ranked.2.id := by
  unfold exactResult at h
  split at h <;> cases h
  rfl

theorem searchByVectorScopedExact_edit (hMode : request.mode = .project p) :
    searchByVectorScopedExact env edit.result request queryVector topK =
      searchByVectorScopedExact env db request queryVector topK := by
  have hRanked : rankExactCandidates env edit.result request queryVector topK =
      rankExactCandidates env db request queryVector topK := by
    rw [rankExactCandidates, vectorCandidates_edit edit hMode]
    rfl
  have hHydrated : ((rankExactCandidates env db request queryVector topK).mapM (exactResult request)).map
        (List.map (hydrateResultMetadata edit.result)) =
      ((rankExactCandidates env db request queryVector topK).mapM (exactResult request)).map
        (List.map (hydrateResultMetadata db)) := by
    cases hResults : (rankExactCandidates env db request queryVector topK).mapM (exactResult request) with
    | error e => rfl
    | ok results =>
      refine congrArg Except.ok (List.map_congr_left fun result hMem => ?_)
      obtain ⟨ranked, hRankedMem, hResult⟩ := exists_of_mem_mapM hResults result hMem
      obtain ⟨hRow, hClause⟩ := mem_rankExactCandidates hRankedMem
      exact hydrate_edit edit hRow (project_of_retrievalClause hMode hClause) (drawerId_exactResult hResult)
  rw [searchByVectorScopedExact, hRanked, hHydrated]
  rfl

theorem mem_knnMatches {m : SearchRow × ℚ} (h : m ∈ knnMatches env db request queryVector topK) :
    m.1 ∈ db.drawers.rows ∧
      filterClause request.mode request.route.wing request.route.room m.1.toDrawerRow = true := by
  have hMem := (List.mem_insertionSort _).mp (List.mem_of_mem_take h)
  obtain ⟨near, _, hJoin⟩ := List.mem_filterMap.mp hMem
  obtain ⟨row, hRow, rfl⟩ := Option.map_eq_some_iff.mp hJoin
  obtain ⟨hFind, hClause⟩ := Option.filter_eq_some_iff.mp hRow
  exact ⟨(Table.find?_eq_some_iff.mp hFind).1, hClause⟩

theorem searchByVectorScopedKnn_edit (hMode : request.mode = .project p) (queryVector : Embedding) :
    searchByVectorScopedKnn env edit.result request queryVector topK =
      searchByVectorScopedKnn env db request queryVector topK := by
  have hMatches : knnMatches env edit.result request queryVector topK = knnMatches env db request queryVector topK := by
    have hFind (id : String) := edit.filter_findDrawer (fun row =>
      filterClause request.mode request.route.wing request.route.room row.toDrawerRow) (fun _ _ => rfl)
      (fun _ => project_of_filterClause hMode) id
    simp only [knnMatches, hFind]
    rfl
  have hHydrated : ((knnMatches env db request queryVector topK).map fun m =>
        hydrateResultMetadata edit.result (unhydrated request m.1 (1 - m.2))) =
      (knnMatches env db request queryVector topK).map fun m =>
        hydrateResultMetadata db (unhydrated request m.1 (1 - m.2)) := by
    apply List.map_congr_left
    intro m hMem
    obtain ⟨hRow, hClause⟩ := mem_knnMatches hMem
    exact hydrate_edit edit hRow (project_of_filterClause hMode hClause) rfl
  rw [searchByVectorScopedKnn, hMatches, hHydrated]
  rfl

theorem searchByVectorWithFilters_edit (hMode : request.mode = .project p) (queryVector : Embedding) (topK : Nat) :
    searchByVectorWithFilters env edit.result request queryVector topK =
      searchByVectorWithFilters env db request queryVector topK := by
  rw [searchByVectorWithFilters, countVectorCandidateDrawers_edit edit hMode,
    searchByVectorScopedExact_edit edit hMode, searchByVectorScopedKnn_edit edit hMode]
  rfl

/-- The ranks before and after the edit put the drawers of the project in the same order. -/
def ForeignEdit.KeepsOrder (env : SearchEnv) (request : SearchRequest) : Prop :=
  ∀ matchQuery, buildFtsMatchQuery env request.query = some matchQuery →
    ∀ a ∈ db.drawers.rows, ∀ b ∈ db.drawers.rows, a.projectId = some p → b.projectId = some p →
      (env.bm25 matchQuery edit.index a.rowid ≤ env.bm25 matchQuery edit.index b.rowid ↔
        env.bm25 matchQuery db.index a.rowid ≤ env.bm25 matchQuery db.index b.rowid)

theorem mem_of_entry
    (h : (db.drawers.rows.find? fun row => row.rowid = rowid).filter (retrievalClause request) = some row) :
    row ∈ db.drawers.rows ∧ row.rowid = rowid ∧ retrievalClause request row = true := by
  obtain ⟨hFind, hClause⟩ := Option.filter_eq_some_iff.mp h
  exact ⟨List.mem_of_find?_eq_some hFind, by simpa using List.find?_some hFind, hClause⟩

theorem mem_ftsMatches (h : row ∈ ftsMatches env db request matchQuery) :
    row ∈ db.drawers.rows ∧ retrievalClause request row = true := by
  obtain ⟨entry, _, hEntry⟩ := List.mem_filterMap.mp h
  obtain ⟨hRow, _, hClause⟩ := mem_of_entry hEntry
  exact ⟨hRow, hClause⟩

theorem ftsMatches_eq_of_others (hMode : request.mode = .project p) (index : List (Nat × String)) :
    ((index.filter fun entry => env.matchesText matchQuery entry.2).filterMap fun entry =>
        (db.drawers.rows.find? fun row => row.rowid = entry.1).filter (retrievalClause request)) =
      (((index.filter fun entry => entry.1 ≠ edit.row.rowid).filter fun entry =>
          env.matchesText matchQuery entry.2).filterMap fun entry =>
        (db.drawers.rows.find? fun row => row.rowid = entry.1).filter (retrievalClause request)) := by
  rw [List.filter_filter, List.filterMap_filter, List.filterMap_filter]
  apply List.filterMap_congr
  intro entry _
  cases hMatches : env.matchesText matchQuery entry.2 with
  | false => simp
  | true =>
    have hNone (hRowid : entry.1 = edit.row.rowid) :
        (db.drawers.rows.find? fun row => row.rowid = entry.1).filter (retrievalClause request) = none := by
      rw [Option.eq_none_iff_forall_ne_some]
      intro row hRow
      obtain ⟨hMem, hSame, hClause⟩ := mem_of_entry hRow
      have hEq : row = edit.row :=
        List.inj_on_of_nodup_map db.drawers.rowids hMem edit.mem (hSame.trans hRowid)
      have hForeign := edit.foreign
      rw [← hEq, project_of_retrievalClause hMode hClause] at hForeign
      simp at hForeign
    by_cases hRowid : entry.1 = edit.row.rowid
    · simp [hRowid, ← hNone hRowid]
    · simp [hRowid]

theorem ftsMatches_edit (hMode : request.mode = .project p) :
    ftsMatches env edit.result request matchQuery = ftsMatches env db request matchQuery := by
  have hEntry (rowid : Nat) :
      (edit.result.drawers.rows.find? fun row => row.rowid = rowid).filter (retrievalClause request) =
        (db.drawers.rows.find? fun row => row.rowid = rowid).filter (retrievalClause request) := by
    rw [edit.find?_rowid_result]
    exact edit.filter_map_apply _ (retrievalClause_content request) (fun _ => project_of_retrievalClause hMode)
      fun _ => List.mem_of_find?_eq_some
  simp only [ftsMatches, hEntry]
  rw [ftsMatches_eq_of_others edit hMode, ftsMatches_eq_of_others edit hMode db.index, ← edit.others]
  rfl

theorem mem_searchFtsFiltered {limit : Nat} {ids : List String} (h : searchFtsFiltered env db request limit = .ok ids)
    {id : String} (hId : id ∈ ids) : ∃ row ∈ db.drawers.rows, retrievalClause request row = true ∧ row.id = id := by
  unfold searchFtsFiltered at h
  split at h
  · cases h
    cases hId
  · split at h
    · cases h
    · cases h
      obtain ⟨row, hRow, hEq⟩ := List.mem_map.mp hId
      obtain ⟨hMem, hClause⟩ := mem_ftsMatches ((List.mem_insertionSort _).mp (List.mem_of_mem_take hRow))
      exact ⟨row, hMem, hClause, hEq⟩

theorem searchFtsFiltered_edit (hMode : request.mode = .project p) (hOrder : edit.KeepsOrder env request)
    (limit : Nat) : searchFtsFiltered env edit.result request limit = searchFtsFiltered env db request limit := by
  unfold searchFtsFiltered
  cases hQuery : buildFtsMatchQuery env request.query with
  | none => rfl
  | some matchQuery =>
    have hSorted : ((ftsMatches env db request matchQuery).insertionSort fun a b =>
          env.bm25 matchQuery edit.index a.rowid ≤ env.bm25 matchQuery edit.index b.rowid) =
        (ftsMatches env db request matchQuery).insertionSort fun a b =>
          env.bm25 matchQuery db.index a.rowid ≤ env.bm25 matchQuery db.index b.rowid := by
      have hSame := List.map_insertionSort (r := fun a b : SearchRow =>
          env.bm25 matchQuery edit.index a.rowid ≤ env.bm25 matchQuery edit.index b.rowid)
        (s := fun a b => env.bm25 matchQuery db.index a.rowid ≤ env.bm25 matchQuery db.index b.rowid)
        id (ftsMatches env db request matchQuery) ?_
      · rwa [List.map_id, List.map_id] at hSame
      · intro a ha b hb
        obtain ⟨hMemA, hA⟩ := mem_ftsMatches ha
        obtain ⟨hMemB, hB⟩ := mem_ftsMatches hb
        exact hOrder matchQuery hQuery a hMemA b hMemB (project_of_retrievalClause hMode hA)
          (project_of_retrievalClause hMode hB)
    dsimp only
    rw [ftsMatches_edit edit hMode]
    exact if_congr Iff.rfl rfl (by rw [← hSorted]; rfl)

theorem mem_fuse {lists : List (List String)} {rank : FusedRank} (h : rank ∈ fuse lists) :
    rank.id ∈ lists.flatten := by
  obtain ⟨id, hId, rfl⟩ := List.mem_map.mp ((List.mem_insertionSort _).mp h)
  exact List.mem_eraseDups.mp hId

theorem rrfMerge_edit {ftsIds : List String} (request : SearchRequest) (vectorResults : List SearchResult) (topK : Nat)
    (hIds : ∀ id ∈ ftsIds, ∃ row ∈ db.drawers.rows, row.projectId = some p ∧ row.id = id) :
    rrfMerge edit.result request vectorResults ftsIds topK = rrfMerge db request vectorResults ftsIds topK := by
  unfold rrfMerge
  dsimp only
  congr 1
  apply List.filterMap_congr
  intro rank hRank
  cases hFind : vectorResults.find? fun result => result.drawerId = rank.id with
  | some result => rfl
  | none =>
    have hMem := mem_fuse hRank
    simp only [List.flatten_cons, List.flatten_nil, List.append_nil, List.mem_append] at hMem
    rcases hMem with hVector | hFts
    · obtain ⟨result, hResult, hId⟩ := List.mem_map.mp hVector
      exact absurd hId (by simpa using List.find?_eq_none.mp hFind result hResult)
    · obtain ⟨row, hRow, hProject, hId⟩ := hIds _ hFts
      rw [← hId, edit.getDrawer_of_project hRow hProject]

theorem searchCandidates_edit (hMode : request.mode = .project p) (hOrder : edit.KeepsOrder env request) :
    searchCandidates env config edit.result request = searchCandidates env config db request := by
  have hMerge (vectorResults : List SearchResult) {ftsIds : List String} {topK : Nat}
      (hFts : searchFtsFiltered env db request topK = .ok ftsIds) :=
    rrfMerge_edit edit request vectorResults topK fun id hId =>
      (mem_searchFtsFiltered hFts hId).imp fun row h => ⟨h.1, project_of_retrievalClause hMode h.2.1, h.2.2⟩
  simp only [searchCandidates, searchFtsFiltered_edit edit hMode hOrder, searchByVectorWithFilters_edit edit hMode]
  cases request.vector with
  | none =>
    cases hFts : searchFtsFiltered env db request (candidateTopK config request) with
    | error e => rfl
    | ok ftsIds => exact congrArg Except.ok (hMerge [] hFts)
  | some queryVector =>
    dsimp only
    cases searchByVectorWithFilters env db request queryVector (candidateTopK config request) with
    | error e => rfl
    | ok vectorResults =>
      cases hFts : searchFtsFiltered env db request (candidateTopK config request) with
      | error e => rfl
      | ok ftsIds => exact congrArg Except.ok (if_congr Iff.rfl rfl (hMerge vectorResults hFts))

end Candidates

end Mempal.Search

import Mempal.Foundation.Observation
import Mempal.Search.Edits

set_option autoImplicit false

/-! Between the candidates and the page no stage reads the content of a result. -/

namespace Mempal.Search

open Foundation Foundation.Observation Drawers

namespace SearchResult

def isTunnel (result : SearchResult) : Bool := result.source = .tunnelCrossProject

def setContent (result : SearchResult) (content : String) : SearchResult := { result with content }

def setScore (result : SearchResult) (similarity : ℚ) : SearchResult := { result with similarity }

def withoutForeignContent (result : SearchResult) : SearchResult :=
  if result.isTunnel then result.setContent "" else result

def unmarked (result : SearchResult) : Option SearchResult := if result.isTunnel then none else some result

theorem facts_withoutForeignContent (result : SearchResult) :
    result.withoutForeignContent.toResultFacts = result.toResultFacts := by
  unfold withoutForeignContent
  split <;> rfl

variable {a b : SearchResult}

theorem eq_of_withoutForeignContent (h : a.withoutForeignContent = b.withoutForeignContent) :
    b = a.setContent b.content ∧ (a.isTunnel = false → b = a) := by
  have hFacts : a.toResultFacts = b.toResultFacts := by
    rw [← facts_withoutForeignContent, h, facts_withoutForeignContent]
  have hTunnel : b.isTunnel = a.isTunnel := by rw [isTunnel, isTunnel, hFacts]
  unfold withoutForeignContent at h
  rw [hTunnel] at h
  cases hMarked : a.isTunnel with
  | false =>
    rw [hMarked] at h
    have hEq : a = b := h
    exact ⟨by rw [hEq]; rfl, fun _ => hEq.symm⟩
  | true =>
    rw [hMarked] at h
    refine ⟨?_, nofun⟩
    cases a
    cases b
    cases h
    rfl

end SearchResult

structure IsMarking (f : SearchResult → SearchResult) : Prop where
  facts : ∀ result, (f result).toResultFacts = result.toResultFacts
  neighbors : ∀ result, (f result).neighbors = result.neighbors
  content : ∀ result content, f (result.setContent content) = (f result).setContent content

namespace IsMarking

variable {f g : SearchResult → SearchResult}

theorem isTunnel (hf : IsMarking f) (result : SearchResult) : (f result).isTunnel = result.isTunnel := by
  rw [SearchResult.isTunnel, SearchResult.isTunnel, hf.facts]

theorem content_eq (hf : IsMarking f) (result : SearchResult) : (f result).content = result.content := by
  have hSame : f result = (f result).setContent result.content := hf.content result result.content
  rw [hSame]
  rfl

theorem respects_content (hf : IsMarking f) : Respects SearchResult.withoutForeignContent f := by
  intro a b h
  obtain ⟨hEq, hUnmarked⟩ := SearchResult.eq_of_withoutForeignContent h
  cases hMarked : a.isTunnel with
  | false => rw [hUnmarked hMarked]
  | true =>
    have hMarkedB : b.isTunnel = true := by rw [hEq]; exact hMarked
    rw [SearchResult.withoutForeignContent, SearchResult.withoutForeignContent, hf.isTunnel, hf.isTunnel, hMarked,
      hMarkedB, hEq, hf.content]
    rfl

theorem comp (hg : IsMarking g) (hf : IsMarking f) : IsMarking (g ∘ f) where
  facts result := (hg.facts _).trans (hf.facts _)
  neighbors result := (hg.neighbors _).trans (hf.neighbors _)
  content result content := by
    rw [Function.comp_apply, Function.comp_apply, hf.content, hg.content]

theorem id : IsMarking fun result => result := ⟨fun _ => rfl, fun _ => rfl, fun _ _ => rfl⟩

theorem foldl {γ : Type*} {step : SearchResult → γ → SearchResult} (h : ∀ c, IsMarking (step · c)) (cs : List γ) :
    IsMarking (cs.foldl step ·) := by
  induction cs with
  | nil => exact id
  | cons c cs ih => exact ih.comp (h c)

end IsMarking

section Stages
variable (env : SearchEnv) (config : SearchConfig) (db : SearchDb) (request : SearchRequest)

theorem isMarking_withTunnelHints : IsMarking (withTunnelHints config db) where
  facts result := by
    unfold withTunnelHints
    split
    · rfl
    · split <;> rfl
  neighbors result := by
    unfold withTunnelHints
    split
    · rfl
    · split <;> rfl
  content result content := by
    unfold withTunnelHints SearchResult.setContent
    cases hRoom : result.room with
    | none => rfl
    | some room =>
      cases hWings : findTunnels db room with
      | none => simp only [hWings]
      | some wings =>
        simp only [hWings]
        rfl

theorem isMarking_applyConsistent : IsMarking (applyConsistentEffectiveImportance db) where
  facts result := by
    unfold applyConsistentEffectiveImportance
    split
    · rfl
    · split <;> rfl
  neighbors result := by
    unfold applyConsistentEffectiveImportance
    split
    · rfl
    · split <;> rfl
  content result content := by
    unfold applyConsistentEffectiveImportance SearchResult.setContent
    split
    · rfl
    · cases findDrawer db result.drawerId <;> rfl

theorem isMarking_boostBy (queryVector : Embedding) (pattern : Pattern) :
    IsMarking (boostBy env config queryVector · pattern) where
  facts result := by
    unfold boostBy
    split
    · rfl
    · split <;> rfl
  neighbors result := by
    unfold boostBy
    split
    · rfl
    · split <;> rfl
  content result content := by
    unfold boostBy SearchResult.setContent
    split
    · rfl
    · split <;> rfl

theorem isMarking_applyPatternBoost : IsMarking (applyPatternBoost env config db request) := by
  unfold applyPatternBoost
  cases request.vector with
  | none => exact .id
  | some queryVector =>
    dsimp only
    split
    · exact .id
    · exact .foldl (isMarking_boostBy env config queryVector) _

theorem isMarking_decayResult : IsMarking (decayResult env config db) :=
  ⟨fun _ => rfl, fun _ => rfl, fun _ _ => rfl⟩

def markCandidate (candidate : SearchResult) : SearchResult :=
  let hinted := if hasTunnels db then withTunnelHints config db candidate else candidate
  let weighed := applyPatternBoost env config db request (applyConsistentEffectiveImportance db hinted)
  if config.decay.mode = .none then weighed else decayResult env config db weighed

theorem isMarking_markCandidate : IsMarking (markCandidate env config db request) := by
  have hHinted : IsMarking fun candidate => if hasTunnels db then withTunnelHints config db candidate else candidate := by
    split
    · exact isMarking_withTunnelHints config db
    · exact .id
  have hWeighed := ((isMarking_applyPatternBoost env config db request).comp (isMarking_applyConsistent db)).comp hHinted
  unfold markCandidate
  dsimp only
  split
  · exact hWeighed
  · exact (isMarking_decayResult env config db).comp hWeighed

end Stages

/-- The same results in the same order, up to the content of tunnel hits. -/
def Alike (results' results : List SearchResult) : Prop :=
  results'.map SearchResult.withoutForeignContent = results.map SearchResult.withoutForeignContent

section Alike
variable (env : SearchEnv) (config : SearchConfig) (db : SearchDb) (request : SearchRequest)
  {results results' : List SearchResult}

theorem Alike.filter {keep : SearchResult → Bool} (hKeep : ∀ result content, keep (result.setContent content) = keep result)
    (h : Alike results' results) : Alike (results'.filter keep) (results.filter keep) := by
  refine map_filter (fun a b hSame => ?_) h
  rw [(SearchResult.eq_of_withoutForeignContent hSame).1, hKeep]

theorem Alike.insertionSort {order : SearchResult → SearchResult → Prop} [DecidableRel order]
    (hOrder : ∀ a b x y, order (a.setContent x) (b.setContent y) ↔ order a b) (h : Alike results' results) :
    Alike (results'.insertionSort order) (results.insertionSort order) := by
  refine map_insertionSort (fun a a' b b' ha hb => ?_) h
  rw [(SearchResult.eq_of_withoutForeignContent ha).1, (SearchResult.eq_of_withoutForeignContent hb).1, hOrder]

section
variable (h : Alike results' results)
include h

theorem Alike.retainWanted : Alike (retainWanted config request results') (retainWanted config request results) := by
  have hFilters : Alike (retainSearchFilters request.filters results') (retainSearchFilters request.filters results) := by
    unfold retainSearchFilters
    split
    · exact h
    · exact h.filter fun _ _ => rfl
  unfold Search.retainWanted
  split
  · exact hFilters.filter fun _ _ => rfl
  · exact hFilters

theorem Alike.retainCurrentlyValid :
    Alike (retainCurrentlyValidResults env db request results') (retainCurrentlyValidResults env db request results) := by
  unfold retainCurrentlyValidResults
  split
  · exact h
  · exact h.filter fun _ _ => rfl

theorem Alike.applyTemporalDecay :
    Alike (applyTemporalDecay env config db results') (applyTemporalDecay env config db results) := by
  unfold Search.applyTemporalDecay
  split
  · exact h
  · have hDecayed : Alike (results'.map (decayResult env config db)) (results.map (decayResult env config db)) :=
      map_map (isMarking_decayResult env config db).respects_content h
    exact hDecayed.insertionSort fun _ _ _ _ => Iff.rfl

theorem Alike.rerank : Alike (rerankByEffectiveImportance results') (rerankByEffectiveImportance results) :=
  h.insertionSort fun _ _ _ _ => Iff.rfl

end

theorem Alike.take (n : Nat) (h : Alike results' results) : Alike (results'.take n) (results.take n) := by
  rw [Alike, List.map_take, List.map_take, h]

end Alike

/-- The drawers that a search may retrieve, before the filters on their metadata. -/
def retrievable (request : SearchRequest) (row : SearchRow) : Bool :=
  filterClause request.mode request.route.wing request.route.room row.toDrawerRow

def FromProject (db : SearchDb) (request : SearchRequest) (result : SearchResult) : Prop :=
  ∃ row ∈ db.drawers.rows, retrievable request row = true ∧
    ∃ similarity, result = resultFromDrawer row .project similarity request.route

variable {rows : List SearchRow}

section Origin
variable {env : SearchEnv} {config : SearchConfig} {db : SearchDb} {p : String} {request : SearchRequest}
  {row : SearchRow} {topK : Nat} {results candidates : List SearchResult}

theorem getDrawer_of_filterClause {mode : ProjectFilterMode} {wing room : Option String} (hRow : row ∈ db.drawers.rows)
    (h : filterClause mode wing room row.toDrawerRow = true) : getDrawer db row.id = some row := by
  have hFind : findDrawer db row.id = some row := Table.find?_of_mem (t := db.drawers.toTable) hRow
  simp only [filterClause, Bool.and_eq_true] at h
  rw [getDrawer, hFind, Option.filter_some, if_pos h.1.1.1]

variable {result : SearchResult} {fanout : Fanout}

theorem fromProject_hydrate {similarity : ℚ} (hMode : request.mode = .project p) (hRow : row ∈ db.drawers.rows)
    (h : retrievable request row = true) (hResult : result = unhydrated request row similarity) :
    FromProject db request (hydrateResultMetadata db result) := by
  have hProject := project_of_filterClause hMode h
  refine ⟨row, hRow, h, similarity, ?_⟩
  subst hResult
  have hDrawer : getDrawer db (unhydrated request row similarity).drawerId = some row := getDrawer_of_filterClause hRow h
  have hSource : (unhydrated request row similarity).source = .project := by
    change classifyRow row.projectId = _
    rw [hProject]
    rfl
  simp only [hydrateResultMetadata, hDrawer, hSource]
  rfl

theorem fromProject_searchByVector {queryVector : Embedding} (hMode : request.mode = .project p)
    (h : searchByVectorWithFilters env db request queryVector topK = .ok results) :
    ∀ result ∈ results, FromProject db request result := by
  unfold searchByVectorWithFilters at h
  split at h
  · cases h
    exact fun _ hMem => absurd hMem List.not_mem_nil
  · split at h
    · unfold searchByVectorScopedExact at h
      split at h
      · cases h
      · split at h
        · cases h
        · cases hExact : (rankExactCandidates env db request queryVector topK).mapM (exactResult request) with
          | error e =>
            rw [hExact] at h
            cases h
          | ok found =>
            rw [hExact] at h
            cases h
            intro result hMem
            obtain ⟨bare, hBare, rfl⟩ := List.mem_map.mp hMem
            obtain ⟨ranked, hRanked, hResult⟩ := exists_of_mem_mapM hExact bare hBare
            obtain ⟨hRow, hClause⟩ := mem_rankExactCandidates hRanked
            unfold exactResult at hResult
            split at hResult <;> cases hResult
            exact fromProject_hydrate hMode hRow (Bool.and_eq_true_iff.mp hClause).1 rfl
    · unfold searchByVectorScopedKnn at h
      split at h
      · cases h
      · split at h
        · cases h
        · split at h
          · cases h
          · cases h
            intro result hMem
            obtain ⟨m, hMatch, rfl⟩ := List.mem_map.mp hMem
            obtain ⟨hRow, hClause⟩ := mem_knnMatches hMatch
            exact fromProject_hydrate hMode hRow hClause rfl

theorem FromProject.setScore (h : FromProject db request result) (similarity : ℚ) :
    FromProject db request (result.setScore similarity) := by
  obtain ⟨row, hRow, hClause, _, rfl⟩ := h
  exact ⟨row, hRow, hClause, similarity, rfl⟩

theorem fromProject_rrfMerge {vectorResults : List SearchResult} {ftsIds : List String}
    (hMode : request.mode = .project p) (hVector : ∀ result ∈ vectorResults, FromProject db request result)
    (hFts : ∀ id ∈ ftsIds, ∃ row ∈ db.drawers.rows, retrievable request row = true ∧ row.id = id) :
    ∀ result ∈ rrfMerge db request vectorResults ftsIds topK, FromProject db request result := by
  intro result hMem
  obtain ⟨rank, hRank, hLookup⟩ := List.mem_filterMap.mp (List.mem_of_mem_take hMem)
  obtain ⟨found, hFound, rfl⟩ := Option.map_eq_some_iff.mp hLookup
  suffices hFrom : FromProject db request found from hFrom.setScore rank.score
  cases hFind : vectorResults.find? fun result => result.drawerId = rank.id with
  | some vectorResult =>
    simp only [hFind, Option.some.injEq] at hFound
    exact hFound ▸ hVector _ (List.mem_of_find?_eq_some hFind)
  | none =>
    simp only [hFind] at hFound
    obtain ⟨row, hRow, rfl⟩ := Option.map_eq_some_iff.mp hFound
    obtain ⟨hFindRow, _⟩ := Option.filter_eq_some_iff.mp hRow
    obtain ⟨hRowMem, hRowId⟩ := Table.find?_eq_some_iff.mp hFindRow
    have hClause : retrievable request row = true := by
      have hId := mem_fuse hRank
      simp only [List.flatten_cons, List.flatten_nil, List.append_nil, List.mem_append] at hId
      rcases hId with hIn | hIn
      · obtain ⟨vectorResult, hResult, hEq⟩ := List.mem_map.mp hIn
        exact absurd hEq (by simpa using List.find?_eq_none.mp hFind vectorResult hResult)
      · obtain ⟨row', hRow', hClause', hId'⟩ := hFts _ hIn
        have hSame : row = row' :=
          Table.eq_of_key_eq (t := db.drawers.toTable) hRowMem hRow' (hRowId.trans hId'.symm)
        rw [hSame, hClause']
    exact ⟨row, hRowMem, hClause, 0, by rw [project_of_filterClause hMode hClause]; rfl⟩

theorem fromProject_searchCandidates (hMode : request.mode = .project p)
    (h : searchCandidates env config db request = .ok candidates) :
    ∀ candidate ∈ candidates, FromProject db request candidate := by
  have hIds {ftsIds : List String} {topK : Nat} (hFts : searchFtsFiltered env db request topK = .ok ftsIds) :
      ∀ id ∈ ftsIds, ∃ row ∈ db.drawers.rows, retrievable request row = true ∧ row.id = id := fun id hId =>
    (mem_searchFtsFiltered hFts hId).imp fun row h => ⟨h.1, (Bool.and_eq_true_iff.mp h.2.1).1, h.2.2⟩
  unfold searchCandidates at h
  cases hVector : request.vector with
  | none =>
    simp only [hVector] at h
    cases hFts : searchFtsFiltered env db request (candidateTopK config request) with
    | error e =>
      rw [hFts] at h
      cases h
    | ok ftsIds =>
      rw [hFts] at h
      cases h
      exact fromProject_rrfMerge hMode (fun _ hMem => absurd hMem List.not_mem_nil) (hIds hFts)
  | some queryVector =>
    simp only [hVector] at h
    cases hResults : searchByVectorWithFilters env db request queryVector (candidateTopK config request) with
    | error e =>
      rw [hResults] at h
      cases h
    | ok vectorResults =>
      cases hFts : searchFtsFiltered env db request (candidateTopK config request) with
      | error e =>
        rw [hResults, hFts] at h
        cases h
      | ok ftsIds =>
        rw [hResults, hFts] at h
        cases h
        split
        · exact fromProject_searchByVector hMode hResults
        · exact fromProject_rrfMerge hMode (fromProject_searchByVector hMode hResults) (hIds hFts)

theorem isTunnel_fanOut {left : Nat} (h : ∀ added ∈ fanout.added, added.isTunnel = true) :
    ∀ added ∈ (fanOut config result left fanout rows).added, added.isTunnel = true := by
  induction rows generalizing left fanout with
  | nil => cases left <;> exact h
  | cons row rows ih =>
    cases left with
    | zero => exact h
    | succ left =>
      rw [fanOut]
      split
      · exact ih h
      · refine ih fun added hAdded => ?_
        rcases List.mem_append.mp hAdded with hOld | hNew
        · exact h added hOld
        · rw [List.mem_singleton.mp hNew]
          rfl

theorem isTunnel_fanOutResult (h : ∀ added ∈ fanout.added, added.isTunnel = true) :
    ∀ added ∈ (fanOutResult config db request fanout result).added, added.isTunnel = true := by
  unfold fanOutResult
  split
  · exact h
  · split
    · exact h
    · exact isTunnel_fanOut h

theorem mem_injectTunnels
    (h : result ∈ injectTunnels config db request results) (hUnmarked : result.isTunnel = false) :
    ∃ given ∈ results, result = if hasTunnels db then withTunnelHints config db given else given := by
  have hFold (rest : List SearchResult) {fanout : Fanout} (hMarked : ∀ added ∈ fanout.added, added.isTunnel = true) :
      ∀ added ∈ (rest.foldl (fanOutResult config db request) fanout).added, added.isTunnel = true := by
    induction rest generalizing fanout with
    | nil => exact hMarked
    | cons next rest ih => exact ih (isTunnel_fanOutResult hMarked)
  unfold injectTunnels at h
  split at h
  · rename_i hTunnels
    rcases List.mem_append.mp h with hGiven | hAdded
    · obtain ⟨given, hMem, rfl⟩ := List.mem_map.mp hGiven
      exact ⟨given, hMem, by rw [if_pos hTunnels]⟩
    · have hMarked := hFold results (fun _ hNone => absurd hNone List.not_mem_nil) result hAdded
      rw [hMarked] at hUnmarked
      cases hUnmarked
  · rename_i hTunnels
    exact ⟨result, h, by rw [if_neg hTunnels]⟩

theorem mem_of_mem_retainWanted (h : result ∈ retainWanted config request results) : result ∈ results := by
  have hFilters {l : List SearchResult} (hMem : result ∈ retainSearchFilters request.filters l) : result ∈ l := by
    unfold retainSearchFilters at hMem
    split at hMem
    · exact hMem
    · exact List.mem_of_mem_filter hMem
  unfold retainWanted at h
  split at h
  · exact hFilters (List.mem_of_mem_filter h)
  · exact hFilters h

theorem mem_of_mem_retainCurrentlyValid
    (h : result ∈ retainCurrentlyValidResults env db request results) : result ∈ results := by
  unfold retainCurrentlyValidResults at h
  split at h
  · exact h
  · exact List.mem_of_mem_filter h

theorem mem_assemblePage
    (h : result ∈ assemblePage env config db request candidates) (hUnmarked : result.isTunnel = false) :
    ∃ candidate ∈ candidates, result = markCandidate env config db request candidate := by
  have hDecayed := (List.mem_insertionSort _).mp (List.mem_of_mem_take h)
  obtain ⟨weighed, hWeighed, hResult⟩ : ∃ weighed ∈ _, result =
      if config.decay.mode = .none then weighed else decayResult env config db weighed := by
    unfold applyTemporalDecay at hDecayed
    split at hDecayed
    · rename_i hMode
      exact ⟨result, hDecayed, by rw [if_pos hMode]⟩
    · rename_i hMode
      obtain ⟨weighed, hMem, rfl⟩ := List.mem_map.mp ((List.mem_insertionSort _).mp hDecayed)
      exact ⟨weighed, hMem, by rw [if_neg hMode]⟩
  obtain ⟨fresh, hFresh, rfl⟩ := List.mem_map.mp hWeighed
  obtain ⟨shown, hShown, rfl⟩ := List.mem_map.mp hFresh
  have hShownUnmarked : shown.isTunnel = false := by
    rw [← (isMarking_applyConsistent db).isTunnel, ← (isMarking_applyPatternBoost env config db request).isTunnel,
      ← hUnmarked, hResult]
    split
    · rfl
    · exact ((isMarking_decayResult env config db).isTunnel _).symm
  obtain ⟨candidate, hCandidate, rfl⟩ :=
    mem_injectTunnels (mem_of_mem_retainWanted (mem_of_mem_retainCurrentlyValid hShown)) hShownUnmarked
  exact ⟨candidate, mem_of_mem_retainWanted hCandidate, hResult⟩

end Origin

section Edited
variable {env : SearchEnv} {config : SearchConfig} {db : SearchDb} {p room : String} {request : SearchRequest}
  (edit : ForeignEdit db p) {fanout' fanout : Fanout}

theorem tunnelWings_edit : tunnelWings edit.result room = tunnelWings db room := by
  rw [tunnelWings, edit.select_result (fun _ _ => rfl) (fun _ _ => rfl)]
  rfl

theorem findTunnels_edit : findTunnels edit.result = findTunnels db := by
  funext room
  rw [findTunnels, tunnelWings_edit]
  rfl

theorem hasTunnels_edit : hasTunnels edit.result = hasTunnels db := by
  rw [hasTunnels, findTunnels_edit, edit.rows_result, List.any_map, edit.comp_apply fun _ _ => rfl]
  rfl

theorem withTunnelHints_edit : withTunnelHints config edit.result = withTunnelHints config db := by
  funext result
  rw [withTunnelHints, findTunnels_edit]
  rfl

theorem map_findDrawer_edit {β : Type*} {f : SearchRow → β} (hf : ∀ row content, f { row with content } = f row)
    (id : String) :
    (findDrawer edit.result id).map f = (findDrawer db id).map f := by
  rw [edit.findDrawer_result, Option.map_map, edit.comp_apply hf]

theorem applyConsistent_edit :
    applyConsistentEffectiveImportance edit.result = applyConsistentEffectiveImportance db := by
  funext result
  have hRow := map_findDrawer_edit edit (f := SearchRow.effectiveImportance) (fun _ _ => rfl) result.drawerId
  unfold applyConsistentEffectiveImportance
  rw [edit.findDrawer_result] at hRow ⊢
  cases hFind : findDrawer db result.drawerId with
  | none => rfl
  | some row =>
    rw [hFind] at hRow
    simp only [Option.map_some, Option.some.injEq] at hRow ⊢
    rw [hRow]

theorem decayResult_edit : decayResult env config edit.result = decayResult env config db := by
  funext result
  rw [decayResult, map_findDrawer_edit edit (fun _ _ => rfl)]
  rfl

theorem retainCurrentlyValid_edit (results : List SearchResult) :
    retainCurrentlyValidResults env edit.result request results = retainCurrentlyValidResults env db request results := by
  unfold retainCurrentlyValidResults
  split
  · rfl
  · apply List.filter_congr
    intro result _
    rw [edit.findDrawer_result]
    cases findDrawer db result.drawerId with
    | none => rfl
    | some row =>
      exact edit.read_apply (f := fun row => validityWindowContainsAt env row.validFrom row.validUntil) (fun _ _ => rfl) row

theorem tunnelDrawersForRoom_edit {projectId : Option String} {limit : Nat} (id : String) :
    tunnelDrawersForRoom edit.result room id projectId limit =
      (tunnelDrawersForRoom db room id projectId limit).map edit.apply := by
  cases projectId with
  | none => rfl
  | some projectId =>
    have hOrder (a b : SearchRow) : recentOrder a b ↔ recentOrder (edit.apply a) (edit.apply b) := by
      rw [recentOrder, recentOrder, edit.read_apply (f := fun row => row.addedAt) fun _ _ => rfl,
        edit.read_apply (f := fun row => row.addedAt) fun _ _ => rfl,
        edit.read_apply (f := fun row => row.id) fun _ _ => rfl,
        edit.read_apply (f := fun row => row.id) fun _ _ => rfl]
    rw [tunnelDrawersForRoom, edit.rows_result, List.filter_map, edit.comp_apply fun _ _ => rfl,
      ← List.map_insertionSort recentOrder recentOrder edit.apply _ fun a _ b _ => hOrder a b, ← List.map_take]
    rfl

structure Fanout.LooksLike (fanout' fanout : Fanout) : Prop where
  seenIds : fanout'.seenIds = fanout.seenIds
  added : Alike fanout'.added fanout.added

theorem tunnelResult_edit (result : SearchResult) (row : SearchRow) :
    (tunnelResult config result (edit.apply row)).withoutForeignContent =
      (tunnelResult config result row).withoutForeignContent := by
  rw [edit.apply_eq]
  rfl

theorem fanOut_edit (result : SearchResult) (left : Nat) (h : fanout'.LooksLike fanout) :
    (fanOut config result left fanout' (rows.map edit.apply)).LooksLike (fanOut config result left fanout rows) := by
  induction rows generalizing left fanout' fanout with
  | nil => cases left <;> exact h
  | cons row rows ih =>
    cases left with
    | zero => exact h
    | succ left =>
      have hId : (edit.apply row).id = row.id := edit.read_apply (f := fun row => row.id) (fun _ _ => rfl) row
      rw [List.map_cons, fanOut, fanOut, hId, h.seenIds]
      split
      · exact ih _ h
      · refine ih _ ⟨rfl, ?_⟩
        rw [Alike, List.map_append, List.map_append, h.added, List.map_singleton, List.map_singleton, tunnelResult_edit]

theorem fanOutResult_edit (result : SearchResult) (h : fanout'.LooksLike fanout) :
    (fanOutResult config edit.result request fanout' result).LooksLike
      (fanOutResult config db request fanout result) := by
  unfold fanOutResult
  cases result.room with
  | none => exact h
  | some room =>
    dsimp only
    split
    · exact h
    · rw [tunnelDrawersForRoom_edit]
      exact fanOut_edit edit result _ h

theorem injectTunnels_edit (config : SearchConfig) (request : SearchRequest) (results : List SearchResult) :
    Alike (injectTunnels config edit.result request results) (injectTunnels config db request results) := by
  have hFold (rest : List SearchResult) {fanout' fanout : Fanout} (h : fanout'.LooksLike fanout) :
      (rest.foldl (fanOutResult config edit.result request) fanout').LooksLike
        (rest.foldl (fanOutResult config db request) fanout) := by
    induction rest generalizing fanout' fanout with
    | nil => exact h
    | cons result rest ih => exact ih (fanOutResult_edit edit result h)
  unfold injectTunnels
  rw [hasTunnels_edit, withTunnelHints_edit]
  split
  · rw [Alike, List.map_append, List.map_append, (hFold results ⟨rfl, rfl⟩).added]
  · rfl

theorem applyTemporalDecay_edit (results : List SearchResult) :
    applyTemporalDecay env config edit.result results = applyTemporalDecay env config db results := by
  rw [applyTemporalDecay, decayResult_edit]
  rfl

theorem assemblePage_edit (candidates : List SearchResult) :
    Alike (assemblePage env config edit.result request candidates) (assemblePage env config db request candidates) := by
  have hTunnelled : Alike _ _ := injectTunnels_edit edit config request (retainWanted config request candidates)
  have hValid := (hTunnelled.retainWanted config request).retainCurrentlyValid env db request
  have hWeighed : Alike _ _ := map_map (isMarking_applyPatternBoost env config db request).respects_content
    (map_map (isMarking_applyConsistent db).respects_content hValid)
  unfold assemblePage
  dsimp only
  rw [retainCurrentlyValid_edit, applyConsistent_edit, applyTemporalDecay_edit]
  exact ((hWeighed.applyTemporalDecay env config db).rerank).take request.topK

end Edited

end Mempal.Search

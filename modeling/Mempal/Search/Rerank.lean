import Mempal.Search.Basic
import Mempal.Settings.Basic

set_option autoImplicit false

/-! The optional reranker sees the first `top_k` results. Its answer orders the ones it scored and leaves the others
behind them. -/

namespace Mempal.Search

open Settings Foundation

structure RerankItem where
  index : Nat
  score : Option FloatValue

structure RerankResponse where
  results : List RerankItem
  data : List RerankItem

inductive RerankError (ε : Type) where
  | call (error : ε)
  | invalidResponse (reason : String)

structure RerankOutcome (ε : Type) where
  results : List SearchResult
  warnings : List (RerankError ε)

def RerankResponse.items (response : RerankResponse) : List RerankItem :=
  if response.results = [] then response.data else response.results

def RerankItem.ranked (len : Nat) (item : RerankItem) : Option (Nat × ℚ) :=
  match item.score with
  | some (.finite score) => if item.index < len then some (item.index, score) else none
  | _ => none

def ranksBefore (a b : Nat × ℚ) : Bool := b.2 < a.2 || a.2 = b.2 && a.1 ≤ b.1

def pushUnseen (ordered : List Nat) (index : Nat) : List Nat :=
  if index ∈ ordered then ordered else ordered ++ [index]

variable {ε : Type}

def reorderIndices (len : Nat) (items : List RerankItem) : Except (RerankError ε) (List Nat) :=
  let ranked := (items.filterMap (RerankItem.ranked len)).mergeSort ranksBefore
  if items = [] then .error (.invalidResponse "missing results or data array")
  else if ranked = [] then .error (.invalidResponse "no valid scored candidate indices")
  else .ok ((List.range len).foldl pushUnseen ((ranked.map Prod.fst).foldl pushUnseen []))

/-- The endpoint with its model: a query and documents give a decoded response or an error of the call. -/
abbrev Endpoint (ε : Type) : Type := String → List String → Except ε RerankResponse

def tryRerankIndices (endpoint : Endpoint ε) (query : String) (documents : List String) :
    Except (RerankError ε) (List Nat) :=
  if documents.length ≤ 1 then .ok (List.range documents.length)
  else
    match endpoint query documents with
    | .error error => .error (.call error)
    | .ok response => reorderIndices documents.length response.items

def tryRerank (endpoint : Endpoint ε) (query : String) (results : List SearchResult) :
    Except (RerankError ε) (List SearchResult) :=
  (tryRerankIndices endpoint query (results.map (·.content))).map fun order => order.filterMap (results[·]?)

def maybeRerank (config : SearchRerankerConfig) (reranker : Except ε (Endpoint ε)) (query : String)
    (results : List SearchResult) : RerankOutcome ε :=
  if !config.enabled || results.length ≤ 1 then ⟨results, []⟩
  else
    let candidates := results.take config.topK
    let tail := results.drop config.topK
    match reranker with
    | .error error => ⟨candidates ++ tail, [.call error]⟩
    | .ok endpoint =>
      match tryRerank endpoint query candidates with
      | .error error => ⟨candidates ++ tail, [error]⟩
      | .ok reranked => ⟨reranked ++ tail, []⟩

/-- Some item gives one of the candidates a finite score. -/
def RerankResponse.Scores (response : RerankResponse) (len : Nat) : Prop :=
  ∃ item ∈ response.items, (item.ranked len).isSome = true

/-- Every index with its valid scores, and with the score below all others that an unscored index has. -/
def scores (len : Nat) (items : List RerankItem) : List (Nat × WithBot ℚ) :=
  (items.filterMap (RerankItem.ranked len)).map (Prod.map id WithBot.some) ++ (List.range len).map (·, ⊥)

def Precedes (a b : Nat × WithBot ℚ) : Prop := b.2 < a.2 ∨ b.2 = a.2 ∧ a.1 ≤ b.1

/-- A score of `i` is above every score of `j`, or as high and `i` comes first. -/
def Outranks (scored : List (Nat × WithBot ℚ)) (i j : Nat) : Prop :=
  ∃ score, (i, score) ∈ scored ∧ ∀ other, (j, other) ∈ scored → other < score ∨ other = score ∧ i < j

variable {scored : List (Nat × WithBot ℚ)} {best : Nat × WithBot ℚ} {i j len : Nat} {seen order : List Nat}

theorem Outranks.cons (h : Outranks scored i j) (hj : j ≠ best.1) : Outranks (best :: scored) i j := by
  obtain ⟨score, hScore, hOthers⟩ := h
  refine ⟨score, List.mem_cons_of_mem _ hScore, fun other hOther => hOthers other ?_⟩
  rcases List.mem_cons.mp hOther with rfl | hOther
  · exact absurd rfl hj
  · exact hOther

theorem outranks_best (h : ∀ b ∈ scored, Precedes best b) (hj : j ≠ best.1) :
    Outranks (best :: scored) best.1 j := by
  refine ⟨best.2, List.mem_cons_self, fun other hOther => ?_⟩
  rcases List.mem_cons.mp hOther with rfl | hOther
  · exact absurd rfl hj
  · exact (h _ hOther).imp_right fun ⟨hScore, hIndex⟩ => ⟨hScore, lt_of_le_of_ne hIndex (Ne.symm hj)⟩

theorem foldl_pushUnseen (h : scored.Pairwise Precedes) :
    ∃ order, (scored.map Prod.fst).foldl pushUnseen seen = seen ++ order ∧ order.Nodup ∧
      (∀ i, i ∈ order ↔ i ∉ seen ∧ i ∈ scored.map Prod.fst) ∧ order.Pairwise (Outranks scored) := by
  induction scored generalizing seen with
  | nil => exact ⟨[], by simp, List.nodup_nil, by simp, List.Pairwise.nil⟩
  | cons best scored ih =>
    obtain ⟨hBest, hScored⟩ := List.pairwise_cons.mp h
    have hPushed : best.1 ∈ pushUnseen seen best.1 := by
      rw [pushUnseen]
      split_ifs with hSeen
      · exact hSeen
      · exact List.mem_append_right _ List.mem_cons_self
    obtain ⟨order, hFold, hNodup, hMem, hOrder⟩ := @ih (pushUnseen seen best.1) hScored
    have hNe : ∀ i ∈ order, i ≠ best.1 := by
      rintro i hi rfl
      exact ((hMem _).mp hi).1 hPushed
    have hOutranks : order.Pairwise (Outranks (best :: scored)) :=
      hOrder.imp_of_mem fun _ hj hOut => hOut.cons (hNe _ hj)
    rw [List.map_cons, List.foldl_cons, hFold]
    by_cases hSeen : best.1 ∈ seen
    · simp only [pushUnseen, if_pos hSeen] at hMem ⊢
      refine ⟨order, rfl, hNodup, fun i => ?_, hOutranks⟩
      rw [hMem, List.mem_cons]
      exact and_congr_right fun hi => (or_iff_right (ne_of_mem_of_not_mem hSeen hi).symm).symm
    · simp only [pushUnseen, if_neg hSeen] at hMem ⊢
      refine ⟨best.1 :: order, by simp, List.nodup_cons.mpr ⟨fun hi => hNe _ hi rfl, hNodup⟩, fun i => ?_, ?_⟩
      · by_cases hi : i = best.1
        · simp [hi, hSeen]
        · simp [hMem, hi]
      · exact List.pairwise_cons.mpr ⟨fun j hj => outranks_best hBest (hNe j hj), hOutranks⟩

theorem pairwise_ranked (ranked : List (Nat × ℚ)) :
    (ranked.mergeSort ranksBefore).Pairwise fun a b => b.2 < a.2 ∨ a.2 = b.2 ∧ a.1 ≤ b.1 := by
  have hSorted : (ranked.mergeSort ranksBefore).Pairwise fun a b => ranksBefore a b = true := by
    apply List.pairwise_mergeSort
    · intro a b c
      simp only [ranksBefore, Bool.or_eq_true, Bool.and_eq_true, decide_eq_true_eq]
      grind
    · intro a b
      simp only [ranksBefore, Bool.or_eq_true, Bool.and_eq_true, decide_eq_true_eq]
      grind
  simpa [ranksBefore] using hSorted

theorem RerankItem.ranked_lt {item : RerankItem} {p : Nat × ℚ} (h : item.ranked len = some p) : p.1 < len := by
  rw [RerankItem.ranked] at h
  split at h
  · obtain ⟨hIndex, hp⟩ := Option.ite_none_right_eq_some.mp h
    exact Option.some.inj hp ▸ hIndex
  · cases h

theorem reorderIndices_ok {items : List RerankItem}
    (h : (reorderIndices len items : Except (RerankError ε) _) = .ok order) :
    order.Perm (List.range len) ∧ order.Pairwise (Outranks (scores len items)) := by
  simp only [reorderIndices, ite_error_eq_ok_iff, Except.ok.injEq] at h
  obtain ⟨_, _, hOrder⟩ := h
  have hMem : ∀ p, p ∈ (items.filterMap (RerankItem.ranked len)).mergeSort ranksBefore ↔
      p ∈ items.filterMap (RerankItem.ranked len) := fun p => List.mem_mergeSort
  have hRanked := pairwise_ranked (items.filterMap (RerankItem.ranked len))
  generalize List.mergeSort _ _ = ranked at hOrder hMem hRanked
  have hScored : (ranked.map (Prod.map id WithBot.some) ++ (List.range len).map (·, ⊥)).Pairwise Precedes := by
    refine List.pairwise_append.mpr ⟨List.pairwise_map.mpr (hRanked.imp ?_), ?_, ?_⟩
    · exact fun h => h.imp WithBot.coe_lt_coe.mpr fun ⟨hScore, hIndex⟩ => ⟨congrArg WithBot.some hScore.symm, hIndex⟩
    · exact List.pairwise_map.mpr (List.pairwise_lt_range.imp fun hLt => Or.inr ⟨rfl, hLt.le⟩)
    · rintro _ ha _ hb
      obtain ⟨a, _, rfl⟩ := List.mem_map.mp ha
      obtain ⟨b, _, rfl⟩ := List.mem_map.mp hb
      exact Or.inl (WithBot.bot_lt_coe _)
  obtain ⟨order', hFold, hNodup, hIndices, hOutranks⟩ := @foldl_pushUnseen _ [] hScored
  obtain rfl : order' = order := by
    rw [← hOrder]
    simpa [List.foldl_append, Function.comp_def] using hFold.symm
  constructor
  · refine (List.perm_ext_iff_of_nodup hNodup List.nodup_range).mpr fun i => (hIndices i).trans ?_
    simp only [List.not_mem_nil, not_false_eq_true, true_and, List.map_append, List.map_map, List.mem_append]
    refine (or_iff_right_of_imp fun hi => ?_).trans (by simp)
    obtain ⟨p, hp, rfl⟩ := List.mem_map.mp hi
    obtain ⟨item, _, hItem⟩ := List.mem_filterMap.mp ((hMem p).mp hp)
    simpa using RerankItem.ranked_lt hItem
  · refine hOutranks.imp fun hOut => ?_
    simpa [Outranks, scores, hMem] using hOut

theorem reorderIndices_accepts (len : Nat) (response : RerankResponse) :
    (∃ order, (reorderIndices len response.items : Except (RerankError ε) _) = .ok order) ↔ response.Scores len := by
  have hSorted : (response.items.filterMap (RerankItem.ranked len)).mergeSort ranksBefore = [] ↔
      ∀ item ∈ response.items, item.ranked len = none := by
    rw [← List.length_eq_zero_iff, List.length_mergeSort, List.length_eq_zero_iff, List.filterMap_eq_nil_iff]
  simp only [reorderIndices, ite_error_eq_ok_iff, Except.ok.injEq, exists_and_left, exists_eq', and_true, hSorted]
  constructor
  · rintro ⟨_, hSome⟩
    simpa [RerankResponse.Scores, Option.isSome_iff_ne_none] using hSome
  · rintro ⟨item, hItem, hRanked⟩
    refine ⟨List.ne_nil_of_mem hItem, fun hNone => ?_⟩
    rw [hNone item hItem] at hRanked
    cases hRanked

theorem filterMap_range {α : Type} (l : List α) : (List.range l.length).filterMap (l[·]?) = l := by
  induction l with
  | nil => rfl
  | cons a l ih =>
    rw [List.length_cons, List.range_succ_eq_map, List.filterMap_cons]
    simpa [List.filterMap_map, Function.comp_def] using ih

theorem pairwise_range_of_le_one (R : Nat → Nat → Prop) (h : len ≤ 1) : (List.range len).Pairwise R := by
  interval_cases len
  · exact List.Pairwise.nil
  · exact List.pairwise_singleton R 0

theorem tryRerank_ok {endpoint : Endpoint ε} {query : String} {results reranked : List SearchResult}
    (h : tryRerank endpoint query results = .ok reranked) :
    ∃ order : List Nat, reranked = order.filterMap (results[·]?) ∧ order.Perm (List.range results.length) ∧
      ∀ response, endpoint query (results.map (·.content)) = .ok response →
        order.Pairwise (Outranks (scores results.length response.items)) := by
  obtain ⟨order, hOrder, rfl⟩ := map_eq_ok_iff.mp h
  refine ⟨order, rfl, ?_⟩
  simp only [tryRerankIndices, List.length_map] at hOrder
  split_ifs at hOrder with hFew
  · obtain rfl := Except.ok.inj hOrder
    exact ⟨List.Perm.refl _, fun _ _ => pairwise_range_of_le_one _ hFew⟩
  · split at hOrder
    · cases hOrder
    · rename_i response hResponse
      obtain ⟨hPerm, hOutranks⟩ := reorderIndices_ok hOrder
      refine ⟨hPerm, fun response' hResponse' => ?_⟩
      obtain rfl := Except.ok.inj (hResponse.symm.trans hResponse')
      exact hOutranks

theorem tryRerank_accepts (endpoint : Endpoint ε) (query : String) (results : List SearchResult) :
    (∃ reranked, tryRerank endpoint query results = .ok reranked) ↔ results.length ≤ 1 ∨
      ∃ response, endpoint query (results.map (·.content)) = .ok response ∧ response.Scores results.length := by
  have hMap : (∃ reranked, tryRerank endpoint query results = .ok reranked) ↔
      ∃ order, tryRerankIndices endpoint query (results.map (·.content)) = .ok order := by
    simp only [tryRerank, map_eq_ok_iff]
    exact ⟨fun ⟨_, order, hOrder, _⟩ => ⟨order, hOrder⟩, fun ⟨order, hOrder⟩ => ⟨_, order, hOrder, rfl⟩⟩
  rw [hMap, tryRerankIndices, List.length_map]
  split_ifs with hFew
  · exact iff_of_true ⟨_, rfl⟩ (.inl hFew)
  · cases hResponse : endpoint query (results.map (·.content)) with
    | error error => simp [hFew]
    | ok response =>
      simp only [reorderIndices_accepts, hFew, false_or, Except.ok.injEq, exists_eq_left']

/-- The first `top_k` results are permuted, the best score first, and an error leaves them as they were; there is
none if the endpoint has scored one of them. -/
theorem maybeRerank_permutes_head (config : SearchRerankerConfig) (reranker : Except ε (Endpoint ε)) (query : String)
    (results : List SearchResult) :
    let outcome := maybeRerank config reranker query results
    let candidates := results.take config.topK
    ∃ head, ∃ order : List Nat, outcome.results = head ++ results.drop config.topK ∧ head.Perm candidates ∧
      head = order.filterMap (candidates[·]?) ∧ order.Perm (List.range candidates.length) ∧
      (outcome.warnings ≠ [] → head = candidates) ∧
      (outcome.warnings = [] ↔ config.enabled = false ∨ results.length ≤ 1 ∨ ∃ endpoint, reranker = .ok endpoint ∧
        (candidates.length ≤ 1 ∨ ∃ response, endpoint query (candidates.map (·.content)) = .ok response ∧
          response.Scores candidates.length)) ∧
      ∀ endpoint response, config.enabled = true → reranker = .ok endpoint →
        endpoint query (candidates.map (·.content)) = .ok response → response.Scores candidates.length →
        order.Pairwise (Outranks (scores candidates.length response.items)) := by
  intro outcome candidates
  have hWhole : results = candidates ++ results.drop config.topK := (List.take_append_drop _ _).symm
  have hSame : candidates = (List.range candidates.length).filterMap (candidates[·]?) := (filterMap_range _).symm
  simp only [outcome, maybeRerank]
  split_ifs with hSkip
  · have hPlain : config.enabled = false ∨ results.length ≤ 1 := by simpa using hSkip
    refine ⟨_, _, hWhole, .refl _, hSame, .refl _, fun _ => rfl,
      iff_of_true rfl (or_assoc.mp (.inl hPlain)), fun _ response hEnabled _ _ _ => ?_⟩
    have hFew : results.length ≤ 1 := hPlain.resolve_left (by simp [hEnabled])
    exact pairwise_range_of_le_one _ ((List.length_take_le' _ _).trans hFew)
  · have hAsked : ¬ config.enabled = false ∧ ¬ results.length ≤ 1 := by simpa using hSkip
    simp only [hAsked.1, hAsked.2, false_or]
    cases reranker with
    | error error =>
      exact ⟨_, _, rfl, .refl _, hSame, .refl _, fun _ => rfl, by simp, fun _ _ _ hOk => by cases hOk⟩
    | ok endpoint =>
      simp only [Except.ok.injEq, exists_eq_left', ← tryRerank_accepts]
      cases hTry : tryRerank endpoint query candidates with
      | error error =>
        refine ⟨_, _, rfl, .refl _, hSame, .refl _, fun _ => rfl, by simp, ?_⟩
        rintro _ response _ rfl hResponse hScores
        obtain ⟨_, hOk⟩ := (tryRerank_accepts endpoint query candidates).mpr (.inr ⟨response, hResponse, hScores⟩)
        cases hTry.symm.trans hOk
      | ok reranked =>
        obtain ⟨order, rfl, hPerm, hOutranks⟩ := tryRerank_ok hTry
        have hHead := hPerm.filterMap (candidates[·]?)
        rw [← hSame] at hHead
        refine ⟨_, order, rfl, hHead, rfl, hPerm, fun h => absurd rfl h, by simp, ?_⟩
        rintro _ response _ rfl hResponse _
        exact hOutranks response hResponse

end Mempal.Search

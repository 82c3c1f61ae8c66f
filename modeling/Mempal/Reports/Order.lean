import Mempal.Foundation.Ranking
import Mempal.Reports.Basic

set_option autoImplicit false

/-! The reports list the most important and newest drawers as far as the texts of `added_at` sort like the instants. -/

namespace Mempal.Reports

open Foundation.Ranking Drawers Search

def Newer (a b : SearchRow) : Prop :=
  ∃ s ∈ parseAddedAt b.addedAt, ∃ t ∈ parseAddedAt a.addedAt, s < t

def Precedes (a b : SearchRow) : Prop := b.importance < a.importance ∨ a.importance = b.importance ∧ Newer a b

def matching (db : SearchDb) (scope : ProjectFilterMode) (isIn : SearchRow → Bool) : List SearchRow :=
  db.drawers.rows.filter fun row => row.isActive && scope.accepts row.projectId && isIn row

/-- Of equally important drawers the newer one has the greater text. -/
def SortedAsText (candidates : List SearchRow) : Prop :=
  ∀ a ∈ candidates, ∀ b ∈ candidates, a.importance = b.importance → Newer b a → a.addedAt < b.addedAt

theorem not_newer_self (a : SearchRow) : ¬Newer a a := by
  rintro ⟨s, hs, t, ht, hLt⟩
  rw [Option.mem_unique hs ht] at hLt
  exact hLt.false

theorem rank_le_iff {b a : SearchRow} : rank b ≤ rank a ↔ b.importance < a.importance ∨
    b.importance = a.importance ∧ (b.addedAt < a.addedAt ∨ b.addedAt = a.addedAt ∧ b.id ≤ a.id) := by
  simp only [rank, Prod.Lex.toLex_le_toLex]

variable {candidates : List SearchRow}

theorem sortedAsText_iff :
    SortedAsText candidates ↔ ∀ a ∈ candidates, ∀ b ∈ candidates, rank b ≤ rank a → ¬Precedes b a := by
  constructor
  · intro h a ha b hb hRank hPrecedes
    rw [rank_le_iff] at hRank
    rcases hPrecedes with hMore | ⟨hSame, hNewer⟩
    · omega
    · have hText := h a ha b hb hSame.symm hNewer
      rcases hRank with hLess | ⟨_, hLt | ⟨hEq, _⟩⟩
      · omega
      · exact hText.not_gt hLt
      · exact hText.ne hEq.symm
  · intro h a ha b hb hSame hNewer
    rcases lt_trichotomy a.addedAt b.addedAt with hLt | hEq | hGt
    · exact hLt
    · have hOld := not_newer_self a
      rw [Newer] at hNewer hOld
      rw [← hEq] at hNewer
      exact absurd hNewer hOld
    · exact absurd (Or.inr ⟨hSame.symm, hNewer⟩) (h a ha b hb (rank_le_iff.mpr (Or.inr ⟨hSame.symm, Or.inl hGt⟩)))

/-- Instants written in a form that is read back and sorts like them. -/
theorem sortedAsText_of_written {write : Nat → String} {fits : Nat → Prop}
    (hRead : ∀ n, fits n → parseAddedAt (write n) = some (n : Int))
    (hLt : ∀ n m, fits n → fits m → n < m → write n < write m)
    (h : ∀ row ∈ candidates, ∃ n, fits n ∧ row.addedAt = write n) : SortedAsText candidates := by
  rintro a ha b hb - ⟨s, hs, t, ht, hEarlier⟩
  obtain ⟨n, hn, hA⟩ := h a ha
  obtain ⟨m, hm, hB⟩ := h b hb
  rw [hA, hRead n hn] at hs
  rw [hB, hRead m hm] at ht
  cases hs
  cases ht
  rw [hA, hB]
  exact hLt n m hn hm (Int.ofNat_lt.mp hEarlier)

theorem parseAddedAt_formatRfc3339 {t : Nat} (h : t * 1000 ≤ sqliteDateLimit) :
    parseAddedAt (formatRfc3339 (t * 1000)) = some (t : Int) := by
  have hColon : ':' ∈ (formatRfc3339 (t * 1000)).toList := by
    rw [formatRfc3339_toList, stamp]
    simp
  have hNumber : Since.parseI64 (formatRfc3339 (t * 1000)).toList = none := by
    cases hSigned : parseSigned (formatRfc3339 (t * 1000)).toList with
    | none => rw [Since.parseI64, hSigned]; rfl
    | some n =>
      exact absurd (Since.isDigit_or_sign_of_parseSigned (by rw [hSigned]; rfl) ':' hColon) (by decide)
  rw [parseAddedAt, Since.parseAbsoluteTimestamp, hNumber, parseRfc3339_formatRfc3339 h,
    Nat.mul_div_cancel _ (by decide)]
  rfl

theorem parseAddedAt_padZero {width n : Nat} (hWidth : 0 < width) (hShort : width ≤ 18) (hFits : n < 10 ^ width) :
    parseAddedAt (padZero width n) = some (n : Int) := by
  have hBound : n < 10 ^ 18 := hFits.trans_le (Nat.pow_le_pow_right (by decide) hShort)
  have hNumber : Since.parseI64 (padZero width n).toList = some (n : Int) := by
    rw [Since.parseI64, padZero_toList, parseSigned_padded hWidth hFits]
    exact Option.filter_some_pos (decide_eq_true ⟨by omega, by omega⟩)
  rw [parseAddedAt, Since.parseAbsoluteTimestamp, hNumber]
  rfl

/-- Texts in UTC up to the year 9999. -/
def UtcTexts (candidates : List SearchRow) : Prop :=
  ∀ row ∈ candidates, ∃ t, t * 1000 ≤ sqliteDateLimit ∧ row.addedAt = formatRfc3339 (t * 1000)

/-- Unix seconds of one length. -/
def SecondsTexts (candidates : List SearchRow) : Prop :=
  ∃ width, 0 < width ∧ width ≤ 18 ∧ ∀ row ∈ candidates, ∃ n, n < 10 ^ width ∧ row.addedAt = padZero width n

theorem UtcTexts.sorted (h : UtcTexts candidates) : SortedAsText candidates := by
  refine sortedAsText_of_written (fun t hFits => parseAddedAt_formatRfc3339 hFits) (fun t u ht hu hLt => ?_) h
  rw [String.lt_iff, formatRfc3339_toList, formatRfc3339_toList]
  exact (secsStamp_lt_iff (div_le_lastDay ht) (div_le_lastDay hu)).mpr (Or.inl (by omega))

theorem SecondsTexts.sorted (h : SecondsTexts candidates) : SortedAsText candidates := by
  obtain ⟨width, hWidth, hShort, hRows⟩ := h
  refine sortedAsText_of_written (fun n hFits => parseAddedAt_padZero hWidth hShort hFits) (fun n m hn hm hLt => ?_) hRows
  rw [String.lt_iff]
  have hAppended := (padZero_append_lt_iff (s := []) (t := []) hWidth hn hm).mpr (Or.inl hLt)
  rwa [List.append_nil, List.append_nil] at hAppended

section
variable (db : SearchDb) (scope : ProjectFilterMode) (isIn : SearchRow → Bool)

theorem perm_matching : ((queryScopedRows db scope).filter isIn).Perm (matching db scope isIn) := by
  have h := (List.perm_insertionSort (fun a b => rank b ≤ rank a)
    (db.drawers.rows.filter fun row => row.isActive && scope.accepts row.projectId)).filter isIn
  rw [List.filter_filter] at h
  simpa only [matching, queryScopedRows, Bool.and_comm (isIn _)] using h

theorem forall_lists_matching_iff {ι : Type} {listed : ι → List String}
    (hPrefix : ∀ i, listed i <+: ((queryScopedRows db scope).filter isIn).map (·.id))
    (hAll : ∃ i, listed i = ((queryScopedRows db scope).filter isIn).map (·.id)) :
    (∀ i, ListsFirst Precedes (·.id) (matching db scope isIn) (listed i)) ↔
      SortedAsText (matching db scope isIn) := by
  have : Std.Total fun a b : SearchRow => rank b ≤ rank a := ⟨fun a b => le_total (rank b) (rank a)⟩
  have : IsTrans SearchRow fun a b => rank b ≤ rank a := ⟨fun _ _ _ hab hbc => hbc.trans hab⟩
  have hSorted : (queryScopedRows db scope).Pairwise fun a b => rank b ≤ rank a := List.pairwise_insertionSort _ _
  have hKeys : ((matching db scope isIn).map (·.id)).Nodup := db.drawers.unique.sublist (List.filter_sublist.map _)
  rw [sortedAsText_iff]
  refine forall_listsFirst_iff (perm_matching db scope isIn) (hSorted.filter _) hKeys ?_ ?_ hPrefix hAll
  · intro a ha b hb hab hba
    exact List.inj_on_of_nodup_map hKeys ha hb (congrArg (fun r => (ofLex (ofLex r).2).2) (hba.antisymm hab))
  · rintro a (hLess | ⟨_, hNewer⟩)
    · omega
    · exact not_newer_self a hNewer

end

variable {tokenBudget used : Nat} {drawers : List PrimingDrawer} {rows : List SearchRow}

theorem fillBudget_prefix :
    (fillBudget tokenBudget used drawers rows).2.map (·.id) <+: drawers.map (·.id) ++ rows.map (·.id) := by
  fun_induction fillBudget with
  | case1 => simp
  | case2 used drawers row rows candidate hFits ih => simpa [candidate, buildDrawer] using ih
  | case3 used row rows candidate hFull fitted =>
    have hId : fitted.id = row.id := by
      simp only [fitted, fitDrawerToBudget]
      split <;> rfl
    simp [hId]
  | case4 => exact List.prefix_append _ _

theorem fillBudget_all
    (h : used + (rows.map fun row => estimateDrawerTokens (buildDrawer row primePreviewChars)).sum ≤ tokenBudget) :
    (fillBudget tokenBudget used drawers rows).2 = drawers ++ rows.map (buildDrawer · primePreviewChars) := by
  induction rows generalizing used drawers with
  | nil => simp [fillBudget]
  | cons row rows ih =>
    rw [List.map_cons, List.sum_cons] at h
    rw [fillBudget, if_pos (by omega), ih (by omega), List.map_cons, List.append_assoc, List.singleton_append]

section
variable (db : SearchDb) (request : TimelineQuery) (since untilCutoff : Int) (scope : ProjectFilterMode)
  (sinceCutoff : Option Int)

theorem timeline_ids : (buildTimelineReport db request since untilCutoff).entries.map (·.drawerId) =
    (((queryScopedRows db request.scope).filter (isInTimeline request since untilCutoff)).map (·.id)).take
      request.topK := by
  rw [← List.map_take, buildTimelineReport, List.map_map]
  rfl

theorem priming_ids_prefix (stats : Option PrimingStats) (tokenBudget : Nat) :
    (buildPrimingReport db scope sinceCutoff stats tokenBudget).drawers.map (·.id) <+:
      ((queryScopedRows db scope).filter (isPrimed sinceCutoff)).map (·.id) := by
  rw [buildPrimingReport, primingReport]
  split
  · exact List.nil_prefix
  · exact fillBudget_prefix

theorem exists_priming_ids_all : ∃ tokenBudget,
    (buildPrimingReport db scope sinceCutoff none tokenBudget).drawers.map (·.id) =
      ((queryScopedRows db scope).filter (isPrimed sinceCutoff)).map (·.id) := by
  simp only [buildPrimingReport]
  generalize (queryScopedRows db scope).filter (isPrimed sinceCutoff) = filtered
  refine ⟨baseTokens none +
    (filtered.map fun row => estimateDrawerTokens (buildDrawer row primePreviewChars)).sum, ?_⟩
  rw [primingReport]
  split
  · rename_i hNone
    rw [hNone]
    rfl
  · dsimp only
    rw [fillBudget_all le_rfl, List.nil_append, List.map_map]
    rfl

/-- The timeline and the priming report list the first drawers by importance and instant, whatever the limit and the
budget, exactly if the texts of their drawers sort like the instants. -/
theorem reports_list_first_iff :
    ((∀ topK, (buildTimelineReport db { request with topK } since untilCutoff).entries.length =
          min topK (matching db request.scope (isInTimeline request since untilCutoff)).length ∧
        ListsFirst Precedes (·.id) (matching db request.scope (isInTimeline request since untilCutoff))
          ((buildTimelineReport db { request with topK } since untilCutoff).entries.map (·.drawerId))) ↔
      SortedAsText (matching db request.scope (isInTimeline request since untilCutoff))) ∧
    ((∀ call : Option PrimingStats × Nat, ListsFirst Precedes (·.id) (matching db scope (isPrimed sinceCutoff))
        ((buildPrimingReport db scope sinceCutoff call.1 call.2).drawers.map (·.id))) ↔
      SortedAsText (matching db scope (isPrimed sinceCutoff))) ∧
    ∀ candidates : List SearchRow, UtcTexts candidates ∨ SecondsTexts candidates → SortedAsText candidates := by
  refine ⟨?_, ?_, fun candidates h => h.elim UtcTexts.sorted SecondsTexts.sorted⟩
  · let filtered := (queryScopedRows db request.scope).filter (isInTimeline request since untilCutoff)
    have hIds (topK : Nat) : (buildTimelineReport db { request with topK } since untilCutoff).entries.map
        (·.drawerId) = (filtered.map (·.id)).take topK := timeline_ids db { request with topK } since untilCutoff
    have hPrefix (topK : Nat) : (buildTimelineReport db { request with topK } since untilCutoff).entries.map
        (·.drawerId) <+: filtered.map (·.id) := hIds topK ▸ List.take_prefix _ _
    have hAll := (hIds (filtered.map (·.id)).length).trans (List.take_of_length_le le_rfl)
    rw [← forall_lists_matching_iff db request.scope (isInTimeline request since untilCutoff) hPrefix ⟨_, hAll⟩]
    refine forall_congr' fun topK => and_iff_right ?_
    have hLength := congrArg List.length (hIds topK)
    rwa [List.length_map, List.length_take, List.length_map, (perm_matching db _ _).length_eq] at hLength
  · obtain ⟨tokenBudget, hAll⟩ := exists_priming_ids_all db scope sinceCutoff
    exact forall_lists_matching_iff db scope (isPrimed sinceCutoff)
      (fun call => priming_ids_prefix db scope sinceCutoff call.1 call.2) ⟨(none, tokenBudget), hAll⟩

end

def datedRow (rowid : Nat) (id addedAt : String) : SearchRow := { chunkRow rowid id "text" "p" none with addedAt }

def mixedFormats : SearchDb where
  drawers := ⟨⟨[datedRow 1 "older" "2026-01-01T00:00:00Z", datedRow 2 "newer" "1800000000"], by decide⟩, by decide⟩
  index := []
  vectors := VectorTable.empty
  tunnels := []
  patterns := []

/-- The year 2026 sorts behind the Unix seconds of 2027. -/
theorem newer_drawer_left_out :
    (buildTimelineReport mixedFormats ⟨.all, 1, 0, none, none⟩ 0 1900000000).entries.map (·.drawerId) = ["older"] ∧
      datedRow 2 "newer" "1800000000" ∈
        matching mixedFormats .all (isInTimeline ⟨.all, 1, 0, none, none⟩ 0 1900000000) ∧
      Newer (datedRow 2 "newer" "1800000000") (datedRow 1 "older" "2026-01-01T00:00:00Z") := by
  refine ⟨by decide +kernel, by decide +kernel, 1767225600, ?_, 1800000000, ?_, by decide⟩ <;> decide +kernel

end Mempal.Reports

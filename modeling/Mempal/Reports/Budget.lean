import Mempal.Reports.Order

set_option autoImplicit false

/-! The tokens of a priming report. The preview of a first drawer that does not fit is cut to what is left, and an
ellipsis is added to it. -/

namespace Mempal.Reports

open Drawers Search

theorem foldl_push_spec {cut : Cut} {chars : List Char} (h : ∀ n ∈ cut.boundaryEnd, n ≤ cut.exactEnd) :
    (chars.foldl Cut.push cut).exactEnd = cut.exactEnd + chars.length ∧
      ∀ n ∈ (chars.foldl Cut.push cut).boundaryEnd, n ≤ cut.exactEnd + chars.length := by
  induction chars generalizing cut with
  | nil => exact ⟨rfl, h⟩
  | cons c chars ih =>
    have hPush : ∀ n ∈ (cut.push c).boundaryEnd, n ≤ (cut.push c).exactEnd := by
      intro n hn
      simp only [Cut.push] at hn ⊢
      split at hn
      · cases hn
        exact le_rfl
      · split at hn
        · cases hn
          exact Nat.le_succ _
        · exact (h n hn).trans (Nat.le_succ _)
    rw [List.foldl_cons, List.length_cons, Nat.add_comm chars.length, ← Nat.add_assoc]
    exact ih hPush

theorem length_keptChars_le (chars : List Char) (previewChars : Nat) :
    (keptChars chars previewChars).length ≤ previewChars := by
  have hTaken := List.length_take_le previewChars chars
  obtain ⟨hExact, hBoundary⟩ := @foldl_push_spec ⟨0, none, none⟩ (chars.take previewChars) (by rintro _ ⟨⟩)
  simp only [Nat.zero_add] at hExact hBoundary
  unfold keptChars
  dsimp only
  split
  · exact (List.length_take_le _ _).trans (hExact.trans_le hTaken)
  · refine ((List.rdropWhile_prefix _ _).length_le.trans (List.length_take_le _ _)).trans ?_
    cases hEnd : ((chars.take previewChars).foldl Cut.push ⟨0, none, none⟩).boundaryEnd with
    | none => exact hExact.trans_le hTaken
    | some n => exact (hBoundary n hEnd).trans hTaken

def fixedLength (row : SearchRow) : Nat := (buildDrawer row 0).fixed.toList.length

def previewLength (row : SearchRow) (previewChars : Nat) : Nat := (truncate row.content previewChars).1.toList.length

theorem previewLength_eq (row : SearchRow) (n : Nat) : previewLength row n =
    if row.content.toList.length ≤ n then row.content.toList.length
    else (keptChars row.content.toList n).length + 1 := by
  rw [previewLength, truncate]
  split
  · rfl
  · rw [String.toList_ofList, List.length_append, List.length_singleton]

theorem estimateDrawerTokens_buildDrawer (row : SearchRow) {n : Nat} (hn : n ≤ primePreviewChars) :
    estimateDrawerTokens (buildDrawer row n) = (fixedLength row + previewLength row n + 3) / 4 := by
  rw [estimateDrawerTokens, estimateTokens, String.toList_append, List.length_append, previewLength, fixedLength,
    buildDrawer, min_eq_left hn]
  rfl

/-- The first line does not fit, and its cut preview fills what is left to the last character. -/
def Overruns (stats : Option PrimingStats) (tokenBudget : Nat) (row : SearchRow) : Prop :=
  let left := 4 * (tokenBudget - baseTokens stats)
  left < fixedLength row + previewLength row primePreviewChars ∧ fixedLength row % 4 = 0 ∧
    left - fixedLength row ≤ primePreviewChars ∧
      (keptChars row.content.toList (left - fixedLength row)).length = left - fixedLength row

theorem fitted_fits_iff {row : SearchRow} {available : Nat} (hTwo : (fixedLength row + 2 + 3) / 4 ≤ available)
    (hFull : 4 * available < fixedLength row + previewLength row primePreviewChars) :
    estimateDrawerTokens (fitDrawerToBudget row available) ≤ available ↔
      ¬(fixedLength row % 4 = 0 ∧ 4 * available - fixedLength row ≤ primePreviewChars ∧
        (keptChars row.content.toList (4 * available - fixedLength row)).length = 4 * available - fixedLength row) := by
  have hFixed : estimateDrawerTokens { buildDrawer row primePreviewChars with preview := "" } =
      (fixedLength row + 3) / 4 := by
    rw [estimateDrawerTokens, estimateTokens, String.append_empty]
    rfl
  rw [fitDrawerToBudget]
  dsimp only
  rw [if_neg (by rw [estimateDrawerTokens_buildDrawer row le_rfl]; omega), hFixed]
  have hLimit : primePreviewChars = 120 := rfl
  generalize hn : max 1 (min primePreviewChars ((available - (fixedLength row + 3) / 4) * 4)) = n
  have hKept := length_keptChars_le row.content.toList n
  rw [estimateDrawerTokens_buildDrawer row (by omega), previewLength_eq]
  rw [previewLength_eq] at hFull
  rcases le_or_gt row.content.toList.length n with hShort | hLong
  · rw [if_pos (by omega)] at hFull
    omega
  rw [if_neg hLong.not_ge]
  generalize hLeft : 4 * available - fixedLength row = left
  rcases eq_or_ne n left with rfl | hNe
  · omega
  · constructor
    · omega
    · omega

theorem fillBudget_spec {tokenBudget used : Nat} {drawers : List PrimingDrawer} {rows : List SearchRow}
    (hSome : drawers ≠ []) (hUsed : used ≤ tokenBudget) :
    (fillBudget tokenBudget used drawers rows).1 ≤ tokenBudget ∧
      (fillBudget tokenBudget used drawers rows).1 + (drawers.map estimateDrawerTokens).sum =
        used + ((fillBudget tokenBudget used drawers rows).2.map estimateDrawerTokens).sum := by
  fun_induction fillBudget with
  | case1 => exact ⟨hUsed, rfl⟩
  | case2 used drawers row rows candidate hFits ih =>
    obtain ⟨hWithin, hSum⟩ := ih (by simp) hFits
    rw [List.map_append, List.sum_append, List.map_singleton, List.sum_singleton] at hSum
    exact ⟨hWithin, by omega⟩
  | case3 => exact absurd rfl hSome
  | case4 => exact ⟨hUsed, rfl⟩

theorem length_lt_iff_of_prefix {α : Type} {l l' : List α} (hPrefix : l <+: l') (hNodup : l'.Nodup) :
    l.length < l'.length ↔ ∃ x ∈ l', x ∉ l := by
  obtain ⟨rest, rfl⟩ := hPrefix
  cases rest with
  | nil => simp
  | cons x rest =>
    have hFresh : x ∉ l := fun hx => (List.nodup_append.mp hNodup).2.2 x hx x List.mem_cons_self rfl
    simp only [List.length_append, List.length_cons]
    exact ⟨fun _ => ⟨x, by simp, hFresh⟩, fun _ => by omega⟩

structure WithinBudget (db : SearchDb) (scope : ProjectFilterMode) (sinceCutoff : Option Int)
    (tokenBudget : Nat) (report : PrimingReport) : Prop where
  used : report.budgetUsedTokens = estimateTokens primeLegend + (report.stats.map estimateStatsTokens).getD 0 +
    (report.drawers.map estimateDrawerTokens).sum
  fits : report.budgetUsedTokens ≤ tokenBudget
  truncated : report.truncated = true ↔
    ∃ row ∈ matching db scope (isPrimed sinceCutoff), row.id ∉ report.drawers.map (·.id)

/-- A priming report keeps to its budget exactly if some drawer matches and the first one does not overrun it. -/
theorem priming_within_budget_iff (db : SearchDb) (scope : ProjectFilterMode) (sinceCutoff : Option Int)
    (stats : Option PrimingStats) (tokenBudget : Nat)
    (hBudget : ∀ row ∈ ((queryScopedRows db scope).filter (isPrimed sinceCutoff)).head?,
      baseTokens stats + (fixedLength row + 2 + 3) / 4 ≤ tokenBudget) :
    WithinBudget db scope sinceCutoff tokenBudget
        (buildPrimingReport db scope sinceCutoff stats tokenBudget) ↔
      ∃ row ∈ ((queryScopedRows db scope).filter (isPrimed sinceCutoff)).head?, ¬Overruns stats tokenBudget row := by
  have hPerm := perm_matching db scope (isPrimed sinceCutoff)
  have hPrefix := priming_ids_prefix db scope sinceCutoff stats tokenBudget
  have hNodup : ((matching db scope (isPrimed sinceCutoff)).map (·.id)).Nodup :=
    db.drawers.unique.sublist (List.filter_sublist.map _)
  rw [← (hPerm.map _).nodup_iff] at hNodup
  have hMissing := length_lt_iff_of_prefix hPrefix hNodup
  simp only [List.mem_map, exists_exists_and_eq_and, hPerm.mem_iff] at hMissing
  rw [buildPrimingReport] at hMissing ⊢
  generalize (queryScopedRows db scope).filter (isPrimed sinceCutoff) = filtered at *
  cases filtered with
  | nil =>
    refine iff_of_false (fun h => ?_) (by simp)
    have hUsed := h.used
    rw [primingReport, if_pos rfl] at hUsed
    have hLegend : 0 < estimateTokens primeLegend := by decide +kernel
    simp at hUsed
    omega
  | cons row rows =>
    have hTwo := hBudget row rfl
    have hFull := estimateDrawerTokens_buildDrawer row le_rfl
    simp only [primingReport, if_neg (List.cons_ne_nil row rows), List.length_map] at hMissing ⊢
    have hWithin (filled : Nat × List PrimingDrawer) (hMissing : filled.2.length < (row :: rows).length ↔
          ∃ a ∈ matching db scope (isPrimed sinceCutoff), ¬∃ b ∈ filled.2, b.id = a.id) :
        WithinBudget db scope sinceCutoff tokenBudget
            ⟨filled.2, stats, filled.1, filled.2.length < (row :: rows).length⟩ ↔
          filled.1 = baseTokens stats + (filled.2.map estimateDrawerTokens).sum ∧ filled.1 ≤ tokenBudget :=
      ⟨fun h => ⟨h.used, h.fits⟩, fun h => ⟨h.1, h.2, by simpa using hMissing⟩⟩
    rw [hWithin _ hMissing]
    simp only [List.head?_cons, Option.mem_some_iff, exists_eq_left', fillBudget, List.nil_append, if_true]
    rcases le_or_gt (baseTokens stats + estimateDrawerTokens (buildDrawer row primePreviewChars)) tokenBudget with
      hFits | hOver
    · rw [if_pos hFits]
      obtain ⟨hLe, hSum⟩ := @fillBudget_spec _ _ _ rows (List.cons_ne_nil _ []) hFits
      rw [List.map_singleton, List.sum_singleton] at hSum
      refine iff_of_true ⟨?_, hLe⟩ fun h => ?_
      · exact (show _ = baseTokens stats + _ by omega)
      · have hLine := h.1
        omega
    · rw [if_neg hOver.not_ge, List.map_singleton, List.sum_singleton]
      have hLine : 4 * (tokenBudget - baseTokens stats) < fixedLength row + previewLength row primePreviewChars := by
        omega
      rw [and_iff_right rfl, Overruns, and_iff_right hLine, ← fitted_fits_iff (by omega) hLine]
      omega

def longRow (id : String) : SearchRow := chunkRow 1 id (String.ofList (List.replicate 50 'a')) "p" none

def longDrawer (id : String) : SearchDb where
  drawers := ⟨⟨[longRow id], List.nodup_singleton _⟩, List.nodup_singleton _⟩
  index := []
  vectors := VectorTable.empty
  tunnels := []
  patterns := []

theorem long_drawer_fits : WithinBudget (longDrawer "abcd") .all none 45
    (buildPrimingReport (longDrawer "abcd") .all none none 45) := by
  refine (priming_within_budget_iff (longDrawer "abcd") .all none none 45 ?_).mpr ⟨longRow "abcd", rfl, ?_⟩
  · rintro row ⟨⟩
    decide +kernel
  · exact fun h => absurd h.2.1 (by decide +kernel)

/-- The line before the preview has forty characters, and the preview forty and its ellipsis. -/
theorem ellipsis_overruns_budget : baseTokens none + (fixedLength (longRow "abc") + 2 + 3) / 4 ≤ 45 ∧
    (buildPrimingReport (longDrawer "abc") .all none none 45).budgetUsedTokens = 46 := by
  constructor <;> decide +kernel

end Mempal.Reports

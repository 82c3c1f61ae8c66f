import Mempal.Ingest.Chunk

set_option autoImplicit false

/-! The chunks are the trimmed texts of a sequence of windows. Each window starts behind the start of the one before it
and not behind its end, and the last one ends with the text, so only blank windows drop out. -/

namespace Mempal.Ingest

open Foundation

variable {start i : Nat} {window : Nat × Nat}

section Windows

variable (chunker : Chunker) (embedder : Embedder) (chars : List Char)

/-- The windows the loop goes through from `start`. -/
def windows (start : Nat) : List (Nat × Nat) :=
  if _hStart : start < chars.length then
    let stop := windowEnd chunker embedder chars start
    (start, stop) :: if chars.length ≤ stop then [] else windows (nextStart chunker embedder start stop)
  else []
termination_by chars.length - start
decreasing_by
  have hEnd := windowEnd_bounds chunker embedder _hStart
  have hNext := nextStart_bounds chunker embedder hEnd.1
  omega

variable {chunker embedder chars} {chunks : List String}

theorem pushChunk_eq {chunk : String} : pushChunk chunks chunk = chunks ++ [chunk].filter (· ≠ "") := by
  rw [pushChunk]
  split_ifs with hEmpty <;> simp [hEmpty]

theorem chunkLoop_eq (start : Nat) :
    chunkLoop chunker embedder chars start chunks =
      chunks ++ ((windows chunker embedder chars start).map (windowText chars)).filter (· ≠ "") := by
  fun_induction chunkLoop chunker embedder chars start chunks with
  | case1 start chunks hStart stop pushed hLast =>
    simp only [windows.eq_def chunker embedder chars start, hStart, ↓reduceDIte]
    rw [if_pos hLast]
    exact pushChunk_eq
  | case2 start chunks hStart stop pushed hLast ih =>
    simp only [windows.eq_def chunker embedder chars start, hStart, ↓reduceDIte]
    rw [if_neg hLast, List.map_cons, ← List.singleton_append, List.filter_append, ← List.append_assoc, ih,
      ← pushChunk_eq]
  | case3 start chunks hStart =>
    rw [windows, dif_neg hStart]
    simp

theorem windows_bounds (h : window ∈ windows chunker embedder chars start) :
    start ≤ window.1 ∧ window.1 < window.2 ∧ window.2 ≤ chars.length := by
  fun_induction windows chunker embedder chars start with
  | case1 start hStart stop ih =>
    have hEnd := windowEnd_bounds chunker embedder hStart
    rcases List.mem_cons.mp h with rfl | hLater
    · exact ⟨le_rfl, hEnd⟩
    · split_ifs at hLater with hLast
      · exact absurd hLater List.not_mem_nil
      · have hNext := nextStart_bounds chunker embedder hEnd.1
        obtain ⟨hFrom, hBounds⟩ := ih hLater
        exact ⟨hNext.1.le.trans hFrom, hBounds⟩
  | case2 => exact absurd h List.not_mem_nil

theorem windows_increasing (start : Nat) :
    (windows chunker embedder chars start).Pairwise (fun w w' => w.1 < w'.1) := by
  fun_induction windows chunker embedder chars start with
  | case1 start hStart stop ih =>
    have hEnd := windowEnd_bounds chunker embedder hStart
    split_ifs with hLast
    · exact List.pairwise_singleton _ _
    · refine List.pairwise_cons.mpr ⟨?_, ih⟩
      intro window hWindow
      have hNext := nextStart_bounds chunker embedder hEnd.1
      exact Nat.lt_of_lt_of_le hNext.1 (windows_bounds hWindow).1
  | case2 => exact List.Pairwise.nil

theorem windows_cover (chunker : Chunker) (embedder : Embedder) (hFrom : start ≤ i) (hTo : i < chars.length) :
    ∃ window ∈ windows chunker embedder chars start, window.1 ≤ i ∧ i < window.2 := by
  fun_induction windows chunker embedder chars start with
  | case1 start hStart stop ih =>
    have hEnd := windowEnd_bounds chunker embedder hStart
    by_cases hHere : i < stop
    · exact ⟨(start, stop), List.mem_cons_self, hFrom, hHere⟩
    · have hNotLast : ¬ chars.length ≤ stop := by omega
      have hNext := nextStart_bounds chunker embedder hEnd.1
      obtain ⟨window, hWindow, hInside⟩ := ih (hNext.2.trans (Nat.not_lt.mp hHere))
      rw [if_neg hNotLast]
      exact ⟨window, List.mem_cons_of_mem _ hWindow, hInside⟩
  | case2 start hStart => omega

end Windows

/-- The chunks of a text with the spans of the text they are cut from. -/
structure ChunksCover (text : String) (chunks : List String) (spans : List (Nat × Nat)) : Prop where
  bounds : ∀ span ∈ spans, span.1 < span.2 ∧ span.2 ≤ text.length
  cut : chunks = spans.map (windowText text.toList)
  nonempty : ∀ chunk ∈ chunks, chunk ≠ ""
  trimmed : ∀ chunk ∈ chunks, Text.trim chunk = chunk
  substring : ∀ chunk ∈ chunks, chunk.toList <:+: text.toList
  increasing : spans.Pairwise (fun span span' => span.1 < span'.1)
  covered : ∀ i c, text.toList[i]? = some c → Text.isWhitespace c = false →
    ∃ span ∈ spans, span.1 ≤ i ∧ i < span.2

theorem slice_within {chars : List Char} (start stop : Nat) : slice chars start stop <:+: chars :=
  (List.take_prefix _ _).isInfix.trans (List.drop_suffix _ _).isInfix

theorem windowText_within {chars : List Char} (window : Nat × Nat) : (windowText chars window).toList <:+: chars := by
  have hTrim := Text.trim_within (String.ofList (slice chars window.1 window.2))
  rw [String.toList_ofList] at hTrim
  exact hTrim.trans (slice_within _ _)

theorem getElem?_slice {chars : List Char} {stop : Nat} (hFrom : start ≤ i) (hTo : i < stop) :
    (slice chars start stop)[i - start]? = chars[i]? := by
  rw [slice, List.getElem?_take_of_lt (by omega), List.getElem?_drop, Nat.add_sub_cancel' hFrom]

theorem windowText_ne_empty {chars : List Char} {c : Char} (hFrom : window.1 ≤ i) (hTo : i < window.2)
    (hChar : chars[i]? = some c) (hText : Text.isWhitespace c = false) : windowText chars window ≠ "" := by
  intro hEmpty
  have hBlank := (Text.trim_eq_empty_iff _).mp hEmpty c
  rw [String.toList_ofList] at hBlank
  have hMem : c ∈ slice chars window.1 window.2 :=
    List.mem_of_getElem? ((getElem?_slice hFrom hTo).trans hChar)
  rw [hBlank hMem] at hText
  cases hText

theorem slice_shift {before chars after : List Char} {stop : Nat} (hStart : start ≤ stop)
    (hStop : stop ≤ chars.length) :
    slice (before ++ chars ++ after) (before.length + start) (before.length + stop) = slice chars start stop := by
  have hDrop : (before ++ chars ++ after).drop (before.length + start) = chars.drop start ++ after := by
    rw [List.append_assoc, ← List.drop_drop, List.drop_left, List.drop_append_of_le_length (hStart.trans hStop)]
  rw [slice, hDrop, Nat.add_sub_add_left, List.take_append_of_le_length, slice]
  rw [List.length_drop]
  omega

def shift (offset : Nat) (window : Nat × Nat) : Nat × Nat := (offset + window.1, offset + window.2)

section Cover

variable {chunker : Chunker} {embedder : Embedder} {text : String} {before after : List Char}

def keptSpans (chunker : Chunker) (embedder : Embedder) (offset : Nat) (chars : List Char) : List (Nat × Nat) :=
  ((windows chunker embedder chars 0).filter (fun window => windowText chars window ≠ "")).map (shift offset)

theorem chunkTextTokenAware_eq :
    chunkTextTokenAware chunker embedder text =
      ((windows chunker embedder (Text.trim text).toList 0).map (windowText (Text.trim text).toList)).filter
        (· ≠ "") := by
  rw [chunkTextTokenAware]
  split_ifs with hEmpty
  · rw [windows, dif_neg (by simp [hEmpty])]
    rfl
  · rw [chunkLoop_eq, List.nil_append]

theorem windowText_shift {chars : List Char} (hText : text.toList = before ++ chars ++ after)
    (hWindow : window ∈ windows chunker embedder chars 0) :
    windowText text.toList (shift before.length window) = windowText chars window := by
  obtain ⟨_, hStart, hStop⟩ := windows_bounds hWindow
  rw [windowText, hText, shift, slice_shift hStart.le hStop, windowText]

theorem keptSpans_texts {chars : List Char} (hText : text.toList = before ++ chars ++ after) :
    (keptSpans chunker embedder before.length chars).map (windowText text.toList) =
      ((windows chunker embedder chars 0).map (windowText chars)).filter (· ≠ "") := by
  simp only [keptSpans, List.map_map, List.filter_map, Function.comp_def]
  refine List.map_congr_left fun window hWindow => ?_
  exact windowText_shift hText (List.mem_filter.mp hWindow).1

theorem chunk_text_covers (chunker : Chunker) (embedder : Embedder) (text : String) :
    ∃ spans, ChunksCover text (chunkTextTokenAware chunker embedder text) spans := by
  obtain ⟨before, after, hText, hBefore, hAfter⟩ := Text.trim_split text
  have hLength : text.length = before.length + (Text.trim text).toList.length + after.length := by
    rw [← String.length_toList, hText, List.length_append, List.length_append]
  refine ⟨keptSpans chunker embedder before.length (Text.trim text).toList, ?_⟩
  rw [chunkTextTokenAware_eq]
  constructor
  case bounds =>
    intro span hSpan
    obtain ⟨window, hWindow, rfl⟩ := List.mem_map.mp hSpan
    obtain ⟨_, hStart, hStop⟩ := windows_bounds (List.mem_filter.mp hWindow).1
    simp only [shift]
    omega
  case cut =>
    exact (keptSpans_texts hText).symm
  case nonempty =>
    intro chunk hChunk
    exact of_decide_eq_true (List.mem_filter.mp hChunk).2
  case trimmed =>
    intro chunk hChunk
    obtain ⟨window, _, rfl⟩ := List.mem_map.mp (List.mem_filter.mp hChunk).1
    exact Text.trim_trim _
  case substring =>
    intro chunk hChunk
    obtain ⟨window, _, rfl⟩ := List.mem_map.mp (List.mem_filter.mp hChunk).1
    exact (windowText_within window).trans (Text.trim_within text)
  case increasing =>
    rw [keptSpans, List.pairwise_map]
    exact ((windows_increasing 0).filter _).imp fun hLt => Nat.add_lt_add_left hLt _
  case covered =>
    intro i c hChar hNotBlank
    -- a character outside the trimmed text is white space
    have hFrom : before.length ≤ i := by
      by_contra hLt
      rw [hText, List.append_assoc, List.getElem?_append_left (by omega)] at hChar
      rw [hBefore c (List.mem_of_getElem? hChar)] at hNotBlank
      cases hNotBlank
    have hTo : i - before.length < (Text.trim text).toList.length := by
      by_contra hLe
      rw [hText, List.getElem?_append_right (by rw [List.length_append]; omega)] at hChar
      rw [hAfter c (List.mem_of_getElem? hChar)] at hNotBlank
      cases hNotBlank
    have hInner : (Text.trim text).toList[i - before.length]? = some c := by
      rw [← hChar, hText, List.append_assoc, List.getElem?_append_right hFrom, List.getElem?_append_left hTo]
    obtain ⟨window, hWindow, hInside⟩ := windows_cover chunker embedder
      (Nat.zero_le (i - before.length)) hTo
    have hKept := windowText_ne_empty hInside.1 hInside.2 hInner hNotBlank
    refine ⟨shift before.length window, List.mem_map_of_mem (List.mem_filter.mpr ⟨hWindow, ?_⟩), ?_⟩
    · exact decide_eq_true hKept
    · simp only [shift]
      omega

end Cover

end Mempal.Ingest

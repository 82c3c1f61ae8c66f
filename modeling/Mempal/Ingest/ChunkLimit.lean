import Mempal.Ingest.ChunkCoverage

set_option autoImplicit false

/-! For an estimator that grows with the text and gives one character at most one token, the end a window search starts
from fits the limit, and every later step only moves to ends that fit or back to a shorter text. -/

namespace Mempal.Ingest

open Foundation

structure TokenBound (estimate : String → Nat) : Prop where
  mono : ∀ part text : String, part.toList <:+: text.toList → estimate part ≤ estimate text
  char : ∀ c, estimate (String.ofList [c]) ≤ 1

theorem estimateTokens_tokenBound : TokenBound estimateTokens where
  mono := by
    intro part text hPart
    have hLength := hPart.length_le
    rw [String.length_toList, String.length_toList] at hLength
    unfold estimateTokens
    omega
  char := by
    intro c
    rw [estimateTokens, ← String.length_toList, String.toList_ofList, List.length_singleton]

theorem effectiveMaxTokens_pos {config : Settings.ChunkerConfig} {embedder : Embedder} :
    0 < effectiveMaxTokens config embedder :=
  Nat.lt_of_lt_of_le Nat.zero_lt_one (Nat.le_max_right _ _)

variable {window : Nat × Nat} {line : String} {lines : List String}

section Fits

variable {chunker : Chunker} {embedder : Embedder} {chars : List Char} {start limit : Nat}

theorem slice_mono {stop stop' : Nat} (hStop : stop ≤ stop') : slice chars start stop <+: slice chars start stop' :=
  List.take_prefix_take_left (Nat.sub_le_sub_right hStop start)

variable (hBound : TokenBound embedder.estimateTokens)
include hBound

theorem tokensUpTo_mono {stop stop' : Nat} (hStop : stop ≤ stop') :
    tokensUpTo embedder chars start stop ≤ tokensUpTo embedder chars start stop' := by
  apply hBound.mono
  rw [String.toList_ofList, String.toList_ofList]
  exact (slice_mono hStop).isInfix

theorem tokensUpTo_succ (hStart : start < chars.length) : tokensUpTo embedder chars start (start + 1) ≤ 1 := by
  have hSlice : slice chars start (start + 1) = [chars[start]] := by
    rw [slice, Nat.add_sub_cancel_left, List.drop_eq_getElem_cons hStart]
    rfl
  rw [tokensUpTo, hSlice]
  exact hBound.char _

theorem breakBefore_fits {best : Nat} (hStart : start < best)
    (hBest : best ≤ chars.length) (hFits : tokensUpTo embedder chars start best ≤ limit) :
    tokensUpTo embedder chars start (breakBefore chars start best) ≤ limit :=
  (tokensUpTo_mono hBound (breakBefore_bounds hStart hBest).2).trans hFits

theorem findChunkEnd_fits {target : Nat} (hLimit : 0 < limit)
    (hPos : 0 < target) (hTarget : target < usizeBound) (hStart : start < chars.length) :
    tokensUpTo embedder chars start (findChunkEnd embedder chars start limit target) ≤ limit := by
  have hChars := estimateCharsForTokens_pos hPos hTarget
  have hBreak : ∀ best, (start < best ∧ best ≤ chars.length ∧ tokensUpTo embedder chars start best ≤ limit) →
      tokensUpTo embedder chars start (breakBefore chars start best) ≤ limit := by
    rintro best ⟨hLow, hHigh, hFits⟩
    exact breakBefore_fits hBound hLow hHigh hFits
  simp only [findChunkEnd]
  split_ifs with hRest hTentative
  · rw [Nat.min_eq_right (by omega)] at hRest
    exact hRest.2
  · apply hBreak
    apply probeLoop_invariant fun stop =>
      start < stop ∧ stop ≤ chars.length ∧ tokensUpTo embedder chars start stop ≤ limit
    · exact ⟨by omega, by omega, hTentative⟩
    · intro stop hLow hHigh hFits
      exact ⟨by omega, by omega, hFits⟩
  · apply hBreak
    apply bisect_invariant fun stop =>
      start < stop ∧ stop ≤ chars.length ∧ tokensUpTo embedder chars start stop ≤ limit
    · exact ⟨by omega, by omega, (tokensUpTo_succ hBound hStart).trans hLimit⟩
    · intro stop hLow hHigh hFits
      exact ⟨by omega, by omega, hFits⟩

theorem windowText_tokens :
    embedder.estimateTokens (windowText chars window) ≤ tokensUpTo embedder chars window.1 window.2 :=
  hBound.mono _ _ (Text.trim_within _)

theorem windows_fit (h : window ∈ windows chunker embedder chars start) :
    tokensUpTo embedder chars window.1 window.2 ≤ maxTokens chunker embedder := by
  fun_induction windows chunker embedder chars start with
  | case1 start hStart stop ih =>
    rcases List.mem_cons.mp h with rfl | hLater
    · obtain ⟨hPos, hTarget⟩ := targetTokens_bounds chunker embedder
      exact findChunkEnd_fits hBound (effectiveMaxTokens_pos) hPos hTarget hStart
    · split_ifs at hLater with hLast
      · exact absurd hLater List.not_mem_nil
      · exact ih hLater
  | case2 => exact absurd h List.not_mem_nil

theorem chunkTextTokenAware_within {text chunk : String} (h : chunk ∈ chunkTextTokenAware chunker embedder text) :
    embedder.estimateTokens chunk ≤ maxTokens chunker embedder := by
  rw [chunkTextTokenAware_eq] at h
  obtain ⟨window, hWindow, rfl⟩ := List.mem_map.mp (List.mem_filter.mp h).1
  exact (windowText_tokens hBound).trans (windows_fit hBound hWindow)

theorem chunkTurn_within {turn chunk : String} (h : chunk ∈ chunkTurn chunker embedder turn) :
    embedder.estimateTokens chunk ≤ maxTokens chunker embedder := by
  rw [chunkTurn] at h
  split_ifs at h with hFits
  · rw [List.mem_singleton.mp h]
    exact hFits
  · exact chunkTextTokenAware_within hBound h

end Fits

def BeginsTurn (line : String) : Prop := "> ".toList <+: line.toList

/-- The lines but for blank ones at the beginning, cut before every line that begins with the user's mark. -/
structure CutIntoTurns (lines : List String) (turns : List (List String)) : Prop where
  content : turns.flatten = lines.dropWhile Text.isBlank
  nonempty : [] ∉ turns
  begins : ∀ turn ∈ turns.tail, ∃ line ∈ turn.head?, BeginsTurn line
  within : ∀ turn ∈ turns, ∀ line ∈ turn.tail, ¬ BeginsTurn line

theorem BeginsTurn.isBlank (h : BeginsTurn line) : Text.isBlank line = false := by
  obtain ⟨rest, hLine⟩ := h
  rw [Text.isBlank, ← hLine]
  rfl

theorem CutIntoTurns.skip (h : CutIntoTurns lines []) (hBlank : Text.isBlank line = true) :
    CutIntoTurns (lines ++ [line]) [] where
  content := by
    rw [List.dropWhile_append, ← h.content]
    simp [hBlank]
  nonempty := List.not_mem_nil
  begins _ hTurn := absurd hTurn List.not_mem_nil
  within _ hTurn := absurd hTurn List.not_mem_nil

theorem CutIntoTurns.append {turns : List (List String)} (h : CutIntoTurns lines turns)
    (hLine : Text.isBlank line = false) (hBegins : turns = [] ∨ BeginsTurn line) :
    CutIntoTurns (lines ++ [line]) (turns ++ [[line]]) where
  content := by
    rw [List.dropWhile_append, ← h.content, List.flatten_append]
    split_ifs with hEmpty
    · rw [List.isEmpty_iff.mp hEmpty]
      simp [hLine]
    · simp
  nonempty := by simpa using h.nonempty
  begins turn hTurn := by
    cases turns with
    | nil => exact absurd hTurn List.not_mem_nil
    | cons first turns =>
      rcases List.mem_append.mp hTurn with hOld | hNew
      · exact h.begins turn hOld
      · rw [List.mem_singleton.mp hNew]
        exact ⟨line, rfl, hBegins.resolve_left (by simp)⟩
  within turn hTurn later hLater := by
    rcases List.mem_append.mp hTurn with hOld | hNew
    · exact h.within turn hOld later hLater
    · rw [List.mem_singleton.mp hNew] at hLater
      exact absurd hLater List.not_mem_nil

theorem CutIntoTurns.extend {lines current : List String} {turns : List (List String)}
    (h : CutIntoTurns lines (turns ++ [current])) (hLine : ¬ BeginsTurn line) :
    CutIntoTurns (lines ++ [line]) (turns ++ [current ++ [line]]) := by
  have hCurrent : current ≠ [] := by
    rintro rfl
    exact h.nonempty (by simp)
  constructor
  case content =>
    rw [List.dropWhile_append, ← h.content]
    simp [hCurrent]
  case nonempty => simpa using fun hMem => h.nonempty (List.mem_append_left _ hMem)
  case begins =>
    intro turn hTurn
    cases turns with
    | nil => exact absurd hTurn List.not_mem_nil
    | cons first turns =>
      rcases List.mem_append.mp hTurn with hOld | hNew
      · exact h.begins turn (List.mem_append_left _ hOld)
      · obtain ⟨mark, hMark, hBegins⟩ := h.begins current (List.mem_append_right _ List.mem_cons_self)
        rw [List.mem_singleton.mp hNew]
        exact ⟨mark, by rw [List.head?_append_of_ne_nil _ hCurrent]; exact hMark, hBegins⟩
  case within =>
    intro turn hTurn later hLater
    rcases List.mem_append.mp hTurn with hOld | hNew
    · exact h.within turn (List.mem_append_left _ hOld) later hLater
    · rw [List.mem_singleton.mp hNew, List.tail_append_of_ne_nil hCurrent] at hLater
      rcases List.mem_append.mp hLater with hOld | hLast
      · exact h.within current (List.mem_append_right _ List.mem_cons_self) later hOld
      · rwa [List.mem_singleton.mp hLast]

theorem TurnReader.read_cuts {reader : TurnReader} (line : String) (h : CutIntoTurns lines reader.finish)
    (hOpen : reader.current = [] → reader.turns = []) :
    CutIntoTurns (lines ++ [line]) (reader.read line).finish ∧
      ((reader.read line).current = [] → (reader.read line).turns = []) := by
  obtain ⟨turns, current⟩ := reader
  by_cases hCurrent : current = []
  · obtain rfl := hCurrent
    obtain rfl : turns = [] := hOpen rfl
    by_cases hBlank : Text.isBlank line = true
    · simpa [TurnReader.read, TurnReader.close, TurnReader.push, TurnReader.finish, hBlank] using h.skip hBlank
    · rw [Bool.not_eq_true] at hBlank
      simpa [TurnReader.read, TurnReader.close, TurnReader.push, TurnReader.finish, hBlank] using
        h.append hBlank (.inl rfl)
  · have hFinish : TurnReader.finish ⟨turns, current⟩ = turns ++ [current] := if_neg hCurrent
    rw [hFinish] at h
    by_cases hBegins : BeginsTurn line
    · have hRead : TurnReader.read ⟨turns, current⟩ line = ⟨turns ++ [current], [line]⟩ := by
        rw [TurnReader.read, TurnReader.close, if_pos ⟨hBegins, hCurrent⟩, TurnReader.push]
        exact if_pos (.inl (by simp [hBegins.isBlank]))
      rw [hRead]
      exact ⟨h.append hBegins.isBlank (.inr hBegins), fun hNil => by cases hNil⟩
    · have hRead : TurnReader.read ⟨turns, current⟩ line = ⟨turns, current ++ [line]⟩ := by
        rw [TurnReader.read, TurnReader.close, if_neg fun hMark => hBegins hMark.1, TurnReader.push]
        exact if_pos (.inr hCurrent)
      rw [hRead, TurnReader.finish, if_neg (by simp)]
      exact ⟨h.extend hBegins, fun hNil => absurd hNil (by simp)⟩

theorem TurnReader.foldl_cuts (lines : List String) :
    CutIntoTurns lines (lines.foldl TurnReader.read ⟨[], []⟩).finish ∧
      ((lines.foldl TurnReader.read ⟨[], []⟩).current = [] → (lines.foldl TurnReader.read ⟨[], []⟩).turns = []) := by
  induction lines using List.reverseRecOn with
  | nil => exact ⟨⟨rfl, List.not_mem_nil, fun _ hTurn => absurd hTurn List.not_mem_nil,
      fun _ hTurn => absurd hTurn List.not_mem_nil⟩, fun _ => rfl⟩
  | append_singleton lines line ih =>
    rw [List.foldl_append]
    exact read_cuts line ih.1 ih.2

/-- How the chunks of a conversation come from its turns. -/
structure TurnsKept (limit : Nat) (estimate : String → Nat) (transcript : String) (turns : List (List String))
    (pieces : List (List String)) : Prop where
  cut : CutIntoTurns (Text.lines transcript) turns
  split : List.Forall₂ (fun turn piece => estimate (joinLines turn) ≤ limit ∧ piece = [joinLines turn] ∨
    limit < estimate (joinLines turn) ∧ ∃ spans, ChunksCover (joinLines turn) piece spans) turns pieces

/-- What the chunkers promise with the limit of a configuration and an embedder. -/
structure WithinLimit (chunker : Chunker) (embedder : Embedder) : Prop where
  text : ∀ text, ∀ chunk ∈ chunkTextTokenAware chunker embedder text,
    embedder.estimateTokens chunk ≤ effectiveMaxTokens chunker.config embedder
  conversation : ∀ transcript, ∀ chunk ∈ chunkConversationTokenAware chunker embedder transcript,
    embedder.estimateTokens chunk ≤ effectiveMaxTokens chunker.config embedder
  kept : ∀ transcript, ∃ turns pieces,
    chunkConversationTokenAware chunker embedder transcript = pieces.flatten ∧
      TurnsKept (effectiveMaxTokens chunker.config embedder) embedder.estimateTokens transcript turns pieces

theorem chunkTurn_kept (chunker : Chunker) (embedder : Embedder) (turn : String) :
    embedder.estimateTokens turn ≤ effectiveMaxTokens chunker.config embedder ∧
        chunkTurn chunker embedder turn = [turn] ∨
      effectiveMaxTokens chunker.config embedder < embedder.estimateTokens turn ∧
        ∃ spans, ChunksCover turn (chunkTurn chunker embedder turn) spans := by
  rw [chunkTurn]
  split_ifs with hFits
  · exact Or.inl ⟨hFits, rfl⟩
  · exact Or.inr ⟨Nat.lt_of_not_le hFits, chunk_text_covers chunker embedder turn⟩

theorem chunks_within_limit : TokenBound estimateTokens ∧
    ∀ chunker embedder, TokenBound embedder.estimateTokens → WithinLimit chunker embedder := by
  refine ⟨estimateTokens_tokenBound, fun chunker embedder hBound => ?_⟩
  constructor
  case text =>
    intro text chunk
    exact chunkTextTokenAware_within hBound
  case conversation =>
    intro transcript chunk hChunk
    obtain ⟨turn, _, hTurn⟩ := List.mem_flatMap.mp hChunk
    exact chunkTurn_within hBound hTurn
  case kept =>
    intro transcript
    refine ⟨turnLines transcript, (chunkConversationByTurns transcript).map (chunkTurn chunker embedder), rfl,
      (TurnReader.foldl_cuts _).1, ?_⟩
    rw [chunkConversationByTurns, List.map_map, List.forall₂_map_right_iff, List.forall₂_same]
    intro turn _
    exact chunkTurn_kept chunker embedder _

def defaultChunker : Chunker := ⟨⟨1024, 512, 64⟩, rfl, by decide⟩

def heuristicEmbedder : Embedder := ⟨some 512, estimateTokens⟩

theorem default_chunks_within_limit : effectiveMaxTokens defaultChunker.config heuristicEmbedder = 480 ∧
    WithinLimit defaultChunker heuristicEmbedder :=
  ⟨by decide, chunks_within_limit.2 defaultChunker heuristicEmbedder chunks_within_limit.1⟩

end Mempal.Ingest

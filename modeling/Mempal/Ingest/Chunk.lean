import Mempal.Foundation.Lines
import Mempal.Settings.Validate

set_option autoImplicit false

/-! `ingest/chunk.rs`. A window starts at `start`; its end is searched forward when the first guess fits the token
limit and by bisection when it does not, and is then moved back to a natural break in the second half of the
window. -/

namespace Mempal.Ingest

open Foundation

def usizeBound : Nat := 2 ^ 64

/-- A chunker configuration that passed validation; its fields are `usize`. -/
structure Chunker where
  config : Settings.ChunkerConfig
  checked : config.check = .ok ()
  fits : config.maxTokens < usizeBound

/-- What the chunker asks of an embedder. -/
structure Embedder where
  maxInputTokens : Option Nat
  estimateTokens : String → Nat

/-- The estimator of `embed/mod.rs` for embedders without a tokenizer of their own. -/
def estimateTokens (text : String) : Nat := (text.length * 2 + 4) / 5

def safetyMargin : Nat := 32

def effectiveMaxTokens (config : Settings.ChunkerConfig) (embedder : Embedder) : Nat :=
  max (min config.maxTokens ((embedder.maxInputTokens.map (· - safetyMargin)).getD (usizeBound - 1))) 1

def estimateCharsForTokens (tokens : Nat) : Nat := (tokens * 5 % usizeBound + 1) / 2

def slice (chars : List Char) (start stop : Nat) : List Char := (chars.drop start).take (stop - start)

def isBreak (c : Char) : Bool := c = '\n' || c = ' ' || c = '\t'

def lastBreak (window : List Char) : Option Nat :=
  (window.reverse.findIdx? isBreak).map (window.length - 1 - ·)

/-- Both searches end here: behind the last break if it lies in the second half, and a hard split otherwise. -/
def breakBefore (chars : List Char) (start best : Nat) : Nat :=
  if best < chars.length then
    match lastBreak (slice chars start best) with
    | some split => if (best - start) / 2 < split then start + split + 1 else best
    | none => best
  else best

section Search

variable (embedder : Embedder) (chars : List Char) (start maxTokens : Nat)

def tokensUpTo (stop : Nat) : Nat := embedder.estimateTokens (String.ofList (slice chars start stop))

def probeLoop (searchLimit gap probe best : Nat) : Nat :=
  if probe ≤ searchLimit then
    if maxTokens < tokensUpTo embedder chars start probe then best
    else if probe = searchLimit then probe
    else probeLoop searchLimit gap (min (probe + max (gap / 8) 1) searchLimit) probe
  else best
termination_by searchLimit - probe

def findNaturalBreakForward (currentEnd : Nat) : Nat :=
  let searchLimit := min (start + estimateCharsForTokens maxTokens) chars.length
  -- where this difference would wrap around, the loop is not entered and the step is not read
  let gap := searchLimit - currentEnd
  breakBefore chars start (probeLoop embedder chars start maxTokens searchLimit gap currentEnd currentEnd)

def bisect (lo hi best : Nat) : Nat :=
  if lo ≤ hi then
    let mid := lo + (hi - lo) / 2
    if tokensUpTo embedder chars start mid ≤ maxTokens then bisect (mid + 1) hi mid
    else if mid = 0 then best
    else bisect lo (mid - 1) best
  else best
termination_by hi + 1 - lo

def findMaxEndBinary (upper : Nat) : Nat :=
  breakBefore chars start (bisect embedder chars start maxTokens (start + 1) upper (start + 1))

def findChunkEnd (targetTokens : Nat) : Nat :=
  let tentativeEnd := min (start + estimateCharsForTokens targetTokens) chars.length
  let tokens := tokensUpTo embedder chars start tentativeEnd
  if chars.length ≤ tentativeEnd ∧ tokens ≤ maxTokens then chars.length
  else if tokens ≤ maxTokens then findNaturalBreakForward embedder chars start maxTokens tentativeEnd
  else findMaxEndBinary embedder chars start maxTokens tentativeEnd

end Search

theorem lastBreak_lt {window : List Char} {split : Nat} (h : lastBreak window = some split) :
    split < window.length := by
  obtain ⟨k, hk, rfl⟩ := Option.map_eq_some_iff.mp h
  have hLt := (List.findIdx?_eq_some_iff_getElem.mp hk).1
  rw [List.length_reverse] at hLt
  omega

theorem length_slice {chars : List Char} {start stop : Nat} (hStop : stop ≤ chars.length) :
    (slice chars start stop).length = stop - start := by
  rw [slice, List.length_take, List.length_drop]
  omega

/-- A natural break never moves the end behind `best` nor back to the start. -/
theorem breakBefore_bounds {chars : List Char} {start best : Nat} (hStart : start < best) (hBest : best ≤ chars.length) :
    start < breakBefore chars start best ∧ breakBefore chars start best ≤ best := by
  unfold breakBefore
  split_ifs with hShort
  · split
    · rename_i split hSplit
      have hLt := lastBreak_lt hSplit
      rw [length_slice hBest] at hLt
      split_ifs <;> omega
    · exact ⟨hStart, le_rfl⟩
  · exact ⟨hStart, le_rfl⟩

section Bounds

variable {embedder : Embedder} {chars : List Char} {start maxTokens : Nat}

theorem probeLoop_invariant {searchLimit gap probe best : Nat} (P : Nat → Prop) (hBest : P best)
    (hProbe : ∀ stop, probe ≤ stop → stop ≤ searchLimit → tokensUpTo embedder chars start stop ≤ maxTokens → P stop) :
    P (probeLoop embedder chars start maxTokens searchLimit gap probe best) := by
  fun_induction probeLoop embedder chars start maxTokens searchLimit gap probe best with
  | case1 => exact hBest
  | case2 => exact hProbe _ le_rfl le_rfl (by omega)
  | case3 probe best hLimit hFits hNe ih =>
    apply ih (hProbe probe le_rfl hLimit (by omega))
    intro stop hStop
    exact hProbe stop (by omega)
  | case4 => exact hBest

theorem bisect_invariant {best lo hi : Nat} (P : Nat → Prop) (hBest : P best)
    (hMid : ∀ stop, lo ≤ stop → stop ≤ hi → tokensUpTo embedder chars start stop ≤ maxTokens → P stop) :
    P (bisect embedder chars start maxTokens lo hi best) := by
  fun_induction bisect embedder chars start maxTokens lo hi best with
  | case1 lo hi best hLe mid hFits ih =>
    apply ih (hMid mid (by omega) (by omega) hFits)
    intro stop hStop
    exact hMid stop (by omega)
  | case2 => exact hBest
  | case3 lo hi best hLe mid hFits hZero ih =>
    apply ih hBest
    intro stop hStop hStop'
    exact hMid stop hStop (by omega)
  | case4 => exact hBest

theorem estimateCharsForTokens_pos {tokens : Nat} (hPos : 0 < tokens) (hBound : tokens < usizeBound) :
    0 < estimateCharsForTokens tokens := by
  -- five is prime to a power of two, so the product wraps around to zero for no token count
  have hMod : tokens * 5 % usizeBound ≠ 0 := by
    intro hZero
    have hCoprime : Nat.Coprime usizeBound 5 := Nat.Coprime.pow_left 64 (by decide)
    have hDvd : usizeBound ∣ tokens := hCoprime.dvd_of_dvd_mul_right (Nat.dvd_of_mod_eq_zero hZero)
    exact absurd (Nat.le_of_dvd hPos hDvd) (Nat.not_le.mpr hBound)
  exact Nat.div_pos (Nat.succ_le_succ (Nat.pos_of_ne_zero hMod)) Nat.two_pos

theorem findChunkEnd_bounds {targetTokens : Nat} (hPos : 0 < targetTokens) (hBound : targetTokens < usizeBound)
    (hStart : start < chars.length) :
    start < findChunkEnd embedder chars start maxTokens targetTokens ∧
      findChunkEnd embedder chars start maxTokens targetTokens ≤ chars.length := by
  have hChars := estimateCharsForTokens_pos hPos hBound
  have hBreak : ∀ best, start < best ∧ best ≤ chars.length →
      start < breakBefore chars start best ∧ breakBefore chars start best ≤ chars.length := by
    rintro best ⟨hLow, hHigh⟩
    obtain ⟨hLow', hHigh'⟩ := breakBefore_bounds hLow hHigh
    exact ⟨hLow', hHigh'.trans hHigh⟩
  simp only [findChunkEnd]
  split_ifs
  · exact ⟨hStart, le_rfl⟩
  · apply hBreak
    apply probeLoop_invariant (fun stop => start < stop ∧ stop ≤ chars.length)
    · omega
    · intro stop hLow hHigh _
      omega
  · apply hBreak
    apply bisect_invariant (fun stop => start < stop ∧ stop ≤ chars.length)
    · omega
    · intro stop hLow hHigh _
      omega

end Bounds

section Loop

variable (chunker : Chunker) (embedder : Embedder)

def maxTokens : Nat := effectiveMaxTokens chunker.config embedder

def targetTokens : Nat := min chunker.config.targetTokens (maxTokens chunker embedder)

def overlapTokens : Nat := min chunker.config.overlapTokens (targetTokens chunker embedder - 1)

def windowEnd (chars : List Char) (start : Nat) : Nat :=
  findChunkEnd embedder chars start (maxTokens chunker embedder) (targetTokens chunker embedder)

def nextStart (start stop : Nat) : Nat :=
  let back := stop - estimateCharsForTokens (overlapTokens chunker embedder)
  if back ≤ start then stop else back

theorem Chunker.checked_bounds : 0 < chunker.config.targetTokens ∧
    chunker.config.targetTokens ≤ chunker.config.maxTokens := by
  have hChecked := chunker.checked
  rw [Settings.ChunkerConfig.check, check_bind_eq_ok_iff, check_bind_eq_ok_iff] at hChecked
  obtain ⟨_, hTarget, _⟩ := hChecked
  simp only [Settings.invalidConfigIf, ite_error_eq_ok_iff, Bool.or_eq_true, beq_iff_eq, decide_eq_true_eq] at hTarget
  omega

theorem targetTokens_bounds : 0 < targetTokens chunker embedder ∧ targetTokens chunker embedder < usizeBound := by
  obtain ⟨hPos, hMax⟩ := chunker.checked_bounds
  have hFits := chunker.fits
  have hEffective : 0 < maxTokens chunker embedder := by
    unfold maxTokens effectiveMaxTokens
    omega
  unfold targetTokens
  omega

theorem windowEnd_bounds {chars : List Char} {start : Nat} (hStart : start < chars.length) :
    start < windowEnd chunker embedder chars start ∧ windowEnd chunker embedder chars start ≤ chars.length :=
  findChunkEnd_bounds (targetTokens_bounds chunker embedder).1 (targetTokens_bounds chunker embedder).2 hStart

theorem nextStart_bounds {start stop : Nat} (hStop : start < stop) :
    start < nextStart chunker embedder start stop ∧ nextStart chunker embedder start stop ≤ stop := by
  simp only [nextStart]
  split_ifs <;> omega

def windowText (chars : List Char) (window : Nat × Nat) : String :=
  Text.trim (String.ofList (slice chars window.1 window.2))

def pushChunk (chunks : List String) (chunk : String) : List String :=
  if chunk = "" then chunks else chunks ++ [chunk]

def chunkLoop (chars : List Char) (start : Nat) (chunks : List String) : List String :=
  if _hStart : start < chars.length then
    let stop := windowEnd chunker embedder chars start
    let pushed := pushChunk chunks (windowText chars (start, stop))
    if chars.length ≤ stop then pushed
    else chunkLoop chars (nextStart chunker embedder start stop) pushed
  else chunks
termination_by chars.length - start
decreasing_by
  have hEnd := windowEnd_bounds chunker embedder _hStart
  have hNext := nextStart_bounds chunker embedder hEnd.1
  omega

def chunkTextTokenAware (text : String) : List String :=
  let trimmed := Text.trim text
  if trimmed = "" then [] else chunkLoop chunker embedder trimmed.toList 0 []

structure TurnReader where
  turns : List (List String)
  current : List String

def TurnReader.close (reader : TurnReader) (line : String) : TurnReader :=
  if "> ".toList <+: line.toList ∧ reader.current ≠ [] then ⟨reader.turns ++ [reader.current], []⟩ else reader

/-- Blank lines before the first line of a turn are left out. -/
def TurnReader.push (reader : TurnReader) (line : String) : TurnReader :=
  if ¬ Text.isBlank line ∨ reader.current ≠ [] then { reader with current := reader.current ++ [line] } else reader

def TurnReader.read (reader : TurnReader) (line : String) : TurnReader := (reader.close line).push line

def TurnReader.finish (reader : TurnReader) : List (List String) :=
  if reader.current = [] then reader.turns else reader.turns ++ [reader.current]

def turnLines (transcript : String) : List (List String) :=
  ((Text.lines transcript).foldl TurnReader.read ⟨[], []⟩).finish

def joinLines (lines : List String) : String := "\n".intercalate lines

def chunkConversationByTurns (transcript : String) : List String := (turnLines transcript).map joinLines

def chunkTurn (turn : String) : List String :=
  if embedder.estimateTokens turn ≤ maxTokens chunker embedder then [turn]
  else chunkTextTokenAware chunker embedder turn

def chunkConversationTokenAware (transcript : String) : List String :=
  (chunkConversationByTurns transcript).flatMap (chunkTurn chunker embedder)

end Loop

end Mempal.Ingest

import Mathlib.Data.List.DropRight
import Mathlib.Data.Prod.Lex
import Mathlib.Data.String.Basic
import Mempal.Search.Basic
import Mempal.Since

set_option autoImplicit false

/-! The timeline and the priming report. Both take the drawers of a scope in the order of a query, of which they keep
those in a time window. -/

namespace Mempal.Reports

open Foundation.Text Drawers Search

def isAsciiPunctuation (c : Char) : Bool :=
  let n := c.toNat
  (33 ≤ n && n ≤ 47) || (58 ≤ n && n ≤ 64) || (91 ≤ n && n ≤ 96) || (123 ≤ n && n ≤ 126)

def isBoundaryChar (c : Char) : Bool :=
  isWhitespace c || isAsciiPunctuation c ||
    c ∈ ['，', '。', '、', '；', '：', '！', '？', '（', '）', '【', '】', '「', '」', '《', '》']

def isCjk (c : Char) : Bool :=
  let n := c.toNat
  (0x3400 ≤ n && n ≤ 0x4DBF) || (0x4E00 ≤ n && n ≤ 0x9FFF) || (0xF900 ≤ n && n ≤ 0xFAFF) ||
    (0x3040 ≤ n && n ≤ 0x309F) || (0x30A0 ≤ n && n ≤ 0x30FF) || (0xAC00 ≤ n && n ≤ 0xD7AF)

/-- The locals of the loop of `truncate`, with positions counted in characters. -/
structure Cut where
  exactEnd : Nat
  boundaryEnd : Option Nat
  prev : Option Char

def Cut.push (cut : Cut) (c : Char) : Cut where
  exactEnd := cut.exactEnd + 1
  boundaryEnd :=
    if isCjk c || isBoundaryChar c then some (cut.exactEnd + 1)
    else if cut.prev.any isBoundaryChar then some cut.exactEnd else cut.boundaryEnd
  prev := some c

/-- The characters that `truncate` keeps of a text that is too long. -/
def keptChars (chars : List Char) (previewChars : Nat) : List Char :=
  let cut := (chars.take previewChars).foldl Cut.push ⟨0, none, none⟩
  let preview := (chars.take (cut.boundaryEnd.getD cut.exactEnd)).rdropWhile fun c =>
    isWhitespace c || isBoundaryChar c
  if preview = [] then chars.take cut.exactEnd else preview

def truncate (content : String) (previewChars : Nat) : String × Bool :=
  if content.toList.length ≤ previewChars then (content, false)
  else (String.ofList (keptChars content.toList previewChars ++ ['…']), true)

def parseAddedAt (raw : String) : Option Int := Since.parseAbsoluteTimestamp raw

def formatTimestamp (secs : Int) : String := formatRfc3339 (secs.toNat * 1000)

def formatDisplayAddedAt (raw : String) : String := ((parseAddedAt raw).map formatTimestamp).getD raw

/-- `ORDER BY importance DESC, added_at DESC, id DESC`. -/
def rank (row : SearchRow) : Int ×ₗ String ×ₗ String := toLex (row.importance, toLex (row.addedAt, row.id))

def queryScopedRows (db : SearchDb) (scope : ProjectFilterMode) : List SearchRow :=
  (db.drawers.rows.filter fun row => row.isActive && scope.accepts row.projectId).insertionSort fun a b =>
    rank b ≤ rank a

structure TimelineQuery where
  scope : ProjectFilterMode
  topK : Nat
  minImportance : Nat
  wing : Option String
  room : Option String

structure TimelineEntry where
  drawerId : String
  addedAt : String
  importanceStars : Nat
  wing : String
  room : Option String
  preview : String
  previewTruncated : Bool
  originalContentBytes : Nat
deriving DecidableEq, Repr

structure TimelineReport where
  totalInWindow : Nat
  returned : Nat
  entries : List TimelineEntry
deriving DecidableEq, Repr

def buildEntry (row : SearchRow) : TimelineEntry :=
  let preview := truncate row.content (if 200 < row.content.toList.length then 199 else 200)
  ⟨row.id, formatDisplayAddedAt row.addedAt, (max 0 (min 5 row.importance)).toNat, row.wing, row.room, preview.1,
    preview.2, row.content.utf8ByteSize⟩

def isInTimeline (request : TimelineQuery) (since untilCutoff : Int) (row : SearchRow) : Bool :=
  request.minImportance ≤ row.importance && request.wing.all (· = row.wing) && request.room.all (some · = row.room) &&
    (parseAddedAt row.addedAt).any fun addedAt => since ≤ addedAt && addedAt < untilCutoff

/-- `build_timeline_report` after the bounds of its window have been read. -/
def buildTimelineReport (db : SearchDb) (request : TimelineQuery) (since untilCutoff : Int) : TimelineReport :=
  let filtered := (queryScopedRows db request.scope).filter (isInTimeline request since untilCutoff)
  let entries := (filtered.take request.topK).map buildEntry
  ⟨filtered.length, entries.length, entries⟩

structure PrimingDrawer where
  id : String
  addedAt : String
  importanceStars : Int
  wing : String
  room : String
  preview : String
deriving DecidableEq, Repr

structure PrimingStats where
  total : Nat
  recent7d : Nat
  topWings : List (String × Nat)
  embedderStatus : String
deriving DecidableEq, Repr

structure PrimingReport where
  drawers : List PrimingDrawer
  stats : Option PrimingStats
  budgetUsedTokens : Nat
  truncated : Bool
deriving DecidableEq, Repr

def primeLegend : String :=
  "Legend: more stars mean higher importance; format <added_at> <stars> <wing>/<room> <id> — <preview>"

def primePreviewChars : Nat := 120

def formatStars (importanceStars : Int) : String :=
  if importanceStars ≤ 0 then "-" else String.ofList (List.replicate (min 5 importanceStars).toNat '★')

def formatTopWings (topWings : List (String × Nat)) : String :=
  if topWings = [] then "none"
  else ", ".intercalate (topWings.map fun entry => entry.1 ++ "(" ++ entry.2.repr ++ ")")

def estimateTokens (text : String) : Nat := (text.toList.length + 3) / 4

def PrimingDrawer.fixed (drawer : PrimingDrawer) : String :=
  drawer.addedAt ++ " " ++ formatStars drawer.importanceStars ++ " " ++ drawer.wing ++ "/" ++ drawer.room ++ " " ++
    drawer.id ++ " — "

def estimateDrawerTokens (drawer : PrimingDrawer) : Nat := estimateTokens (drawer.fixed ++ drawer.preview)

def estimateStatsTokens (stats : PrimingStats) : Nat :=
  estimateTokens ("total=" ++ stats.total.repr ++ "\nrecent_7d=" ++ stats.recent7d.repr ++ "\ntop_wings=" ++
    formatTopWings stats.topWings ++ "\nembedder_status=" ++ stats.embedderStatus)

def buildDrawer (row : SearchRow) (previewChars : Nat) : PrimingDrawer where
  id := row.id
  addedAt := formatDisplayAddedAt row.addedAt
  importanceStars := max 0 (min 5 row.importance)
  wing := row.wing
  room := row.room.getD "default"
  preview := (truncate row.content (min previewChars primePreviewChars)).1

def fitDrawerToBudget (row : SearchRow) (availableTokens : Nat) : PrimingDrawer :=
  let full := buildDrawer row primePreviewChars
  if estimateDrawerTokens full ≤ availableTokens then full
  else
    let fixedTokens := estimateDrawerTokens { full with preview := "" }
    buildDrawer row (max 1 (min primePreviewChars ((availableTokens - fixedTokens) * 4)))

/-- The loop of `build_priming_report`, with the tokens used and the drawers taken so far. -/
def fillBudget (tokenBudget used : Nat) (drawers : List PrimingDrawer) : List SearchRow → Nat × List PrimingDrawer
  | [] => (used, drawers)
  | row :: rows =>
    let candidate := buildDrawer row primePreviewChars
    if used + estimateDrawerTokens candidate ≤ tokenBudget then
      fillBudget tokenBudget (used + estimateDrawerTokens candidate) (drawers ++ [candidate]) rows
    else if drawers = [] then
      let fitted := fitDrawerToBudget row (tokenBudget - used)
      (used + estimateDrawerTokens fitted, [fitted])
    else (used, drawers)

def baseTokens (stats : Option PrimingStats) : Nat :=
  estimateTokens primeLegend + (stats.map estimateStatsTokens).getD 0

/-- `build_priming_report` after its query: the drawers in the window, and the statistics if they are asked for. -/
def primingReport (stats : Option PrimingStats) (tokenBudget : Nat) (filtered : List SearchRow) : PrimingReport :=
  if filtered = [] then ⟨[], stats, 0, false⟩
  else
    let filled := fillBudget tokenBudget (baseTokens stats) [] filtered
    ⟨filled.2, stats, filled.1, filled.2.length < filtered.length⟩

def isPrimed (sinceCutoff : Option Int) (row : SearchRow) : Bool :=
  sinceCutoff.all fun cutoff => (parseAddedAt row.addedAt).any fun addedAt => cutoff ≤ addedAt

def buildPrimingReport (db : SearchDb) (scope : ProjectFilterMode) (sinceCutoff : Option Int)
    (stats : Option PrimingStats) (tokenBudget : Nat) : PrimingReport :=
  primingReport stats tokenBudget ((queryScopedRows db scope).filter (isPrimed sinceCutoff))

end Mempal.Reports

import Mempal.Search.Edits

set_option autoImplicit false

/-! To each side of a result the lookup attaches the first drawer, by id, that has the file, the wing, the room and the
position. It does not ask for the project. -/

namespace Mempal.Search

open Foundation

def ChunkNeighbors.chunks (neighbors : ChunkNeighbors) : List NeighborChunk :=
  neighbors.prev.toList ++ neighbors.next.toList

def SearchResult.chunks (result : SearchResult) : List NeighborChunk :=
  (result.neighbors.map ChunkNeighbors.chunks).getD []

def BelongsElsewhere (db : SearchDb) (p id : String) : Prop :=
  ∃ row ∈ db.drawers.rows, row.id = id ∧ row.projectId.any (· ≠ p) = true

/-- The chunk that a row gives at a position; positions outside `u32` are passed over. -/
def chunkAt (position : Int) (row : SearchRow) : Option NeighborChunk :=
  if row.chunkIndex = some position ∧ 0 ≤ position ∧ position < 2 ^ 32 then
    some ⟨row.id, row.content, position.toNat⟩
  else none

/-- Of the drawers with one of the two positions next to a chunk, the first by id does not belong to another
project. -/
def FirstOwned (db : SearchDb) (p sourceFile wing : String) (room : Option String) (index : Int) : Prop :=
  ∀ row ∈ db.drawers.rows, isNeighbor sourceFile wing room index row = true →
    ∀ position, (chunkAt position row).isSome = true → row.projectId.any (· ≠ p) = true →
      ∃ first ∈ db.drawers.rows, isNeighbor sourceFile wing room index first = true ∧
        first.chunkIndex = some position ∧ first.id < row.id

variable {position : Int} {row : SearchRow} {chunk : NeighborChunk}

theorem chunkAt_eq_some_iff :
    chunkAt position row = some chunk ↔
      row.chunkIndex = some position ∧ (0 ≤ position ∧ position < 2 ^ 32) ∧
        chunk = ⟨row.id, row.content, position.toNat⟩ := by
  unfold chunkAt
  split
  · rename_i h
    rw [Option.some.injEq]
    exact ⟨fun hEq => ⟨h.1, h.2, hEq.symm⟩, fun hAll => hAll.2.2.symm⟩
  · rename_i h
    constructor
    · rintro ⟨⟩
    · rintro ⟨hIndex, hRange, _⟩
      exact absurd ⟨hIndex, hRange⟩ h

theorem takeNeighbor_eq (index : Int) (neighbors : ChunkNeighbors) (row : SearchRow) :
    takeNeighbor index neighbors row =
      ⟨neighbors.prev.or (chunkAt (index - 1) row), neighbors.next.or (chunkAt (index + 1) row)⟩ := by
  obtain ⟨prev, next⟩ := neighbors
  unfold takeNeighbor chunkAt
  cases row.chunkIndex with
  | none => simp
  | some rowIndex =>
    simp only [Option.some.injEq, Bool.or_eq_true, decide_eq_true_eq, Bool.and_eq_true, Option.isNone_iff_eq_none]
    by_cases hRange : rowIndex < 0 ∨ 2 ^ 32 ≤ rowIndex
    · have hPrev : ¬ (rowIndex = index - 1 ∧ 0 ≤ index - 1 ∧ index - 1 < 2 ^ 32) := by omega
      have hNext : ¬ (rowIndex = index + 1 ∧ 0 ≤ index + 1 ∧ index + 1 < 2 ^ 32) := by omega
      simp only [if_pos hRange, if_neg hPrev, if_neg hNext, Option.or_none]
    · rw [if_neg hRange]
      by_cases hPrev : rowIndex = index - 1
      · subst hPrev
        have hNext : ¬ index - 1 = index + 1 := by omega
        have hIn : 0 ≤ index - 1 ∧ index - 1 < 2 ^ 32 := by omega
        simp only [hNext, hIn, true_and, false_and, if_true, if_false, Option.or_none]
        cases prev <;> rfl
      · by_cases hNext : rowIndex = index + 1
        · subst hNext
          have hIn : 0 ≤ index + 1 ∧ index + 1 < 2 ^ 32 := by omega
          simp only [hPrev, hIn, true_and, false_and, if_true, if_false, Option.or_none]
          cases next <;> rfl
        · simp [hPrev, hNext]

variable {neighbors : ChunkNeighbors}

theorem foldl_takeNeighbor (index : Int) (rows : List SearchRow) :
    rows.foldl (takeNeighbor index) neighbors =
      ⟨neighbors.prev.or (rows.findSome? (chunkAt (index - 1))),
        neighbors.next.or (rows.findSome? (chunkAt (index + 1)))⟩ := by
  induction rows generalizing neighbors with
  | nil => simp
  | cons row rows ih =>
    rw [List.foldl_cons, ih, takeNeighbor_eq, List.findSome?_cons, List.findSome?_cons]
    cases chunkAt (index - 1) row <;> cases chunkAt (index + 1) row <;> simp

instance : Std.Total chunkOrder where
  total a b := by
    rcases Int.lt_trichotomy (a.chunkIndex.getD 0) (b.chunkIndex.getD 0) with h | h | h
    · exact .inl (.inl h)
    · rcases String.le_total a.id b.id with hId | hId
      · exact .inl (.inr ⟨h, hId⟩)
      · exact .inr (.inr ⟨h.symm, hId⟩)
    · exact .inr (.inl h)

instance : IsTrans SearchRow chunkOrder where
  trans a b c := by
    rintro (hab | ⟨hab, hId⟩) (hbc | ⟨hbc, hId'⟩)
    · exact .inl (Int.lt_trans hab hbc)
    · exact .inl (hbc ▸ hab)
    · exact .inl (hab ▸ hbc)
    · exact .inr ⟨hab.trans hbc, String.le_trans hId hId'⟩

section First
variable {db : SearchDb} {sourceFile wing : String} {room : Option String} {index : Int}

def neighborRows (db : SearchDb) (sourceFile wing : String) (room : Option String) (index : Int) : List SearchRow :=
  (db.drawers.rows.filter (isNeighbor sourceFile wing room index)).insertionSort chunkOrder

theorem mem_neighborRows :
    row ∈ neighborRows db sourceFile wing room index ↔
      row ∈ db.drawers.rows ∧ isNeighbor sourceFile wing room index row = true := by
  rw [neighborRows, List.mem_insertionSort, List.mem_filter]

theorem mem_chunks_neighborChunks :
    chunk ∈ (neighborChunks db sourceFile wing room index).chunks ↔
      ∃ position, (position = index - 1 ∨ position = index + 1) ∧
        (neighborRows db sourceFile wing room index).findSome? (chunkAt position) = some chunk := by
  rw [neighborChunks, foldl_takeNeighbor, ChunkNeighbors.chunks]
  simp only [Option.none_or, List.mem_append, Option.mem_toList]
  constructor
  · rintro (h | h)
    · exact ⟨index - 1, .inl rfl, h⟩
    · exact ⟨index + 1, .inr rfl, h⟩
  · rintro ⟨position, rfl | rfl, h⟩
    · exact .inl h
    · exact .inr h

theorem first_of_findSome?
    (h : (neighborRows db sourceFile wing room index).findSome? (chunkAt position) = some chunk) :
    ∃ row ∈ neighborRows db sourceFile wing room index, chunkAt position row = some chunk ∧
      ∀ other ∈ neighborRows db sourceFile wing room index, other.chunkIndex = some position → row.id ≤ other.id := by
  obtain ⟨before, row, after, hRows, hChunk, hBefore⟩ := List.findSome?_eq_some_iff.mp h
  obtain ⟨hIndex, hRange, _⟩ := chunkAt_eq_some_iff.mp hChunk
  have hSorted : (neighborRows db sourceFile wing room index).Pairwise chunkOrder := List.pairwise_insertionSort _ _
  rw [hRows] at hSorted
  refine ⟨row, by rw [hRows]; simp, hChunk, fun other hOther hOtherIndex => ?_⟩
  rw [hRows, List.mem_append, List.mem_cons] at hOther
  rcases hOther with hOther | rfl | hOther
  · have hNone := hBefore other hOther
    rw [chunkAt, if_pos ⟨hOtherIndex, hRange⟩] at hNone
    cases hNone
  · exact String.le_refl _
  · rcases (List.pairwise_cons.mp (List.pairwise_append.mp hSorted).2.1).1 other hOther with hLt | ⟨_, hId⟩
    · rw [hIndex, hOtherIndex] at hLt
      exact absurd hLt (Int.lt_irrefl _)
    · exact hId

theorem FirstOwned.chunks {p : String} (h : FirstOwned db p sourceFile wing room index) :
    ∀ chunk ∈ (neighborChunks db sourceFile wing room index).chunks, ¬ BelongsElsewhere db p chunk.drawerId := by
  rintro chunk hChunk ⟨foreign, hForeign, hId, hProject⟩
  obtain ⟨position, _, hFound⟩ := mem_chunks_neighborChunks.mp hChunk
  obtain ⟨row, hRow, hAt, hLeast⟩ := first_of_findSome? hFound
  obtain ⟨hMem, hNeighbor⟩ := mem_neighborRows.mp hRow
  obtain ⟨_, _, rfl⟩ := chunkAt_eq_some_iff.mp hAt
  have hSame : foreign = row := Table.eq_of_key_eq (t := db.drawers.toTable) hForeign hMem hId
  subst hSame
  obtain ⟨first, hFirst, hFirstNeighbor, hFirstIndex, hLt⟩ :=
    h foreign hMem hNeighbor position (by rw [hAt]; rfl) hProject
  exact absurd hLt (String.not_lt.mpr (hLeast first (mem_neighborRows.mpr ⟨hFirst, hFirstNeighbor⟩) hFirstIndex))

end First

namespace ForeignEdit

variable {db : SearchDb} {p : String} (edit : ForeignEdit db p)

def applyChunk (chunk : NeighborChunk) : NeighborChunk :=
  if chunk.drawerId = edit.row.id then { chunk with content := edit.content } else chunk

def applyNeighbors (neighbors : ChunkNeighbors) : ChunkNeighbors :=
  ⟨neighbors.prev.map edit.applyChunk, neighbors.next.map edit.applyChunk⟩

theorem takeNeighbor_edit (index : Int) (row : SearchRow) :
    takeNeighbor index (edit.applyNeighbors neighbors) (edit.apply row) =
      edit.applyNeighbors (takeNeighbor index neighbors row) := by
  have hChunk (rowIndex : Int) : (⟨(edit.apply row).id, (edit.apply row).content, rowIndex.toNat⟩ : NeighborChunk) =
      edit.applyChunk ⟨row.id, row.content, rowIndex.toNat⟩ := by
    unfold apply applyChunk
    split <;> rfl
  unfold takeNeighbor
  rw [edit.read_apply (f := fun row => row.chunkIndex) fun _ _ => rfl]
  cases row.chunkIndex with
  | none => rfl
  | some rowIndex =>
    dsimp only
    rw [hChunk]
    simp only [applyNeighbors, Option.isNone_map]
    split
    · rfl
    · split
      · rfl
      · split <;> rfl

theorem neighborChunks_edit (sourceFile wing : String) (room : Option String) (index : Int) :
    neighborChunks edit.result sourceFile wing room index =
      edit.applyNeighbors (neighborChunks db sourceFile wing room index) := by
  have hFold (rows : List SearchRow) (neighbors : ChunkNeighbors) :
      (rows.map edit.apply).foldl (takeNeighbor index) (edit.applyNeighbors neighbors) =
        edit.applyNeighbors (rows.foldl (takeNeighbor index) neighbors) := by
    induction rows generalizing neighbors with
    | nil => rfl
    | cons row rows ih =>
      rw [List.map_cons, List.foldl_cons, List.foldl_cons, edit.takeNeighbor_edit, ih]
  have hOrder (a b : SearchRow) : chunkOrder a b ↔ chunkOrder (edit.apply a) (edit.apply b) := by
    rw [chunkOrder, chunkOrder, edit.read_apply (f := fun row => row.chunkIndex) fun _ _ => rfl,
      edit.read_apply (f := fun row => row.chunkIndex) fun _ _ => rfl,
      edit.read_apply (f := fun row => row.id) fun _ _ => rfl, edit.read_apply (f := fun row => row.id) fun _ _ => rfl]
  rw [neighborChunks, edit.rows_result, List.filter_map, edit.comp_apply fun _ _ => rfl,
    ← List.map_insertionSort chunkOrder chunkOrder edit.apply _ fun a _ b _ => hOrder a b]
  exact hFold _ ⟨none, none⟩

theorem applyNeighbors_of_owned (h : ∀ chunk ∈ neighbors.chunks, ¬ BelongsElsewhere db p chunk.drawerId) :
    edit.applyNeighbors neighbors = neighbors := by
  have hChunk (chunk : NeighborChunk) (hMem : chunk ∈ neighbors.chunks) : edit.applyChunk chunk = chunk :=
    if_neg fun hId => h chunk hMem ⟨edit.row, edit.mem, hId.symm, edit.foreign⟩
  obtain ⟨prev, next⟩ := neighbors
  have hPrev : prev.map edit.applyChunk = prev := by
    cases prev with
    | none => rfl
    | some chunk => exact congrArg some (hChunk chunk (List.mem_append_left _ List.mem_cons_self))
  have hNext : next.map edit.applyChunk = next := by
    cases next with
    | none => rfl
    | some chunk => exact congrArg some (hChunk chunk (List.mem_append_right _ List.mem_cons_self))
  rw [applyNeighbors, hPrev, hNext]

end ForeignEdit

end Mempal.Search

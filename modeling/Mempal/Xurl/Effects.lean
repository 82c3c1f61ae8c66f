import Mempal.Xurl.Store

set_option autoImplicit false

/-! Every write of a turn ends with one row for it: a new row, or the row that the lookup found with the columns of the
`UPDATE`. All other rows stay. -/

namespace Mempal.Xurl

open Foundation

namespace TurnTable

variable {table table' : TurnTable} {row row' : TurnRow}

theorem eq_of_id (hRow : row ∈ table.rows) (hRow' : row' ∈ table.rows) (h : row.id = row'.id) : row = row' :=
  List.inj_on_of_nodup_map table.valid.ids hRow hRow' h

theorem eq_of_slot (hRow : row ∈ table.rows) (hRow' : row' ∈ table.rows) (h : row.slot = row'.slot) : row = row' :=
  List.inj_on_of_nodup_map table.valid.slots hRow hRow' h

theorem eq_of_identity {key : String × String × String} (hRow : row ∈ table.rows) (hRow' : row' ∈ table.rows)
    (h : row.hermesIdentity? = some key) (h' : row'.hermesIdentity? = some key) : row = row' := by
  by_contra hNe
  have hPairs := List.pairwise_filterMap.mp table.valid.identities
  have : Std.Symm fun a a' : TurnRow =>
      ∀ key, a.hermesIdentity? = some key → ∀ key', a'.hermesIdentity? = some key' → key ≠ key' :=
    ⟨fun _ _ hab key hb key' ha hEq => hab key' ha key hb hEq.symm⟩
  exact hPairs.forall hRow hRow' hNe key h key h' rfl

theorem rows_of_checked {rows : List TurnRow} (h : checked rows = some table) : table.rows = rows := by
  unfold checked at h
  split at h
  · cases h
    rfl
  · cases h

variable {f : TurnRow → TurnRow}

theorem mem_update (hMem : row ∈ table.rows) (h : table.update row.id f = some table')
    (r : TurnRow) : r ∈ table'.rows ↔ r = f row ∨ r ∈ table.rows ∧ r ≠ row := by
  rw [rows_of_checked h, List.mem_map]
  constructor
  · rintro ⟨r', hr', rfl⟩
    split
    · rename_i hId
      rw [eq_of_id hr' hMem hId]
      exact .inl rfl
    · rename_i hId
      exact .inr ⟨hr', fun hEq => hId (congrArg TurnRow.id hEq)⟩
  · rintro (rfl | ⟨hr, hNe⟩)
    · exact ⟨row, hMem, if_pos rfl⟩
    · exact ⟨r, hr, if_neg fun hId => hNe (eq_of_id hr hMem hId)⟩

variable {r : TurnRow}

theorem mem_insert (h : table.insert row = some table') : r ∈ table'.rows ↔ r = row ∨ r ∈ table.rows := by
  rw [rows_of_checked h, List.mem_append, List.mem_singleton, or_comm]

theorem mem_delete {id : String} : r ∈ (table.delete id).rows ↔ r ∈ table.rows ∧ r.id ≠ id := by
  simp [delete]

end TurnTable

theorem storedReal_ne (bits : UInt64) : storedReal bits ≠ negativeZero := by
  unfold storedReal
  split
  · decide
  · assumption

theorem stored_eq_self {details : TurnDetails} (h : details.timestampEpoch ≠ negativeZero) :
    details.stored = details := by
  rw [TurnDetails.stored, storedReal, if_neg h]

variable (sha256 : String → List UInt8)

inductive Matches (turn : RawTurn) (row : TurnRow) : Prop where
  | message (hTool : row.tool = turn.tool) (hHermes : turn.tool = .hermes)
      (hProfile : row.hermesProfile = turn.hermesProfile) (hSession : row.sessionId = turn.sessionId)
      (hMessage : row.messageId = turn.messageId)
  | legacy (hTool : row.tool = turn.tool) (hHermes : turn.tool = .hermes) (hSession : row.sessionId = turn.sessionId)
      (hMessage : row.messageId = none) (hNew : turn.messageId ≠ none)
  | index (hPlain : ¬ (turn.tool = .hermes ∧ turn.hermesProfile ≠ none ∧ turn.messageId ≠ none))
      (hTool : row.tool = turn.tool) (hSession : row.sessionId = turn.sessionId)
      (hIndex : row.turnIndex = storageTurnIndex sha256 turn)

variable {sha256}

theorem Matches.tool {turn : RawTurn} {row : TurnRow} (h : Matches sha256 turn row) : row.tool = turn.tool := by
  cases h <;> assumption

theorem Matches.session {turn : RawTurn} {row : TurnRow} (h : Matches sha256 turn row) :
    row.sessionId = turn.sessionId := by
  cases h <;> assumption

theorem Matches.index_of_codex {turn : RawTurn} {row : TurnRow} (h : Matches sha256 turn row)
    (hTool : turn.tool = .codex) : row.turnIndex = storageTurnIndex sha256 turn := by
  cases h with
  | message _ hHermes | legacy _ hHermes => cases hTool.symm.trans hHermes
  | index _ _ _ hIndex => exact hIndex

variable {db db' : TurnDb} {fault : FaultPoint → Bool}

theorem findExistingTurn_some {turn : RawTurn} {row : TurnRow}
    (h : findExistingTurn sha256 db turn = some row) : row ∈ db.turns.rows ∧ Matches sha256 turn row := by
  unfold findExistingTurn at h
  split at h
  · rename_i hHermes
    split at h
    · rename_i found hFind
      cases h
      have hRow := List.find?_some hFind
      simp only [Bool.and_eq_true, decide_eq_true_eq] at hRow
      obtain ⟨⟨⟨hTool, hProfile⟩, hSession⟩, hMessage⟩ := hRow
      exact ⟨List.mem_of_find?_eq_some hFind, .message hTool hHermes.1 hProfile hSession hMessage⟩
    · have hRow := List.find?_some h
      simp only [Bool.and_eq_true, decide_eq_true_eq] at hRow
      obtain ⟨⟨⟨⟨hSession, hTool⟩, _⟩, _⟩, hMessage⟩ := hRow
      exact ⟨List.mem_of_find?_eq_some h, .legacy hTool hHermes.1 hSession hMessage hHermes.2.2⟩
  · rename_i hPlain
    have hRow := List.find?_some h
    simp only [Bool.and_eq_true, decide_eq_true_eq] at hRow
    obtain ⟨⟨hSession, hTool⟩, hIndex⟩ := hRow
    exact ⟨List.mem_of_find?_eq_some h, .index hPlain hTool hSession hIndex⟩

theorem storageTurnIndex_codex {turn : RawTurn} {messageId : String} (hTool : turn.tool = .codex)
    (hMessage : turn.messageId = some messageId) :
    storageTurnIndex sha256 turn = codexTurnIndex sha256 turn.sessionId messageId := by
  simp [storageTurnIndex, hTool, hMessage]

variable (sha256) in
def writtenRow (turn : RawTurn) : Option TurnRow → TurnRow
  | none => newRow sha256 turn
  | some row => row.rewrite turn

section WrittenRow

variable {turn : RawTurn} {found : Option TurnRow}

theorem writtenRow_details : (writtenRow sha256 turn found).details = turn.details.stored := by
  cases found <;> rfl

theorem writtenRow_content : (writtenRow sha256 turn found).content = turn.content := by
  cases found <;> rfl

theorem writtenRow_messageId : (writtenRow sha256 turn found).messageId = turn.messageId := by
  cases found <;> rfl

theorem writtenRow_hermesProfile : (writtenRow sha256 turn found).hermesProfile = turn.hermesProfile := by
  cases found <;> rfl

variable (h : ∀ row, found = some row → Matches sha256 turn row)

include h

theorem writtenRow_tool : (writtenRow sha256 turn found).tool = turn.tool := by
  cases found with
  | none => rfl
  | some row => exact (h row rfl).tool

theorem writtenRow_sessionId : (writtenRow sha256 turn found).sessionId = turn.sessionId := by
  cases found with
  | none => rfl
  | some row => exact (h row rfl).session

theorem writtenRow_turnIndex (hTool : turn.tool = .codex) :
    (writtenRow sha256 turn found).turnIndex = storageTurnIndex sha256 turn := by
  cases found with
  | none => rfl
  | some row => exact (h row rfl).index_of_codex hTool

end WrittenRow

variable (sha256) in
structure GoodRow (row : TurnRow) : Prop where
  codexIndex : ∀ messageId, row.tool = .codex → row.messageId = some messageId →
    row.turnIndex = codexTurnIndex sha256 row.sessionId messageId
  real : row.details.timestampEpoch ≠ negativeZero

variable (sha256) in
def GoodRows (db : TurnDb) : Prop := ∀ row ∈ db.turns.rows, GoodRow sha256 row

theorem goodRow_writtenRow {found : Option TurnRow} {turn : RawTurn}
    (h : ∀ row, found = some row → Matches sha256 turn row) : GoodRow sha256 (writtenRow sha256 turn found) := by
  constructor
  · intro messageId hTool hMessage
    rw [writtenRow_tool h] at hTool
    rw [writtenRow_messageId] at hMessage
    rw [writtenRow_turnIndex h hTool, writtenRow_sessionId h, storageTurnIndex_codex hTool hMessage]
  · rw [writtenRow_details]
    exact storedReal_ne _

variable (sha256) in
structure Wrote (db db' : TurnDb) (turn : RawTurn) (found : Option TurnRow) : Prop where
  rows : ∀ row, row ∈ db'.turns.rows ↔
    row = writtenRow sha256 turn found ∨ row ∈ db.turns.rows ∧ found ≠ some row
  vectors : ∀ vector, vector ∈ db'.vectors ↔
    vector ∈ db.vectors ∧ ∀ row, found = some row → row.content ≠ turn.content → vector.turnId ≠ row.id

variable {outcome : Outcome} {α : Type} {result : TurnDb × Except XurlError α} {scope : Scope}

theorem write_eq_ok {table : Option TurnTable} {outcome' : Outcome} {turn : RawTurn}
    (h : db.write turn table outcome = (db', .ok outcome')) :
    ∃ turns, table = some turns ∧ db' = { db with turns := turns } := by
  unfold TurnDb.write at h
  split at h
  · cases h
  · split at h
    · cases h
    · cases h
      exact ⟨_, rfl, rfl⟩

theorem wrote_update {f : TurnRow → TurnRow} {table : TurnTable} {vectors : List TurnVector} {turn : RawTurn}
    {row : TurnRow} (hMem : row ∈ db.turns.rows) (hTable : db.turns.update row.id f = some table)
    (hf : f row = row.rewrite turn)
    (hVectors : ∀ vector, vector ∈ vectors ↔
      vector ∈ db.vectors ∧ (row.content ≠ turn.content → vector.turnId ≠ row.id)) :
    Wrote sha256 db ⟨table, vectors⟩ turn (some row) := by
  constructor
  · intro r
    rw [TurnTable.mem_update hMem hTable, hf, writtenRow, ne_comm, Ne, Ne, Option.some.injEq]
  · intro vector
    rw [hVectors]
    refine and_congr_right fun _ => ?_
    constructor
    · intro h r hr
      cases hr
      exact h
    · exact fun h => h row rfl

theorem insertTurn_wrote {turn : RawTurn} (hGood : GoodRows sha256 db)
    (h : insertTurn sha256 db turn = (db', .ok outcome)) :
    Wrote sha256 db db' turn (findExistingTurn sha256 db turn) := by
  unfold insertTurn at h
  cases hFind : findExistingTurn sha256 db turn with
  | none =>
    rw [hFind] at h
    obtain ⟨turns, hInsert, rfl⟩ := write_eq_ok h
    refine ⟨fun row => ?_, fun vector => by simp⟩
    rw [TurnTable.mem_insert hInsert, writtenRow]
    simp
  | some row =>
    obtain ⟨hMem, _⟩ := findExistingTurn_some hFind
    simp only [hFind] at h
    split_ifs at h with hContent hDetails
    · -- Nothing is written, and the row is already the one a write would leave.
      cases h
      have hSame : row.rewrite turn = row := by
        rw [TurnRow.rewrite, ← hContent, ← hDetails, stored_eq_self (hGood row hMem).real]
      refine ⟨fun r => ?_, fun vector => by simp [hContent]⟩
      rw [writtenRow, hSame, ne_eq, Option.some.injEq]
      constructor
      · intro hr
        by_cases hEq : row = r
        · exact .inl hEq.symm
        · exact .inr ⟨hr, hEq⟩
      · rintro (rfl | ⟨hr, _⟩)
        · exact hMem
        · exact hr
    · obtain ⟨turns, hUpdate, rfl⟩ := write_eq_ok h
      refine wrote_update hMem hUpdate ?_ fun vector => by simp [hContent]
      rw [TurnRow.redate, TurnRow.rewrite, ← hContent]
    · split at h
      · cases h
      · rename_i written outcome' hWrite
        cases h
        obtain ⟨turns, hUpdate, rfl⟩ := write_eq_ok hWrite
        refine wrote_update hMem hUpdate rfl fun vector => ?_
        simp [hContent]

theorem Wrote.good {turn : RawTurn}
    (h : Wrote sha256 db db' turn (findExistingTurn sha256 db turn)) (hGood : GoodRows sha256 db) :
    GoodRows sha256 db' := by
  intro row hRow
  rcases (h.rows row).mp hRow with rfl | ⟨hOld, _⟩
  · exact goodRow_writtenRow fun found hFound => (findExistingTurn_some hFound).2
  · exact hGood row hOld

variable {stats : InsertStats} {turns : List RawTurn}

theorem insertEach_good {stats' : InsertStats} {index : Nat} (hGood : GoodRows sha256 db)
    (h : insertEach sha256 fault index stats db turns = (db', .ok stats')) : GoodRows sha256 db' := by
  induction turns generalizing index stats db with
  | nil =>
    cases h
    exact hGood
  | cons turn turns ih =>
    unfold insertEach at h
    split at h
    · cases h
    · split at h
      · cases h
      · rename_i written outcome hWrite
        exact ih ((insertTurn_wrote hGood hWrite).good hGood) h

theorem savepoint_ok {a : α} (h : savepoint db result = (db', .ok a)) : result = (db', .ok a) := by
  obtain ⟨working, outcome⟩ := result
  cases outcome <;> cases h
  rfl

theorem savepoint_error {error : XurlError} (h : (savepoint db result).2 = .error error) :
    (savepoint db result).1 = db := by
  unfold savepoint at h ⊢
  split at h
  · rfl
  · cases h

theorem savepoint_keeps {P : TurnDb → Prop} (hBefore : P db) (hAfter : ∀ db' a, result = (db', .ok a) → P db') :
    P (savepoint db result).1 := by
  obtain ⟨working, outcome⟩ := result
  cases outcome with
  | error error => exact hBefore
  | ok a => exact hAfter working a rfl

theorem deleteEach_ok {ids : List String} (h : deleteEach fault db ids = (db', .ok ())) :
    (∀ row, row ∈ db'.turns.rows ↔ row ∈ db.turns.rows ∧ row.id ∉ ids) ∧
      ∀ vector, vector ∈ db'.vectors ↔ vector ∈ db.vectors ∧ vector.turnId ∉ ids := by
  induction ids generalizing db with
  | nil =>
    cases h
    simp
  | cons id ids ih =>
    unfold deleteEach at h
    split at h
    · cases h
    · obtain ⟨hRows, hVectors⟩ := ih h
      constructor
      · intro row
        rw [hRows, TurnTable.mem_delete, List.mem_cons, not_or, and_assoc]
      · intro vector
        rw [hVectors]
        simp [TurnDb.deleteVectors, and_assoc]

theorem reconcileBody_ok (h : reconcileBody sha256 fault scope turns db = (db', .ok stats)) :
    ∃ written inserted, insertEach sha256 fault 0 .zero db turns = (written, .ok inserted) ∧
      deleteEach fault written (staleTurnIds scope turns written) = (db', .ok ()) ∧
      stats = { inserted with removed := (staleTurnIds scope turns written).length } := by
  unfold reconcileBody at h
  split at h
  · cases h
  · rename_i written inserted hInsert
    split at h
    · cases h
    · simp only at h
      split at h
      · cases h
      · rename_i deleted hDelete
        split at h
        · cases h
        · cases h
          exact ⟨written, inserted, savepoint_ok hInsert, hDelete, rfl⟩

theorem reconcileBody_good (hGood : GoodRows sha256 db)
    (h : reconcileBody sha256 fault scope turns db = (db', .ok stats)) : GoodRows sha256 db' := by
  obtain ⟨written, inserted, hInsert, hDelete, _⟩ := reconcileBody_ok h
  have hWritten := insertEach_good hGood hInsert
  intro row hRow
  exact hWritten row (((deleteEach_ok hDelete).1 row).mp hRow).1

theorem step_good {a : (FaultPoint → Bool) × XurlOp} (hGood : GoodRows sha256 db) :
    GoodRows sha256 ((xurlMachine sha256).next db a) := by
  obtain ⟨fault, op⟩ := a
  cases op with
  | importTurns turns =>
    exact savepoint_keeps hGood fun db' stats h => insertEach_good hGood h
  | reconcile scope turns =>
    show GoodRows sha256 (reconcileSnapshot sha256 fault scope turns db).1
    unfold reconcileSnapshot
    split
    · exact hGood
    · exact savepoint_keeps hGood fun db' stats h => reconcileBody_good hGood h
  | writeVector vector =>
    show GoodRows sha256 (writeVector db vector).1
    unfold writeVector
    split <;> exact hGood

variable (sha256) in
theorem reachable_good (ops : List ((FaultPoint → Bool) × XurlOp)) :
    GoodRows sha256 ((xurlMachine sha256).final .empty ops) := by
  refine Machine.invariant (I := GoodRows sha256) (fun _ a hGood => step_good hGood) ?_ ops
  exact List.forall_mem_nil _

end Mempal.Xurl

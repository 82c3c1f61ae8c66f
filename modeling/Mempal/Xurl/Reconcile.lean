import Mempal.Foundation.Fallible
import Mempal.Xurl.Effects

set_option autoImplicit false

/-! A row that a lookup finds keeps its role, and it is found wherever it belongs to. -/

namespace Mempal.Xurl

open Foundation

variable (sha256 : String → List UInt8)

/-- What a stored row and a turn have in common: everything but the id and the index. The stored turns are listed by
their timestamps. -/
structure TurnView where
  sessionId : String
  tool : Tool
  role : Role
  content : String
  details : TurnDetails
deriving DecidableEq

def TurnRow.view (row : TurnRow) : TurnView := ⟨row.sessionId, row.tool, row.role, row.content, row.details⟩

def RawTurn.view (turn : RawTurn) : TurnView := ⟨turn.sessionId, turn.tool, turn.role, turn.content, turn.details⟩

structure Reconciled (scope : Scope) (turns : List RawTurn) (db db' : TurnDb) : Prop where
  rows : ((db'.turns.rows.filter scope.owns).map TurnRow.view).Perm (turns.map RawTurn.view)
  outside : ∀ row, scope.owns row = false → (row ∈ db'.turns.rows ↔ row ∈ db.turns.rows)
  outsideVectors : ∀ row ∈ db.turns.rows, scope.owns row = false → ∀ vector, vector.turnId = row.id →
    (vector ∈ db'.vectors ↔ vector ∈ db.vectors)
  /-- A row that is gone, or whose content is another, has no vector. -/
  oldVectors : ∀ row ∈ db.turns.rows, (∀ row' ∈ db'.turns.rows, row'.id = row.id → row'.content ≠ row.content) →
    ∀ vector ∈ db'.vectors, vector.turnId ≠ row.id
  again : ∀ fault, (reconcileSnapshot sha256 fault scope turns db').1 = db' ∧
    ∀ stats, (reconcileSnapshot sha256 fault scope turns db').2 = .ok stats →
      stats.inserted = 0 ∧ stats.updated = 0 ∧ stats.removed = 0 ∧ stats.skipped = turns.length

structure ReconcileCorrect (fault : FaultPoint → Bool) (scope : Scope) (turns : List RawTurn) (db : TurnDb) :
    Prop where
  ok : ∀ stats, (reconcileSnapshot sha256 fault scope turns db).2 = .ok stats →
    Reconciled sha256 scope turns db (reconcileSnapshot sha256 fault scope turns db).1
  error : ∀ error, (reconcileSnapshot sha256 fault scope turns db).2 = .error error →
    (reconcileSnapshot sha256 fault scope turns db).1 = db

def matched : TurnDb → List RawTurn → List (RawTurn × Option TurnRow)
  | _, [] => []
  | db, turn :: turns => (turn, findExistingTurn sha256 db turn) :: matched (insertTurn sha256 db turn).1 turns

/-- Every row found for a turn has its role and lies in the scope, and no timestamp is negative zero. -/
structure Compatible (scope : Scope) (turns : List RawTurn) (db : TurnDb) : Prop where
  role : ∀ pair ∈ matched sha256 db turns, ∀ row, pair.2 = some row → row.role = pair.1.role
  owned : ∀ pair ∈ matched sha256 db turns, ∀ row, pair.2 = some row → scope.owns row = true
  real : ∀ turn ∈ turns, turn.details.timestampEpoch ≠ negativeZero

/-- The turns of a snapshot have different identities and different hashed indexes. -/
structure Distinct (turns : List RawTurn) : Prop where
  identities : (turns.map RawTurn.identity).Nodup
  collisionFree : ∀ turn ∈ turns, ∀ turn' ∈ turns, turn.sessionId = turn'.sessionId →
    storageTurnIndex sha256 turn = storageTurnIndex sha256 turn' → turn.identity = turn'.identity

variable {row : TurnRow} {pair : RawTurn × Option TurnRow} {found : Option TurnRow} {stats : InsertStats}

section Admits

variable {scope : Scope} {turn : RawTurn}

theorem admits_messageId (h : scope.admits turn = true) : turn.messageId ≠ none := by
  intro hNone
  cases scope with
  | hermes | codex => simp [Scope.admits, isNonEmpty, hNone] at h

structure Carries (turn : RawTurn) (row : TurnRow) : Prop where
  tool : row.tool = turn.tool
  sessionId : row.sessionId = turn.sessionId
  messageId : row.messageId = turn.messageId
  profile : turn.tool = .hermes → row.hermesProfile = turn.hermesProfile

variable {sha256}

theorem carries_writtenRow (h : ∀ row, found = some row → Matches sha256 turn row) :
    Carries turn (writtenRow sha256 turn found) :=
  ⟨writtenRow_tool h, writtenRow_sessionId h, writtenRow_messageId,
    fun _ => writtenRow_hermesProfile⟩

theorem carries_of_seen (hAdmits : scope.admits turn = true) (hOwns : scope.owns row = true)
    (hIdentity : turn.identity = (row.sessionId, row.messageId)) : Carries turn row := by
  obtain ⟨hSession, hMessage⟩ := Prod.mk.inj hIdentity
  have hSome := admits_messageId hAdmits
  cases scope with
  | hermes profile sessionId cwd =>
    simp only [Scope.admits, Scope.owns, Bool.and_eq_true, Bool.or_eq_true, decide_eq_true_eq] at hAdmits hOwns
    obtain ⟨⟨⟨⟨hTool, hProfile⟩, _⟩, _⟩, _⟩ := hAdmits
    obtain ⟨⟨⟨hTool', hProfile'⟩, _⟩, _⟩ := hOwns
    refine ⟨hTool'.trans hTool.symm, hSession.symm, hMessage.symm, fun _ => ?_⟩
    rcases hProfile' with hProfile' | ⟨_, hNone⟩
    · exact hProfile'.trans hProfile.symm
    · exact absurd (hMessage.trans hNone) hSome
  | codex sessionId cwd =>
    simp only [Scope.admits, Scope.owns, Bool.and_eq_true, decide_eq_true_eq] at hAdmits hOwns
    refine ⟨hOwns.1.1.trans hAdmits.1.1.1.symm, hSession.symm, hMessage.symm, fun hTool => ?_⟩
    cases hTool.symm.trans hAdmits.1.1.1

theorem owns_of_admits (hAdmits : scope.admits turn = true) (hCarries : Carries turn row)
    (hPath : row.details.projectPath = turn.details.projectPath) : scope.owns row = true := by
  cases scope with
  | hermes profile sessionId cwd =>
    simp only [Scope.admits, Bool.and_eq_true, Bool.or_eq_true, decide_eq_true_eq] at hAdmits
    obtain ⟨⟨⟨⟨hTool, hProfile⟩, hSession⟩, hIn⟩, _⟩ := hAdmits
    simp only [Scope.owns, Bool.and_eq_true, Bool.or_eq_true, decide_eq_true_eq]
    exact ⟨⟨⟨hCarries.tool.trans hTool, .inl ((hCarries.profile hTool).trans hProfile)⟩,
      hCarries.sessionId ▸ hSession⟩, hPath ▸ hIn⟩
  | codex sessionId cwd =>
    simp only [Scope.admits, Bool.and_eq_true, decide_eq_true_eq] at hAdmits
    obtain ⟨⟨⟨hTool, hSession⟩, hIn⟩, _⟩ := hAdmits
    simp only [Scope.owns, Bool.and_eq_true, decide_eq_true_eq]
    exact ⟨⟨hCarries.tool.trans hTool, hCarries.sessionId.trans hSession⟩, hPath ▸ hIn⟩

theorem admits_kind (h : scope.admits turn = true) :
    turn.tool = .hermes ∧ turn.hermesProfile ≠ none ∨ turn.tool = .codex := by
  cases scope with
  | hermes profile sessionId cwd =>
    simp only [Scope.admits, Bool.and_eq_true, decide_eq_true_eq] at h
    refine .inl ⟨h.1.1.1.1, ?_⟩
    rw [h.1.1.1.2]
    exact Option.some_ne_none profile
  | codex sessionId cwd =>
    simp only [Scope.admits, Bool.and_eq_true, decide_eq_true_eq] at h
    exact .inr h.1.1.1

theorem findExistingTurn_of_carries {db : TurnDb} (hGood : GoodRows sha256 db) (hAdmits : scope.admits turn = true)
    (hMem : row ∈ db.turns.rows) (hCarries : Carries turn row) : findExistingTurn sha256 db turn = some row := by
  obtain ⟨messageId, hMessage⟩ := Option.ne_none_iff_exists'.mp (admits_messageId hAdmits)
  unfold findExistingTurn
  rcases admits_kind hAdmits with ⟨hTool, hProfile⟩ | hTool
  · obtain ⟨profile, hProfile⟩ := Option.ne_none_iff_exists'.mp hProfile
    rw [if_pos ⟨hTool, by rw [hProfile]; exact Option.some_ne_none _, by rw [hMessage]; exact Option.some_ne_none _⟩]
    have hIdentity : ∀ {r : TurnRow}, r.tool = turn.tool → r.hermesProfile = turn.hermesProfile →
        r.sessionId = turn.sessionId → r.messageId = turn.messageId →
        r.hermesIdentity? = some (profile, turn.sessionId, messageId) := by
      intro r hTool' hProfile' hSession' hMessage'
      simp [TurnRow.hermesIdentity?, hTool', hTool, hProfile', hProfile, hMessage', hMessage, hSession']
    cases hFind : db.turns.rows.find? fun row => row.tool = turn.tool && row.hermesProfile = turn.hermesProfile &&
        row.sessionId = turn.sessionId && row.messageId = turn.messageId with
    | none =>
      have hNone := List.find?_eq_none.mp hFind row hMem
      simp [hCarries.tool, hCarries.profile hTool, hCarries.sessionId, hCarries.messageId] at hNone
    | some found =>
      have hFound := List.find?_some hFind
      simp only [Bool.and_eq_true, decide_eq_true_eq] at hFound
      obtain ⟨⟨⟨hTool', hProfile'⟩, hSession'⟩, hMessage'⟩ := hFound
      exact congrArg some (TurnTable.eq_of_identity (List.mem_of_find?_eq_some hFind) hMem
        (hIdentity hTool' hProfile' hSession' hMessage')
        (hIdentity hCarries.tool (hCarries.profile hTool) hCarries.sessionId hCarries.messageId))
  · rw [if_neg fun h => by cases hTool.symm.trans h.1]
    have hIndex : row.turnIndex = storageTurnIndex sha256 turn := by
      rw [storageTurnIndex_codex hTool hMessage, ← hCarries.sessionId]
      exact (hGood row hMem).codexIndex messageId (hCarries.tool.trans hTool) (hCarries.messageId.trans hMessage)
    cases hFind : db.turns.rows.find? fun row => row.sessionId = turn.sessionId && row.tool = turn.tool &&
        row.turnIndex = storageTurnIndex sha256 turn with
    | none =>
      have hNone := List.find?_eq_none.mp hFind row hMem
      simp [hCarries.tool, hCarries.sessionId, hIndex] at hNone
    | some found =>
      have hFound := List.find?_some hFind
      simp only [Bool.and_eq_true, decide_eq_true_eq] at hFound
      obtain ⟨⟨hSession', hTool'⟩, hIndex'⟩ := hFound
      refine congrArg some (TurnTable.eq_of_slot (List.mem_of_find?_eq_some hFind) hMem ?_)
      simp only [TurnRow.slot, hSession', hTool', hIndex', hCarries.sessionId, hCarries.tool, hIndex]

theorem carries_unique {db : TurnDb} {row' : TurnRow} (hGood : GoodRows sha256 db) (hAdmits : scope.admits turn = true)
    (hMem : row ∈ db.turns.rows) (hMem' : row' ∈ db.turns.rows) (hCarries : Carries turn row)
    (hCarries' : Carries turn row') : row = row' :=
  Option.some.inj ((findExistingTurn_of_carries hGood hAdmits hMem hCarries).symm.trans
    (findExistingTurn_of_carries hGood hAdmits hMem' hCarries'))

theorem not_matches_writtenRow {turn' : RawTurn} (hAdmits : scope.admits turn = true)
    (hAdmits' : scope.admits turn' = true) (hNe : turn.identity ≠ turn'.identity)
    (hFree : turn.sessionId = turn'.sessionId → storageTurnIndex sha256 turn = storageTurnIndex sha256 turn' →
      turn.identity = turn'.identity) (hFound : ∀ row, found = some row → Matches sha256 turn row) :
    ¬ Matches sha256 turn' (writtenRow sha256 turn found) := by
  intro hMatches
  have hSession : turn.sessionId = turn'.sessionId := (writtenRow_sessionId hFound).symm.trans hMatches.session
  cases hMatches with
  | message _ _ _ _ hMessage =>
    rw [writtenRow_messageId] at hMessage
    exact hNe (Prod.ext hSession hMessage)
  | legacy _ _ _ hMessage =>
    rw [writtenRow_messageId] at hMessage
    exact admits_messageId hAdmits hMessage
  | index hPlain hTool _ hIndex =>
    have hCodex : turn'.tool = .codex := by
      rcases admits_kind hAdmits' with ⟨hHermes, hProfile⟩ | hCodex
      · exact absurd ⟨hHermes, hProfile, admits_messageId hAdmits'⟩ hPlain
      · exact hCodex
    have hCodex' : turn.tool = .codex := (writtenRow_tool hFound).symm.trans (hTool.trans hCodex)
    exact hNe (hFree hSession ((writtenRow_turnIndex hFound hCodex').symm.trans hIndex))

end Admits

theorem matched_cons {db : TurnDb} {turn : RawTurn} {turns : List RawTurn} :
    matched sha256 db (turn :: turns) =
      (turn, findExistingTurn sha256 db turn) :: matched sha256 (insertTurn sha256 db turn).1 turns := rfl

theorem matched_map_fst (db : TurnDb) (turns : List RawTurn) : (matched sha256 db turns).map Prod.fst = turns := by
  induction turns generalizing db with
  | nil => rfl
  | cons turn turns ih => rw [matched_cons, List.map_cons, ih]

theorem matches_of_matched {db : TurnDb} {turns : List RawTurn} (h : pair ∈ matched sha256 db turns) :
    pair.1 ∈ turns ∧ ∀ row, pair.2 = some row → Matches sha256 pair.1 row := by
  induction turns generalizing db with
  | nil => cases h
  | cons turn turns ih =>
    rw [matched_cons, List.mem_cons] at h
    rcases h with rfl | h
    · exact ⟨List.mem_cons_self, fun row hRow => (findExistingTurn_some hRow).2⟩
    · exact ⟨List.mem_cons_of_mem _ (ih h).1, (ih h).2⟩

def written (pair : RawTurn × Option TurnRow) : TurnRow := writtenRow sha256 pair.1 pair.2

structure Loaded (turns : List RawTurn) (db db' : TurnDb) : Prop where
  good : GoodRows sha256 db'
  found : ∀ pair ∈ matched sha256 db turns, ∀ row, pair.2 = some row → row ∈ db.turns.rows
  rows : ∀ row, row ∈ db'.turns.rows ↔ (∃ pair ∈ matched sha256 db turns, row = written sha256 pair) ∨
    row ∈ db.turns.rows ∧ ∀ pair ∈ matched sha256 db turns, pair.2 ≠ some row
  vectors : ∀ vector, vector ∈ db'.vectors ↔ vector ∈ db.vectors ∧
    ∀ pair ∈ matched sha256 db turns, ∀ row, pair.2 = some row → row.content ≠ pair.1.content →
      vector.turnId ≠ row.id

theorem Distinct.tail {turns : List RawTurn} {turn : RawTurn} (h : Distinct sha256 (turn :: turns)) :
    Distinct sha256 turns where
  identities := (List.nodup_cons.mp h.identities).2
  collisionFree t ht t' ht' := h.collisionFree t (List.mem_cons_of_mem _ ht) t' (List.mem_cons_of_mem _ ht')

variable {sha256} in
theorem Loaded.cons {turns : List RawTurn} {db db₁ db' : TurnDb} {scope : Scope} {turn : RawTurn}
    (hAdmits : ∀ t ∈ turn :: turns, scope.admits t = true) (hDistinct : Distinct sha256 (turn :: turns))
    (hWrote : Wrote sha256 db db₁ turn (findExistingTurn sha256 db turn)) (hNext : (insertTurn sha256 db turn).1 = db₁)
    (hLoaded : Loaded sha256 turns db₁ db') : Loaded sha256 (turn :: turns) db db' := by
  -- No later lookup finds the row of this turn.
  have hApart : ∀ pair ∈ matched sha256 db₁ turns,
      pair.2 ≠ some (writtenRow sha256 turn (findExistingTurn sha256 db turn)) := by
    intro pair hPair hEq
    obtain ⟨hTurn, hMatches⟩ := matches_of_matched sha256 hPair
    have hNe : turn.identity ≠ pair.1.identity := fun h =>
      (List.nodup_cons.mp hDistinct.identities).1 (h ▸ List.mem_map_of_mem hTurn)
    exact not_matches_writtenRow (hAdmits turn List.mem_cons_self)
      (hAdmits pair.1 (List.mem_cons_of_mem _ hTurn)) hNe
      (hDistinct.collisionFree turn List.mem_cons_self pair.1 (List.mem_cons_of_mem _ hTurn))
      (fun row hRow => (findExistingTurn_some hRow).2) (hMatches _ hEq)
  refine ⟨hLoaded.good, ?_, ?_, ?_⟩
  · rw [matched_cons, hNext, List.forall_mem_cons]
    refine ⟨fun row hRow => (findExistingTurn_some hRow).1, fun pair hPair row hRow => ?_⟩
    rcases (hWrote.rows row).mp (hLoaded.found pair hPair row hRow) with rfl | ⟨hOld, _⟩
    · exact absurd hRow (hApart pair hPair)
    · exact hOld
  · intro row
    rw [hLoaded.rows, matched_cons, hNext, hWrote.rows, List.exists_mem_cons_iff, List.forall_mem_cons]
    constructor
    · rintro (hLater | ⟨rfl | ⟨hOld, hHere⟩, hRest⟩)
      · exact .inl (.inr hLater)
      · exact .inl (.inl rfl)
      · exact .inr ⟨hOld, hHere, hRest⟩
    · rintro ((rfl | hLater) | ⟨hOld, hHere, hRest⟩)
      · exact .inr ⟨.inl rfl, hApart⟩
      · exact .inl hLater
      · exact .inr ⟨.inr ⟨hOld, hHere⟩, hRest⟩
  · intro vector
    rw [hLoaded.vectors, matched_cons, hNext, hWrote.vectors, List.forall_mem_cons, and_assoc]

variable {fault : FaultPoint → Bool}

theorem insertEach_loaded {db db' : TurnDb} {turns : List RawTurn} {stats' : InsertStats} {scope : Scope} {index : Nat}
    (hGood : GoodRows sha256 db) (hAdmits : ∀ turn ∈ turns, scope.admits turn = true)
    (hDistinct : Distinct sha256 turns) (h : insertEach sha256 fault index stats db turns = (db', .ok stats')) :
    Loaded sha256 turns db db' := by
  induction turns generalizing index stats db with
  | nil =>
    cases h
    refine ⟨hGood, List.forall_mem_nil _, fun row => ?_, fun vector => ?_⟩ <;> simp [matched]
  | cons turn turns ih =>
    unfold insertEach at h
    split at h
    · cases h
    · split at h
      · cases h
      · rename_i next outcome hWrite
        have hWrote := insertTurn_wrote hGood hWrite
        have hRest := ih (hWrote.good hGood) (fun t ht => hAdmits t (List.mem_cons_of_mem _ ht))
          (hDistinct.tail sha256) h
        exact .cons hAdmits hDistinct hWrote (by rw [hWrite]) hRest

theorem validateCodexTurns_ok {turns : List RawTurn} {scope : Scope} {seen : List (Option String)}
    (h : scope.validateCodexTurns seen turns = .ok ()) : ∀ turn ∈ turns, scope.admits turn = true := by
  induction turns generalizing seen with
  | nil => exact List.forall_mem_nil _
  | cons turn turns ih =>
    have hTurn : (if !isNonEmpty turn.messageId then Except.error (_ : XurlError)
        else if !scope.admits turn || turn.messageId ∈ seen then .error _
        else scope.validateCodexTurns (turn.messageId :: seen) turns) = .ok () := h
    rw [ite_error_eq_ok_iff, ite_error_eq_ok_iff] at hTurn
    obtain ⟨_, hAdmits, hRest⟩ := hTurn
    simp only [Bool.or_eq_true, Bool.not_eq_true', not_or, Bool.not_eq_false] at hAdmits
    exact List.forall_mem_cons.mpr ⟨hAdmits.1, ih hRest⟩

theorem validate_ok {turns : List RawTurn} {scope : Scope} (h : scope.validate turns = .ok ()) :
    ∀ turn ∈ turns, scope.admits turn = true := by
  cases scope with
  | hermes profile sessionId cwd =>
    simp only [Scope.validate] at h
    split at h
    · cases h
    · split at h
      · rename_i hAll
        exact List.all_eq_true.mp hAll
      · cases h
  | codex sessionId cwd =>
    simp only [Scope.validate] at h
    split at h
    · cases h
    · exact validateCodexTurns_ok h

/-- What is known of a reconcile from `db` to `db'` with `db₁` before the deletions. -/
structure Ran (scope : Scope) (turns : List RawTurn) (db db₁ db' : TurnDb) : Prop where
  admits : ∀ turn ∈ turns, scope.admits turn = true
  loaded : Loaded sha256 turns db db₁
  rows : ∀ row, row ∈ db'.turns.rows ↔ row ∈ db₁.turns.rows ∧ row.id ∉ staleTurnIds scope turns db₁
  vectors : ∀ vector, vector ∈ db'.vectors ↔
    vector ∈ db₁.vectors ∧ vector.turnId ∉ staleTurnIds scope turns db₁

theorem reconcileSnapshot_ran {db : TurnDb} {turns : List RawTurn} {scope : Scope} (hGood : GoodRows sha256 db)
    (hDistinct : Distinct sha256 turns) (h : (reconcileSnapshot sha256 fault scope turns db).2 = .ok stats) :
    scope.validate turns = .ok () ∧
      ∃ db₁, Ran sha256 scope turns db db₁ (reconcileSnapshot sha256 fault scope turns db).1 := by
  cases hValid : scope.validate turns with
  | error error =>
    simp only [reconcileSnapshot, hValid] at h
    cases h
  | ok =>
    have hResult : reconcileSnapshot sha256 fault scope turns db =
        ((reconcileSnapshot sha256 fault scope turns db).1, .ok stats) := Prod.ext rfl h
    generalize (reconcileSnapshot sha256 fault scope turns db).1 = db' at hResult
    simp only [reconcileSnapshot, hValid] at hResult
    obtain ⟨db₁, inserted, hInsert, hDelete, _⟩ := reconcileBody_ok (savepoint_ok hResult)
    obtain ⟨hRows, hVectors⟩ := deleteEach_ok hDelete
    exact ⟨rfl, db₁, validate_ok hValid,
      insertEach_loaded sha256 hGood (validate_ok hValid) hDistinct hInsert, hRows, hVectors⟩

namespace Ran

variable {sha256} {scope : Scope} {turns : List RawTurn} {db db₁ db' : TurnDb}

theorem stale_iff (hMem : row ∈ db₁.turns.rows) :
    row.id ∈ staleTurnIds scope turns db₁ ↔ scope.owns row = true ∧ isSeen turns row = false := by
  simp only [staleTurnIds, List.mem_map, List.mem_filter, Bool.and_eq_true, Bool.not_eq_true']
  constructor
  · rintro ⟨other, ⟨hOther, hStale⟩, hId⟩
    rwa [← TurnTable.eq_of_id hOther hMem hId]
  · exact fun h => ⟨row, ⟨hMem, h⟩, rfl⟩

theorem written_carries (hPair : pair ∈ matched sha256 db turns) :
    Carries pair.1 (written sha256 pair) := carries_writtenRow (matches_of_matched sha256 hPair).2

theorem exists_pair (db : TurnDb) {turn : RawTurn} (hTurn : turn ∈ turns) :
    ∃ pair ∈ matched sha256 db turns, pair.1 = turn := by
  rw [← matched_map_fst sha256 db turns] at hTurn
  obtain ⟨pair, hPair, hEq⟩ := List.mem_map.mp hTurn
  exact ⟨pair, hPair, hEq⟩

theorem view_written (hCompatible : Compatible sha256 scope turns db) (hPair : pair ∈ matched sha256 db turns) :
    (written sha256 pair).view = pair.1.view := by
  have hCarries := written_carries hPair
  have hReal := hCompatible.real pair.1 (matches_of_matched sha256 hPair).1
  have hRole : (written sha256 pair).role = pair.1.role := by
    cases hSome : pair.2 with
    | none =>
      rw [written, hSome]
      rfl
    | some row =>
      rw [written, hSome]
      exact hCompatible.role pair hPair row hSome
  rw [TurnRow.view, RawTurn.view, hCarries.sessionId, hCarries.tool, hRole, written, writtenRow_content,
    writtenRow_details, stored_eq_self hReal]

theorem unmatched_of_outside (hCompatible : Compatible sha256 scope turns db)
    (hOutside : scope.owns row = false) : ∀ pair ∈ matched sha256 db turns, pair.2 ≠ some row := by
  intro pair hPair hSome
  rw [hCompatible.owned pair hPair row hSome] at hOutside
  cases hOutside

variable (h : Ran sha256 scope turns db db₁ db')

include h

section
variable (hPair : pair ∈ matched sha256 db turns)
include hPair

theorem written_owned : scope.owns (written sha256 pair) = true := by
  refine owns_of_admits (h.admits pair.1 (matches_of_matched sha256 hPair).1) (written_carries hPair) ?_
  rw [written, writtenRow_details]
  rfl

theorem written_seen : isSeen turns (written sha256 pair) = true := by
  obtain ⟨hTurn, _⟩ := matches_of_matched sha256 hPair
  have hCarries := written_carries hPair
  simp only [isSeen, Bool.and_eq_true, decide_eq_true_eq, List.any_eq_true]
  refine ⟨?_, pair.1, hTurn, ?_⟩
  · rw [hCarries.messageId]
    exact admits_messageId (h.admits pair.1 hTurn)
  · rw [hCarries.sessionId, hCarries.messageId]
    rfl

theorem written_mem : written sha256 pair ∈ db'.turns.rows := by
  have hMem : written sha256 pair ∈ db₁.turns.rows := (h.loaded.rows _).mpr (.inl ⟨pair, hPair, rfl⟩)
  refine (h.rows _).mpr ⟨hMem, fun hStale => ?_⟩
  have hUnseen := ((stale_iff hMem).mp hStale).2
  rw [h.written_seen hPair] at hUnseen
  cases hUnseen

theorem eq_written (hMem : row ∈ db'.turns.rows) (hCarries : Carries pair.1 row) : row = written sha256 pair :=
  carries_unique h.loaded.good (h.admits pair.1 (matches_of_matched sha256 hPair).1) ((h.rows row).mp hMem).1
    ((h.rows _).mp (h.written_mem hPair)).1 hCarries (written_carries hPair)

end

theorem owned_iff (row : TurnRow) : row ∈ db'.turns.rows ∧ scope.owns row = true ↔
    ∃ pair ∈ matched sha256 db turns, row = written sha256 pair := by
  constructor
  · rintro ⟨hMem, hOwns⟩
    obtain ⟨hMem₁, hKept⟩ := (h.rows row).mp hMem
    have hSeen : isSeen turns row = true := by
      cases hSeen : isSeen turns row with
      | true => rfl
      | false => exact absurd ((stale_iff hMem₁).mpr ⟨hOwns, hSeen⟩) hKept
    simp only [isSeen, Bool.and_eq_true, decide_eq_true_eq, List.any_eq_true] at hSeen
    obtain ⟨_, turn, hTurn, hIdentity⟩ := hSeen
    obtain ⟨pair, hPair, rfl⟩ := exists_pair db hTurn
    exact ⟨pair, hPair, h.eq_written hPair hMem (carries_of_seen (h.admits pair.1 hTurn) hOwns hIdentity)⟩
  · rintro ⟨pair, hPair, rfl⟩
    exact ⟨h.written_mem hPair, h.written_owned hPair⟩

theorem owned_perm (hDistinct : Distinct sha256 turns) :
    (db'.turns.rows.filter scope.owns).Perm ((matched sha256 db turns).map (written sha256)) := by
  have hLeft : (db'.turns.rows.filter scope.owns).Nodup := (List.Nodup.of_map _ db'.turns.valid.ids).filter _
  have hRight : ((matched sha256 db turns).map (written sha256)).Nodup := by
    refine List.Nodup.of_map (fun row => (row.sessionId, row.messageId)) ?_
    have hSame : ((matched sha256 db turns).map (written sha256)).map (fun row => (row.sessionId, row.messageId)) =
        turns.map RawTurn.identity := by
      conv_rhs => rw [← matched_map_fst sha256 db turns]
      rw [List.map_map, List.map_map]
      refine List.map_congr_left fun pair hPair => ?_
      have hCarries := written_carries hPair
      simp only [Function.comp_apply, hCarries.sessionId, hCarries.messageId]
      rfl
    rw [hSame]
    exact hDistinct.identities
  refine (List.perm_ext_iff_of_nodup hLeft hRight).mpr fun row => ?_
  rw [List.mem_filter, h.owned_iff, List.mem_map]
  simp only [eq_comm]

theorem oldVectors (row : TurnRow) (hRow : row ∈ db.turns.rows)
    (hOld : ∀ row' ∈ db'.turns.rows, row'.id = row.id → row'.content ≠ row.content) (vector : TurnVector)
    (hVector : vector ∈ db'.vectors) : vector.turnId ≠ row.id := by
  obtain ⟨hVector₁, hKept⟩ := (h.vectors vector).mp hVector
  by_cases hFound : ∃ pair ∈ matched sha256 db turns, pair.2 = some row
  · obtain ⟨pair, hPair, hSome⟩ := hFound
    have hId : (written sha256 pair).id = row.id := by
      rw [written, hSome]
      rfl
    have hContent := hOld _ (h.written_mem hPair) hId
    rw [written, writtenRow_content] at hContent
    exact ((h.loaded.vectors vector).mp hVector₁).2 pair hPair row hSome hContent.symm
  · have hMem : row ∈ db₁.turns.rows :=
      (h.loaded.rows row).mpr (.inr ⟨hRow, fun pair hPair hSome => hFound ⟨pair, hPair, hSome⟩⟩)
    -- The row would still be there with its content, unless it was deleted with its vectors.
    have hStale : row.id ∈ staleTurnIds scope turns db₁ := by
      by_contra hStale
      exact hOld row ((h.rows row).mpr ⟨hMem, hStale⟩) rfl rfl
    exact fun hEq => hKept (hEq ▸ hStale)

section Sufficient

variable (hCompatible : Compatible sha256 scope turns db)

include hCompatible

theorem view_perm (hDistinct : Distinct sha256 turns) :
    ((db'.turns.rows.filter scope.owns).map TurnRow.view).Perm (turns.map RawTurn.view) := by
  have hViews : ((matched sha256 db turns).map (written sha256)).map TurnRow.view = turns.map RawTurn.view := by
    conv_rhs => rw [← matched_map_fst sha256 db turns]
    rw [List.map_map, List.map_map]
    exact List.map_congr_left fun pair hPair => view_written hCompatible hPair
  exact hViews ▸ (h.owned_perm hDistinct).map TurnRow.view

theorem outside (row : TurnRow) (hOutside : scope.owns row = false) :
    row ∈ db'.turns.rows ↔ row ∈ db.turns.rows := by
  constructor
  · intro hMem
    rcases (h.loaded.rows row).mp ((h.rows row).mp hMem).1 with ⟨pair, hPair, rfl⟩ | ⟨hOld, _⟩
    · rw [h.written_owned hPair] at hOutside
      cases hOutside
    · exact hOld
  · intro hMem
    have hMem₁ : row ∈ db₁.turns.rows :=
      (h.loaded.rows row).mpr (.inr ⟨hMem, unmatched_of_outside hCompatible hOutside⟩)
    refine (h.rows row).mpr ⟨hMem₁, fun hStale => ?_⟩
    rw [((stale_iff hMem₁).mp hStale).1] at hOutside
    cases hOutside

theorem outsideVectors (row : TurnRow) (hRow : row ∈ db.turns.rows) (hOutside : scope.owns row = false)
    (vector : TurnVector) (hId : vector.turnId = row.id) : vector ∈ db'.vectors ↔ vector ∈ db.vectors := by
  have hUnmatched := unmatched_of_outside hCompatible hOutside
  have hMem₁ : row ∈ db₁.turns.rows := (h.loaded.rows row).mpr (.inr ⟨hRow, hUnmatched⟩)
  rw [h.vectors, h.loaded.vectors, and_assoc, and_iff_left_iff_imp]
  refine fun _ => ⟨fun pair hPair found hFound _ hEq => ?_, fun hStale => ?_⟩
  · have hSame := TurnTable.eq_of_id (h.loaded.found pair hPair found hFound) hRow (hEq.symm.trans hId)
    exact hUnmatched pair hPair (hSame ▸ hFound)
  · rw [hId] at hStale
    rw [((stale_iff hMem₁).mp hStale).1] at hOutside
    cases hOutside

theorem insertTurn_skips {turn : RawTurn} (hTurn : turn ∈ turns) (hGood : GoodRows sha256 db') :
    ∃ id, insertTurn sha256 db' turn = (db', .ok (.skipped id)) := by
  obtain ⟨pair, hPair, rfl⟩ := exists_pair db hTurn
  refine ⟨(written sha256 pair).id, ?_⟩
  have hFind := findExistingTurn_of_carries hGood (h.admits pair.1 hTurn) (h.written_mem hPair)
    (written_carries hPair)
  have hDetails : (written sha256 pair).details = pair.1.details := by
    rw [written, writtenRow_details, stored_eq_self (hCompatible.real pair.1 hTurn)]
  have hContent : (written sha256 pair).content = pair.1.content := writtenRow_content
  simp only [insertTurn, hFind]
  rw [if_pos hContent, if_pos hDetails]

end Sufficient

theorem staleTurnIds_eq_nil : staleTurnIds scope turns db' = [] := by
  rw [staleTurnIds, List.map_eq_nil_iff, List.filter_eq_nil_iff]
  intro row hMem hStale
  simp only [Bool.and_eq_true, Bool.not_eq_true'] at hStale
  obtain ⟨pair, hPair, rfl⟩ := (h.owned_iff row).mp ⟨hMem, hStale.1⟩
  rw [h.written_seen hPair] at hStale
  cases hStale.2

theorem compatible_of_reconciled (hDone : Reconciled sha256 scope turns db db') :
    Compatible sha256 scope turns db := by
  -- The row that corresponds to a turn is the one written for it.
  have hView : ∀ pair ∈ matched sha256 db turns, (written sha256 pair).view = pair.1.view := by
    intro pair hPair
    have hMem : pair.1.view ∈ turns.map RawTurn.view := List.mem_map_of_mem (matches_of_matched sha256 hPair).1
    obtain ⟨row, hRow, hEq⟩ := List.mem_map.mp (hDone.rows.mem_iff.mpr hMem)
    simp only [TurnRow.view, RawTurn.view, TurnView.mk.injEq] at hEq
    obtain ⟨hSession, hTool, hRole, hContent, hDetails⟩ := hEq
    have hCarries : Carries pair.1 row := ⟨hTool, hSession,
      congrArg (fun details => details.metadata.messageId) hDetails,
      fun _ => congrArg (fun details => details.metadata.hermesProfile) hDetails⟩
    rw [← h.eq_written hPair (List.mem_filter.mp hRow).1 hCarries]
    simp only [TurnRow.view, RawTurn.view, hSession, hTool, hRole, hContent, hDetails]
  refine ⟨fun pair hPair row hSome => ?_, fun pair hPair row hSome => ?_, fun turn hTurn hZero => ?_⟩
  · have hRole := congrArg TurnView.role (hView pair hPair)
    rw [TurnRow.view, written, hSome] at hRole
    exact hRole
  · cases hOwns : scope.owns row with
    | true => rfl
    | false =>
      have hKept := (hDone.outside row hOwns).mpr (h.loaded.found pair hPair row hSome)
      rcases (h.loaded.rows row).mp ((h.rows row).mp hKept).1 with ⟨pair', hPair', rfl⟩ | ⟨_, hUnmatched⟩
      · rw [h.written_owned hPair'] at hOwns
        cases hOwns
      · exact absurd hSome (hUnmatched pair hPair)
  · obtain ⟨pair, hPair, rfl⟩ := exists_pair db hTurn
    have hDetails := congrArg TurnView.details (hView pair hPair)
    simp only [TurnRow.view, RawTurn.view, written, writtenRow_details] at hDetails
    exact storedReal_ne _ ((congrArg TurnDetails.timestampEpoch hDetails).trans hZero)

end Ran

theorem insertEach_skips {turns : List RawTurn} {db : TurnDb} (fault : FaultPoint → Bool)
    (h : ∀ turn ∈ turns, ∃ id, insertTurn sha256 db turn = (db, .ok (.skipped id)))
    (index : Nat) (stats : InsertStats) :
    (insertEach sha256 fault index stats db turns).1 = db ∧
      ∀ stats', (insertEach sha256 fault index stats db turns).2 = .ok stats' →
        stats'.inserted = stats.inserted ∧ stats'.updated = stats.updated ∧
          stats'.skipped = stats.skipped + turns.length := by
  induction turns generalizing index stats with
  | nil =>
    refine ⟨rfl, fun stats' hOk => ?_⟩
    cases hOk
    exact ⟨rfl, rfl, rfl⟩
  | cons turn turns ih =>
    obtain ⟨⟨id, hTurn⟩, hTurns⟩ := List.forall_mem_cons.mp h
    unfold insertEach
    split
    · exact ⟨rfl, fun stats' hOk => by cases hOk⟩
    · simp only [hTurn]
      obtain ⟨hDb, hStats⟩ := ih hTurns (index + 1) (stats.add (.skipped id))
      refine ⟨hDb, fun stats' hOk => ?_⟩
      obtain ⟨hInserted, hUpdated, hSkipped⟩ := hStats stats' hOk
      refine ⟨hInserted, hUpdated, ?_⟩
      rw [hSkipped, List.length_cons]
      simp only [InsertStats.add]
      omega

theorem reconcileSnapshot_again {turns : List RawTurn} {db : TurnDb} {scope : Scope}
    (hValid : scope.validate turns = .ok ())
    (hSkips : ∀ turn ∈ turns, ∃ id, insertTurn sha256 db turn = (db, .ok (.skipped id)))
    (hStale : staleTurnIds scope turns db = []) (fault : FaultPoint → Bool) :
    (reconcileSnapshot sha256 fault scope turns db).1 = db ∧
      ∀ stats, (reconcileSnapshot sha256 fault scope turns db).2 = .ok stats →
        stats.inserted = 0 ∧ stats.updated = 0 ∧ stats.removed = 0 ∧ stats.skipped = turns.length := by
  obtain ⟨hDb, hStats⟩ := insertEach_skips sha256 fault hSkips 0 .zero
  have hBody : ∀ db' stats, reconcileBody sha256 fault scope turns db = (db', .ok stats) →
      db' = db ∧ stats.inserted = 0 ∧ stats.updated = 0 ∧ stats.removed = 0 ∧ stats.skipped = turns.length := by
    intro db' stats hOk
    obtain ⟨db₁, inserted, hInsert, hDelete, rfl⟩ := reconcileBody_ok hOk
    rw [hInsert] at hDb hStats
    obtain rfl : db₁ = db := hDb
    rw [hStale] at hDelete
    cases hDelete
    obtain ⟨hInserted, hUpdated, hSkipped⟩ := hStats inserted rfl
    exact ⟨rfl, hInserted, hUpdated, by rw [hStale]; rfl, hSkipped.trans (Nat.zero_add _)⟩
  simp only [reconcileSnapshot, hValid]
  constructor
  · exact savepoint_keeps (P := fun db' => db' = db) rfl fun db' stats hOk => (hBody db' stats hOk).1
  · intro stats hOk
    have hResult : savepoint db (reconcileBody sha256 fault scope turns db) =
        ((savepoint db (reconcileBody sha256 fault scope turns db)).1, .ok stats) := Prod.ext rfl hOk
    exact (hBody _ stats (savepoint_ok hResult)).2

theorem reconcileSnapshot_error {turns : List RawTurn} {db : TurnDb} {scope : Scope} {error : XurlError}
    (h : (reconcileSnapshot sha256 fault scope turns db).2 = .error error) :
    (reconcileSnapshot sha256 fault scope turns db).1 = db := by
  unfold reconcileSnapshot at h ⊢
  split
  · rfl
  · rename_i hValid
    rw [hValid] at h
    exact savepoint_error h

/-- A reconcile of a reachable store is correct exactly when, if it succeeds, the rows it found were compatible. -/
theorem reconcile_correct_iff (ops : List ((FaultPoint → Bool) × XurlOp)) (fault : FaultPoint → Bool) (scope : Scope)
    (turns : List RawTurn) (hDistinct : Distinct sha256 turns) :
    ReconcileCorrect sha256 fault scope turns ((xurlMachine sha256).final .empty ops) ↔
      ((∃ stats, (reconcileSnapshot sha256 fault scope turns ((xurlMachine sha256).final .empty ops)).2 = .ok stats) →
        Compatible sha256 scope turns ((xurlMachine sha256).final .empty ops)) := by
  have hGood := reachable_good sha256 ops
  generalize (xurlMachine sha256).final .empty ops = db at hGood
  constructor
  · rintro hCorrect ⟨stats, hOk⟩
    obtain ⟨_, db₁, hRan⟩ := reconcileSnapshot_ran sha256 hGood hDistinct hOk
    exact hRan.compatible_of_reconciled (hCorrect.ok stats hOk)
  · intro hCondition
    refine ⟨fun stats hOk => ?_, fun error hError => reconcileSnapshot_error sha256 hError⟩
    have hCompatible := hCondition ⟨stats, hOk⟩
    obtain ⟨hValid, db₁, hRan⟩ := reconcileSnapshot_ran sha256 hGood hDistinct hOk
    have hGood' : GoodRows sha256 (reconcileSnapshot sha256 fault scope turns db).1 := fun row hRow =>
      hRan.loaded.good row ((hRan.rows row).mp hRow).1
    exact ⟨hRan.view_perm hCompatible hDistinct, hRan.outside hCompatible, hRan.outsideVectors hCompatible,
      hRan.oldVectors, reconcileSnapshot_again sha256 hValid
        (fun turn hTurn => hRan.insertTurn_skips hCompatible hTurn hGood') hRan.staleTurnIds_eq_nil⟩

/-- A hash that tells texts apart by their ends. -/
def backwards (text : String) : List UInt8 := text.toList.reverse.map fun c => UInt8.ofNat c.toNat

def hermesTurn (messageId : String) (role : Role) (content : String) : RawTurn where
  sessionId := "s"
  tool := .hermes
  role := role
  content := content
  turnIndex := 0
  details := ⟨0, none, none, false, .human, ⟨some "default", none, none, some messageId, none, none, none, none⟩⟩

def importThree : List ((FaultPoint → Bool) × XurlOp) :=
  [(fun _ => false, .importTurns
    [hermesTurn "m" .user "old", hermesTurn "n" .assistant "same", hermesTurn "o" .user "gone"])]

def changedSnapshot : List RawTurn :=
  [hermesTurn "m" .user "new", hermesTurn "n" .assistant "same", hermesTurn "p" .assistant "added"]

/-- One turn has a new content, one stays, one goes and one comes. -/
theorem changed_snapshot_reconciled :
    (reconcileSnapshot backwards (fun _ => false) (.hermes "default" none none) changedSnapshot
        ((xurlMachine backwards).final .empty importThree)).1.turns.rows.map (fun row => (row.role, row.content)) =
      [(.user, "new"), (.assistant, "same"), (.assistant, "added")] ∧
    ReconcileCorrect backwards (fun _ => false) (.hermes "default" none none) changedSnapshot
      ((xurlMachine backwards).final .empty importThree) := by
  refine ⟨by decide +kernel, (reconcile_correct_iff backwards importThree (fun _ => false) (.hermes "default" none none)
    changedSnapshot ⟨by decide +kernel, by decide +kernel⟩).mpr fun _ => ⟨?_, ?_, by decide⟩⟩
  · have hRole : ∀ pair ∈ matched backwards ((xurlMachine backwards).final .empty importThree) changedSnapshot,
        pair.2.all (fun row => row.role = pair.1.role) = true := by decide +kernel
    intro pair hPair row hSome
    simpa [hSome] using hRole pair hPair
  · have hOwned : ∀ pair ∈ matched backwards ((xurlMachine backwards).final .empty importThree) changedSnapshot,
        pair.2.all (Scope.hermes "default" none none).owns = true := by decide +kernel
    intro pair hPair row hSome
    simpa [hSome] using hOwned pair hPair

def importUser : List ((FaultPoint → Bool) × XurlOp) := [(fun _ => false, .importTurns [hermesTurn "m" .user "old"])]

/-- The snapshot has the message as an answer, and the stored row stays a question. -/
theorem new_role_not_reconciled :
    ¬ ReconcileCorrect backwards (fun _ => false) (.hermes "default" none none) [hermesTurn "m" .assistant "old"]
      ((xurlMachine backwards).final .empty importUser) := by
  intro h
  refine absurd (h.ok ⟨0, 1, 0, 0, ["turn_006d007300746c75"]⟩ (by decide +kernel)).rows ?_
  decide +kernel

end Mempal.Xurl

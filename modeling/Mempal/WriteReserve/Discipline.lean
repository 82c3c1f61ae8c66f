import Mathlib.Data.List.Basic
import Mempal.WriteReserve.Basic

set_option autoImplicit false

/-! At most two attempts, the second after a rolled back one and the removal of the reserve, one commit, and no trace
of a write that fails. -/

namespace Mempal.WriteReserve

open Foundation

variable {D α : Type}

/-- What every write through the reserve keeps, whatever its body does. -/
structure Bounded (w : Reserved D α) : Prop where
  twice : w.attempts.length ≤ 2
  second : ∀ first second rest, w.attempts = first :: second :: rest →
    (∃ error, first.result = .error error ∧ writeErrorIsSqliteFull error = true) ∧
      first.session.reserve = true ∧ second.start.conn = first.session.conn ∧ second.start.reserve = false
  once : w.attempts.countP (fun attempt => attempt.result.isOk) ≤ 1
  nested : ∀ attempt ∈ w.attempts, attempt.session.reserve = attempt.start.reserve

structure Disciplined (s : Session D) (w : Reserved D α) : Prop extends Bounded w where
  rolledBack : ∀ first second rest, w.attempts = first :: second :: rest →
    first.session.conn = ⟨s.conn.stored, none⟩
  unchanged : ∀ error, w.result = .error error → w.session.conn = ⟨s.conn.stored, none⟩

def Route.bodyEnd (route : Route D) (body : Body D α) (s : Session D) : Option (Session D) :=
  match route with
  | .database fence =>
    match s.begin with
    | (.error _, _) => none
    | (.ok _, s') => some (fenced body.run fence s').2
  | .bootstrap => some (body.run s.rollback).2

/-- Whatever SQLite, the file system and the locks answer, a body whose attempt fails leaves the stored content. -/
def Contained (route : Route D) (body : Body D α) (content : D) : Prop :=
  ∀ s : Session D, s.conn = ⟨content, none⟩ → s.lockHeld = true → ∀ error, (route.attempt body s).result = .error error →
    ∀ s' ∈ route.bodyEnd body s, s'.conn.stored = content

structure SameReserve (s s' : Session D) : Prop where
  reserve : s'.reserve = s.reserve
  lockHeld : s'.lockHeld = s.lockHeld

theorem SameReserve.refl (s : Session D) : SameReserve s s := ⟨rfl, rfl⟩

variable {s s' : Session D}

theorem SameReserve.trans {s'' : Session D} (h : SameReserve s s') (h' : SameReserve s' s'') : SameReserve s s'' :=
  ⟨h'.reserve.trans h.reserve, h'.lockHeld.trans h.lockHeld⟩

variable {body : Session D → Except WriteError α × Session D} {content : D} {route : Route D}

section
variable (hBody : ∀ s, s.lockHeld = true → SameReserve s (body s).2)
include hBody

theorem fenced_sameReserve (fence : List (D → Except WriteError D)) :
    ∀ s : Session D, s.lockHeld = true → SameReserve s (fenced body fence s).2 := by
  induction fence with
  | nil => exact hBody
  | cons check fence ih =>
    intro s hLocked
    have hStatement : SameReserve s (s.statement check).2 := ⟨rfl, rfl⟩
    rw [fenced]
    split
    · rename_i error s' hRun
      rw [hRun] at hStatement
      exact hStatement
    · rename_i content s' hRun
      rw [hRun] at hStatement
      exact hStatement.trans (ih s' (hStatement.lockHeld.trans hLocked))

theorem transaction_sameReserve (hLocked : s.lockHeld = true) : SameReserve s (transaction body s).session := by
  have hBegin : SameReserve s s.begin.2 := ⟨rfl, rfl⟩
  unfold transaction
  split
  · rename_i error s' hRun
    rw [hRun] at hBegin
    exact hBegin
  · rename_i content s' hRun
    rw [hRun] at hBegin
    have hRan := hBegin.trans (hBody s' (hBegin.lockHeld.trans hLocked))
    split
    · rename_i error s'' hEnd
      rw [hEnd] at hRan
      exact ⟨hRan.reserve, hRan.lockHeld⟩
    · rename_i value s'' hEnd
      rw [hEnd] at hRan
      have hCommit : SameReserve s'' s''.commit.2 := ⟨rfl, rfl⟩
      split
      all_goals
        rename_i hDone
        rw [hDone] at hCommit
        exact ⟨(hRan.trans hCommit).reserve, (hRan.trans hCommit).lockHeld⟩

theorem call_sameReserve (entry : Entry) (fence : List (D → Except WriteError D)) (hLocked : s.lockHeld = true) :
    SameReserve s (entry.call fence body s).2 := by
  have hFenced := fenced_sameReserve hBody fence
  unfold Entry.call
  split
  · exact hFenced s hLocked
  · cases entry with
    | reserve =>
      simp only [withWriteReserveRetry, hLocked, Bool.true_or, if_true]
      exact ⟨rfl, hLocked.symm⟩
    | plain => exact transaction_sameReserve hFenced hLocked

end

theorem run_sameReserve (body : Body D α) : ∀ s : Session D, s.lockHeld = true → SameReserve s (body.run s).2 := by
  induction body with
  | done result => exact fun s _ => SameReserve.refl s
  | statement sql next ih =>
    intro s hLocked
    have hStatement : SameReserve s (s.statement sql).2 := ⟨rfl, rfl⟩
    exact hStatement.trans (ih _ _ (hStatement.lockHeld.trans hLocked))
  | control c next ih =>
    intro s hLocked
    have hControl : SameReserve s (c.exec s).2 := by cases c <;> exact ⟨rfl, rfl⟩
    exact hControl.trans (ih _ _ (hControl.lockHeld.trans hLocked))
  | write entry fence inner next ihInner ih =>
    intro s hLocked
    have hCall := call_sameReserve ihInner entry fence hLocked
    exact hCall.trans (ih _ _ (hCall.lockHeld.trans hLocked))

theorem Route.attempt_sameReserve (route : Route D) (body : Body D α) (hLocked : s.lockHeld = true) :
    SameReserve s (route.attempt body s).session := by
  cases route with
  | database fence => exact transaction_sameReserve (fenced_sameReserve (run_sameReserve body) fence) hLocked
  | bootstrap =>
    have hRun := run_sameReserve body s.rollback hLocked
    unfold Route.attempt opening
    dsimp only
    split
    all_goals
      rename_i hEnd
      rw [hEnd] at hRun
      exact ⟨hRun.reserve, hRun.lockHeld⟩

theorem Route.attempt_start {body : Body D α} (route : Route D) (s : Session D) :
    (route.attempt body s).start = s := by
  cases route with
  | database fence =>
    simp only [Route.attempt, transaction]
    split
    · rfl
    · split
      · rfl
      · split <;> rfl
  | bootstrap =>
    simp only [Route.attempt, opening]
    split <;> rfl

theorem Session.begin_cases (hIdle : s.conn.working = none) :
    (∃ error s', s.begin = (.error error, s') ∧ s'.conn = s.conn) ∨
      ∃ s', s.begin = (.ok s.conn.stored, s') ∧ s'.conn = ⟨s.conn.stored, some s.conn.stored⟩ := by
  rcases Connection.begin_of_idle alreadyOpenError (s.fates.headD .runs) hIdle with ⟨error, hBegin⟩ | hBegin
  · exact Or.inl ⟨error, { s with fates := s.fates.tail }, by rw [Session.begin, hBegin], rfl⟩
  · exact Or.inr ⟨{ s with conn := ⟨s.conn.stored, some s.conn.stored⟩, fates := s.fates.tail },
      by rw [Session.begin, hBegin], rfl⟩

theorem Session.begin_ok (h : s.begin = (.ok content, s')) :
    s'.conn.working.isSome = true ∧ s'.conn.stored = s.conn.stored := by
  obtain ⟨hOk, rfl⟩ := Prod.mk.inj h
  exact Connection.begin_ok hOk

theorem Session.commit_error {error : WriteError} (h : s.commit = (.error error, s')) :
    s'.conn.stored = s.conn.stored := by
  obtain ⟨hError, rfl⟩ := Prod.mk.inj h
  exact Connection.commit_error (Prod.ext hError rfl)

theorem Route.attempt_error {body : Body D α} {error : WriteError} (hIdle : s.conn.working = none)
    (h : (route.attempt body s).result = .error error) :
    (route.attempt body s).session.conn =
      ⟨((route.bodyEnd body s).map fun s' => s'.conn.stored).getD s.conn.stored, none⟩ := by
  cases route with
  | database fence =>
    simp only [Route.attempt, Route.bodyEnd, transaction] at h ⊢
    rcases Session.begin_cases hIdle with ⟨error, s', hBegin, hConn⟩ | ⟨s', hBegin, hConn⟩
    · simp only [hBegin, hConn, Option.map_none, Option.getD_none]
      rw [← hIdle]
    · simp only [hBegin] at h ⊢
      generalize hRun : fenced body.run fence s' = out at h ⊢
      obtain ⟨result, s''⟩ := out
      cases result with
      | error error => rfl
      | ok value =>
        dsimp only at h ⊢
        generalize hCommit : s''.commit = done at h ⊢
        obtain ⟨result, after⟩ := done
        cases result with
        | ok content => cases h
        | error error => exact congrArg (Connection.mk · none) (Session.commit_error hCommit)
  | bootstrap =>
    simp only [Route.attempt, Route.bodyEnd, opening] at h ⊢
    generalize body.run s.rollback = out at h ⊢
    obtain ⟨result, s'⟩ := out
    cases result with
    | ok value => cases h
    | error error => rfl

theorem Session.consumeWriteReserve_conn (s : Session D) : s.consumeWriteReserve.2.conn = s.conn := by
  unfold Session.consumeWriteReserve
  split
  · rfl
  · split <;> rfl

theorem Session.consumeWriteReserve_spec (h : s.consumeWriteReserve = (true, s')) :
    s.reserve = true ∧ s'.reserve = false ∧ s'.lockHeld = s.lockHeld := by
  unfold Session.consumeWriteReserve at h
  split at h
  · cases h
  · rename_i hReserve
    split at h <;> cases h
    exact ⟨by simpa using hReserve, rfl, rfl⟩

theorem retryLoop_cases (attempt : Session D → Attempt D α) (s : Session D) :
    (∃ s', retryLoop attempt s = ⟨[attempt s], (attempt s).result, s'⟩ ∧ s'.conn = (attempt s).session.conn) ∨
    (∃ s' error, (attempt s).result = .error error ∧ writeErrorIsSqliteFull error = true ∧
      (attempt s).session.consumeWriteReserve = (true, s') ∧
      retryLoop attempt s = ⟨[attempt s, attempt s'], (attempt s').result, (attempt s').session⟩) := by
  unfold retryLoop
  dsimp only
  cases hResult : (attempt s).result with
  | ok value => exact Or.inl ⟨_, rfl, rfl⟩
  | error error =>
    dsimp only
    split
    · exact Or.inl ⟨_, rfl, rfl⟩
    · rename_i hFull
      have hConn := (attempt s).session.consumeWriteReserve_conn
      generalize hConsume : (attempt s).session.consumeWriteReserve = out at hConn ⊢
      obtain ⟨consumed, s'⟩ := out
      cases consumed with
      | false => exact Or.inl ⟨s', rfl, hConn⟩
      | true => exact Or.inr ⟨s', error, rfl, by simpa using hFull, rfl, rfl⟩

def Session.locked (s : Session D) : Session D := { s with locks := s.locks.tail, lockHeld := true }

theorem Route.through_cases (route : Route D) (body : Body D α) (s : Session D) :
    ((s.lockHeld || !s.locks.headD true) = true ∧ (route.through body s).attempts = [] ∧
      (route.through body s).session.conn = s.conn) ∨
    ((route.through body s).attempts = [route.attempt body s.locked] ∧
      (route.through body s).result = (route.attempt body s.locked).result ∧
      (route.through body s).session.conn = (route.attempt body s.locked).session.conn) ∨
    (∃ (s₁ : Session D) (error : WriteError),
      (route.attempt body s.locked).result = .error error ∧ writeErrorIsSqliteFull error = true ∧
      (route.attempt body s.locked).session.consumeWriteReserve = (true, s₁) ∧
      (route.through body s).attempts = [route.attempt body s.locked, route.attempt body s₁] ∧
      (route.through body s).result = (route.attempt body s₁).result ∧
      (route.through body s).session.conn = (route.attempt body s₁).session.conn) := by
  unfold Route.through withWriteReserveRetry
  dsimp only
  split
  · rename_i hBusy
    exact Or.inl ⟨hBusy, rfl, rfl⟩
  · right
    rcases retryLoop_cases (route.attempt body) s.locked with
      ⟨s', hLoop, hConn⟩ | ⟨s', error, hError, hFull, hConsume, hLoop⟩
    · left
      rw [← Session.locked, hLoop]
      exact ⟨rfl, rfl, hConn⟩
    · right
      rw [← Session.locked, hLoop]
      exact ⟨s', error, hError, hFull, hConsume, rfl, rfl, rfl⟩

theorem Route.attempt_unchanged_iff {body : Body D α} {error : WriteError} (hIdle : s.conn.working = none)
    (h : (route.attempt body s).result = .error error) :
    (route.attempt body s).session.conn = ⟨s.conn.stored, none⟩ ↔
      ∀ s' ∈ route.bodyEnd body s, s'.conn.stored = s.conn.stored := by
  rw [Route.attempt_error hIdle h]
  cases route.bodyEnd body s with
  | none => simp
  | some s' => simp

theorem Route.through_bounded (route : Route D) (body : Body D α) (s : Session D) :
    Bounded (route.through body s) := by
  have hKept := route.attempt_sameReserve body (show s.locked.lockHeld = true from rfl)
  rcases route.through_cases body s with ⟨_, hAttempts, _⟩ | ⟨hAttempts, _⟩ |
    ⟨s₁, error, hError, hFull, hConsume, hAttempts, _⟩
  · exact ⟨by simp [hAttempts], by simp [hAttempts], by simp [hAttempts], by simp [hAttempts]⟩
  · refine ⟨by simp [hAttempts], by simp [hAttempts], ?_, ?_⟩
    · rw [hAttempts]
      exact List.countP_le_length
    · intro attempt hMem
      rw [hAttempts, List.mem_singleton] at hMem
      rw [hMem, Route.attempt_start]
      exact hKept.reserve
  · obtain ⟨hReserve, hRemoved, hHeld⟩ := Session.consumeWriteReserve_spec hConsume
    have hNext := (route.attempt body s.locked).session.consumeWriteReserve_conn
    rw [hConsume] at hNext
    have hKept' := route.attempt_sameReserve body (hHeld.trans hKept.lockHeld)
    refine ⟨by simp [hAttempts], ?_, ?_, ?_⟩
    · intro first second rest hList
      rw [hAttempts] at hList
      cases hList
      rw [Route.attempt_start]
      exact ⟨⟨error, hError, hFull⟩, hReserve, hNext, hRemoved⟩
    · rw [hAttempts, List.countP_cons_of_neg (by rw [hError]; exact Bool.false_ne_true)]
      exact List.countP_le_length
    · intro attempt hMem
      rw [hAttempts, List.mem_cons, List.mem_singleton] at hMem
      rcases hMem with rfl | rfl
      · rw [Route.attempt_start]
        exact hKept.reserve
      · rw [Route.attempt_start]
        exact hKept'.reserve

theorem Contained.attempt {body : Body D α} {error : WriteError} (h : Contained route body content)
    (hConn : s.conn = ⟨content, none⟩) (hLocked : s.lockHeld = true)
    (hError : (route.attempt body s).result = .error error) :
    (route.attempt body s).session.conn = ⟨content, none⟩ := by
  have hUnchanged := (Route.attempt_unchanged_iff (by rw [hConn]) hError).mpr
  rw [hConn] at hUnchanged
  exact hUnchanged (h s hConn hLocked error hError)

theorem Contained.disciplined {body : Body D α} (h : Contained route body content) (hConn : s.conn = ⟨content, none⟩) :
    Disciplined s (route.through body s) := by
  have hStart : s.locked.conn = ⟨content, none⟩ := hConn
  refine ⟨route.through_bounded body s, ?_, ?_⟩
  · intro first second rest hList
    rw [hConn]
    rcases route.through_cases body s with ⟨_, hAttempts, _⟩ | ⟨hAttempts, _⟩ |
      ⟨s₁, error, hError, _, _, hAttempts, _⟩ <;> rw [hAttempts] at hList <;> cases hList
    exact h.attempt hStart rfl hError
  · intro error hResult
    rcases route.through_cases body s with ⟨_, _, hSame⟩ | ⟨_, hLast, hSame⟩ |
      ⟨s₁, error', hError, _, hConsume, _, hLast, hSame⟩
    · rw [hSame, hConn]
    · rw [hSame, hConn]
      exact h.attempt hStart rfl (hLast.symm.trans hResult)
    · have hNext := (route.attempt body s.locked).session.consumeWriteReserve_conn
      rw [hConsume, h.attempt hStart rfl hError] at hNext
      have hHeld := (Session.consumeWriteReserve_spec hConsume).2.2
      rw [(route.attempt_sameReserve body (show s.locked.lockHeld = true from rfl)).lockHeld] at hHeld
      rw [hSame, hConn]
      exact h.attempt hNext hHeld (hLast.symm.trans hResult)

def Session.between (content : D) (reserve : Bool) (fates : List (Fate WriteError)) (removals : List Removal)
    (locks : List Bool) : Session D := ⟨⟨content, none⟩, reserve, false, fates, removals, locks⟩

theorem contained_of_disciplined {body : Body D α}
    (h : ∀ reserve fates removals locks, Disciplined (.between content reserve fates removals locks)
      (route.through body (.between content reserve fates removals locks))) : Contained route body content := by
  intro s hConn hLocked error hError
  obtain ⟨conn, reserve, lockHeld, fates, removals, locks⟩ := s
  cases hConn
  cases hLocked
  have hRun := h reserve fates removals (true :: locks)
  generalize hBetween : Session.between content reserve fates removals (true :: locks) = start at hRun
  have hFirst : start.locked = ⟨⟨content, none⟩, reserve, true, fates, removals, locks⟩ := by rw [← hBetween]; rfl
  have hStored : start.conn.stored = content := by rw [← hBetween]; rfl
  apply (Route.attempt_unchanged_iff rfl hError).mp
  rcases route.through_cases body start with ⟨hBusy, _⟩ | ⟨_, hResult, hSame⟩ | ⟨s₁, _, _, _, _, hAttempts, _⟩
  · rw [← hBetween] at hBusy
    cases hBusy
  · have hEnd := hRun.unchanged error (by rw [hResult, hFirst]; exact hError)
    rwa [hSame, hFirst, hStored] at hEnd
  · have hEnd := hRun.rolledBack _ _ _ hAttempts
    rwa [hFirst, hStored] at hEnd

/-- A body without transaction control of its own that returns an error as soon as a statement or a write it calls
has failed. -/
inductive Propagates : Body D α → Prop
  | done (result : Except WriteError α) : Propagates (.done result)
  | statement {sql : D → Except WriteError D} {next : Except WriteError D → Body D α}
      (onOk : ∀ content, Propagates (next (.ok content)))
      (onError : ∀ error, ∃ error', next (.error error) = .done (.error error')) : Propagates (.statement sql next)
  | write {entry : Entry} {fence : List (D → Except WriteError D)} {inner : Body D α}
      {next : Except WriteError α → Body D α} (onInner : Propagates inner)
      (onOk : ∀ value, Propagates (next (.ok value)))
      (onError : ∀ error, ∃ error', next (.error error) = .done (.error error')) :
      Propagates (.write entry fence inner next)

structure Inside (s : Session D) (out : Except WriteError α × Session D) : Prop where
  stored : out.2.conn.stored = s.conn.stored
  reserve : out.2.reserve = s.reserve
  opened : ∀ value, out.1 = .ok value → out.2.conn.working.isSome = true

theorem statement_inside (sql : D → Except WriteError D) (h : s.conn.working.isSome = true) :
    Inside s (s.statement sql) :=
  ⟨(Connection.update_of_open sql _ h).1, rfl, (Connection.update_of_open sql _ h).2⟩

variable {β : Type} {fence : List (D → Except WriteError D)}

theorem Inside.trans {out : Except WriteError α × Session D} {result : Except WriteError β} (h : Inside s (result, s'))
    (h' : Inside s' out) : Inside s out :=
  ⟨h'.stored.trans h.stored, h'.reserve.trans h.reserve, h'.opened⟩

theorem Inside.error {result : Except WriteError β} (h : Inside s (result, s'))
    (error : WriteError) : Inside s ((.error error : Except WriteError α), s') :=
  ⟨h.stored, h.reserve, fun _ hOk => nomatch hOk⟩

theorem fenced_inside (hBody : ∀ s, s.conn.working.isSome = true → Inside s (body s)) :
    ∀ s : Session D, s.conn.working.isSome = true → Inside s (fenced body fence s) := by
  induction fence with
  | nil => exact hBody
  | cons check fence ih =>
    intro s hOpen
    have hStatement := statement_inside check hOpen
    rw [fenced]
    generalize s.statement check = out at hStatement ⊢
    obtain ⟨result, s'⟩ := out
    cases result with
    | error error => exact hStatement.error error
    | ok content => exact hStatement.trans (ih s' (hStatement.opened content rfl))

theorem Entry.call_of_open {entry : Entry} (h : s.conn.working.isSome = true) :
    entry.call fence body s = fenced body fence s := if_pos h

theorem run_inside {body : Body D α} (h : Propagates body) :
    ∀ s : Session D, s.conn.working.isSome = true → Inside s (body.run s) := by
  induction h with
  | done result => exact fun s hOpen => ⟨rfl, rfl, fun _ _ => hOpen⟩
  | @statement sql next onOk onError ih =>
    intro s hOpen
    have hStatement := statement_inside sql hOpen
    rw [Body.run]
    generalize s.statement sql = out at hStatement ⊢
    obtain ⟨result, s'⟩ := out
    cases result with
    | error error =>
      obtain ⟨error', hNext⟩ := onError error
      simp only [hNext]
      exact hStatement.error error'
    | ok content => exact hStatement.trans (ih content s' (hStatement.opened content rfl))
  | @write entry fence inner next onInner onOk onError ihInner ih =>
    intro s hOpen
    have hCall : Inside s (entry.call fence inner.run s) := by
      rw [Entry.call_of_open hOpen]
      exact fenced_inside ihInner s hOpen
    rw [Body.run]
    generalize entry.call fence inner.run s = out at hCall ⊢
    obtain ⟨result, s'⟩ := out
    cases result with
    | error error =>
      obtain ⟨error', hNext⟩ := onError error
      simp only [hNext]
      exact hCall.error error'
    | ok value => exact hCall.trans (ih value s' (hCall.opened value rfl))

theorem contained_of_propagates {body : Body D α} (h : Propagates body) (fence : List (D → Except WriteError D))
    (content : D) : Contained (.database fence) body content := by
  intro s hConn _ _ _ s' hEnd
  simp only [Route.bodyEnd] at hEnd
  split at hEnd
  · cases hEnd
  · rename_i s'' hBegin
    cases hEnd
    obtain ⟨hOpen, hStored⟩ := Session.begin_ok hBegin
    rw [(fenced_inside (run_inside h) s'' hOpen).stored, hStored, hConn]

/-- `apply_migration_atomic`: one migration in a transaction of its own. The content is the schema version. -/
def applyMigrationAtomic (version : Nat) (next : Body Nat Unit) : Body Nat Unit :=
  .control .begin fun
    | .error error => .done (.error error)
    | .ok _ => .statement (fun _ => .ok version) fun
      | .error error => .control .rollback fun _ => .done (.error error)
      | .ok _ => .control .commit fun
        | .error error => .control .rollback fun _ => .done (.error error)
        | .ok _ => next

def applyMigrations : List Nat → Body Nat Unit
  | [] => .done (.ok ())
  | version :: rest => applyMigrationAtomic version (applyMigrations rest)

def openDatabase (versions : List Nat) : Body Nat Unit :=
  .statement (fun version => .ok version) fun
    | .error error => .done (.error error)
    | .ok current => applyMigrations (versions.filter fun version => current < version)

theorem applyMigrationAtomic_run (version : Nat) (next : Body Nat Unit) {content : Nat} {s : Session Nat}
    (h : s.conn = ⟨content, none⟩) :
    (∃ error s', (applyMigrationAtomic version next).run s = (.error error, s') ∧ s'.conn.stored = content) ∨
      ∃ s', (applyMigrationAtomic version next).run s = next.run s' := by
  obtain ⟨conn, reserve, lockHeld, fates, removals, locks⟩ := s
  cases h
  simp only [applyMigrationAtomic, Body.run, Control.exec, Session.begin]
  cases fates.headD .runs with
  | fails error | cancels error => exact Or.inl ⟨error, _, rfl, rfl⟩
  | runs =>
    simp only [Connection.begin, Body.run, Session.statement]
    cases fates.tail.headD .runs with
    | fails error | cancels error => exact Or.inl ⟨error, _, rfl, rfl⟩
    | runs =>
      simp only [Connection.update, Connection.write, Body.run, Control.exec, Session.commit]
      cases fates.tail.tail.headD .runs with
      | fails error | cancels error => exact Or.inl ⟨error, _, rfl, rfl⟩
      | runs => exact Or.inr ⟨_, rfl⟩

theorem openDatabase_run_error {versions : List Nat} {current : Nat} {s : Session Nat} {error : WriteError}
    (hFew : (versions.filter fun version => current < version).length ≤ 1) (h : s.conn = ⟨current, none⟩)
    (hRun : ((openDatabase versions).run s).1 = .error error) :
    ((openDatabase versions).run s).2.conn.stored = current := by
  obtain ⟨conn, reserve, lockHeld, fates, removals, locks⟩ := s
  cases h
  simp only [openDatabase, Body.run, Session.statement] at hRun ⊢
  generalize fates.headD .runs = fate at hRun ⊢
  cases fate with
  | fails | cancels => rfl
  | runs =>
    simp only [Connection.update, Connection.visible, Connection.write, Option.getD_none] at hRun ⊢
    rcases hPending : versions.filter fun version => current < version with _ | ⟨version, _ | ⟨later, rest⟩⟩
    · rw [hPending] at hRun
      cases hRun
    · rw [hPending, applyMigrations] at hRun
      rw [applyMigrations]
      rcases applyMigrationAtomic_run version (applyMigrations [])
          (s := ⟨⟨current, none⟩, reserve, lockHeld, fates.tail, removals, locks⟩) rfl with
        ⟨error', s', hFailed, hStored⟩ | ⟨s', hDone⟩
      · rw [hFailed]
        exact hStored
      · rw [hDone] at hRun
        cases hRun
    · simp [hPending] at hFew

/-- The second of two pending migrations can fail when the first is committed. -/
def secondFails : List (Fate WriteError) := [.runs, .runs, .runs, .runs, .fails alreadyOpenError]

theorem openDatabase_contained_iff (versions : List Nat) (current : Nat) :
    Contained .bootstrap (openDatabase versions) current ↔
      (versions.filter fun version => current < version).length ≤ 1 := by
  constructor
  · intro h
    match hPending : versions.filter fun version => current < version with
    | [] | [_] => simp
    | version :: later :: rest =>
      have hAbove : version ∈ versions.filter fun version => current < version := by simp [hPending]
      have hLater : current < version := by simpa using (List.mem_filter.mp hAbove).2
      have hRun : (openDatabase versions).run ⟨⟨current, none⟩, true, true, secondFails, [], []⟩ =
          (.error alreadyOpenError, ⟨⟨version, none⟩, true, true, [], [], []⟩) := by
        change (applyMigrations (versions.filter fun version => current < version)).run _ = _
        rw [hPending]
        rfl
      have hKept := h ⟨⟨current, none⟩, true, true, secondFails, [], []⟩ rfl rfl alreadyOpenError
        (by simp only [Route.attempt, opening, Session.rollback, Connection.rollback, hRun]) _ rfl
      change ((openDatabase versions).run ⟨⟨current, none⟩, true, true, secondFails, [], []⟩).2.conn.stored = _ at hKept
      rw [hRun] at hKept
      exact absurd hKept hLater.ne'
  · intro hFew s hConn _ error hError s' hEnd
    cases hEnd
    have hRun : ((openDatabase versions).run s.rollback).1 = .error error := by
      simp only [Route.attempt, opening] at hError
      split at hError <;> simp_all
    have hStart : s.rollback.conn = ⟨current, none⟩ := by rw [Session.rollback, hConn]; rfl
    exact openDatabase_run_error hFew hStart hRun

def sqliteFull : WriteError := ⟨true, ["database or disk is full"]⟩

def fullTwice : List (Fate WriteError) :=
  [.runs, .runs, .runs, .runs, .runs, .cancels sqliteFull, .runs, .runs, .cancels sqliteFull]

def fullOpening : Reserved Nat Unit :=
  Route.bootstrap.through (openDatabase [19, 20]) (.between 18 true fullTwice [] [])

end Mempal.WriteReserve

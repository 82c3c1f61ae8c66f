import Mempal.Clock
import Mempal.Foundation.Clients
import Mempal.Foundation.Table

set_option autoImplicit false

/-! The table `leases`. An acquisition is four statements outside a transaction: it deletes what has expired, inserts
its own row, and if there is one already it looks at the holder and extends the expiry. -/

namespace Mempal.Leases

open Foundation

structure LeaseRow where
  resourcePath : String
  holderId : String
  acquiredAt : String
  expiresAt : String
  metadata : Option String
deriving DecidableEq, Repr

abbrev LeaseTable := Table LeaseRow.resourcePath

def isExpired (now : Nat) (row : LeaseRow) : Bool := (strftimeNow now).any fun text => row.expiresAt < text

def isHeldBy (resourcePath holderId : String) (row : LeaseRow) : Bool :=
  row.resourcePath = resourcePath && row.holderId = holderId

def holder (leases : LeaseTable) (resourcePath : String) : Option String :=
  (leases.find? resourcePath).map LeaseRow.holderId

def deleteExpired (now : Nat) (leases : LeaseTable) : LeaseTable := leases.delete (isExpired now)

def extend (resourcePath holderId expiresAt : String) (leases : LeaseTable) : LeaseTable :=
  leases.update (isHeldBy resourcePath holderId) (fun row => { row with expiresAt }) fun _ => rfl

structure AcquireRequest where
  resourcePath : String
  holderId : String
  ttlSecs : UInt64
  metadata : Option String
deriving DecidableEq, Repr

inductive LeaseOp where
  | acquire (request : AcquireRequest)
  | release (resourcePath holderId : String)
  | renew (resourcePath holderId : String) (ttlSecs : UInt64)
  | status
  | cleanupExpired
deriving DecidableEq, Repr

inductive LeaseCall where
  | expiry (request : AcquireRequest)
  | insert (request : AcquireRequest) (expiresAt : String)
  | select (request : AcquireRequest) (expiresAt : String)
  | update (request : AcquireRequest) (expiresAt : String)
  | renew (resourcePath holderId expiresAt : String)
deriving DecidableEq, Repr

inductive LeaseReply where
  | acquired (request : AcquireRequest) (granted : Bool)
  | released (released : Bool)
  | renewed (renewed : Bool)
  | cleaned (rows : Nat)
  | listed (rows : List LeaseRow)
  | panicked
deriving DecidableEq, Repr

def begin (now : Nat) (op : LeaseOp) (leases : LeaseTable) : LeaseTable × Progress LeaseCall LeaseReply :=
  match op with
  | .acquire request => (deleteExpired now leases, .waits (.expiry request))
  | .release resourcePath holderId =>
    (leases.delete (isHeldBy resourcePath holderId),
      .returned (.released (0 < leases.count (isHeldBy resourcePath holderId))))
  | .renew resourcePath holderId ttlSecs =>
    match addSecs now ttlSecs with
    | none => (leases, .returned .panicked)
    | some expiry => (leases, .waits (.renew resourcePath holderId (formatRfc3339 expiry)))
  | .status => (deleteExpired now leases, .returned (.listed (deleteExpired now leases).rows))
  | .cleanupExpired => (deleteExpired now leases, .returned (.cleaned (leases.count (isExpired now))))

/-- `INSERT OR IGNORE`, which also gives up when the clock has left the years SQLite knows. -/
def insertOrIgnore (now : Nat) (request : AcquireRequest) (expiresAt : String) (leases : LeaseTable) :
    Option LeaseTable :=
  match strftimeNow now with
  | none => none
  | some acquiredAt =>
    if leases.contains request.resourcePath then none
    else some (leases.insertOrIgnore
      ⟨request.resourcePath, request.holderId, acquiredAt, expiresAt, request.metadata⟩)

def resume (now : Nat) (call : LeaseCall) (leases : LeaseTable) : LeaseTable × Progress LeaseCall LeaseReply :=
  match call with
  | .expiry request =>
    match addSecs now request.ttlSecs with
    | none => (leases, .returned .panicked)
    | some expiry => (leases, .waits (.insert request (formatRfc3339 expiry)))
  | .insert request expiresAt =>
    match insertOrIgnore now request expiresAt leases with
    | some inserted => (inserted, .returned (.acquired request true))
    | none => (leases, .waits (.select request expiresAt))
  | .select request expiresAt =>
    if holder leases request.resourcePath = some request.holderId then (leases, .waits (.update request expiresAt))
    else (leases, .returned (.acquired request false))
  | .update request expiresAt =>
    (extend request.resourcePath request.holderId expiresAt leases, .returned (.acquired request true))
  | .renew resourcePath holderId expiresAt =>
    (extend resourcePath holderId expiresAt leases,
      .returned (.renewed (0 < leases.count (isHeldBy resourcePath holderId))))

def leaseProgram : Program LeaseTable Nat LeaseOp LeaseCall LeaseReply := ⟨begin, resume⟩

def leaseMachine : Machine (Clients LeaseTable LeaseCall) (Nat × Move LeaseOp) (Option LeaseReply) :=
  leaseProgram.machine

section Steps
variable (state : Clients LeaseTable LeaseCall) (a : Nat × Move LeaseOp)

def Grants (resourcePath holderId : String) : Prop :=
  ∃ request : AcquireRequest, leaseMachine.output state a = some (.acquired request true) ∧ 0 < request.ttlSecs ∧
    request.resourcePath = resourcePath ∧ request.holderId = holderId

/-- Who is told so is the holder at that moment. -/
def GrantsHolder : Prop :=
  ∀ resourcePath holderId, Grants state a resourcePath holderId →
    holder (leaseMachine.next state a).shared resourcePath = some holderId

/-- A step at which a holder releases its lease, or at which the expiry of its lease has passed. -/
def Loses (resourcePath holderId : String) : Prop :=
  (∃ slot, a.2 = .call slot (.release resourcePath holderId) ∧ state.calls slot = none) ∨
    ∃ row, state.shared.find? resourcePath = some row ∧ row.holderId = holderId ∧ isExpired a.1 row = true

/-- Two holders are told so only if the first one has lost the lease in between. -/
def Exclusive (start : Clients LeaseTable LeaseCall) (schedule : List (Nat × Move LeaseOp)) : Prop :=
  ∀ before a middle b after resourcePath holderId holderId', schedule = before ++ a :: (middle ++ b :: after) →
    holderId ≠ holderId' → Grants (leaseMachine.final start before) a resourcePath holderId →
    Grants (leaseMachine.final start (before ++ a :: middle)) b resourcePath holderId' →
    ∃ past c rest, middle = past ++ c :: rest ∧
      Loses (leaseMachine.final start (before ++ a :: past)) c resourcePath holderId

def Holds (now : Nat) (leases : LeaseTable) (resourcePath holderId : String) : Prop :=
  ∃ row, leases.find? resourcePath = some row ∧ row.holderId = holderId ∧ isExpired now row = false

/-- A renewal for a holder whose lease is released, replaced or expired changes nothing and says so. -/
def RenewsOwn : Prop :=
  ∀ slot resourcePath holderId expiresAt, a.2 = .resume slot →
    state.calls slot = some (.renew resourcePath holderId expiresAt) →
    ¬ Holds a.1 state.shared resourcePath holderId →
    leaseMachine.output state a = some (.renewed false) ∧ (leaseMachine.next state a).shared = state.shared

/-- No renewal meets a row of its holder that has expired: `lease_renew` does not look at the expiry. -/
def RenewsLive : Prop :=
  ∀ slot resourcePath holderId expiresAt row, a.2 = .resume slot →
    state.calls slot = some (.renew resourcePath holderId expiresAt) →
    state.shared.find? resourcePath = some row → row.holderId = holderId → isExpired a.1 row = false

/-- The row is still the holder's when an acquisition extends it. -/
def ExtendsOwn : Prop :=
  ∀ slot request expiresAt, a.2 = .resume slot → state.calls slot = some (.update request expiresAt) →
    0 < request.ttlSecs → holder state.shared request.resourcePath = some request.holderId

end Steps

variable {leases : LeaseTable} {resourcePath holderId : String} {state : Clients LeaseTable LeaseCall}

theorem holder_delete {p : LeaseRow → Bool} (h : holder leases resourcePath = some holderId)
    (hKept : ∀ row, leases.find? resourcePath = some row → row.holderId = holderId → p row = false) :
    holder (leases.delete p) resourcePath = some holderId := by
  obtain ⟨row, hRow, hHolder⟩ := Option.map_eq_some_iff.mp h
  rw [holder, Table.find?_delete, hRow, Option.filter_some_pos (by rw [hKept row hRow hHolder]; rfl)]
  exact congrArg some hHolder

variable {expiresAt : String} {schedule : List (Nat × Move LeaseOp)}

theorem holder_extend (leases : LeaseTable) (resourcePath holderId path : String) :
    holder (extend resourcePath holderId expiresAt leases) path = holder leases path := by
  rw [holder, holder, extend, Table.find?_update, Option.map_map]
  congr 1
  funext row
  show (if _ then _ else _ : LeaseRow).holderId = row.holderId
  split <;> rfl

theorem isHeldBy_iff {row : LeaseRow} :
    isHeldBy resourcePath holderId row = true ↔ row.resourcePath = resourcePath ∧ row.holderId = holderId := by
  simp [isHeldBy]

theorem count_isHeldBy
    (h : holder leases resourcePath ≠ some holderId) : leases.count (isHeldBy resourcePath holderId) = 0 := by
  by_contra hCount
  obtain ⟨row, hRow, hHeld⟩ := Table.exists_of_count_pos (Nat.pos_of_ne_zero hCount)
  obtain ⟨hPath, hHolder⟩ := isHeldBy_iff.mp hHeld
  apply h
  rw [holder, Table.find?_eq_some_iff.mpr ⟨hRow, hPath⟩]
  exact congrArg some hHolder

variable {now : Nat} {a : Nat × Move LeaseOp} {request : AcquireRequest}

theorem insertOrIgnore_spec {inserted : LeaseTable} (h : insertOrIgnore now request expiresAt leases = some inserted) :
    holder leases request.resourcePath = none ∧ holder inserted request.resourcePath = some request.holderId ∧
      ∀ path, path ≠ request.resourcePath → holder inserted path = holder leases path := by
  unfold insertOrIgnore at h
  split at h
  · cases h
  · split at h
    · cases h
    · rename_i hFree
      cases h
      have hNone : leases.find? request.resourcePath = none :=
        Table.contains_eq_false_iff.mp (Bool.eq_false_iff.mpr hFree)
      refine ⟨by rw [holder, hNone]; rfl, ?_, fun path hPath => ?_⟩
      · rw [holder, Table.find?_insertOrIgnore, if_pos rfl, hNone]
        rfl
      · rw [holder, Table.find?_insertOrIgnore, if_neg (Ne.symm hPath)]
        rfl

theorem begin_keeps {op : LeaseOp} (h : holder leases resourcePath = some holderId)
    (hRelease : op ≠ .release resourcePath holderId)
    (hExpiry : ∀ row, leases.find? resourcePath = some row → row.holderId = holderId → isExpired now row = false) :
    holder (begin now op leases).1 resourcePath = some holderId := by
  cases op with
  | acquire | status | cleanupExpired => exact holder_delete h hExpiry
  | renew path other ttlSecs =>
    unfold begin
    dsimp only
    split <;> exact h
  | release path other =>
    refine holder_delete h fun row hRow hHolder => ?_
    rw [Bool.eq_false_iff]
    intro hHeld
    obtain ⟨hPath, hOther⟩ := isHeldBy_iff.mp hHeld
    have hId := (Table.find?_eq_some_iff.mp hRow).2
    exact hRelease (by rw [← hPath, ← hOther, hId, hHolder])

theorem resume_keeps {call : LeaseCall} (h : holder leases resourcePath = some holderId) :
    holder (resume now call leases).1 resourcePath = some holderId := by
  cases call with
  | expiry | select =>
    unfold resume
    dsimp only
    split <;> exact h
  | insert request expiresAt =>
    unfold resume
    dsimp only
    split
    · rename_i inserted hInsert
      obtain ⟨hNone, _, hOther⟩ := insertOrIgnore_spec hInsert
      have hPath : resourcePath ≠ request.resourcePath := by
        rintro rfl
        cases h.symm.trans hNone
      exact (hOther resourcePath hPath).trans h
    · exact h
  | update | renew => exact (holder_extend ..).trans h

section
variable (h : holder state.shared resourcePath = some holderId)
include h

theorem step_keeps (hLoses : ¬ Loses state a resourcePath holderId) :
    holder (leaseMachine.next state a).shared resourcePath = some holderId := by
  have hStep : leaseProgram.Steps state a (leaseMachine.step state a) := leaseProgram.steps state a
  rw [Machine.next]
  generalize leaseMachine.step state a = result at hStep
  cases hStep with
  | idle env move calls => exact h
  | begins now slot op hFree =>
    rw [Clients.settle_shared]
    apply begin_keeps h
    · rintro rfl
      exact hLoses (.inl ⟨slot, rfl, hFree⟩)
    · intro row hRow hHolder
      rw [Bool.eq_false_iff]
      intro hExpired
      exact hLoses (.inr ⟨row, hRow, hHolder, hExpired⟩)
  | resumes now slot call hCall =>
    rw [Clients.settle_shared]
    exact resume_keeps h

theorem step_resume_keeps {slot : Nat}
    (hMove : a.2 = .resume slot) : holder (leaseMachine.next state a).shared resourcePath = some holderId := by
  have hStep : leaseProgram.Steps state a (leaseMachine.step state a) := leaseProgram.steps state a
  rw [Machine.next]
  generalize leaseMachine.step state a = result at hStep
  cases hStep with
  | idle env move calls => exact h
  | begins now slot op hFree => cases hMove
  | resumes now slot call hCall =>
    rw [Clients.settle_shared]
    exact resume_keeps h

theorem run_keeps (hLoses : ∀ past c rest, schedule = past ++ c :: rest →
      ¬ Loses (leaseMachine.final state past) c resourcePath holderId) :
    holder (leaseMachine.final state schedule).shared resourcePath = some holderId := by
  induction schedule generalizing state with
  | nil => exact h
  | cons a schedule ih =>
    refine ih (step_keeps h (hLoses [] a schedule rfl)) ?_
    rintro past c rest rfl
    exact hLoses (a :: past) c rest rfl

end

theorem grants_cases (h : leaseMachine.output state a = some (.acquired request true)) :
    (∃ slot, a.2 = .resume slot ∧
        holder (leaseMachine.next state a).shared request.resourcePath = some request.holderId) ∨
      ∃ slot expiresAt, a.2 = .resume slot ∧ state.calls slot = some (.update request expiresAt) ∧
        holder (leaseMachine.next state a).shared request.resourcePath = holder state.shared request.resourcePath := by
  have hStep : leaseProgram.Steps state a (leaseMachine.step state a) := leaseProgram.steps state a
  rw [Machine.output] at h
  rw [Machine.next]
  generalize leaseMachine.step state a = result at hStep h
  cases hStep with
  | idle env move calls => cases h
  | begins now slot op hFree =>
    cases op with
    | renew path other ttlSecs =>
      unfold leaseProgram begin at h
      dsimp only at h
      split at h <;> cases h
    | acquire | release | status | cleanupExpired => cases h
  | resumes now slot call hCall =>
    cases call with
    | expiry | select =>
      unfold leaseProgram resume at h
      dsimp only at h
      split at h <;> cases h
    | renew _ _ _ => cases h
    | insert request' expiresAt =>
      left
      unfold leaseProgram resume at h ⊢
      dsimp only at h ⊢
      split at h
      · rename_i inserted hInsert
        cases h
        exact ⟨slot, rfl, (insertOrIgnore_spec hInsert).2.1⟩
      · cases h
    | update request' expiresAt =>
      cases h
      right
      refine ⟨slot, expiresAt, rfl, hCall, ?_⟩
      exact holder_extend ..

theorem grantsHolder_iff (state : Clients LeaseTable LeaseCall) (a : Nat × Move LeaseOp) :
    GrantsHolder state a ↔ ExtendsOwn state a := by
  constructor
  · intro hGrants slot request expiresAt hMove hCall hTtl
    obtain ⟨now, move⟩ := a
    cases hMove
    have hStep : leaseMachine.step state (now, .resume slot) =
        state.settle slot (resume now (.update request expiresAt) state.shared) :=
      leaseProgram.step_resume hCall now
    have hHolder := hGrants request.resourcePath request.holderId
      ⟨request, by rw [Machine.output, hStep]; rfl, hTtl, rfl, rfl⟩
    rw [Machine.next, hStep] at hHolder
    exact (holder_extend ..).symm.trans hHolder
  · rintro hExtends resourcePath holderId ⟨request, hOutput, hTtl, rfl, rfl⟩
    rcases grants_cases hOutput with ⟨_, _, hHolder⟩ | ⟨slot, expiresAt, hMove, hCall, hSame⟩
    · exact hHolder
    · exact hSame.trans (hExtends slot request expiresAt hMove hCall hTtl)

theorem step_renew {slot : Nat} (h : state.calls slot = some (.renew resourcePath holderId expiresAt)) :
    leaseMachine.step state (now, .resume slot) =
      state.settle slot (resume now (.renew resourcePath holderId expiresAt) state.shared) :=
  leaseProgram.step_resume h now

theorem renewsOwn_iff (state : Clients LeaseTable LeaseCall) (a : Nat × Move LeaseOp) :
    RenewsOwn state a ↔ RenewsLive state a := by
  obtain ⟨now, move⟩ := a
  constructor
  · intro hOwn slot resourcePath holderId expiresAt row hMove hCall hRow hHolder
    cases hMove
    rw [Bool.eq_false_iff]
    intro hExpired
    have hLost : ¬ Holds now state.shared resourcePath holderId := by
      rintro ⟨row', hRow', _, hLive⟩
      cases hRow.symm.trans hRow'
      rw [hExpired] at hLive
      cases hLive
    obtain ⟨hMem, hPath⟩ := Table.find?_eq_some_iff.mp hRow
    have hCount : 0 < state.shared.count (isHeldBy resourcePath holderId) :=
      List.countP_pos_iff.mpr ⟨row, hMem, isHeldBy_iff.mpr ⟨hPath, hHolder⟩⟩
    have hFalse := (hOwn slot resourcePath holderId expiresAt rfl hCall hLost).1
    rw [Machine.output, step_renew hCall, resume, decide_eq_true hCount] at hFalse
    cases hFalse
  · intro hLive slot resourcePath holderId expiresAt hMove hCall hLost
    cases hMove
    have hOther : holder state.shared resourcePath ≠ some holderId := by
      intro hHolder
      obtain ⟨row, hRow, hSame⟩ := Option.map_eq_some_iff.mp hHolder
      exact hLost ⟨row, hRow, hSame, hLive slot resourcePath holderId expiresAt row rfl hCall hRow hSame⟩
    have hCount := count_isHeldBy hOther
    constructor
    · rw [Machine.output, step_renew hCall, resume, hCount]
      rfl
    · rw [Machine.next, step_renew hCall]
      exact Table.update_eq_self (f := fun row => { row with expiresAt }) (fun _ => rfl) hCount

theorem exclusive_of_grantsHolder {start : Clients LeaseTable LeaseCall}
    (h : leaseMachine.Along GrantsHolder start schedule) : Exclusive start schedule := by
  rintro before a middle b after resourcePath holderId holderId' rfl hNe hFirst hSecond
  by_contra hKept
  obtain ⟨hBefore, hA, hRest⟩ := (leaseMachine.along_append start before _).mp h
  obtain ⟨_, hB, _⟩ := (leaseMachine.along_append _ middle _).mp hRest
  have hFinal (past : List (Nat × Move LeaseOp)) : leaseMachine.final start (before ++ a :: past) =
      leaseMachine.final (leaseMachine.next (leaseMachine.final start before) a) past := by
    rw [leaseMachine.final_append, leaseMachine.final_cons]
  -- the first holder keeps its row up to the second grant, which then cannot take it
  have hHeld := run_keeps (hA resourcePath holderId hFirst) fun past c rest hMiddle hLoses =>
    hKept ⟨past, c, rest, hMiddle, by rwa [hFinal]⟩
  rw [hFinal] at hSecond
  have hTaken := hB resourcePath holderId' hSecond
  obtain ⟨request, hOutput, _, rfl, rfl⟩ := hSecond
  have hResume : ∃ slot, b.2 = .resume slot := by
    rcases grants_cases hOutput with ⟨slot, hMove, _⟩ | ⟨slot, _, hMove, _⟩
    · exact ⟨slot, hMove⟩
    · exact ⟨slot, hMove⟩
  obtain ⟨slot, hMove⟩ := hResume
  exact hNe (Option.some.inj ((step_resume_keeps hHeld hMove).symm.trans hTaken))

/-- Who is told that it acquired a lease holds it, two holders exclude each other and a renewal revives nothing,
exactly if no acquisition extends a row that is no longer its own and no renewal meets an expired row. -/
theorem leases_exclusive_iff (leases : LeaseTable) (schedule : List (Nat × Move LeaseOp)) :
    (leaseMachine.Along GrantsHolder (.start leases) schedule ∧ Exclusive (.start leases) schedule ∧
      leaseMachine.Along RenewsOwn (.start leases) schedule) ↔
      leaseMachine.Along ExtendsOwn (.start leases) schedule ∧
        leaseMachine.Along RenewsLive (.start leases) schedule := by
  constructor
  · rintro ⟨hGrants, _, hRenews⟩
    exact ⟨leaseMachine.along_mono (fun state a => (grantsHolder_iff state a).mp) hGrants,
      leaseMachine.along_mono (fun state a => (renewsOwn_iff state a).mp) hRenews⟩
  · rintro ⟨hExtends, hLive⟩
    have hGrants := leaseMachine.along_mono (fun state a => (grantsHolder_iff state a).mpr) hExtends
    exact ⟨hGrants, exclusive_of_grantsHolder hGrants,
      leaseMachine.along_mono (fun state a => (renewsOwn_iff state a).mpr) hLive⟩

def acquireFor (slot : Nat) (holderId : String) : Move LeaseOp :=
  .call slot (.acquire ⟨"src/lib.rs", holderId, 1, none⟩)

/-- A holder acquires for one second and soon asks again; between its look at the row and its last statement the
lease expires and another holder acquires it. -/
def replacedMeanwhile : List (Nat × Move LeaseOp) :=
  [(0, acquireFor 0 "a"), (0, .resume 0), (0, .resume 0),
    (1000, acquireFor 0 "a"), (1000, .resume 0), (1000, .resume 0), (1000, .resume 0),
    (2000, acquireFor 1 "b"), (2000, .resume 1), (2000, .resume 1)]

/-- A holder acquires for one second and renews after five. -/
def renewedLate : List (Nat × Move LeaseOp) :=
  [(0, acquireFor 0 "a"), (0, .resume 0), (0, .resume 0), (5000, .call 0 (.renew "src/lib.rs" "a" 1))]

theorem two_holders_granted :
    leaseMachine.output (leaseMachine.final (.start Table.empty) (replacedMeanwhile.take 9)) (2000, .resume 1) =
        some (.acquired ⟨"src/lib.rs", "b", 1, none⟩ true) ∧
      leaseMachine.output (leaseMachine.final (.start Table.empty) replacedMeanwhile) (2000, .resume 0) =
        some (.acquired ⟨"src/lib.rs", "a", 1, none⟩ true) ∧
      holder (leaseMachine.final (.start Table.empty) (replacedMeanwhile ++ [(2000, .resume 0)])).shared "src/lib.rs" =
        some "b" ∧
      ¬ leaseMachine.Along GrantsHolder (.start Table.empty) (replacedMeanwhile ++ [(2000, .resume 0)]) ∧
      leaseMachine.output (leaseMachine.final (.start Table.empty) renewedLate) (5000, .resume 0) =
        some (.renewed true) := by
  have hGranted : leaseMachine.output (leaseMachine.final (.start Table.empty) replacedMeanwhile) (2000, .resume 0) =
      some (.acquired ⟨"src/lib.rs", "a", 1, none⟩ true) := by decide +kernel
  have hHolder : holder (leaseMachine.next (leaseMachine.final (.start Table.empty) replacedMeanwhile)
      (2000, .resume 0)).shared "src/lib.rs" = some "b" := by decide +kernel
  refine ⟨by decide +kernel, hGranted, by decide +kernel, fun hRun => ?_, by decide +kernel⟩
  have hLast := ((leaseMachine.along_append _ _ _).mp hRun).2.1
  have hOwn := hLast "src/lib.rs" "a" ⟨_, hGranted, by decide, rfl, rfl⟩
  exact absurd (Option.some.inj (hHolder.symm.trans hOwn)) (by decide)

end Mempal.Leases

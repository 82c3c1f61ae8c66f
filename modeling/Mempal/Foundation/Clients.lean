import Mempal.Foundation.Machine

set_option autoImplicit false

/-! Clients call operations on a shared state. An operation takes several atomic steps and waits between them, while
the steps of other clients come in between; a call may also be given up where it waits. -/

namespace Foundation

universe u

/-- What a step of a call leaves behind. -/
inductive Progress (Call Reply : Type u) where
  | returned (reply : Reply)
  | waits (next : Call)
deriving DecidableEq

namespace Progress

variable {Call Reply : Type u}

def next? : Progress Call Reply → Option Call
  | returned _ => none
  | waits next => some next

def reply? : Progress Call Reply → Option Reply
  | returned reply => some reply
  | waits _ => none

variable {progress : Progress Call Reply}

theorem next?_eq_some_iff {next : Call} : progress.next? = some next ↔ progress = .waits next := by
  cases progress <;> simp [next?]

theorem reply?_eq_some_iff {reply : Reply} : progress.reply? = some reply ↔ progress = .returned reply := by
  cases progress <;> simp [reply?]

end Progress

/-- The steps of the operations; `ε` is what a step reads from outside. -/
structure Program (σ ε Op Call Reply : Type u) where
  begin : ε → Op → σ → σ × Progress Call Reply
  resume : ε → Call → σ → σ × Progress Call Reply

structure Clients (σ Call : Type u) where
  shared : σ
  calls : Nat → Option Call

inductive Move (Op : Type u) where
  | call (slot : Nat) (op : Op)
  | resume (slot : Nat)
  | abandon (slot : Nat)
deriving DecidableEq

namespace Clients

variable {σ ε Op Call Reply : Type u}

def start (shared : σ) : Clients σ Call := ⟨shared, fun _ => none⟩

def setCall (calls : Nat → Option Call) (slot : Nat) (call : Option Call) : Nat → Option Call :=
  fun other => if other = slot then call else calls other

variable {slot : Nat} {call : Call}

theorem eq_some_of_setCall_none {calls : Nat → Option Call} {other : Nat}
    (h : setCall calls slot none other = some call) : calls other = some call := by
  rw [setCall] at h
  split at h
  · cases h
  · exact h

def settle (state : Clients σ Call) (slot : Nat) : σ × Progress Call Reply → Clients σ Call × Option Reply
  | (shared, .returned reply) => (⟨shared, setCall state.calls slot none⟩, some reply)
  | (shared, .waits next) => (⟨shared, setCall state.calls slot (some next)⟩, none)

theorem settle_eq (state : Clients σ Call) (slot : Nat) (shared : σ) (progress : Progress Call Reply) :
    settle state slot (shared, progress) = (⟨shared, setCall state.calls slot progress.next?⟩, progress.reply?) := by
  cases progress <;> rfl

theorem settle_shared (state : Clients σ Call) (slot : Nat) (result : σ × Progress Call Reply) :
    (settle state slot result).1.shared = result.1 := by
  obtain ⟨shared, progress⟩ := result
  cases progress <;> rfl

end Clients

namespace Program

variable {σ ε Op Call Reply : Type u} (program : Program σ ε Op Call Reply)

def step (state : Clients σ Call) : ε × Move Op → Clients σ Call × Option Reply
  | (env, .call slot op) =>
    match state.calls slot with
    | some _ => (state, none)
    | none => state.settle slot (program.begin env op state.shared)
  | (env, .resume slot) =>
    match state.calls slot with
    | none => (state, none)
    | some call => state.settle slot (program.resume env call state.shared)
  | (_, .abandon slot) => (⟨state.shared, Clients.setCall state.calls slot none⟩, none)

def machine : Machine (Clients σ Call) (ε × Move Op) (Option Reply) := ⟨program.step⟩

inductive Steps (state : Clients σ Call) : ε × Move Op → Clients σ Call × Option Reply → Prop where
  | idle (env : ε) (move : Move Op) (calls : Nat → Option Call)
      (hCalls : ∀ slot call, calls slot = some call → state.calls slot = some call) :
      Steps state (env, move) (⟨state.shared, calls⟩, none)
  | begins (env : ε) (slot : Nat) (op : Op) (hFree : state.calls slot = none) :
      Steps state (env, .call slot op) (state.settle slot (program.begin env op state.shared))
  | resumes (env : ε) (slot : Nat) (call : Call) (hCall : state.calls slot = some call) :
      Steps state (env, .resume slot) (state.settle slot (program.resume env call state.shared))

variable {state : Clients σ Call} {slot : Nat} {call : Call}

theorem step_call (h : state.calls slot = none) (env : ε) (op : Op) :
    program.machine.step state (env, .call slot op) = state.settle slot (program.begin env op state.shared) := by
  simp only [machine, step, h]

theorem step_call_busy (h : state.calls slot = some call) (env : ε) (op : Op) :
    program.machine.step state (env, .call slot op) = (state, none) := by
  simp only [machine, step, h]

theorem step_resume (h : state.calls slot = some call) (env : ε) :
    program.machine.step state (env, .resume slot) = state.settle slot (program.resume env call state.shared) := by
  simp only [machine, step, h]

theorem step_resume_free (h : state.calls slot = none) (env : ε) :
    program.machine.step state (env, .resume slot) = (state, none) := by
  simp only [machine, step, h]

theorem steps (state : Clients σ Call) (a : ε × Move Op) : program.Steps state a (program.machine.step state a) := by
  obtain ⟨env, move⟩ := a
  cases move with
  | call slot op =>
    cases hSlot : state.calls slot with
    | some call =>
      rw [program.step_call_busy hSlot]
      exact .idle env _ state.calls fun _ _ h => h
    | none =>
      rw [program.step_call hSlot]
      exact .begins env slot op hSlot
  | resume slot =>
    cases hSlot : state.calls slot with
    | none =>
      rw [program.step_resume_free hSlot]
      exact .idle env _ state.calls fun _ _ h => h
    | some call =>
      rw [program.step_resume hSlot]
      exact .resumes env slot call hSlot
  | abandon slot =>
    exact .idle env _ _ fun _ _ => Clients.eq_some_of_setCall_none

end Program

end Foundation

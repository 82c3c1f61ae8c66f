/-! A channel for one message, whose ends may be dropped at any time, and a watched value with the mark whether its
watcher has seen the last change. -/

namespace Foundation

universe u

structure Oneshot (α : Type u) where
  message : Option α
  sender : Bool
  receiver : Bool
deriving DecidableEq, Repr

inductive Received (α : Type u) where
  | pending
  | message (a : α)
  | closed
deriving DecidableEq, Repr

namespace Oneshot

variable {α : Type u}

def fresh : Oneshot α := ⟨none, true, true⟩

def send (a : α) (c : Oneshot α) : Oneshot α :=
  { c with message := if c.receiver then some a else none, sender := false }

def recv (c : Oneshot α) : Received α :=
  match c.message with
  | some a => .message a
  | none => if c.sender then .pending else .closed

def dropSender (c : Oneshot α) : Oneshot α := { c with sender := false }

def dropReceiver (c : Oneshot α) : Oneshot α := { c with message := none, receiver := false }

theorem recv_eq_message {c : Oneshot α} {a : α} : c.recv = .message a ↔ c.message = some a := by
  unfold recv
  cases c.message with
  | some b => simp
  | none => cases c.sender <;> simp

theorem recv_eq_closed {c : Oneshot α} : c.recv = .closed ↔ c.message = none ∧ c.sender = false := by
  unfold recv
  cases c.message with
  | some b => simp
  | none => cases c.sender <;> simp

end Oneshot

structure Watch where
  value : Bool
  unseen : Bool
  sender : Bool
deriving DecidableEq, Repr

namespace Watch

def send (value : Bool) (w : Watch) : Watch := if w.sender then { w with value := value, unseen := true } else w

def dropSender (w : Watch) : Watch := { w with sender := false }

def changed (w : Watch) : Bool := w.unseen || !w.sender

def seen (w : Watch) : Watch := { w with unseen := false }

end Watch

end Foundation

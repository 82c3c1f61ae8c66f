import Mathlib.Logic.Function.Basic
import Mempal.Foundation.Machine

set_option autoImplicit false

/-! The state has a part at every location, and an action reads and changes the part at its own location only. What is
seen at some locations does not depend on actions at other ones. -/

namespace Foundation

universe u

structure Located (L σ α ω : Type u) where
  locate : α → Option L
  act : α → σ → σ × ω

namespace Located

variable {L σ α ω : Type u} [DecidableEq L] (system : Located L σ α ω)

def machine : Machine (L → σ) α (Option ω) where
  step := fun s a =>
    match system.locate a with
    | none => (s, none)
    | some l => (Function.update s l (system.act a (s l)).1, some (system.act a (s l)).2)

variable {a : α}

theorem step_of_none (h : system.locate a = none) (s : L → σ) : system.machine.step s a = (s, none) := by
  simp only [machine, h]

variable {l : L} {hidden : L → Prop}

theorem step_of_some (h : system.locate a = some l) (s : L → σ) :
    system.machine.step s a = (Function.update s l (system.act a (s l)).1, some (system.act a (s l)).2) := by
  simp only [machine, h]

theorem next_of_hidden (h : ∀ l, system.locate a = some l → hidden l) {s : L → σ} (hl : ¬ hidden l) :
    system.machine.next s a l = s l := by
  unfold Machine.next
  cases hLocate : system.locate a with
  | none => rw [system.step_of_none hLocate]
  | some l' =>
    rw [system.step_of_some hLocate]
    refine Function.update_of_ne ?_ _ _
    rintro rfl
    exact hl (h l hLocate)

theorem next_agree {s t : L → σ} (hAgree : ∀ l, ¬ hidden l → s l = t l) (a : α)
    (hl : ¬ hidden l) : system.machine.next s a l = system.machine.next t a l := by
  unfold Machine.next
  cases hLocate : system.locate a with
  | none =>
    rw [system.step_of_none hLocate, system.step_of_none hLocate]
    exact hAgree l hl
  | some l' =>
    rw [system.step_of_some hLocate, system.step_of_some hLocate]
    dsimp only
    by_cases hEq : l = l'
    · subst hEq
      rw [Function.update_self, Function.update_self, hAgree l hl]
    · rw [Function.update_of_ne hEq, Function.update_of_ne hEq]
      exact hAgree l hl

theorem output_agree {s t : L → σ} (hAgree : ∀ l, ¬ hidden l → s l = t l)
    (ha : ∀ l, system.locate a = some l → ¬ hidden l) : system.machine.output s a = system.machine.output t a := by
  unfold Machine.output
  cases hLocate : system.locate a with
  | none => rw [system.step_of_none hLocate, system.step_of_none hLocate]
  | some l => rw [system.step_of_some hLocate, system.step_of_some hLocate, hAgree l (ha l hLocate)]

theorem trace_filter_eq (hidden : L → Prop) {dropped seen : α → Bool}
    (hDropped : ∀ a, dropped a = true → ∀ l, system.locate a = some l → hidden l)
    (hSeen : ∀ a, seen a = true → dropped a = false ∧ ∀ l, system.locate a = some l → ¬ hidden l)
    {s t : L → σ} (hAgree : ∀ l, ¬ hidden l → s l = t l) (as : List α) :
    (system.machine.trace s as).filter (fun event => seen event.1) =
      (system.machine.trace t (as.filter fun a => !dropped a)).filter (fun event => seen event.1) := by
  induction as generalizing s t with
  | nil => rfl
  | cons a as ih =>
    rw [Machine.trace_cons, List.filter_cons, List.filter_cons]
    cases hDrop : dropped a with
    | true =>
      have hUnseen : seen a = false := by
        cases hSees : seen a with
        | false => rfl
        | true => exact absurd ((hSeen a hSees).1.symm.trans hDrop) nofun
      simp only [hUnseen, Bool.false_eq_true, if_false, Bool.not_true]
      exact ih fun l hl => (system.next_of_hidden (hDropped a hDrop) hl).trans (hAgree l hl)
    | false =>
      have hRest := ih (s := system.machine.next s a) (t := system.machine.next t a)
        fun l hl => system.next_agree hAgree a hl
      simp only [Bool.not_false, if_true, Machine.trace_cons, List.filter_cons]
      cases hSees : seen a with
      | true =>
        rw [if_pos rfl, if_pos rfl, hRest, system.output_agree hAgree (hSeen a hSees).2]
      | false =>
        exact hRest

end Located

end Foundation

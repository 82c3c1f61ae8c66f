import Mathlib.Algebra.BigOperators.Group.List.Basic
import Mathlib.Algebra.Order.Ring.Nat
import Mathlib.Data.List.Perm.Basic
import Mathlib.Data.List.Nodup

set_option autoImplicit false

/-! A list is walked once; an element is taken when its cost fits what the elements taken before it have left of the
budget. An element that costs nothing is always taken. -/

namespace Foundation

namespace Greedy

universe u

variable {α : Type u} (cost : α → Nat)

def taken : Nat → List α → List α
  | _, [] => []
  | left, a :: l => if cost a ≤ left then a :: taken (left - cost a) l else taken left l

def refused : Nat → List α → List α
  | _, [] => []
  | left, a :: l => if cost a ≤ left then refused (left - cost a) l else a :: refused left l

def total (l : List α) : Nat := (l.map cost).sum

variable (left : Nat) (l : List α)

theorem taken_sublist : (taken cost left l).Sublist l := by
  induction l generalizing left with
  | nil => exact List.Sublist.slnil
  | cons a l ih =>
    unfold taken
    split
    · exact (ih _).cons_cons a
    · exact (ih _).cons a

theorem taken_perm : (taken cost left l ++ refused cost left l).Perm l := by
  induction l generalizing left with
  | nil => exact List.Perm.refl []
  | cons a l ih =>
    unfold taken refused
    split
    · exact (ih _).cons a
    · exact List.perm_middle.trans ((ih _).cons a)

theorem taken_append (l l' : List α) :
    taken cost left (l ++ l') = taken cost left l ++ taken cost (left - total cost (taken cost left l)) l' := by
  induction l generalizing left with
  | nil => rfl
  | cons a l ih =>
    rw [List.cons_append]
    by_cases hFits : cost a ≤ left
    · simp only [taken, if_pos hFits, ih, total, List.map_cons, List.sum_cons, Nat.sub_sub, List.cons_append]
    · simp only [taken, if_neg hFits, ih]

theorem mem_taken_iff {left : Nat} {front back : List α} {a : α} (hNodup : (front ++ a :: back).Nodup) :
    a ∈ taken cost left (front ++ a :: back) ↔ cost a ≤ left - total cost (taken cost left front) := by
  have hFront : a ∉ taken cost left front := fun hMem =>
    (List.nodup_append.mp hNodup).2.2 a ((taken_sublist cost left front).subset hMem) a List.mem_cons_self rfl
  rw [taken_append, List.mem_append, or_iff_right hFront]
  constructor
  · intro hMem
    by_contra hFits
    rw [taken, if_neg hFits] at hMem
    have hBack := (taken_sublist cost _ back).subset hMem
    exact (List.nodup_cons.mp (List.nodup_append.mp hNodup).2.1).1 hBack
  · intro hFits
    rw [taken, if_pos hFits]
    exact List.mem_cons_self

theorem filter_taken [DecidableEq α] {left : Nat} {front back : List α} (hNodup : (front ++ back).Nodup) :
    front.filter (fun a => decide (a ∈ taken cost left (front ++ back))) = taken cost left front := by
  induction front generalizing left with
  | nil => rfl
  | cons a front ih =>
    rw [List.cons_append] at hNodup ⊢
    obtain ⟨hNew, hRest⟩ := List.nodup_cons.mp hNodup
    by_cases hFits : cost a ≤ left
    · simp only [taken, if_pos hFits, List.filter_cons_of_pos, List.mem_cons_self, decide_true]
      rw [← ih hRest]
      congr 1
      apply List.filter_congr
      intro b hb
      have hNe : b ≠ a := fun h => hNew (List.mem_append_left _ (h ▸ hb))
      rw [decide_eq_decide, List.mem_cons, or_iff_right hNe]
    · have hOut : a ∉ taken cost left (front ++ back) := fun hMem => hNew ((taken_sublist cost _ _).subset hMem)
      simp only [taken, if_neg hFits]
      rw [List.filter_cons_of_neg (by simpa using hOut), ih hRest]

end Greedy

end Foundation

import Mathlib.Algebra.Order.BigOperators.Group.List
import Mathlib.Algebra.Order.Ring.Nat
import Mempal.Foundation.Table

set_option autoImplicit false

/-! A weight gives every row a number; the weight of the table is their sum. Each statement comes with the effect it
has on the weight. -/

namespace Foundation.Table

universe u v

variable {R : Type u} {K : Type v} {key : R → K} {w : R → Nat}

def weight (w : R → Nat) (t : Table key) : Nat := (t.rows.map w).sum

variable {p : R → Bool} {f : R → R} {r : R} {t : Table key}

theorem weight_update_le {hf : ∀ r, key (f r) = key r} (h : ∀ r ∈ t, p r = true → w (f r) ≤ w r) :
    (t.update p f hf).weight w ≤ t.weight w := by
  simp only [weight, update, List.map_map]
  refine List.sum_le_sum fun r hMem => ?_
  simp only [Function.comp_apply]
  split
  · exact h r hMem ‹_›
  · exact Nat.le_refl _

theorem weight_delete_le (t : Table key) (p : R → Bool) : (t.delete p).weight w ≤ t.weight w :=
  (List.filter_sublist.map w).sum_le_sum fun _ _ => Nat.zero_le _

theorem weight_update_single (hf : ∀ r, key (f r) = key r) (hMem : r ∈ t) (hSelects : p r = true)
    (hOnly : ∀ r', p r' = true → key r' = key r) : (t.update p f hf).weight w + w r = t.weight w + w (f r) := by
  obtain ⟨before, after, hRows⟩ := List.append_of_mem (mem_rows.mp hMem)
  have hUnique := t.unique
  rw [hRows, List.map_append, List.map_cons, List.nodup_append, List.nodup_cons] at hUnique
  have hBefore : ∀ r' ∈ before, p r' = false := by
    intro r' hr'
    rw [Bool.eq_false_iff]
    exact fun hp => hUnique.2.2 _ (List.mem_map_of_mem hr') _ List.mem_cons_self (hOnly r' hp)
  have hAfter : ∀ r' ∈ after, p r' = false := by
    intro r' hr'
    rw [Bool.eq_false_iff]
    exact fun hp => hUnique.2.1.1 (hOnly r' hp ▸ List.mem_map_of_mem hr')
  have hSame : ∀ l : List R, (∀ r' ∈ l, p r' = false) →
      (l.map fun r' => w (if p r' = true then f r' else r')) = l.map w := by
    intro l hl
    exact List.map_congr_left fun r' hr' => by simp [hl r' hr']
  simp only [weight, update, hRows, List.map_append, List.map_cons, List.map_map, Function.comp_def,
    hSame before hBefore, hSame after hAfter, hSelects, if_true, List.sum_append, List.sum_cons]
  omega

variable [DecidableEq K]

theorem weight_insertOrIgnore_of_fresh (h : t.find? (key r) = none) :
    (t.insertOrIgnore r).weight w = t.weight w + w r := by
  simp [weight, insertOrIgnore_of_fresh h]

theorem weight_insertOrIgnore_le (t : Table key) (r : R) : (t.insertOrIgnore r).weight w ≤ t.weight w + w r := by
  cases h : t.find? (key r) with
  | none => exact Nat.le_of_eq (weight_insertOrIgnore_of_fresh h)
  | some r' =>
    rw [insertOrIgnore_of_taken h]
    exact Nat.le_add_right _ _

end Foundation.Table

import Mathlib.Algebra.Order.BigOperators.Group.List
import Mathlib.Algebra.Order.Ring.Nat
import Mempal.Foundation.Table

set_option autoImplicit false

/-! A directory gives contents to file names. Each operation is one atomic call of the file system; `rename` replaces
what stands under the new name. -/

namespace Foundation

universe u v

variable {N : Type u} {C : Type v} [DecidableEq N]

abbrev Directory (N : Type u) (C : Type v) : Type (max u v) := Table (Prod.fst : N × C → N)

namespace Directory

def read (d : Directory N C) (n : N) : Option C := (d.find? n).map Prod.snd

def write (n : N) (c : C) (d : Directory N C) : Directory N C :=
  (d.delete fun e => e.1 = n).insertOrIgnore (n, c)

def remove (n : N) (d : Directory N C) : Directory N C := d.delete fun e => e.1 = n

def rename (old new : N) (d : Directory N C) : Directory N C :=
  match d.read old with
  | none => d
  | some c => (d.remove old).write new c

@[simp] theorem read_remove (d : Directory N C) (n m : N) :
    (d.remove n).read m = if n = m then none else d.read m := by
  rw [read, remove, Table.find?_delete]
  cases hFind : d.find? m with
  | none => simp [read, hFind]
  | some e =>
    have hName := (Table.find?_eq_some_iff.mp hFind).2
    by_cases hEq : n = m
    · simp [Option.filter, hName, hEq]
    · have hNe : ¬ m = n := fun h => hEq h.symm
      simp [Option.filter, read, hFind, hName, hEq, hNe]

@[simp] theorem read_write (d : Directory N C) (n m : N) (c : C) :
    (d.write n c).read m = if n = m then some c else d.read m := by
  have hRemoved := d.read_remove n m
  rw [write, read, Table.find?_insertOrIgnore]
  rw [read, remove] at hRemoved
  by_cases hEq : n = m
  · subst hEq
    rw [if_pos rfl, Option.map_eq_none_iff] at hRemoved
    simp [hRemoved]
  · simpa [hEq] using hRemoved

variable {d : Directory N C} {c : C}

theorem read_rename {old : N} (h : d.read old = some c) (new m : N) :
    (d.rename old new).read m = if new = m then some c else if old = m then none else d.read m := by
  rw [rename, h]
  simp only [read_write, read_remove]

theorem read_of_mem {e : N × C} (h : e ∈ d.rows) : d.read e.1 = some e.2 := by
  rw [read, Table.find?_of_mem h]
  rfl

def Holds (d : Directory N C) (c : C) : Prop := ∃ n, d.read n = some c

theorem holds_iff : d.Holds c ↔ ∃ e ∈ d.rows, e.2 = c := by
  constructor
  · rintro ⟨n, hRead⟩
    obtain ⟨e, hFind, rfl⟩ := Option.map_eq_some_iff.mp hRead
    exact ⟨e, (Table.find?_eq_some_iff.mp hFind).1, rfl⟩
  · rintro ⟨e, hMem, rfl⟩
    exact ⟨e.1, read_of_mem hMem⟩

instance [DecidableEq C] (d : Directory N C) (c : C) : Decidable (d.Holds c) := decidable_of_iff _ holds_iff.symm

theorem holds_write (d : Directory N C) (n : N) (c : C) : (d.write n c).Holds c := ⟨n, by simp⟩

variable {n : N}

theorem Holds.write {c' : C} (h : d.Holds c) (hFree : d.read n = none) : (d.write n c').Holds c := by
  obtain ⟨m, hRead⟩ := h
  refine ⟨m, ?_⟩
  rw [read_write, if_neg, hRead]
  rintro rfl
  rw [hFree] at hRead
  cases hRead

theorem Holds.rename {old new : N} (h : d.Holds c) (hFree : d.read new = none) : (d.rename old new).Holds c := by
  cases hOld : d.read old with
  | none =>
    rw [Directory.rename, hOld]
    exact h
  | some c' =>
    obtain ⟨m, hRead⟩ := h
    by_cases hEq : old = m
    · subst hEq
      rw [hOld] at hRead
      exact ⟨new, by rw [read_rename hOld, if_pos rfl, hRead]⟩
    · refine ⟨m, ?_⟩
      rw [read_rename hOld, if_neg, if_neg hEq, hRead]
      rintro rfl
      rw [hFree] at hRead
      cases hRead

theorem Holds.remove (h : d.Holds c)
    (hOther : d.read n = some c → ∃ m, n ≠ m ∧ d.read m = some c) : (d.remove n).Holds c := by
  obtain ⟨m, hRead⟩ := h
  by_cases hEq : n = m
  · subst hEq
    obtain ⟨m, hNe, hRead⟩ := hOther hRead
    exact ⟨m, by rw [read_remove, if_neg hNe, hRead]⟩
  · exact ⟨m, by rw [read_remove, if_neg hEq, hRead]⟩

end Directory

end Foundation

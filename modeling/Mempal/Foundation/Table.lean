import Mathlib.Data.List.Nodup
import Mathlib.Data.List.Basic

set_option autoImplicit false

/-! A table is the list of its rows in storage order, together with the fact that no two rows share a key. -/

namespace Foundation

universe u v

structure Table {R : Type u} {K : Type v} (key : R → K) where
  rows : List R
  unique : (rows.map key).Nodup

namespace Table

variable {R : Type u} {K : Type v} {key : R → K} {t : Table key}

@[ext] theorem ext {t t' : Table key} (h : t.rows = t'.rows) : t = t' := by
  cases t
  cases t'
  cases h
  rfl

instance [DecidableEq R] : DecidableEq (Table key) := fun t t' =>
  decidable_of_iff (t.rows = t'.rows) ⟨ext, congrArg rows⟩

instance : Membership R (Table key) := ⟨fun t r => r ∈ t.rows⟩

variable {r r' : R} {p : R → Bool} {f : R → R} {k : K}

theorem mem_rows : r ∈ t ↔ r ∈ t.rows := Iff.rfl

def empty : Table key := ⟨[], List.nodup_nil⟩

theorem eq_of_key_eq (hr : r ∈ t) (hr' : r' ∈ t) (h : key r = key r') : r = r' :=
  List.inj_on_of_nodup_map t.unique hr hr' h

def update (t : Table key) (p : R → Bool) (f : R → R) (hf : ∀ r, key (f r) = key r) : Table key where
  rows := t.rows.map fun r => if p r then f r else r
  unique := by
    have hKeys : (t.rows.map fun r => if p r then f r else r).map key = t.rows.map key := by
      rw [List.map_map]
      apply List.map_congr_left
      intro r _
      by_cases hp : p r <;> simp [hp, hf]
    rw [hKeys]
    exact t.unique

def delete (t : Table key) (p : R → Bool) : Table key where
  rows := t.rows.filter fun r => !p r
  unique := t.unique.sublist (List.filter_sublist.map key)

def count (t : Table key) (p : R → Bool) : Nat := t.rows.countP p

@[simp] theorem mem_update {hf : ∀ r, key (f r) = key r} :
    r ∈ t.update p f hf ↔ ∃ r' ∈ t, (if p r' then f r' else r') = r := List.mem_map

@[simp] theorem mem_delete : r ∈ t.delete p ↔ r ∈ t ∧ p r = false := by
  simp [mem_rows, delete]

theorem update_eq_self (hf : ∀ r, key (f r) = key r) (h : t.count p = 0) : t.update p f hf = t := by
  apply ext
  rw [count, List.countP_eq_zero] at h
  conv_rhs => rw [← List.map_id t.rows]
  exact List.map_congr_left fun r hr => if_neg (h r hr)

theorem update_congr {q : R → Bool} (hf : ∀ r, key (f r) = key r) (h : ∀ r ∈ t, p r = q r) :
    t.update p f hf = t.update q f hf := by
  apply ext
  exact List.map_congr_left fun r hr => by rw [h r hr]

theorem delete_update (hf : ∀ r, key (f r) = key r) (h : ∀ r, p r = true → p (f r) = true) :
    (t.update p f hf).delete p = t.delete p := by
  apply ext
  change (t.rows.map _).filter _ = t.rows.filter _
  induction t.rows with
  | nil => rfl
  | cons r rows ih =>
    rw [List.map_cons, List.filter_cons, List.filter_cons, ih]
    by_cases hp : p r = true
    · simp [hp, h r hp]
    · simp [hp]

theorem exists_of_count_pos (h : 0 < t.count p) : ∃ r ∈ t, p r = true :=
  List.countP_pos_iff.mp h

theorem delete_delete (t : Table key) (p q : R → Bool) : (t.delete p).delete q = t.delete fun r => p r || q r := by
  apply ext
  simp [delete, List.filter_filter, Bool.and_comm]

theorem delete_congr {q : R → Bool} (h : ∀ r ∈ t, p r = q r) : t.delete p = t.delete q := by
  apply ext
  exact List.filter_congr fun r hr => by rw [h r hr]

theorem foldl_delete {β : Type*} (keep : β → Bool) (selects : β → R → Bool) (l : List β) (t : Table key) :
    l.foldl (fun acc b => if keep b then acc else acc.delete (selects b)) t =
      t.delete fun r => l.any fun b => !keep b && selects b r := by
  induction l generalizing t with
  | nil => simp [delete]
  | cons b l ih =>
    rw [List.foldl_cons, ih]
    cases hKeep : keep b with
    | true => simp [hKeep]
    | false =>
      rw [if_neg (by simp), delete_delete]
      simp [hKeep]

variable [DecidableEq K]

def find? (t : Table key) (k : K) : Option R := t.rows.find? fun r => key r = k

def contains (t : Table key) (k : K) : Bool := (t.find? k).isSome

def insertOrIgnore (t : Table key) (r : R) : Table key :=
  if h : ∀ r' ∈ t.rows, key r' ≠ key r then
    ⟨t.rows ++ [r], by
      rw [List.map_append, List.nodup_append]
      refine ⟨t.unique, by simp, ?_⟩
      intro k hk k' hk'
      obtain ⟨r', hr', rfl⟩ := List.mem_map.mp hk
      rw [List.map_singleton, List.mem_singleton] at hk'
      exact hk' ▸ h r' hr'⟩
  else t

def upsert (t : Table key) (r : R) (f : R → R) (hf : ∀ r, key (f r) = key r) : Table key :=
  (t.update (fun r' => key r' = key r) f hf).insertOrIgnore r

theorem count_key_le_one (t : Table key) (k : K) : t.count (fun r => key r = k) ≤ 1 := by
  have hCount : t.count (fun r => key r = k) = (t.rows.map key).count k := by
    rw [count, List.count, List.countP_map]
    exact List.countP_congr fun r _ => by simp
  rw [hCount]
  exact List.nodup_iff_count_le_one.mp t.unique k

theorem filter_key_eq (h : r ∈ t) : t.rows.filter (fun r' => key r' = key r) = [r] := by
  have hMem : r ∈ t.rows.filter fun r' => key r' = key r := List.mem_filter.mpr ⟨h, by simp⟩
  have hLength : (t.rows.filter fun r' => key r' = key r).length ≤ 1 := by
    rw [← List.countP_eq_length_filter]
    exact t.count_key_le_one (key r)
  obtain ⟨r', hEq⟩ := List.length_eq_one_iff.mp (Nat.le_antisymm hLength (List.length_pos_of_mem hMem))
  rw [hEq, List.mem_singleton] at hMem
  rw [hEq, hMem]

theorem find?_eq_some_iff : t.find? k = some r ↔ r ∈ t ∧ key r = k := by
  constructor
  · intro h
    exact ⟨List.mem_of_find?_eq_some h, by simpa using List.find?_some h⟩
  · rintro ⟨hMem, hKey⟩
    cases hFind : t.find? k with
    | none =>
      have hNone := List.find?_eq_none.mp hFind r hMem
      simp [hKey] at hNone
    | some r' =>
      have hKey' : key r' = k := by simpa using List.find?_some hFind
      rw [eq_of_key_eq (List.mem_of_find?_eq_some hFind) hMem (hKey'.trans hKey.symm)]

theorem find?_eq_none_iff : t.find? k = none ↔ ∀ r ∈ t, key r ≠ k := by
  simp [find?, List.find?_eq_none, mem_rows]

theorem find?_of_mem (h : r ∈ t) : t.find? (key r) = some r :=
  find?_eq_some_iff.mpr ⟨h, rfl⟩

theorem contains_iff : t.contains k = true ↔ ∃ r ∈ t, key r = k := by
  rw [contains, Option.isSome_iff_exists]
  exact exists_congr fun r => find?_eq_some_iff

theorem contains_eq_false_iff : t.contains k = false ↔ t.find? k = none := by
  simp [contains]

theorem find?_update (t : Table key) (p : R → Bool) (f : R → R) (hf : ∀ r, key (f r) = key r) (k : K) :
    (t.update p f hf).find? k = (t.find? k).map fun r => if p r then f r else r := by
  cases hFind : t.find? k with
  | none =>
    rw [Option.map_none, find?_eq_none_iff]
    intro r hr
    obtain ⟨r', hr', rfl⟩ := mem_update.mp hr
    have hNe := find?_eq_none_iff.mp hFind r' hr'
    by_cases hp : p r' <;> simpa [hp, hf] using hNe
  | some r =>
    obtain ⟨hMem, hKey⟩ := find?_eq_some_iff.mp hFind
    rw [Option.map_some, find?_eq_some_iff]
    refine ⟨mem_update.mpr ⟨r, hMem, rfl⟩, ?_⟩
    by_cases hp : p r <;> simp [hp, hf, hKey]

theorem find?_delete (t : Table key) (p : R → Bool) (k : K) :
    (t.delete p).find? k = (t.find? k).filter fun r => !p r := by
  cases hFind : t.find? k with
  | none =>
    rw [Option.filter_none, find?_eq_none_iff]
    intro r hr
    exact find?_eq_none_iff.mp hFind r (mem_delete.mp hr).1
  | some r =>
    obtain ⟨hMem, hKey⟩ := find?_eq_some_iff.mp hFind
    cases hp : p r with
    | true =>
      simp only [Option.filter, hp, Bool.not_true, Bool.false_eq_true, if_false]
      rw [find?_eq_none_iff]
      intro r' hr' hKey'
      obtain ⟨hMem', hp'⟩ := mem_delete.mp hr'
      rw [eq_of_key_eq hMem' hMem (hKey'.trans hKey.symm), hp] at hp'
      cases hp'
    | false =>
      simp only [Option.filter, hp, Bool.not_false, if_true]
      exact find?_eq_some_iff.mpr ⟨mem_delete.mpr ⟨hMem, hp⟩, hKey⟩

theorem find?_delete_key (t : Table key) (k k' : K) :
    (t.delete fun r => key r = k').find? k = if k = k' then none else t.find? k := by
  rw [find?_delete]
  cases hFind : t.find? k with
  | none => simp
  | some r =>
    have hKey := (find?_eq_some_iff.mp hFind).2
    by_cases hk : k = k' <;> simp [Option.filter, hKey, hk]

theorem map_find?_delete {α : Type*} {p : R → Bool} {f : R → α} {k : K} {a : α}
    (h : ((t.delete p).find? k).map f = some a) : (t.find? k).map f = some a := by
  obtain ⟨r, hr, ha⟩ := Option.map_eq_some_iff.mp h
  rw [find?_delete] at hr
  exact Option.map_eq_some_iff.mpr ⟨r, (Option.filter_eq_some_iff.mp hr).1, ha⟩

theorem insertOrIgnore_of_fresh (h : t.find? (key r) = none) : (t.insertOrIgnore r).rows = t.rows ++ [r] := by
  have hAll : ∀ r' ∈ t.rows, key r' ≠ key r := find?_eq_none_iff.mp h
  rw [insertOrIgnore, dif_pos hAll]

theorem insertOrIgnore_of_taken (h : t.find? (key r) = some r') : t.insertOrIgnore r = t := by
  obtain ⟨hMem, hKey⟩ := find?_eq_some_iff.mp h
  exact dif_neg fun hAll => hAll r' hMem hKey

theorem mem_insertOrIgnore (h : r' ∈ t.insertOrIgnore r) : r' ∈ t ∨ r' = r := by
  cases hFind : t.find? (key r) with
  | none =>
    rw [mem_rows, insertOrIgnore_of_fresh hFind, List.mem_append, List.mem_singleton] at h
    exact h
  | some r'' => exact Or.inl (insertOrIgnore_of_taken hFind ▸ h)

theorem mem_insertOrIgnore_of_mem (h : r' ∈ t) (r : R) : r' ∈ t.insertOrIgnore r := by
  unfold insertOrIgnore
  split
  · exact List.mem_append_left _ h
  · exact h

theorem mem_insertOrIgnore_of_fresh (h : t.find? (key r) = none) : r ∈ t.insertOrIgnore r := by
  rw [mem_rows, insertOrIgnore_of_fresh h]
  exact List.mem_append_right _ (List.mem_singleton.mpr rfl)

theorem find?_insertOrIgnore (t : Table key) (r : R) (k : K) :
    (t.insertOrIgnore r).find? k = if key r = k then some ((t.find? k).getD r) else t.find? k := by
  cases hFind : t.find? (key r) with
  | none =>
    rw [find?, insertOrIgnore_of_fresh hFind, List.find?_append, ← find?]
    by_cases hk : key r = k
    · subst hk
      simp [hFind]
    · simp [hk]
  | some r' =>
    rw [insertOrIgnore_of_taken hFind]
    by_cases hk : key r = k
    · subst hk
      simp [hFind]
    · simp [hk]

theorem find?_upsert (t : Table key) (r : R) (f : R → R) (hf : ∀ r, key (f r) = key r) (k : K) :
    (t.upsert r f hf).find? k = if key r = k then some (((t.find? k).map f).getD r) else t.find? k := by
  rw [upsert, find?_insertOrIgnore, find?_update]
  cases hFind : t.find? k with
  | none => simp
  | some r' =>
    have hKey := (find?_eq_some_iff.mp hFind).2
    by_cases hk : key r = k
    · simp [hk, hKey]
    · have hNe : ¬ k = key r := fun h => hk h.symm
      simp [hk, hKey, hNe]

omit [DecidableEq K] in
theorem map_update {S : Type*} (hf : ∀ r, key (f r) = key r) {g : R → S} (hg : ∀ r, g (f r) = g r) :
    (t.update p f hf).rows.map g = t.rows.map g := by
  rw [update, List.map_map]
  apply List.map_congr_left
  intro r _
  by_cases hp : p r <;> simp [hp, hg]

theorem nodup_map_insertOrIgnore {S : Type*} {g : R → S} (h : (t.rows.map g).Nodup) (hNew : ∀ r' ∈ t, g r' ≠ g r) :
    ((t.insertOrIgnore r).rows.map g).Nodup := by
  cases hFind : t.find? (key r) with
  | some r' =>
    rw [insertOrIgnore_of_taken hFind]
    exact h
  | none =>
    rw [insertOrIgnore_of_fresh hFind, List.map_append, List.nodup_append]
    refine ⟨h, by simp, ?_⟩
    intro s hs s' hs'
    obtain ⟨r', hr', rfl⟩ := List.mem_map.mp hs
    rw [List.map_singleton, List.mem_singleton] at hs'
    rw [hs']
    exact hNew r' hr'

end Table

end Foundation

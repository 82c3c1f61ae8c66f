import Mathlib.Data.List.Basic

set_option autoImplicit false

/-! A name leads to a file, and an open file stays the same file when its name moves or goes away. Contents are what was
appended, piece by piece. -/

namespace Foundation

universe u v

structure Files (N : Type u) (P : Type v) where
  entry : N → Option Nat
  content : Nat → List P
  /-- Files that were never created. -/
  next : Nat
  created : ∀ {n h}, entry n = some h → h < next
  distinct : ∀ {n m h}, entry n = some h → entry m = some h → n = m
  blank : ∀ h, next ≤ h → content h = []

namespace Files

variable {N : Type u} {P : Type v} [DecidableEq N]

def empty : Files N P where
  entry := fun _ => none
  content := fun _ => []
  next := 0
  created := nofun
  distinct := nofun
  blank := fun _ _ => rfl

def read (files : Files N P) (n : N) : Option (List P) := (files.entry n).map files.content

def create (n : N) (files : Files N P) : Files N P where
  entry := fun m => if m = n then some files.next else files.entry m
  content := files.content
  next := files.next + 1
  created := by
    intro m h hEntry
    split_ifs at hEntry
    · cases hEntry
      exact Nat.lt_succ_self _
    · exact Nat.lt_succ_of_lt (files.created hEntry)
  distinct := by
    intro m m' h hEntry hEntry'
    split_ifs at hEntry hEntry' with hm hm' hm'
    · rw [hm, hm']
    · cases hEntry
      exact absurd (files.created hEntry') (Nat.lt_irrefl _)
    · cases hEntry'
      exact absurd (files.created hEntry) (Nat.lt_irrefl _)
    · exact files.distinct hEntry hEntry'
  blank := fun h hNext => files.blank h (Nat.le_of_succ_le hNext)

def openAppend (n : N) (files : Files N P) : Files N P × Nat :=
  match files.entry n with
  | some h => (files, h)
  | none => (files.create n, files.next)

def append (h : Nat) (piece : P) (files : Files N P) : Files N P where
  entry := files.entry
  content := fun h' => if h' = h ∧ h < files.next then files.content h' ++ [piece] else files.content h'
  next := files.next
  created := files.created
  distinct := files.distinct
  blank := by
    intro h' hNext
    rw [if_neg]
    · exact files.blank h' hNext
    · rintro ⟨rfl, hLt⟩
      exact absurd hLt (Nat.not_lt.mpr hNext)

def move (old new : N) (h : Nat) (files : Files N P) (hOld : files.entry old = some h) : Files N P where
  entry := fun m => if m = new then some h else if m = old then none else files.entry m
  content := files.content
  next := files.next
  created := by
    intro m h' hEntry
    split_ifs at hEntry
    · cases hEntry
      exact files.created hOld
    · exact files.created hEntry
  distinct := by
    intro m m' h' hEntry hEntry'
    split_ifs at hEntry hEntry' with hm hm' hOld' hm'
    · rw [hm, hm']
    · cases hEntry
      exact absurd (files.distinct hEntry' hOld) hOld'
    · cases hEntry'
      exact absurd (files.distinct hEntry hOld) ‹_›
    · exact files.distinct hEntry hEntry'
  blank := files.blank

def rename (old new : N) (files : Files N P) : Files N P :=
  match hOld : files.entry old with
  | none => files
  | some h => files.move old new h hOld

def unlink (n : N) (files : Files N P) : Files N P where
  entry := fun m => if m = n then none else files.entry m
  content := files.content
  next := files.next
  created := by
    intro m h hEntry
    split_ifs at hEntry
    exact files.created hEntry
  distinct := by
    intro m m' h hEntry hEntry'
    split_ifs at hEntry hEntry'
    exact files.distinct hEntry hEntry'
  blank := files.blank

omit [DecidableEq N] in
theorem read_eq_none_iff {files : Files N P} {n : N} : files.read n = none ↔ files.entry n = none :=
  Option.map_eq_none_iff

theorem read_openAppend (n m : N) (files : Files N P) :
    (files.openAppend n).1.read m = if m = n then some ((files.read n).getD []) else files.read m := by
  unfold openAppend
  cases hEntry : files.entry n with
  | some h =>
    split_ifs with hm
    · simp [hm, read, hEntry]
    · rfl
  | none =>
    by_cases hm : m = n
    · simp [read, create, hm, hEntry, files.blank files.next (Nat.le_refl _)]
    · simp [read, create, hm]

omit [DecidableEq N] in
theorem read_append (h : Nat) (piece : P) (m : N) (files : Files N P) :
    (files.append h piece).read m =
      if files.entry m = some h then some (files.content h ++ [piece]) else files.read m := by
  cases hEntry : files.entry m with
  | none => simp [read, append, hEntry]
  | some h' =>
    by_cases hh : h' = h
    · subst hh
      simp [read, append, hEntry, files.created hEntry]
    · simp [read, append, hEntry, hh]

theorem read_rename {files : Files N P} {old : N} {h : Nat} (hOld : files.entry old = some h) (new m : N) :
    (files.rename old new).read m = if m = new then files.read old else if m = old then none else files.read m := by
  unfold rename
  split
  · next hNone => exact absurd (hNone.symm.trans hOld) nofun
  · next h' hSome =>
    simp only [read, move]
    split_ifs <;> simp [hSome]

theorem read_unlink (n m : N) (files : Files N P) :
    (files.unlink n).read m = if m = n then none else files.read m := by
  simp only [read, unlink]
  split_ifs <;> rfl

end Files

end Foundation

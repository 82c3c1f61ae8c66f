import Mathlib.Data.Multiset.AddSub
import Mathlib.Data.Multiset.Filter
import Mathlib.Data.Multiset.MapFold

set_option autoImplicit false

/-! An index is a multiset of document and token pairs. A document is posted by adding its tokens under its number and
taken out by subtracting them; what is not there is not subtracted. -/

namespace Foundation.Postings

universe u v

variable {D : Type u} {T : Type v} [DecidableEq D]

def entries (d : D) (tokens : Multiset T) : Multiset (D × T) := tokens.map fun t => (d, t)

def tokensOf (d : D) (index : Multiset (D × T)) : Multiset T := (index.filter fun p => p.1 = d).map Prod.snd

variable {d : D} {index : Multiset (D × T)}

theorem tokensOf_eq_zero_iff : tokensOf d index = 0 ↔ ∀ p ∈ index, p.1 ≠ d := by
  rw [tokensOf, Multiset.map_eq_zero, Multiset.filter_eq_nil]

theorem tokensOf_ne_zero_of_mem {p : D × T} (h : p ∈ index) : tokensOf p.1 index ≠ 0 :=
  fun hZero => tokensOf_eq_zero_iff.mp hZero p h rfl

variable [DecidableEq T]

theorem count_tokensOf (d : D) (index : Multiset (D × T)) (t : T) :
    (tokensOf d index).count t = index.count (d, t) := by
  induction index using Multiset.induction_on with
  | empty => rfl
  | cons p index ih =>
    obtain ⟨d', t'⟩ := p
    rw [Multiset.count_cons, ← ih, tokensOf, Multiset.filter_cons]
    by_cases hDoc : d' = d
    · subst hDoc
      simp [tokensOf, Multiset.count_cons]
    · have hNe : (d, t) ≠ (d', t') := fun h => hDoc (congrArg Prod.fst h).symm
      simp [tokensOf, hDoc, hNe]

theorem count_entries_self (d : D) (tokens : Multiset T) (t : T) :
    (entries d tokens).count (d, t) = tokens.count t := by
  apply Multiset.count_map_eq_count' (fun t => (d, t))
  intro t t' h
  exact congrArg Prod.snd h

variable {d' : D}

theorem count_entries_of_ne (h : d' ≠ d) (tokens : Multiset T) (t : T) : (entries d' tokens).count (d, t) = 0 := by
  rw [Multiset.count_eq_zero]
  intro hMem
  obtain ⟨t', _, hEq⟩ := Multiset.mem_map.mp hMem
  exact h (congrArg Prod.fst hEq)

@[simp] theorem tokensOf_add_self (d : D) (index : Multiset (D × T)) (tokens : Multiset T) :
    tokensOf d (index + entries d tokens) = tokensOf d index + tokens := by
  ext t
  rw [count_tokensOf, Multiset.count_add, Multiset.count_add, count_tokensOf, count_entries_self]

@[simp] theorem tokensOf_sub_self (d : D) (index : Multiset (D × T)) (tokens : Multiset T) :
    tokensOf d (index - entries d tokens) = tokensOf d index - tokens := by
  ext t
  rw [count_tokensOf, Multiset.count_sub, Multiset.count_sub, count_tokensOf, count_entries_self]

theorem tokensOf_add_of_ne (h : d' ≠ d) (index : Multiset (D × T)) (tokens : Multiset T) :
    tokensOf d (index + entries d' tokens) = tokensOf d index := by
  ext t
  rw [count_tokensOf, Multiset.count_add, count_entries_of_ne h, count_tokensOf, Nat.add_zero]

theorem tokensOf_sub_of_ne (h : d' ≠ d) (index : Multiset (D × T)) (tokens : Multiset T) :
    tokensOf d (index - entries d' tokens) = tokensOf d index := by
  ext t
  rw [count_tokensOf, Multiset.count_sub, count_entries_of_ne h, count_tokensOf, Nat.sub_zero]

end Foundation.Postings

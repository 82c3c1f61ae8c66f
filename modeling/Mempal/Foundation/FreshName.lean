import Mathlib.Data.List.Nodup
import Mathlib.Data.List.Perm.Subperm
import Mempal.Foundation.Digits
import Mempal.Foundation.Fuel

set_option autoImplicit false

/-! A loop that tries the names of a sequence, one after the other, until one is free. If no name comes twice and only
finitely many are taken, the loop returns. -/

namespace Foundation

universe u

variable {α : Type u}

def firstFree (name : Nat → α) (taken : α → Bool) : Nat → Nat → Option α
  | 0, _ => none
  | fuel + 1, n => if taken (name n) then firstFree name taken fuel (n + 1) else some (name n)

theorem exists_free {name : Nat → α} (hName : Function.Injective name) {taken : α → Bool}
    {used : List α} (hTaken : ∀ a, taken a = true → a ∈ used) (n : Nat) : ∃ m, taken (name (n + m)) = false := by
  by_contra hNone
  push Not at hNone
  have hInjective : Function.Injective fun m => name (n + m) := fun m m' h => Nat.add_left_cancel (hName h)
  have hSubset : (List.range (used.length + 1)).map (fun m => name (n + m)) ⊆ used := by
    intro a ha
    obtain ⟨m, _, rfl⟩ := List.mem_map.mp ha
    exact hTaken _ (Bool.eq_true_of_not_eq_false (hNone m))
  have hLength := ((List.nodup_range.map hInjective).subperm hSubset).length_le
  rw [List.length_map, List.length_range] at hLength
  omega

theorem firstFree_returns {name : Nat → α} (hName : Function.Injective name) {taken : α → Bool}
    {used : List α} (hTaken : ∀ a, taken a = true → a ∈ used) (n : Nat) :
    ∃ a, Returns (fun fuel => firstFree name taken fuel n) a ∧ taken a = false := by
  obtain ⟨m, hm⟩ := exists_free hName hTaken n
  induction m generalizing n with
  | zero =>
    refine ⟨name n, Returns.succ ?_, hm⟩
    rw [Nat.add_zero] at hm
    simp only [firstFree, hm, Bool.false_eq_true, if_false]
    exact Returns.pure (name n)
  | succ m ih =>
    cases hHere : taken (name n) with
    | false =>
      refine ⟨name n, Returns.succ ?_, hHere⟩
      simp only [firstFree, hHere, Bool.false_eq_true, if_false]
      exact Returns.pure (name n)
    | true =>
      obtain ⟨a, hReturns, hFree⟩ := ih (n + 1) (by rwa [Nat.add_right_comm])
      refine ⟨a, Returns.succ ?_, hFree⟩
      simp only [firstFree, hHere, if_true]
      exact hReturns

def numbered (base : String) (n : Nat) : String := base ++ "_" ++ String.ofList (Nat.toDigits 10 n)

theorem numbered_injective (base : String) : Function.Injective (numbered base) := by
  intro n n' h
  have hChars := congrArg String.toList h
  simp only [numbered, String.toList_append, String.toList_ofList] at hChars
  have hDigits := List.append_cancel_left hChars
  have hValue : ∀ k, Digits.value 10 (Nat.toDigits 10 k) = k := Digits.value_toDigits (by decide) (by decide)
  rw [← hValue n, hDigits, hValue]

end Foundation

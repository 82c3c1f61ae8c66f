import Mathlib.Algebra.Order.Ring.Nat
import Mathlib.Data.Char
import Mathlib.Data.List.Lex
import Mathlib.Tactic.IntervalCases

set_option autoImplicit false

/-! A number is written in a base with zeros in front up to a width. Such texts determine their number whatever its
size, and as long as the numbers fit the width their order as texts is the order of the numbers. -/

namespace Foundation

namespace Digits

def padded (base width n : Nat) : List Char :=
  List.replicate (width - (Nat.toDigits base n).length) '0' ++ Nat.toDigits base n

def digitVal (c : Char) : Nat := if c.toNat ≤ 57 then c.toNat - 48 else c.toNat - 87

def value (base : Nat) (text : List Char) : Nat := text.foldl (fun acc c => base * acc + digitVal c) 0

variable {d n' : Nat} {x : Char}

theorem digitVal_digitChar (h : d < 16) : digitVal (Nat.digitChar d) = d := by
  interval_cases d <;> rfl

theorem digitChar_lt {d' : Nat} (h : d < d') (h' : d' < 16) : Nat.digitChar d < Nat.digitChar d' := by
  interval_cases d' <;> interval_cases d <;> decide

theorem value_append_singleton (base : Nat) (text : List Char) (c : Char) :
    value base (text ++ [c]) = base * value base text + digitVal c := by
  simp [value, List.foldl_append]

variable {n width : Nat}

section
variable {base : Nat} (hBase : 1 < base) (hSixteen : base ≤ 16)
include hBase

theorem mem_toDigits {c : Char} (h : c ∈ Nat.toDigits base n) : ∃ d < base, c = Nat.digitChar d := by
  induction n using Nat.strong_induction_on with
  | _ n ih =>
    by_cases hn : n < base
    · rw [Nat.toDigits_of_lt_base hn, List.mem_singleton] at h
      exact ⟨n, hn, h⟩
    · rw [Nat.toDigits_of_base_le hBase (not_lt.mp hn), List.mem_append, List.mem_singleton] at h
      rcases h with h | h
      · exact ih (n / base) (Nat.div_lt_self (by omega) hBase) h
      · exact ⟨n % base, Nat.mod_lt n (by omega), h⟩

theorem mem_padded {c : Char} (h : c ∈ padded base width n) : ∃ d < base, c = Nat.digitChar d := by
  rcases List.mem_append.mp h with h | h
  · exact ⟨0, by omega, List.eq_of_mem_replicate h⟩
  · exact mem_toDigits hBase h

include hSixteen in
theorem value_toDigits (n : Nat) : value base (Nat.toDigits base n) = n := by
  induction n using Nat.strong_induction_on with
  | _ n ih =>
    by_cases hn : n < base
    · rw [Nat.toDigits_of_lt_base hn]
      simp [value, digitVal_digitChar (hn.trans_le hSixteen)]
    · have hMod : n % base < 16 := (Nat.mod_lt n (by omega)).trans_le hSixteen
      rw [Nat.toDigits_of_base_le hBase (not_lt.mp hn), value_append_singleton,
        ih _ (Nat.div_lt_self (by omega) hBase), digitVal_digitChar hMod, Nat.div_add_mod]

include hSixteen in
theorem value_padded (width n : Nat) : value base (padded base width n) = n := by
  have hZeros : ∀ k, (List.replicate k '0').foldl (fun acc c => base * acc + digitVal c) 0 = 0 := by
    intro k
    induction k with
    | zero => rfl
    | succ k ih => simpa [List.replicate_succ, digitVal] using ih
  rw [value, padded, List.foldl_append, hZeros]
  exact value_toDigits hBase hSixteen n

include hSixteen in
theorem padded_injective (width : Nat) : Function.Injective (padded base width) := by
  intro n n' h
  rw [← value_padded hBase hSixteen width n, h, value_padded hBase hSixteen]

theorem length_padded (hWidth : 0 < width) (h : n < base ^ width) : (padded base width n).length = width := by
  have hLen := (Nat.length_toDigits_le_iff hBase hWidth).mpr h
  simp only [padded, List.length_append, List.length_replicate]
  omega

theorem padded_succ (hWidth : 0 < width) :
    padded base (width + 1) n = padded base width (n / base) ++ [Nat.digitChar (n % base)] := by
  by_cases hn : n < base
  · rw [padded, padded, Nat.div_eq_of_lt hn, Nat.mod_eq_of_lt hn, Nat.toDigits_of_lt_base hn, Nat.toDigits_zero,
      List.length_singleton, List.length_singleton, Nat.add_sub_cancel, ← List.replicate_succ',
      Nat.sub_add_cancel hWidth]
  · rw [padded, padded, Nat.toDigits_of_base_le hBase (not_lt.mp hn), List.length_append, List.length_singleton,
      Nat.add_sub_add_right, List.append_assoc]

end

theorem append_lt_append_iff {l l' s t : List Char} (h : l.length = l'.length) :
    l ++ s < l' ++ t ↔ l < l' ∨ l = l' ∧ s < t := by
  induction l generalizing l' with
  | nil =>
    rw [List.eq_nil_of_length_eq_zero h.symm]
    simp
  | cons c l ih =>
    cases l' with
    | nil => cases h
    | cons c' l' =>
      simp only [List.cons_append, List.cons_lt_cons_iff, ih (Nat.succ.inj h), List.cons.injEq]
      tauto

theorem padded_lt_of_lt {base : Nat} (hBase : 1 < base) (hSixteen : base ≤ 16)
    (hWidth : 0 < width) (h : n < n') (hFits : n' < base ^ width) :
    padded base width n < padded base width n' := by
  induction width, hWidth using Nat.le_induction generalizing n n' with
  | base =>
    rw [pow_one] at hFits
    rw [padded, padded, Nat.toDigits_of_lt_base hFits, Nat.toDigits_of_lt_base (h.trans hFits)]
    exact List.cons_lt_cons_iff.mpr (Or.inl (digitChar_lt h (hFits.trans_le hSixteen)))
  | succ width hWidth ih =>
    have hFits' : n' / base < base ^ width := Nat.div_lt_of_lt_mul (by rwa [pow_succ, mul_comm] at hFits)
    have hDiv : n / base ≤ n' / base := Nat.div_le_div_right h.le
    rw [padded_succ hBase hWidth, padded_succ hBase hWidth, append_lt_append_iff (by
      rw [length_padded hBase hWidth (hDiv.trans_lt hFits'), length_padded hBase hWidth hFits'])]
    rcases hDiv.lt_or_eq with hLt | hEq
    · exact Or.inl (ih hLt hFits')
    · have hMod : n % base < n' % base := by
        have hn := Nat.div_add_mod n base
        have hn' := Nat.div_add_mod n' base
        rw [← hEq] at hn'
        omega
      have hBound : n' % base < 16 := (Nat.mod_lt n' (by omega)).trans_le hSixteen
      exact Or.inr ⟨by rw [hEq], List.cons_lt_cons_iff.mpr (Or.inl (digitChar_lt hMod hBound))⟩

theorem padded_append_lt_iff {base : Nat} (hBase : 1 < base) (hSixteen : base ≤ 16)
    {s t : List Char} (hWidth : 0 < width) (hFits : n < base ^ width) (hFits' : n' < base ^ width) :
    padded base width n ++ s < padded base width n' ++ t ↔ n < n' ∨ n = n' ∧ s < t := by
  rw [append_lt_append_iff (by rw [length_padded hBase hWidth hFits, length_padded hBase hWidth hFits'])]
  rcases lt_trichotomy n n' with h | rfl | h
  · simp [h, padded_lt_of_lt hBase hSixteen hWidth h hFits']
  · simp
  · have hGt := padded_lt_of_lt hBase hSixteen hWidth h hFits
    have hNe : padded base width n ≠ padded base width n' := hGt.ne'
    simp [not_lt_of_gt h, not_lt_of_gt hGt, h.ne', hNe]

section Separator
variable {c : Char} {l l' s t : List Char}

theorem append_sep_lt_iff (h : ∀ x ∈ l', c < x) : l ++ c :: s < l' ↔ l < l' := by
  induction l generalizing l' with
  | nil =>
    cases l' with
    | nil => simp
    | cons x l' => simp [List.cons_lt_cons_iff, h x List.mem_cons_self]
  | cons y l ih =>
    cases l' with
    | nil => simp
    | cons x l' =>
      rw [List.cons_append, List.cons_lt_cons_iff, List.cons_lt_cons_iff,
        ih fun x hx => h x (List.mem_cons_of_mem _ hx)]

theorem lt_append_sep_iff (h : ∀ x ∈ l', c < x) : l' < l ++ c :: s ↔ l' ≤ l := by
  have hNe : l' ≠ l ++ c :: s := by
    rintro rfl
    exact lt_irrefl c (h c (List.mem_append_right _ List.mem_cons_self))
  rw [← not_lt, ← append_sep_lt_iff (s := s) h, not_lt, le_iff_lt_or_eq]
  exact ⟨Or.inl, fun hLe => hLe.resolve_right hNe⟩

theorem append_sep_lt_append_sep_iff (h : ∀ x ∈ l, c < x) (h' : ∀ x ∈ l', c < x) :
    l ++ c :: s < l' ++ c :: t ↔ l < l' ∨ l = l' ∧ s < t := by
  induction l generalizing l' with
  | nil =>
    cases l' with
    | nil => simp
    | cons x l' => simp [List.cons_lt_cons_iff, h' x List.mem_cons_self]
  | cons y l ih =>
    cases l' with
    | nil =>
      have hLt := h y List.mem_cons_self
      simp [List.cons_lt_cons_iff, hLt.not_gt, hLt.ne']
    | cons x l' =>
      simp only [List.cons_append, List.cons_lt_cons_iff, List.cons.injEq,
        ih (fun x hx => h x (List.mem_cons_of_mem _ hx)) (fun x hx => h' x (List.mem_cons_of_mem _ hx))]
      tauto

end Separator

theorem dash_lt_of_mem_toDigits (h : x ∈ Nat.toDigits 10 n) : '-' < x := by
  obtain ⟨d, hd, rfl⟩ := mem_toDigits (by decide) h
  interval_cases d <;> decide

theorem dash_lt_of_mem_padded (h : x ∈ padded 10 width n) : '-' < x := by
  obtain ⟨d, hd, rfl⟩ := mem_padded (by decide) h
  interval_cases d <;> decide

end Digits

end Foundation

import Mathlib.Data.List.TakeWhile
import Mathlib.Order.Basic
import Mempal.Foundation.Text

set_option autoImplicit false

/-! A pattern made of two parts matches what is made of a match of the one and a match of the other, so a pattern can
be read piece by piece. -/

namespace Foundation

namespace Text

variable {text pattern : List Char}

theorem likeChars_nil : likeChars [] text = true ↔ text = [] := by
  simp [likeChars]

theorem likeChars_percent :
    likeChars ('%' :: pattern) text = true ↔ ∃ skipped rest, text = skipped ++ rest ∧ likeChars pattern rest = true := by
  simp only [likeChars, if_true, List.any_eq_true, List.mem_tails]
  constructor
  · rintro ⟨rest, ⟨skipped, rfl⟩, hRest⟩
    exact ⟨skipped, rest, rfl, hRest⟩
  · rintro ⟨skipped, rest, rfl, hRest⟩
    exact ⟨rest, List.suffix_append skipped rest, hRest⟩

theorem likeChars_cons {p : Char} (hp : p ≠ '%') :
    likeChars (p :: pattern) text = true ↔
      ∃ c rest, text = c :: rest ∧ (p = '_' ∨ p.toLower = c.toLower) ∧ likeChars pattern rest = true := by
  cases text with
  | nil | cons => simp [likeChars, hp]

theorem likeChars_append {pattern' : List Char} :
    likeChars (pattern ++ pattern') text = true ↔
      ∃ front back, text = front ++ back ∧ likeChars pattern front = true ∧ likeChars pattern' back = true := by
  induction pattern generalizing text with
  | nil =>
    constructor
    · exact fun h => ⟨[], text, rfl, likeChars_nil.mpr rfl, h⟩
    · rintro ⟨front, back, rfl, hFront, hBack⟩
      rw [likeChars_nil.mp hFront]
      exact hBack
  | cons p pattern ih =>
    by_cases hp : p = '%'
    · subst hp
      rw [List.cons_append, likeChars_percent]
      constructor
      · rintro ⟨skipped, rest, rfl, hRest⟩
        obtain ⟨front, back, rfl, hFront, hBack⟩ := ih.mp hRest
        exact ⟨skipped ++ front, back, (List.append_assoc _ _ _).symm,
          likeChars_percent.mpr ⟨skipped, front, rfl, hFront⟩, hBack⟩
      · rintro ⟨front, back, rfl, hFront, hBack⟩
        obtain ⟨skipped, rest, rfl, hRest⟩ := likeChars_percent.mp hFront
        exact ⟨skipped, rest ++ back, List.append_assoc _ _ _, ih.mpr ⟨rest, back, rfl, hRest, hBack⟩⟩
    · rw [List.cons_append, likeChars_cons hp]
      constructor
      · rintro ⟨c, rest, rfl, hHead, hRest⟩
        obtain ⟨front, back, rfl, hFront, hBack⟩ := ih.mp hRest
        exact ⟨c :: front, back, rfl, (likeChars_cons hp).mpr ⟨c, front, rfl, hHead, hFront⟩, hBack⟩
      · rintro ⟨front, back, rfl, hFront, hBack⟩
        obtain ⟨c, rest, rfl, hHead, hRest⟩ := (likeChars_cons hp).mp hFront
        exact ⟨c, rest ++ back, rfl, hHead, ih.mpr ⟨rest, back, rfl, hRest, hBack⟩⟩

theorem likeChars_self (text : List Char) : likeChars text text = true := by
  induction text with
  | nil => rfl
  | cons c text ih =>
    by_cases hc : c = '%'
    · subst hc
      exact likeChars_percent.mpr ⟨['%'], text, rfl, ih⟩
    · exact (likeChars_cons hc).mpr ⟨c, text, rfl, Or.inr rfl, ih⟩

/-- A pattern without wildcards matches itself, whatever the case of its letters. -/
theorem likeChars_literal (h : (pattern.all fun p => p ≠ '%' ∧ p ≠ '_') = true) :
    likeChars pattern text = true ↔ text.map Char.toLower = pattern.map Char.toLower := by
  induction pattern generalizing text with
  | nil => simp [likeChars_nil]
  | cons p pattern ih =>
    rw [List.all_cons, Bool.and_eq_true, decide_eq_true_eq] at h
    obtain ⟨⟨hPercent, hUnderscore⟩, hRest⟩ := h
    rw [likeChars_cons hPercent]
    constructor
    · rintro ⟨c, rest, rfl, hHead, hTail⟩
      rw [List.map_cons, List.map_cons, (ih hRest).mp hTail, hHead.resolve_left hUnderscore]
    · intro hEq
      obtain ⟨c, rest, rfl, hHead, hTail⟩ := List.map_eq_cons_iff.mp hEq
      exact ⟨c, rest, rfl, Or.inr hHead.symm, (ih hRest).mpr hTail⟩

theorem eq_of_toLower_eq {p c : Char} (hp : p.isAlpha = false) (h : p.toLower = c.toLower) : c = p := by
  change (decide (p.val ≥ 'A'.val ∧ p.val ≤ 'Z'.val) ||
    decide (p.val ≥ 'a'.val) && decide (p.val ≤ 'z'.val)) = false at hp
  simp only [Bool.or_eq_false_iff, ← Bool.decide_and, decide_eq_false_iff_not] at hp
  have hFixed : p.toLower = p := dif_neg hp.1
  by_cases hUpper : c.val ≥ 'A'.val ∧ c.val ≤ 'Z'.val
  · have hShift : c.toLower.val = c.val + ('a'.val - 'A'.val) := congrArg Char.val (dif_pos hUpper)
    rw [← h, hFixed] at hShift
    rw [hShift] at hp
    obtain ⟨hLow, hHigh⟩ := hUpper
    simp only [UInt32.le_iff_toNat_le, UInt32.toNat_add, ge_iff_le] at hp hLow hHigh
    have hBounds : 'A'.val.toNat = 65 ∧ 'Z'.val.toNat = 90 ∧ ('a'.val - 'A'.val).toNat = 32 ∧
        'a'.val.toNat = 97 ∧ 'z'.val.toNat = 122 := by decide
    omega
  · have hSelf : c.toLower = c := dif_neg hUpper
    rw [hFixed, hSelf] at h
    exact h.symm

variable {a : String}

theorem beforeNul_append_of_mem (h : '\x00' ∈ a.toList) (b : String) : beforeNul (a ++ b) = beforeNul a := by
  rw [beforeNul, beforeNul, String.toList_append, List.takeWhile_append, if_neg]
  intro hLength
  have hAll := List.takeWhile_eq_self_iff.mp ((List.takeWhile_prefix _).eq_of_length hLength)
  simpa using hAll _ h

theorem beforeNul_eq_toList (h : '\x00' ∉ a.toList) : beforeNul a = a.toList := by
  refine List.takeWhile_eq_self_iff.mpr fun c hc => ?_
  simpa using ne_of_mem_of_not_mem hc h

theorem beforeNul_append (h : '\x00' ∉ a.toList) (b : String) : beforeNul (a ++ b) = a.toList ++ beforeNul b := by
  rw [beforeNul, String.toList_append, List.takeWhile_append, ← beforeNul, beforeNul_eq_toList h, if_pos rfl]
  rfl

end Text

end Foundation

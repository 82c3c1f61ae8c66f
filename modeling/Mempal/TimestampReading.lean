import Mempal.Calendar

set_option autoImplicit false

/-! `parse_rfc3339` recovers the second that `format_rfc3339` wrote, up to the year 9999: the calendar conversion of the
peek module is inverted by its counterpart, and every field has its fixed width. -/

namespace Mempal

open Foundation.Digits

variable {width n : Nat} {c : Char} (zone : Zone)

theorem isDigit_of_mem_padded (h : c ∈ padded 10 width n) : c.isDigit = true := by
  obtain ⟨d, hd, rfl⟩ := mem_padded (show 1 < 10 by decide) h
  clear h
  revert d
  decide

theorem digitChar_digitVal (h : c.isDigit = true) : Nat.digitChar (digitVal c) = c := by
  simp only [Char.isDigit, Bool.and_eq_true, decide_eq_true_eq, UInt32.le_iff_toNat_le] at h
  have hZero : 48 ≤ c.toNat := h.1
  have hNine : c.toNat ≤ 57 := h.2
  apply Char.toNat_inj.mp
  rw [digitVal, if_pos hNine, Nat.toNat_digitChar_of_lt_ten (by omega)]
  omega

theorem padded_value {digits : List Char} (hNonempty : digits ≠ []) (h : ∀ c ∈ digits, c.isDigit = true) :
    padded 10 digits.length (value 10 digits) = digits := by
  induction digits using List.reverseRecOn with
  | nil => exact absurd rfl hNonempty
  | append_singleton digits c ih =>
    have hLast := digitChar_digitVal (h c (by simp))
    have hDigit : digitVal c < 10 := by
      have hOne : ∀ x ∈ [c], x.isDigit = true := by simpa using h c (by simp)
      simpa [value] using value_lt_pow hOne
    rcases eq_or_ne digits [] with rfl | hRest
    · simp [padded, value, Nat.toDigits_of_lt_base hDigit, hLast]
    · rw [value_append_singleton, List.length_append, List.length_singleton,
        padded_succ (show 1 < 10 by decide) (List.length_pos_of_ne_nil hRest), Nat.mul_add_div (by decide),
        Nat.mul_add_mod, Nat.div_eq_of_lt hDigit, Nat.mod_eq_of_lt hDigit, hLast, Nat.add_zero,
        ih hRest fun x hx => h x (List.mem_append_left _ hx)]

theorem parseUnsigned_padded (hWidth : 0 < width) (hFits : n < 10 ^ width) :
    parseUnsigned (padded 10 width n) = some n := by
  have hDigits : ∀ c ∈ padded 10 width n, c.isDigit = true := fun c => isDigit_of_mem_padded
  have hNonempty : padded 10 width n ≠ [] := by
    intro hNil
    have hLength := length_padded (show 1 < 10 by decide) hWidth hFits
    rw [hNil, List.length_nil] at hLength
    omega
  have hValue := value_padded (show 1 < 10 by decide) (by decide) width n
  generalize padded 10 width n = digits at hDigits hNonempty hValue
  unfold parseUnsigned
  split
  · exact absurd (hDigits '+' List.mem_cons_self) (by decide)
  · rw [if_pos ⟨hNonempty, List.all_eq_true.mpr hDigits⟩, hValue]

theorem parseSigned_padded (hWidth : 0 < width) (hFits : n < 10 ^ width) :
    parseSigned (padded 10 width n) = some (n : Int) := by
  have hDigits : ∀ c ∈ padded 10 width n, c.isDigit = true := fun c => isDigit_of_mem_padded
  have hUnsigned := parseUnsigned_padded hWidth hFits
  generalize padded 10 width n = digits at hDigits hUnsigned
  unfold parseSigned
  split
  · exact absurd (hDigits '-' List.mem_cons_self) (by decide)
  · rw [hUnsigned]
    rfl

theorem exists_two_digits (h : n < 10 ^ 2) :
    ∃ a b, (padZero 2 n).toList = [a, b] ∧ parseUnsigned [a, b] = some n := by
  obtain ⟨a, b, hEq⟩ := List.length_eq_two.mp (length_padded (show 1 < 10 by decide) (by decide) h)
  refine ⟨a, b, (padZero_toList 2 n).trans hEq, ?_⟩
  rw [← hEq]
  exact parseUnsigned_padded (by decide) h

theorem exists_four_digits (h : n < 10 ^ 4) :
    ∃ a b c d, (padZero 4 n).toList = [a, b, c, d] ∧ parseSigned [a, b, c, d] = some (n : Int) := by
  obtain ⟨a, b, c, d, hEq⟩ : ∃ a b c d, padded 10 4 n = [a, b, c, d] := by
    have hLength := length_padded (show 1 < 10 by decide) (by decide) h
    match padded 10 4 n, hLength with
    | [a, b, c, d], _ => exact ⟨a, b, c, d, rfl⟩
  refine ⟨a, b, c, d, (padZero_toList 4 n).trans hEq, ?_⟩
  rw [← hEq]
  exact parseSigned_padded (by decide) h

theorem IsDate.day_le {y m d : Nat} (h : IsDate y m d) : d ≤ 31 := by
  have hLengths : ∀ i < 12, (monthLengths y).getD i 0 ≤ 31 := by
    unfold monthLengths
    cases isLeap y <;> decide
  exact h.inMonth.trans (hLengths _ (by have := h.month; omega))

theorem parseOffset_signed {sign : Char} {factor : Int} (hours : Fin 24) (minutes : Fin 60)
    (hSign : sign = '+' ∧ factor = 1 ∨ sign = '-' ∧ factor = -1) :
    parseOffset (sign :: ((padZero 2 hours).toList ++ ':' :: (padZero 2 minutes).toList)) =
      some (factor * ((hours : Nat) * 3600 + (minutes : Nat) * 60)) := by
  obtain ⟨h₁, h₂, hH, hHRead⟩ := exists_two_digits (show (hours : Nat) < 10 ^ 2 by omega)
  obtain ⟨m₁, m₂, hM, hMRead⟩ := exists_two_digits (show (minutes : Nat) < 10 ^ 2 by omega)
  rw [hH, hM]
  rcases hSign with ⟨rfl, rfl⟩ | ⟨rfl, rfl⟩ <;> simp [parseOffset, hHRead, hMRead] <;> omega

theorem parseOffset_text : parseOffset zone.text.toList = some zone.offsetSecs := by
  have hMarks : "+".toList = ['+'] ∧ "-".toList = ['-'] ∧ ":".toList = [':'] := by decide
  cases zone with
  | utc => decide
  | ahead hours minutes =>
    have hRead := parseOffset_signed hours minutes (Or.inl ⟨rfl, rfl⟩)
    simpa [Zone.text, Zone.offsetSecs, hMarks] using hRead
  | behind hours minutes =>
    have hRead := parseOffset_signed hours minutes (Or.inr ⟨rfl, rfl⟩)
    simpa [Zone.text, Zone.offsetSecs, hMarks] using hRead

theorem Zone.text_head : ∃ mark rest, zone.text.toList = mark :: rest ∧ (mark = 'Z' ∨ mark = '+' ∨ mark = '-') := by
  have hMarks : "+".toList = ['+'] ∧ "-".toList = ['-'] ∧ "Z".toList = ['Z'] := by decide
  cases zone <;> simp [Zone.text, hMarks]

theorem splitFraction_text (fraction : List (Fin 10)) (zone : Zone) :
    splitFraction (fractionText fraction ++ zone.text).toList =
      some (fraction.map fun d : Fin 10 => Nat.digitChar d, zone.text.toList) := by
  obtain ⟨mark, rest, hZone, hMark⟩ := zone.text_head
  have hDot : ".".toList = ['.'] := by decide
  have hDigit : ∀ d : Fin 10, (Nat.digitChar d).isDigit = true := by decide
  have hStop : mark.isDigit = false ∧ mark ≠ '.' := by
    rcases hMark with rfl | rfl | rfl <;> decide
  cases fraction with
  | nil =>
    rw [fractionText, String.empty_append, hZone, splitFraction]
    · rfl
    · rintro _ ⟨⟩
      exact absurd rfl hStop.2
  | cons d digits =>
    have hAll : ∀ c ∈ (d :: digits).map fun d : Fin 10 => Nat.digitChar d, c.isDigit = true := by
      simp [hDigit]
    have hText : (fractionText (d :: digits)).toList = '.' :: (d :: digits).map fun d : Fin 10 => Nat.digitChar d := by
      simp [fractionText, hDot, ← List.map_eq_flatMap]
    rw [String.toList_append, hText, hZone, List.cons_append, splitFraction]
    rw [List.takeWhile_append_of_pos hAll, List.dropWhile_append_of_pos hAll, List.takeWhile_cons_of_neg (by simp [hStop]),
      List.dropWhile_cons_of_neg (by simp [hStop]), List.append_nil]
    rfl

theorem parseRfc3339_text {s : String} {y m d hour minute second : Nat} (fraction : List (Fin 10)) (zone : Zone)
    (hYear : y < 10 ^ 4) (hDate : IsDate y m d) (hHour : hour ≤ 23) (hMinute : minute ≤ 59) (hSecond : second ≤ 60)
    (hText : s.toList = stamp ((y : Int), m, d) hour minute second (fractionText fraction ++ zone.text).toList) :
    parseRfc3339 s =
      some (dayNumber y m d * 86400 + hour * 3600 + minute * 60 + second - zone.offsetSecs) := by
  have hMonth := hDate.month
  have hDay := hDate.day
  have hDay' := hDate.day_le
  obtain ⟨y₁, y₂, y₃, y₄, hY, hYRead⟩ := exists_four_digits hYear
  obtain ⟨m₁, m₂, hM, hMRead⟩ := exists_two_digits (show m < 10 ^ 2 by omega)
  obtain ⟨d₁, d₂, hD, hDRead⟩ := exists_two_digits (show d < 10 ^ 2 by omega)
  obtain ⟨h₁, h₂, hH, hHRead⟩ := exists_two_digits (show hour < 10 ^ 2 by omega)
  obtain ⟨n₁, n₂, hN, hNRead⟩ := exists_two_digits (show minute < 10 ^ 2 by omega)
  obtain ⟨s₁, s₂, hS, hSRead⟩ := exists_two_digits (show second < 10 ^ 2 by omega)
  have hRest := splitFraction_text fraction zone
  have hLength : 0 < (fractionText fraction ++ zone.text).toList.length := by
    obtain ⟨mark, rest, hZone, -⟩ := zone.text_head
    simp [hZone]
  generalize (fractionText fraction ++ zone.text).toList = rest at hText hRest hLength
  have hChars : s.toList =
      y₁ :: y₂ :: y₃ :: y₄ :: '-' :: m₁ :: m₂ :: '-' :: d₁ :: d₂ :: 'T' :: h₁ :: h₂ :: ':' :: n₁ :: n₂ :: ':' :: s₁ :: s₂ ::
        rest := by
    rw [hText, stamp, Int.toNat_natCast, hY, hM, hD, hH, hN, hS]
    rfl
  simp [parseRfc3339, hChars, hYRead, hMRead, hDRead, hHRead, hNRead, hSRead, hRest, parseOffset_text,
    daysFromCivil_eq_dayNumber hDate, daysToYmd_dayNumber hDate, show ¬ rest.length + 19 < 20 by omega]
  omega

theorem parseRfc3339_formatRfc3339 {instant : Nat} (h : instant ≤ sqliteDateLimit) :
    parseRfc3339 (formatRfc3339 instant) = some ((instant / 1000 : Nat) : Int) := by
  obtain ⟨y, m, d, hYmd, hDate, hDay⟩ := daysToYmd_date (instant / 1000 / 86400)
  have hText := formatRfc3339_toList instant
  have hFits := daysToYmd_fits (div_le_lastDay h)
  rw [hYmd] at hText hFits
  have hYear : y < 10 ^ 4 := hFits.year
  rw [parseRfc3339_text [] .utc hYear hDate (by omega) (by omega) (by omega) hText, hDay]
  rw [Option.some.injEq, Zone.offsetSecs]
  omega

/-- Up to the year 9999 the texts are read back and sorted like their instants, and the calendar has no gaps. -/
theorem timestamps_round_trip :
    (∀ days : Int, daysFromCivil (daysToYmd days).1 (daysToYmd days).2.1 (daysToYmd days).2.2 = days) ∧
    (∀ t : Nat, t * 1000 ≤ sqliteDateLimit → parseRfc3339 (formatRfc3339 (t * 1000)) = some (t : Int)) ∧
    ∀ t u : Nat, u * 1000 ≤ sqliteDateLimit → t < u → formatRfc3339 (t * 1000) < formatRfc3339 (u * 1000) := by
  refine ⟨daysFromCivil_daysToYmd, ?_, ?_⟩
  · intro t hFits
    rw [parseRfc3339_formatRfc3339 hFits, Nat.mul_div_cancel _ (by decide)]
  · intro t u hFits hLt
    rw [String.lt_iff, formatRfc3339_toList, formatRfc3339_toList]
    refine (secsStamp_lt_iff (div_le_lastDay ((Nat.mul_le_mul_right 1000 hLt.le).trans hFits))
      (div_le_lastDay hFits)).mpr (Or.inl ?_)
    omega

end Mempal

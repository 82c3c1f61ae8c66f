import Mathlib.Order.Monotone.Basic
import Mempal.Clock

set_option autoImplicit false

/-! Up to the end of the year 9999 the fields of a timestamp have fixed widths, and the calendar turns days into year,
month and day in order. -/

namespace Mempal

open Foundation.Digits

def marchStart (y : Nat) : Nat := 365 * y + y / 4 - y / 100 + y / 400

def monthStart (mp : Nat) : Nat := (153 * mp + 2) / 5

theorem marchStart_mono : Monotone marchStart := by
  apply monotone_nat_of_le_succ
  intro y
  simp only [marchStart]
  omega

theorem monthStart_mono : Monotone monthStart := by
  apply monotone_nat_of_le_succ
  intro mp
  simp only [monthStart]
  omega

/-- A day of the calendar: `d` days into month `mp` of the March year `y`. -/
structure Civil (n y mp d : Nat) : Prop where
  day : n = marchStart y + monthStart mp + d
  inYear : n < marchStart (y + 1)
  inMonth : monthStart mp + d < monthStart (mp + 1)
  month : mp < 12

variable {q k c doy now expiry doe n n' days instant : Nat} {text : String} {s t rest rest' : List Char}

/-- With `q` full leap cycles, `k` years of the next one and `c` full centuries, the year of the era comes out
right. -/
theorem yearOfEra_eq (hDoe : doe + c = 1461 * q + 365 * k + doy) (hk : k < 4) (hc : c < 4)
    (hq : 25 * c ≤ q) (hq' : q < 25 * (c + 1)) (hDoy : doy ≤ 365)
    (hLeap : doy = 365 → k = 3 ∧ (q + 1 < 25 * (c + 1) ∨ c = 3)) :
    (doe - doe / 1460 + doe / 36524 - doe / 146096) / 365 = 4 * q + k := by
  have hCycle : doe / 1460 = q ∨ doe / 1460 = q + 1 := by omega
  have hCentury : doe / 36524 - doe / 146096 = c := by interval_cases c <;> omega
  interval_cases c <;> rcases hCycle with hCycle | hCycle <;> omega

theorem exists_yearOfEra (h : doe < 146097) :
    ∃ q k c doy, doe + c = 1461 * q + 365 * k + doy ∧ k < 4 ∧ c < 4 ∧ 25 * c ≤ q ∧ q < 25 * (c + 1) ∧ doy ≤ 365 ∧
      (doy = 365 → k = 3 ∧ (q + 1 < 25 * (c + 1) ∨ c = 3)) := by
  obtain ⟨c, hc, hLow, hHigh⟩ : ∃ c < 4, 36524 * c ≤ doe ∧ (doe < 36524 * (c + 1) ∨ c = 3) :=
    ⟨min 3 (doe / 36524), by omega, by omega, by omega⟩
  obtain ⟨r, rfl⟩ := Nat.exists_eq_add_of_le hLow
  refine ⟨25 * c + r / 1461, min 3 (r % 1461 / 365), c, r % 1461 - 365 * min 3 (r % 1461 / 365), ?_⟩
  omega

theorem marchStart_eq (era : Nat) (hk : k < 4) (hc : c < 4) (hq : 25 * c ≤ q) (hq' : q < 25 * (c + 1)) :
    marchStart (4 * q + k + era * 400) + c = era * 146097 + 1461 * q + 365 * k := by
  have hFour : (4 * q + k + era * 400) / 4 = q + era * 100 := by omega
  have hHundred : (4 * q + k + era * 400) / 100 = c + era * 4 := by omega
  have hEra : (4 * q + k + era * 400) / 400 = era := by omega
  rw [marchStart, hFour, hHundred, hEra]
  omega

theorem yearStart_eq (hk : k < 4) (hq : 25 * c ≤ q) (hq' : q < 25 * (c + 1)) :
    365 * (4 * q + k) + (4 * q + k) / 4 - (4 * q + k) / 100 + c = 1461 * q + 365 * k := by
  have hFour : (4 * q + k) / 4 = q := by omega
  have hHundred : (4 * q + k) / 100 = c := by omega
  omega

theorem lt_marchStart_succ (era : Nat) (hk : k < 4) (hq : 25 * c ≤ q)
    (hq' : q < 25 * (c + 1)) (hDoy : doy ≤ 365) (hLeap : doy = 365 → k = 3 ∧ (q + 1 < 25 * (c + 1) ∨ c = 3)) :
    marchStart (4 * q + k + era * 400) + doy < marchStart (4 * q + k + era * 400 + 1) := by
  have hFour : (4 * q + k + era * 400 + 1) / 4 = (4 * q + k + era * 400) / 4 + if k = 3 then 1 else 0 := by
    split <;> omega
  have hHundred : doy = 365 → (4 * q + k + era * 400 + 1) / 100 + (4 * q + k + era * 400) / 400 =
      (4 * q + k + era * 400) / 100 + (4 * q + k + era * 400 + 1) / 400 := by omega
  have hHundred' : (4 * q + k + era * 400 + 1) / 100 ≤ (4 * q + k + era * 400) / 100 +
      if k = 3 then 1 else 0 := by split <;> omega
  simp only [marchStart]
  split at hFour <;> split at hHundred' <;> omega

theorem month_spec (h : doy ≤ 365) :
    (5 * doy + 2) / 153 < 12 ∧ monthStart ((5 * doy + 2) / 153) ≤ doy ∧
      doy < monthStart ((5 * doy + 2) / 153 + 1) := by
  simp only [monthStart]
  omega

theorem daysToYmd_civil (days : Nat) :
    ∃ y mp d, Civil (days + 719468) y mp d ∧
      daysToYmd days = if mp < 10 then ((y : Int), mp + 3, d + 1) else ((y : Int) + 1, mp - 9, d + 1) := by
  obtain ⟨era, doe, hSplit, hDoe⟩ : ∃ era doe, days + 719468 = era * 146097 + doe ∧ doe < 146097 :=
    ⟨(days + 719468) / 146097, (days + 719468) % 146097, by omega, by omega⟩
  have hEra : (if 0 ≤ ((days : Int) + 719468) then (days : Int) + 719468 else (days : Int) + 719468 - 146096).tdiv
      146097 = era := by
    rw [if_pos (by omega), Int.tdiv_eq_ediv_of_nonneg (by omega)]
    omega
  have hDayOfEra : ((days : Int) + 719468 - (era : Int) * 146097).toNat = doe := by omega
  obtain ⟨q, k, c, doy, hSum, hk, hc, hq, hq', hDoy, hLeap⟩ := exists_yearOfEra hDoe
  have hYear := yearOfEra_eq hSum hk hc hq hq' hDoy hLeap
  have hDayOfYear : doe - (365 * (4 * q + k) + (4 * q + k) / 4 - (4 * q + k) / 100) = doy := by
    have hStart := yearStart_eq hk hq hq'
    generalize 365 * (4 * q + k) + (4 * q + k) / 4 - (4 * q + k) / 100 = start at hStart ⊢
    omega
  obtain ⟨hMonth, hLow, hHigh⟩ := month_spec hDoy
  have hStart : marchStart (4 * q + k + era * 400) + doy = days + 719468 := by
    have hMarch := marchStart_eq era hk hc hq hq'
    omega
  have hInYear := lt_marchStart_succ era hk hq hq' hDoy hLeap
  refine ⟨4 * q + k + era * 400, (5 * doy + 2) / 153, doy - monthStart ((5 * doy + 2) / 153), ?_, ?_⟩
  · exact ⟨by omega, by omega, by omega, hMonth⟩
  · simp only [daysToYmd, hEra, hDayOfEra, hYear, hDayOfYear, monthStart]
    by_cases hMp : (5 * doy + 2) / 153 < 10
    · simp only [hMp, if_true]
      push_cast
      rfl
    · simp only [hMp, if_false]
      rw [if_pos (by omega)]
      push_cast
      rfl

theorem Civil.lt {y mp d y' mp' d' : Nat} (h : Civil n y mp d) (h' : Civil n' y' mp' d') (hLt : n < n') :
    y < y' ∨ y = y' ∧ (mp < mp' ∨ mp = mp' ∧ d < d') := by
  have hYear : y ≤ y' := by
    by_contra hNot
    have hMono := marchStart_mono (show y' + 1 ≤ y by omega)
    have := h.day
    have := h'.inYear
    omega
  have hMonth : y = y' → mp ≤ mp' := by
    rintro rfl
    by_contra hNot
    have hMono := monthStart_mono (show mp' + 1 ≤ mp by omega)
    have := h.day
    have := h'.day
    have := h'.inMonth
    omega
  rcases hYear.lt_or_eq with hYear | rfl
  · exact Or.inl hYear
  · rcases (hMonth rfl).lt_or_eq with hMonth | rfl
    · exact Or.inr ⟨rfl, Or.inl hMonth⟩
    · have := h.day
      have := h'.day
      exact Or.inr ⟨rfl, Or.inr ⟨rfl, by omega⟩⟩

def lastDay : Nat := sqliteDateLimit / 86400000

structure YmdFits (ymd : Int × Nat × Nat) : Prop where
  year : ymd.1.toNat < 10 ^ 4
  month : ymd.2.1 < 10 ^ 2
  day : ymd.2.2 < 10 ^ 2

theorem daysToYmd_fits (h : days ≤ lastDay) : YmdFits (daysToYmd days) := by
  obtain ⟨y, mp, d, hCivil, hYmd⟩ := daysToYmd_civil days
  have hBound : days ≤ 2932896 := h
  have hDay := hCivil.day
  have hInMonth := hCivil.inMonth
  have hMonth := hCivil.month
  -- the first of January 10000 is the day 306 of the March year 9999
  have hYear : y < 9999 ∨ y = 9999 ∧ mp < 10 := by
    by_contra hNot
    have hMarch := marchStart_mono (show 9999 ≤ y by omega)
    have hNine : marchStart 9999 = 3652059 := by decide
    rcases (show 9999 ≤ y by omega).lt_or_eq with hLt | rfl
    · have hTen := marchStart_mono (show 10000 ≤ y by omega)
      have hEq : marchStart 10000 = 3652425 := by decide
      omega
    · have hTen := monthStart_mono (show 10 ≤ mp by omega)
      have hEq : monthStart 10 = 306 := by decide
      omega
  have hDays : d < 31 := by
    simp only [monthStart] at hInMonth
    omega
  rw [hYmd]
  split
  · exact ⟨by simp; omega, by simp; omega, by simp; omega⟩
  · exact ⟨by simp; omega, by simp; omega, by simp; omega⟩

theorem daysToYmd_lt {days' : Nat} (h : days < days') :
    (daysToYmd days).1.toNat < (daysToYmd days').1.toNat ∨
      (daysToYmd days).1.toNat = (daysToYmd days').1.toNat ∧ ((daysToYmd days).2.1 < (daysToYmd days').2.1 ∨
          (daysToYmd days).2.1 = (daysToYmd days').2.1 ∧ (daysToYmd days).2.2 < (daysToYmd days').2.2) := by
  obtain ⟨y, mp, d, hCivil, hYmd⟩ := daysToYmd_civil days
  obtain ⟨y', mp', d', hCivil', hYmd'⟩ := daysToYmd_civil days'
  have hOrder := hCivil.lt hCivil' (by omega)
  have hMonth := hCivil.month
  rw [hYmd, hYmd']
  split <;> split <;> simp only [] <;> omega

theorem padZero_append_lt_iff {width : Nat} (hWidth : 0 < width) (hFits : n < 10 ^ width) (hFits' : n' < 10 ^ width) :
    (padZero width n).toList ++ s < (padZero width n').toList ++ t ↔ n < n' ∨ n = n' ∧ s < t := by
  simp only [padZero, String.toList_ofList]
  exact padded_append_lt_iff (by decide) (by decide) hWidth hFits hFits'

theorem cons_lt_cons_self_iff {c : Char} : c :: s < c :: t ↔ s < t := by
  simp

def stamp (ymd : Int × Nat × Nat) (hour minute second : Nat) (rest : List Char) : List Char :=
  (padZero 4 ymd.1.toNat).toList ++ '-' :: ((padZero 2 ymd.2.1).toList ++ '-' :: ((padZero 2 ymd.2.2).toList ++
    'T' :: ((padZero 2 hour).toList ++ ':' :: ((padZero 2 minute).toList ++ ':' ::
      ((padZero 2 second).toList ++ rest)))))

theorem stamp_lt_iff {ymd ymd' : Int × Nat × Nat} {h h' m m' s s' : Nat}
    (hYmd : YmdFits ymd) (hYmd' : YmdFits ymd') (hH : h < 10 ^ 2) (hH' : h' < 10 ^ 2) (hM : m < 10 ^ 2)
    (hM' : m' < 10 ^ 2) (hS : s < 10 ^ 2) (hS' : s' < 10 ^ 2) :
    stamp ymd h m s rest < stamp ymd' h' m' s' rest' ↔
      ymd.1.toNat < ymd'.1.toNat ∨ ymd.1.toNat = ymd'.1.toNat ∧ (ymd.2.1 < ymd'.2.1 ∨ ymd.2.1 = ymd'.2.1 ∧
        (ymd.2.2 < ymd'.2.2 ∨ ymd.2.2 = ymd'.2.2 ∧ (h < h' ∨ h = h' ∧ (m < m' ∨ m = m' ∧
          (s < s' ∨ s = s' ∧ rest < rest'))))) := by
  simp only [stamp, padZero_append_lt_iff (by decide) hYmd.year hYmd'.year,
    padZero_append_lt_iff (by decide) hYmd.month hYmd'.month,
    padZero_append_lt_iff (by decide) hYmd.day hYmd'.day, padZero_append_lt_iff (by decide) hH hH',
    padZero_append_lt_iff (by decide) hM hM', padZero_append_lt_iff (by decide) hS hS', cons_lt_cons_self_iff]

theorem stamp_eq_toList (ymd : Int × Nat × Nat) (hour minute second : Nat) (rest : String) :
    (padZero 4 ymd.1.toNat ++ "-" ++ padZero 2 ymd.2.1 ++ "-" ++ padZero 2 ymd.2.2 ++ "T" ++ padZero 2 hour ++
      ":" ++ padZero 2 minute ++ ":" ++ padZero 2 second ++ rest).toList =
        stamp ymd hour minute second rest.toList := by
  have hDash : "-".toList = ['-'] := by decide
  have hT : "T".toList = ['T'] := by decide
  have hColon : ":".toList = [':'] := by decide
  simp only [stamp, String.toList_append, List.append_assoc, hDash, hT, hColon, List.cons_append, List.nil_append]

theorem formatRfc3339_toList (instant : Nat) :
    (formatRfc3339 instant).toList =
      stamp (daysToYmd ((instant / 1000 / 86400 : Nat) : Int)) (instant / 1000 % 86400 / 3600)
        (instant / 1000 % 86400 / 60 % 60) (instant / 1000 % 86400 % 60) "Z".toList :=
  stamp_eq_toList _ _ _ _ "Z"

theorem strftimeNow_toList (h : strftimeNow instant = some text) :
    text.toList =
      stamp (daysToYmd ((instant / 1000 / 86400 : Nat) : Int)) (instant / 1000 % 86400 / 3600)
        (instant / 1000 % 86400 / 60 % 60) (instant / 1000 % 86400 % 60)
        ("." ++ (padZero 3 (instant % 1000) ++ "Z")).toList := by
  unfold strftimeNow at h
  split at h
  · rw [← Option.some.inj h, String.append_assoc, String.append_assoc]
    exact stamp_eq_toList _ _ _ _ _
  · cases h

def secsStamp (secs : Nat) (rest : List Char) : List Char :=
  stamp (daysToYmd ((secs / 86400 : Nat) : Int)) (secs % 86400 / 3600) (secs % 86400 / 60 % 60) (secs % 86400 % 60) rest

theorem secsStamp_lt_iff {secs secs' : Nat} (hFits : secs / 86400 ≤ lastDay) (hFits' : secs' / 86400 ≤ lastDay) :
    secsStamp secs rest < secsStamp secs' rest' ↔ secs < secs' ∨ secs = secs' ∧ rest < rest' := by
  rw [secsStamp, secsStamp, stamp_lt_iff (daysToYmd_fits hFits) (daysToYmd_fits hFits') (by omega) (by omega)
    (by omega) (by omega) (by omega) (by omega)]
  rcases lt_trichotomy (secs / 86400) (secs' / 86400) with hDay | hDay | hDay
  · have hYmd := daysToYmd_lt hDay
    have hSecs : secs < secs' := by omega
    tauto
  · rw [hDay]
    simp only [lt_self_iff_false, false_or, true_and]
    by_cases hRest : rest < rest'
    · simp only [hRest, and_true]
      omega
    · simp only [hRest, and_false, or_false]
      omega
  · have hYmd := daysToYmd_lt hDay
    by_cases hRest : rest < rest'
    · simp only [hRest, and_true]
      omega
    · simp only [hRest, and_false, or_false]
      omega

theorem div_le_lastDay (h : instant ≤ sqliteDateLimit) : instant / 1000 / 86400 ≤ lastDay := by
  rw [lastDay, Nat.div_div_eq_div_mul]
  exact Nat.div_le_div_right h

theorem le_of_strftimeNow (h : strftimeNow now = some text) : now ≤ sqliteDateLimit := by
  unfold strftimeNow at h
  split at h
  · rename_i hLe
    exact hLe
  · cases h

/-- The fraction of a clock text sorts before the `Z` of an expiry text. -/
theorem fraction_lt_Z (now : Nat) : ("." ++ (padZero 3 (now % 1000) ++ "Z")).toList < "Z".toList := by
  rw [String.toList_append]
  exact List.cons_lt_cons_iff.mpr (Or.inl (by decide))

theorem strftimeNow_lt_iff (hText : strftimeNow now = some text)
    (hFits : expiry ≤ sqliteDateLimit) : text < formatRfc3339 expiry ↔ now / 1000 ≤ expiry / 1000 := by
  rw [String.lt_iff, strftimeNow_toList hText, formatRfc3339_toList]
  refine (secsStamp_lt_iff (div_le_lastDay (le_of_strftimeNow hText)) (div_le_lastDay hFits)).trans ?_
  simp only [fraction_lt_Z, and_true]
  omega

theorem formatRfc3339_lt_iff (hText : strftimeNow now = some text)
    (hFits : expiry ≤ sqliteDateLimit) : formatRfc3339 expiry < text ↔ expiry / 1000 < now / 1000 := by
  rw [String.lt_iff, strftimeNow_toList hText, formatRfc3339_toList]
  refine (secsStamp_lt_iff (div_le_lastDay hFits) (div_le_lastDay (le_of_strftimeNow hText))).trans ?_
  simp only [not_lt_of_gt (fraction_lt_Z now), and_false, or_false]

theorem strftimeNow_lt_formatRfc3339 (hText : strftimeNow now = some text)
    (hLe : now ≤ expiry) (hFits : expiry ≤ sqliteDateLimit) : text < formatRfc3339 expiry :=
  (strftimeNow_lt_iff hText hFits).mpr (Nat.div_le_div_right hLe)

end Mempal

import Mempal.Timestamps

set_option autoImplicit false

/-! The dates of the proleptic Gregorian calendar, counted day by day, and the conversions of the code: the closed forms of
the peek module and of the diary, and the loops of the conversation search. -/

namespace Mempal

/-- `is_leap` of the conversation search. -/
def isLeap (y : Nat) : Bool := (y % 4 == 0 && y % 100 != 0) || y % 400 == 0

def yearLength (y : Nat) : Nat := if isLeap y then 366 else 365

def monthLengths (y : Nat) : List Nat := [31, if isLeap y then 29 else 28, 31, 30, 31, 30, 31, 31, 30, 31, 30, 31]

structure IsDate (y m d : Nat) : Prop where
  month : 1 ≤ m ∧ m ≤ 12
  day : 1 ≤ d
  inMonth : d ≤ (monthLengths y).getD (m - 1) 0

def daysBeforeYear : Nat → Nat
  | 0 => 0
  | y + 1 => daysBeforeYear y + yearLength y

def daysBeforeMonth (y m : Nat) : Nat := ((monthLengths y).take (m - 1)).sum

/-- The day of a date, counted from the first of January 1970, which is the day 719529 of the year 0. -/
def dayNumber (y m d : Nat) : Int := ((daysBeforeYear y + daysBeforeMonth y m + d : Nat) : Int) - 719529

variable {y m d y' m' d' : Nat}

theorem isLeap_iff : isLeap y = true ↔ y % 4 = 0 ∧ y % 100 ≠ 0 ∨ y % 400 = 0 := by simp [isLeap]

theorem marchStart_succ (y : Nat) : marchStart (y + 1) = marchStart y + yearLength (y + 1) := by
  simp only [marchStart, yearLength, Nat.succ_div, Nat.dvd_iff_mod_eq_zero, isLeap_iff]
  split_ifs <;> omega

theorem daysBeforeYear_succ (y : Nat) : daysBeforeYear (y + 1) = marchStart y + 366 := by
  induction y with
  | zero => rfl
  | succ y ih => rw [daysBeforeYear, ih, marchStart_succ, Nat.add_right_comm]

theorem daysBeforeYear_march (y : Nat) : daysBeforeYear y + (if isLeap y then 60 else 59) = marchStart y + 60 := by
  cases y with
  | zero => rfl
  | succ y =>
    rw [daysBeforeYear_succ, marchStart_succ, yearLength]
    split <;> omega

theorem monthLengths_spec (y : Nat) : ∀ i < 12, ((monthLengths y).take i).sum =
        (if i < 2 then 31 * i else monthStart (i - 2) + if isLeap y then 60 else 59) ∧
      (monthLengths y).getD i 0 =
        if i = 0 then 31 else if i = 1 then if isLeap y then 29 else 28 else monthStart (i - 1) - monthStart (i - 2) := by
  unfold monthLengths
  cases isLeap y <;> decide

theorem monthLengths_mono (y : Nat) : ∀ i < 12, ∀ j < 13, i < j →
    ((monthLengths y).take i).sum + (monthLengths y).getD i 0 ≤ ((monthLengths y).take j).sum := by
  unfold monthLengths
  cases isLeap y <;> decide

theorem sum_monthLengths (y : Nat) : ((monthLengths y).take 12).sum = yearLength y := by
  unfold monthLengths yearLength
  cases isLeap y <;> decide

theorem daysBeforeYear_lt (h : y < y') : daysBeforeYear y + yearLength y ≤ daysBeforeYear y' := by
  induction h with
  | refl => exact le_rfl
  | step _ ih => exact ih.trans (Nat.le_add_right _ _)

theorem IsDate.dayNumber_lt (h : IsDate y m d) (h' : IsDate y' m' d')
    (hBefore : y < y' ∨ y = y' ∧ (m < m' ∨ m = m' ∧ d < d')) : dayNumber y m d < dayNumber y' m' d' := by
  have hMonth := h.month
  have hMonth' := h'.month
  have hInMonth := h.inMonth
  have hDay' := h'.day
  simp only [dayNumber, daysBeforeMonth]
  rcases hBefore with hYear | ⟨rfl, hMonths | ⟨rfl, hDay⟩⟩
  · have hLength := monthLengths_mono y (m - 1) (by omega) 12 (by omega) (by omega)
    rw [sum_monthLengths] at hLength
    have hYears := daysBeforeYear_lt hYear
    omega
  · have hLength := monthLengths_mono y (m - 1) (by omega) (m' - 1) (by omega) (by omega)
    omega
  · omega

theorem IsDate.eq_of_dayNumber (h : IsDate y m d) (h' : IsDate y' m' d') (hDay : dayNumber y m d = dayNumber y' m' d') :
    y = y' ∧ m = m' ∧ d = d' := by
  have hLt := mt (h.dayNumber_lt h') (by omega)
  have hGt := mt (h'.dayNumber_lt h) (by omega)
  omega

theorem daysToYmd_date (days : Nat) :
    ∃ y m d : Nat, daysToYmd days = ((y : Int), m, d) ∧ IsDate y m d ∧ dayNumber y m d = days := by
  obtain ⟨y, mp, d, hCivil, hYmd⟩ := daysToYmd_civil days
  have hDay := hCivil.day
  have hInMonth := hCivil.inMonth
  have hMonth := hCivil.month
  rw [hYmd]
  split
  · obtain ⟨hSum, hLength⟩ := monthLengths_spec y (mp + 2) (by omega)
    have hMarch := daysBeforeYear_march y
    rw [if_neg (by omega)] at hSum
    rw [if_neg (by omega), if_neg (by omega)] at hLength
    refine ⟨y, mp + 3, d + 1, rfl, ⟨by omega, by omega, ?_⟩, ?_⟩
    · rw [show mp + 3 - 1 = mp + 2 by omega, hLength, Nat.add_sub_cancel, show mp + 2 - 1 = mp + 1 by omega]
      omega
    · rw [dayNumber, daysBeforeMonth, show mp + 3 - 1 = mp + 2 by omega, hSum, Nat.add_sub_cancel]
      omega
  · have hYear := daysBeforeYear_succ y
    have hInYear := hCivil.inYear
    obtain rfl | rfl : mp = 10 ∨ mp = 11 := by omega
    · have hStart : monthStart 10 = 306 ∧ monthStart 11 = 337 := by decide
      refine ⟨y + 1, 1, d + 1, by simp, ⟨by omega, by omega, ?_⟩, ?_⟩
      · change d + 1 ≤ 31
        change monthStart 10 + d < monthStart 11 at hInMonth
        omega
      · simp only [dayNumber, daysBeforeMonth, Nat.sub_self, List.take_zero, List.sum_nil]
        omega
    · have hStart : monthStart 11 = 337 := by decide
      have hSum : daysBeforeMonth (y + 1) 2 = 31 := rfl
      refine ⟨y + 1, 2, d + 1, by simp, ⟨by omega, by omega, ?_⟩, ?_⟩
      · change d + 1 ≤ if isLeap (y + 1) then 29 else 28
        rw [marchStart_succ, yearLength] at hInYear
        split <;> rename_i hLeap <;> simp only [hLeap, ↓reduceIte, Bool.false_eq_true] at hInYear <;> omega
      · rw [dayNumber, hSum]
        omega

theorem tdiv_era_eq {x : Int} {n : Nat} (hn : 0 < n) : (if 0 ≤ x then x else x - ((n : Int) - 1)).tdiv n = x / n := by
  split
  · exact Int.tdiv_eq_ediv_of_nonneg ‹_›
  · rename_i hNeg
    have hSplit := Int.emod_add_mul_ediv x n
    have hMod := Int.emod_nonneg x (show (n : Int) ≠ 0 by omega)
    have hLt := Int.emod_lt_of_pos x (show (0 : Int) < n by omega)
    have hRest : x - ((n : Int) - 1) = -((n - 1 - x % n) + n * -(x / n)) := by
      rw [mul_neg]
      omega
    rw [hRest, Int.neg_tdiv, Int.tdiv_eq_ediv_of_nonneg, Int.add_mul_ediv_left _ _ (by omega),
      Int.ediv_eq_zero_of_lt (by omega) (by omega)]
    · omega
    · omega

theorem daysToYmd_add_eras (days k : Int) :
    daysToYmd (days + k * 146097) = ((daysToYmd days).1 + k * 400, (daysToYmd days).2) := by
  have hEra (x : Int) : (if 0 ≤ x then x else x - 146096).tdiv 146097 = x / 146097 := tdiv_era_eq (n := 146097) (by omega)
  have hDoe : days + k * 146097 + 719468 - (days + k * 146097 + 719468) / 146097 * 146097 =
      days + 719468 - (days + 719468) / 146097 * 146097 := by omega
  have hYear : (days + k * 146097 + 719468) / 146097 * 400 = (days + 719468) / 146097 * 400 + k * 400 := by omega
  simp only [daysToYmd, hEra, hDoe, hYear]
  generalize (days + 719468 - (days + 719468) / 146097 * 146097).toNat = doe
  rw [Prod.mk.injEq]
  refine ⟨?_, rfl⟩
  split <;> omega

theorem daysFromCivil_add_eras (y k : Int) (m d : Nat) :
    daysFromCivil (y + k * 400) m d = daysFromCivil y m d + k * 146097 := by
  have hEra (x : Int) : (if 0 ≤ x then x else x - 399).tdiv 400 = x / 400 := tdiv_era_eq (n := 400) (by omega)
  have hStart : (if m ≤ 2 then y + k * 400 - 1 else y + k * 400) = (if m ≤ 2 then y - 1 else y) + k * 400 := by
    split <;> omega
  simp only [daysFromCivil, hEra, hStart]
  generalize (if m ≤ 2 then y - 1 else y) = start
  have hYoe : start + k * 400 - (start + k * 400) / 400 * 400 = start - start / 400 * 400 := by omega
  omega

theorem marchStart_era (x : Nat) :
    (x : Int) / 400 * 146097 +
      (((x : Int) - (x : Int) / 400 * 400).toNat * 365 + ((x : Int) - (x : Int) / 400 * 400).toNat / 4 -
        ((x : Int) - (x : Int) / 400 * 400).toNat / 100 : Nat) = marchStart x := by
  obtain ⟨era, r, hr, rfl⟩ : ∃ era r, r < 400 ∧ x = era * 400 + r := ⟨x / 400, x % 400, by omega, by omega⟩
  have hEra : ((era * 400 + r : Nat) : Int) / 400 = era := by omega
  have hYoe : (((era * 400 + r : Nat) : Int) - (era : Int) * 400).toNat = r := by omega
  simp only [marchStart]
  omega

theorem daysFromCivil_eq_dayNumber (h : IsDate y m d) : daysFromCivil y m d = dayNumber y m d := by
  have hEra (x : Int) : (if 0 ≤ x then x else x - 399).tdiv 400 = x / 400 := tdiv_era_eq (n := 400) (by omega)
  have hMonth := h.month
  have hDay := h.day
  obtain ⟨hSum, -⟩ := monthLengths_spec y (m - 1) (by omega)
  simp only [daysFromCivil, hEra, dayNumber, daysBeforeMonth, hSum]
  rcases Nat.lt_or_ge 2 m with hLate | hEarly
  · have hMarch := daysBeforeYear_march y
    have hStart := marchStart_era y
    rw [if_neg (by omega), if_pos hLate, if_neg (by omega), monthStart]
    omega
  · rw [if_pos hEarly, if_neg (by omega), if_pos (by omega)]
    cases y with
    | zero =>
      rw [daysBeforeYear]
      omega
    | succ x =>
      have hStart := marchStart_era x
      rw [daysBeforeYear_succ, show ((x + 1 : Nat) : Int) - 1 = x by omega]
      omega

theorem IsDate.add_eras (h : IsDate y m d) (k : Nat) :
    IsDate (y + k * 400) m d ∧ dayNumber (y + k * 400) m d = dayNumber y m d + k * 146097 := by
  have hLeap : isLeap (y + k * 400) = isLeap y := by
    rw [Bool.eq_iff_iff, isLeap_iff, isLeap_iff]
    omega
  have hMonths : monthLengths (y + k * 400) = monthLengths y := by rw [monthLengths, hLeap, monthLengths]
  have hDate : IsDate (y + k * 400) m d := ⟨h.month, h.day, hMonths ▸ h.inMonth⟩
  refine ⟨hDate, ?_⟩
  rw [← daysFromCivil_eq_dayNumber hDate, ← daysFromCivil_eq_dayNumber h, ← daysFromCivil_add_eras]
  push_cast
  rfl

theorem daysToYmd_dayNumber (h : IsDate y m d) : daysToYmd (dayNumber y m d) = ((y : Int), m, d) := by
  -- five eras later the day is not before 1970
  obtain ⟨hLater, hDay⟩ := h.add_eras 5
  obtain ⟨n, hn⟩ := Int.eq_ofNat_of_zero_le (show 0 ≤ dayNumber (y + 5 * 400) m d by
    rw [hDay, dayNumber]
    omega)
  obtain ⟨y', m', d', hYmd, hDate, hDay'⟩ := daysToYmd_date n
  obtain ⟨rfl, rfl, rfl⟩ := hLater.eq_of_dayNumber hDate (hn.trans hDay'.symm)
  have hShift := daysToYmd_add_eras (dayNumber y m d) 5
  rw [← hn, hDay] at hYmd
  rw [show (5 : Int) * 146097 = ((5 : Nat) : Int) * 146097 by rfl, hYmd, Prod.mk.injEq] at hShift
  refine Prod.ext ?_ hShift.2.symm
  have hYear := hShift.1
  push_cast at hYear
  simp only
  omega

theorem daysFromCivil_daysToYmd (days : Int) :
    daysFromCivil (daysToYmd days).1 (daysToYmd days).2.1 (daysToYmd days).2.2 = days := by
  obtain ⟨n, hn⟩ := Int.eq_ofNat_of_zero_le (show 0 ≤ days + days.natAbs * 146097 by omega)
  obtain ⟨y, m, d, hYmd, hDate, hDay⟩ := daysToYmd_date n
  have hBack := daysFromCivil_add_eras (daysToYmd days).1 days.natAbs (daysToYmd days).2.1 (daysToYmd days).2.2
  rw [← hn, daysToYmd_add_eras, Prod.mk.injEq] at hYmd
  rw [hYmd.1, hYmd.2, daysFromCivil_eq_dayNumber hDate] at hBack
  rw [hYmd.2]
  omega

theorem yearLength_pos (y : Nat) : 0 < yearLength y := by
  rw [yearLength]
  split <;> decide

def yearLoop (year days : Nat) : Nat × Nat :=
  if days < yearLength year then (year, days) else yearLoop (year + 1) (days - yearLength year)
termination_by days
decreasing_by
  have hPos := yearLength_pos year
  omega

def monthLoop : List Nat → Nat → Nat → Nat × Nat
  | [], month, days => (month, days)
  | dm :: months, month, days => if days < dm then (month, days) else monthLoop months (month + 1) (days - dm)

/-- `epoch_to_datetime`: year, month, day, hour, minute and second. -/
def epochToDatetime (secs : Nat) : Nat × Nat × Nat × Nat × Nat × Nat :=
  let totalMin := secs / 60
  let totalH := totalMin / 60
  let (year, days) := yearLoop 1970 (totalH / 24)
  let (month, days) := monthLoop (monthLengths year) 1 days
  (year, month, days + 1, totalH % 24, totalMin % 60, secs % 60)

theorem yearLoop_spec {year : Nat} (days : Nat) :
    daysBeforeYear (yearLoop year days).1 + (yearLoop year days).2 = daysBeforeYear year + days ∧
      (yearLoop year days).2 < yearLength (yearLoop year days).1 := by
  fun_induction yearLoop with
  | case1 year days hLt => exact ⟨rfl, hLt⟩
  | case2 year days hLe ih =>
    refine ⟨ih.1.trans ?_, ih.2⟩
    rw [daysBeforeYear]
    omega

theorem monthLoop_spec (months : List Nat) {days : Nat} (month : Nat) (h : days < months.sum) :
    ∃ i < months.length, (monthLoop months month days).1 = month + i ∧
      (months.take i).sum + (monthLoop months month days).2 = days ∧
        (monthLoop months month days).2 < months.getD i 0 := by
  induction months generalizing month days with
  | nil => cases h
  | cons dm months ih =>
    rw [monthLoop]
    split
    · rename_i hLt
      exact ⟨0, Nat.succ_pos _, rfl, by simp, by simpa using hLt⟩
    · rw [List.sum_cons] at h
      obtain ⟨i, hi, hMonth, hSum, hLt⟩ := ih (month + 1) (show days - dm < months.sum by omega)
      refine ⟨i + 1, Nat.succ_lt_succ hi, by omega, ?_, by simpa using hLt⟩
      rw [List.take_succ_cons, List.sum_cons]
      omega

theorem epochToDatetime_date (secs : Nat) :
    IsDate (epochToDatetime secs).1 (epochToDatetime secs).2.1 (epochToDatetime secs).2.2.1 ∧
      dayNumber (epochToDatetime secs).1 (epochToDatetime secs).2.1 (epochToDatetime secs).2.2.1 =
        ((secs / 86400 : Nat) : Int) := by
  have hDays : secs / 60 / 60 / 24 = secs / 86400 := by omega
  obtain ⟨hYear, hInYear⟩ := yearLoop_spec (secs / 60 / 60 / 24)
  simp only [epochToDatetime]
  generalize yearLoop 1970 (secs / 60 / 60 / 24) = result at hYear hInYear
  rw [← sum_monthLengths] at hInYear
  obtain ⟨i, hi, hMonth, hSum, hLt⟩ := monthLoop_spec (monthLengths result.1) 1 hInYear
  have hEpoch : daysBeforeYear 1970 = 719528 := by rw [daysBeforeYear_succ]; decide
  have hLength : (monthLengths result.1).length = 12 := rfl
  rw [hMonth]
  refine ⟨⟨by omega, by omega, ?_⟩, ?_⟩
  · rwa [Nat.add_sub_cancel_left]
  · rw [dayNumber, daysBeforeMonth, Nat.add_sub_cancel_left]
    omega

/-- `civil_from_days`, whose year is cast to 32 bits. -/
def civilFromDays (daysSinceEpoch : Int) : Int × Nat × Nat :=
  let days := daysSinceEpoch + 719468
  let era := (if 0 ≤ days then days else days - 146096).tdiv 146097
  let dayOfEra := days - era * 146097
  let yearOfEra := (dayOfEra - dayOfEra.tdiv 1460 + dayOfEra.tdiv 36524 - dayOfEra.tdiv 146096).tdiv 365
  let year := yearOfEra + era * 400
  let dayOfYear := dayOfEra - (365 * yearOfEra + yearOfEra.tdiv 4 - yearOfEra.tdiv 100)
  let monthPrime := (5 * dayOfYear + 2).tdiv 153
  let day := dayOfYear - (153 * monthPrime + 2).tdiv 5 + 1
  let month := monthPrime + if monthPrime < 10 then 3 else -9
  let year := year + if month ≤ 2 then 1 else 0
  (year.bmod (2 ^ 32), month.toNat, day.toNat)

theorem civilFromDays_eq {days : Int} :
    civilFromDays days = ((daysToYmd days).1.bmod (2 ^ 32), (daysToYmd days).2) := by
  have hEra (x : Int) : (if 0 ≤ x then x else x - 146096).tdiv 146097 = x / 146097 :=
    tdiv_era_eq (n := 146097) (by omega)
  obtain ⟨doe, hDoe⟩ := Int.eq_ofNat_of_zero_le
    (show 0 ≤ days + 719468 - (days + 719468) / 146097 * 146097 by omega)
  have hBound : doe < 146097 := by omega
  obtain ⟨q, k, c, doy, hSum, hk, hc, hq, hq', hDoy, hLeap⟩ := exists_yearOfEra hBound
  have hYear := yearOfEra_eq hSum hk hc hq hq' hDoy hLeap
  have hStart := yearStart_eq hk hq hq'
  obtain ⟨hMonth, hInMonth, -⟩ := month_spec hDoy
  generalize 4 * q + k = yoe at hYear hStart
  have hYear' : ((doe : Int) - doe / 1460 + doe / 36524 - doe / 146096) / 365 = yoe := by omega
  have hRest : doe - (365 * yoe + yoe / 4 - yoe / 100) = doy := by omega
  have hRest' : (doe : Int) - (365 * yoe + yoe / 4 - yoe / 100) = doy := by omega
  have hMp : (5 * (doy : Int) + 2) / 153 = ((5 * doy + 2) / 153 : Nat) := by omega
  have hNat {n b : Int} (h : 0 ≤ n) : n.tdiv b = n / b := Int.tdiv_eq_ediv_of_nonneg h
  simp only [civilFromDays, daysToYmd, hEra, hDoe, Int.toNat_natCast, hYear, hNat (Int.natCast_nonneg doe),
    hNat (show 0 ≤ (doe : Int) - doe / 1460 + doe / 36524 - doe / 146096 by omega), hYear',
    hNat (Int.natCast_nonneg yoe), hRest, hRest', hNat (show 0 ≤ 5 * (doy : Int) + 2 by omega), hMp,
    hNat (show 0 ≤ 153 * (((5 * doy + 2) / 153 : Nat) : Int) + 2 by omega)]
  simp only [monthStart] at hInMonth
  generalize (5 * doy + 2) / 153 = mp at hMonth hInMonth
  rw [Prod.mk.injEq, Prod.mk.injEq]
  refine ⟨congrArg (Int.bmod · _) ?_, ?_, ?_⟩
  · split_ifs <;> omega
  · split_ifs <;> omega
  · omega

/-- The three conversions give one date as long as the year fits in 32 bits. -/
theorem calendars_agree_iff (secs : Nat) :
    (daysToYmd ((secs / 86400 : Nat) : Int) =
        (((epochToDatetime secs).1 : Int), (epochToDatetime secs).2.1, (epochToDatetime secs).2.2.1) ∧
      civilFromDays ((secs / 86400 : Nat) : Int) =
        (((epochToDatetime secs).1 : Int), (epochToDatetime secs).2.1, (epochToDatetime secs).2.2.1)) ↔
      secs / 86400 < 784351576777 := by
  obtain ⟨hDate, hDay⟩ := epochToDatetime_date secs
  have hYmd := daysToYmd_dayNumber hDate
  generalize epochToDatetime secs = result at hDate hDay hYmd
  obtain ⟨y, m, d, time⟩ := result
  dsimp only at hDate hDay hYmd ⊢
  rw [← hDay, civilFromDays_eq, hYmd, and_iff_right rfl, Prod.mk.injEq, and_iff_left rfl]
  -- the first of January of the year 2 ^ 31
  have hFirst : IsDate (2 ^ 31) 1 1 := ⟨by decide, by decide, by decide⟩
  have hFirstDay : dayNumber (2 ^ 31) 1 1 = 784351576777 := by
    rw [← daysFromCivil_eq_dayNumber hFirst]
    decide
  have hBefore : y < 2 ^ 31 ↔ secs / 86400 < 784351576777 := by
    have hMonth := hDate.month
    have hOne := hDate.day
    have hLt := fun h => hDate.dayNumber_lt hFirst (Or.inl h)
    have hGe : 2 ^ 31 ≤ y → dayNumber (2 ^ 31) 1 1 ≤ dayNumber y m d := by
      intro hLe
      rcases (show (2 ^ 31 < y ∨ 2 ^ 31 = y ∧ (1 < m ∨ 1 = m ∧ 1 < d)) ∨ y = 2 ^ 31 ∧ m = 1 ∧ d = 1 by omega) with
        hAfter | ⟨rfl, rfl, rfl⟩
      · exact (hFirst.dayNumber_lt hDate hAfter).le
      · exact le_rfl
    omega
  rw [← hBefore, Int.bmod]
  split <;> omega

/-- On the first day of the year 2 ^ 31 the year of the diary is negative. -/
theorem calendars_differ :
    daysToYmd 784351576777 = (2147483648, 1, 1) ∧ civilFromDays 784351576777 = (-2147483648, 1, 1) := by
  decide +kernel

end Mempal

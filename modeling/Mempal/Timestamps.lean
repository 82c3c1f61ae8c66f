import Mathlib.Data.List.Induction
import Mathlib.Data.List.TakeWhile
import Mathlib.Data.Rat.Floor
import Mempal.ClockOrder

set_option autoImplicit false

/-! Columns such as `added_at` and `deleted_at` hold an instant as text, in one of three forms. Statements compare them
as text with a cutoff in RFC 3339. -/

namespace Mempal

open Foundation.Digits

/-- `current_timestamp`: Unix seconds in decimal. -/
def currentTimestamp (now : ℚ) : String := ⌊now⌋₊.repr

/-- `iso_timestamp`: RFC 3339 in UTC with seconds precision. -/
def isoTimestamp (now : ℚ) : String := formatRfc3339 (⌊now⌋₊ * 1000)

def ymdOf (secs : Nat) : Int × Nat × Nat := daysToYmd ((secs / 86400 : Nat) : Int)

/-- The text of SQLite's `datetime`, with a blank between date and time. -/
def datetimeText (ymd : Int × Nat × Nat) (hour minute second : Nat) : String :=
  padZero 4 ymd.1.toNat ++ "-" ++ padZero 2 ymd.2.1 ++ "-" ++ padZero 2 ymd.2.2 ++ " " ++ padZero 2 hour ++ ":" ++
    padZero 2 minute ++ ":" ++ padZero 2 second

/-- `datetime('now')`. -/
def datetimeNow (secs : Nat) : Option String :=
  if secs * 1000 ≤ sqliteDateLimit then
    some (datetimeText (ymdOf secs) (secs % 86400 / 3600) (secs % 86400 / 60 % 60) (secs % 86400 % 60))
  else none

inductive TimeFormat where
  | unixSeconds
  | rfc3339
  | sqliteDatetime
deriving DecidableEq, Repr

def TimeFormat.text : TimeFormat → ℚ → Option String
  | .unixSeconds, now => some (currentTimestamp now)
  | .rfc3339, now => some (isoTimestamp now)
  | .sqliteDatetime, now => datetimeNow ⌊now⌋₊

/-- `days_from_civil` of the peek module. -/
def daysFromCivil (y : Int) (m d : Nat) : Int :=
  let y := if m ≤ 2 then y - 1 else y
  let era := (if 0 ≤ y then y else y - 399).tdiv 400
  let yoe := (y - era * 400).toNat
  let doy := (153 * (if 2 < m then m - 3 else m + 9) + 2) / 5 + d - 1
  let doe := yoe * 365 + yoe / 4 - yoe / 100 + doy
  era * 146097 + (doe : Int) - 719468

inductive Zone where
  | utc
  | ahead (hours : Fin 24) (minutes : Fin 60)
  | behind (hours : Fin 24) (minutes : Fin 60)
deriving DecidableEq, Repr

def Zone.offsetSecs : Zone → Int
  | .utc => 0
  | .ahead hours minutes => (hours : Nat) * 3600 + (minutes : Nat) * 60
  | .behind hours minutes => -((hours : Nat) * 3600 + (minutes : Nat) * 60)

def Zone.text : Zone → String
  | .utc => "Z"
  | .ahead hours minutes => "+" ++ padZero 2 hours ++ ":" ++ padZero 2 minutes
  | .behind hours minutes => "-" ++ padZero 2 hours ++ ":" ++ padZero 2 minutes

def fractionText : List (Fin 10) → String
  | [] => ""
  | digits => "." ++ String.ofList (digits.map fun d => Nat.digitChar d)

def fractionValue : List (Fin 10) → ℚ
  | [] => 0
  | d :: digits => ((d : Nat) + fractionValue digits) / 10

/-- A timestamp of RFC 3339: a date of the calendar with a time of day, which may be a leap second, digits of a
fraction and an offset from UTC. -/
structure Rfc3339 where
  year : Nat
  month : Nat
  day : Nat
  hour : Fin 24
  minute : Fin 60
  second : Fin 61
  fraction : List (Fin 10)
  zone : Zone
  year_lt : year < 10 ^ 4
  month_lt : month < 10 ^ 2
  day_lt : day < 10 ^ 2
  civil : daysToYmd (daysFromCivil year month day) = ((year : Int), month, day)

namespace Rfc3339

def ymd (t : Rfc3339) : Int × Nat × Nat := (t.year, t.month, t.day)

def text (t : Rfc3339) : String :=
  padZero 4 t.year ++ "-" ++ padZero 2 t.month ++ "-" ++ padZero 2 t.day ++ "T" ++ padZero 2 t.hour ++ ":" ++
    padZero 2 t.minute ++ ":" ++ padZero 2 t.second ++ (fractionText t.fraction ++ t.zone.text)

def instant (t : Rfc3339) : ℚ :=
  (daysFromCivil t.year t.month t.day * 86400 + (t.hour : Nat) * 3600 + (t.minute : Nat) * 60 + (t.second : Nat) -
    t.zone.offsetSecs : Int) + fractionValue t.fraction

end Rfc3339

def afterYear (secs : Nat) : List Nat :=
  [(ymdOf secs).2.1, (ymdOf secs).2.2, secs % 86400 / 3600, secs % 86400 / 60 % 60, secs % 86400 % 60]

def Rfc3339.afterYear (t : Rfc3339) : List Nat := [t.month, t.day, t.hour, t.minute, t.second]

def yearOf (secs : Nat) : Nat := (ymdOf secs).1.toNat

def dateOf (secs : Nat) : List Nat := [yearOf secs, (ymdOf secs).2.1, (ymdOf secs).2.2]

def Rfc3339.date (t : Rfc3339) : List Nat := [t.year, t.month, t.day]

def yearText (year : Nat) : List Char := padded 10 4 year

theorem ymdOf_fits (secs : Nat) : (ymdOf secs).2.1 < 10 ^ 2 ∧ (ymdOf secs).2.2 < 10 ^ 2 := by
  obtain ⟨y, mp, d, hCivil, hYmd⟩ := daysToYmd_civil (secs / 86400)
  have hInMonth := hCivil.inMonth
  have hMonth := hCivil.month
  have hDays : d < 31 := by
    simp only [monthStart] at hInMonth
    omega
  rw [ymdOf, hYmd]
  split <;> constructor <;> dsimp only <;> omega

theorem padZero_toList (width n : Nat) : (padZero width n).toList = padded 10 width n := String.toList_ofList

theorem yearText_injective : Function.Injective yearText := padded_injective (by decide) (by decide) 4

variable {rest digits : List Char} {secs' : Nat}

theorem stamp_lt_iff_year {h h' m m' s s' : Nat} {rest' : List Char} {ymd ymd' : Int × Nat × Nat}
    (hMonth : ymd.2.1 < 10 ^ 2) (hMonth' : ymd'.2.1 < 10 ^ 2) (hDay : ymd.2.2 < 10 ^ 2) (hDay' : ymd'.2.2 < 10 ^ 2)
    (hH : h < 10 ^ 2) (hH' : h' < 10 ^ 2) (hM : m < 10 ^ 2) (hM' : m' < 10 ^ 2) (hS : s < 10 ^ 2) (hS' : s' < 10 ^ 2) :
    stamp ymd h m s rest < stamp ymd' h' m' s' rest' ↔
      yearText ymd.1.toNat < yearText ymd'.1.toNat ∨ ymd.1.toNat = ymd'.1.toNat ∧
        ([ymd.2.1, ymd.2.2, h, m, s] < [ymd'.2.1, ymd'.2.2, h', m', s'] ∨
          [ymd.2.1, ymd.2.2, h, m, s] = [ymd'.2.1, ymd'.2.2, h', m', s'] ∧ rest < rest') := by
  have hDash (n : Nat) : ∀ x ∈ yearText n, '-' < x := fun x hx => dash_lt_of_mem_padded hx
  rw [stamp, stamp, padZero_toList 4, padZero_toList 4, ← yearText, ← yearText,
    append_sep_lt_append_sep_iff (hDash _) (hDash _), yearText_injective.eq_iff]
  simp only [padZero_append_lt_iff (by decide) hMonth hMonth', padZero_append_lt_iff (by decide) hDay hDay',
    padZero_append_lt_iff (by decide) hH hH', padZero_append_lt_iff (by decide) hM hM',
    padZero_append_lt_iff (by decide) hS hS', List.cons_lt_cons_iff, List.cons.injEq, List.not_lt_nil, and_false,
    or_false, and_true]
  tauto

variable (now : ℚ) (t : Rfc3339)

theorem Rfc3339.text_toList :
    t.text.toList = stamp t.ymd t.hour t.minute t.second (fractionText t.fraction ++ t.zone.text).toList :=
  stamp_eq_toList t.ymd _ _ _ _

theorem isoTimestamp_toList :
    (isoTimestamp now).toList =
      stamp (ymdOf ⌊now⌋₊) (⌊now⌋₊ % 86400 / 3600) (⌊now⌋₊ % 86400 / 60 % 60) (⌊now⌋₊ % 86400 % 60) "Z".toList := by
  rw [isoTimestamp, formatRfc3339_toList, Nat.mul_div_cancel _ (by decide)]
  rfl

/-- A fraction and an offset start below `Z`. -/
theorem not_Z_lt_suffix (fraction : List (Fin 10)) (zone : Zone) :
    ¬ "Z".toList < (fractionText fraction ++ zone.text).toList := by
  have hHead {c : Char} {l : List Char} (h : c < 'Z') : ¬ "Z".toList < c :: l :=
    not_lt_of_gt (List.cons_lt_cons_iff.mpr (Or.inl h))
  cases fraction with
  | cons d digits =>
    simp only [fractionText, String.toList_append]
    exact hHead (by decide)
  | nil =>
    cases zone with
    | utc => decide
    | ahead | behind =>
      simp only [fractionText, Zone.text, String.toList_append]
      exact hHead (by decide)

theorem currentTimestamp_lt_text_iff : currentTimestamp now < t.text ↔ Nat.toDigits 10 ⌊now⌋₊ ≤ yearText t.year := by
  rw [String.lt_iff, t.text_toList, currentTimestamp, Nat.toList_repr, stamp, padZero_toList,
    lt_append_sep_iff fun x hx => dash_lt_of_mem_toDigits hx]
  rfl

theorem isoTimestamp_lt_text_iff :
    isoTimestamp now < t.text ↔
      yearText (yearOf ⌊now⌋₊) < yearText t.year ∨ yearOf ⌊now⌋₊ = t.year ∧ afterYear ⌊now⌋₊ < t.afterYear := by
  obtain ⟨hMonth, hDay⟩ := ymdOf_fits ⌊now⌋₊
  rw [String.lt_iff, t.text_toList, isoTimestamp_toList, stamp_lt_iff_year hMonth t.month_lt hDay t.day_lt
    (by omega) (by omega) (by omega) (by omega) (by omega) (by omega)]
  simp only [not_Z_lt_suffix, and_false, or_false]
  rfl

variable {secs : Nat} {text : String}

theorem ymdOf_year_lt (h : secs * 1000 ≤ sqliteDateLimit) : (ymdOf secs).1.toNat < 10 ^ 4 := by
  have hLast : secs / 86400 ≤ 2932896 := by
    rw [sqliteDateLimit] at h
    omega
  exact (daysToYmd_fits hLast).year

theorem datetimeText_toList (ymd : Int × Nat × Nat) (hour minute second : Nat) :
    ∃ time, (datetimeText ymd hour minute second).toList =
      (padZero 4 ymd.1.toNat).toList ++ '-' :: ((padZero 2 ymd.2.1).toList ++
        '-' :: ((padZero 2 ymd.2.2).toList ++ ' ' :: time)) := by
  have hDash : "-".toList = ['-'] := by decide
  have hBlank : " ".toList = [' '] := by decide
  refine ⟨(padZero 2 hour ++ ":" ++ padZero 2 minute ++ ":" ++ padZero 2 second).toList, ?_⟩
  simp only [datetimeText, String.toList_append, List.append_assoc, hDash, hBlank, List.cons_append, List.nil_append]

theorem datetimeNow_eq (h : datetimeNow secs = some text) :
    (ymdOf secs).1.toNat < 10 ^ 4 ∧
      text = datetimeText (ymdOf secs) (secs % 86400 / 3600) (secs % 86400 / 60 % 60) (secs % 86400 % 60) := by
  unfold datetimeNow at h
  split at h
  · rename_i hLimit
    exact ⟨ymdOf_year_lt hLimit, (Option.some.inj h).symm⟩
  · cases h

theorem datetimeNow_lt_text_iff (h : datetimeNow secs = some text) (t : Rfc3339) :
    text < t.text ↔ dateOf secs ≤ t.date := by
  obtain ⟨hMonth, hDay⟩ := ymdOf_fits secs
  obtain ⟨hYear, rfl⟩ := datetimeNow_eq h
  obtain ⟨time, hText⟩ := datetimeText_toList (ymdOf secs) (secs % 86400 / 3600) (secs % 86400 / 60 % 60)
    (secs % 86400 % 60)
  have hBelow : ' ' < 'T' := by decide
  -- whatever the times are, the blank of the one text is below the `T` of the other
  rw [String.lt_iff, ← not_lt, hText, t.text_toList, stamp]
  simp only [Rfc3339.ymd, padZero_append_lt_iff (by decide) hYear t.year_lt,
    padZero_append_lt_iff (by decide) hMonth t.month_lt, padZero_append_lt_iff (by decide) hDay t.day_lt,
    List.cons_lt_cons_iff, lt_self_iff_false, hBelow, true_or, false_or, and_true, true_and, dateOf, Rfc3339.date,
    yearOf, and_false, or_false, Int.toNat_natCast]
  omega

def TimeFormat.SortsBefore : TimeFormat → ℚ → Rfc3339 → Prop
  | .unixSeconds, now, t => Nat.toDigits 10 ⌊now⌋₊ ≤ yearText t.year
  | .rfc3339, now, t =>
    yearText (yearOf ⌊now⌋₊) < yearText t.year ∨ yearOf ⌊now⌋₊ = t.year ∧ afterYear ⌊now⌋₊ < t.afterYear
  | .sqliteDatetime, now, t => dateOf ⌊now⌋₊ ≤ t.date

instance : (format : TimeFormat) → (now : ℚ) → (t : Rfc3339) → Decidable (format.SortsBefore now t)
  | .unixSeconds, _, _ => inferInstanceAs (Decidable (_ ≤ _))
  | .rfc3339, _, _ => inferInstanceAs (Decidable (_ ∨ _))
  | .sqliteDatetime, _, _ => inferInstanceAs (Decidable (_ ≤ _))

theorem TimeFormat.text_lt_iff {now : ℚ} {format : TimeFormat} (h : format.text now = some text) (t : Rfc3339) :
    text < t.text ↔ format.SortsBefore now t := by
  cases format with
  | unixSeconds => exact Option.some.inj h ▸ currentTimestamp_lt_text_iff now t
  | rfc3339 => exact Option.some.inj h ▸ isoTimestamp_lt_text_iff now t
  | sqliteDatetime => exact datetimeNow_lt_text_iff h t

theorem afterYear_lt (h : secs < secs') :
    yearOf secs < yearOf secs' ∨ yearOf secs = yearOf secs' ∧ afterYear secs < afterYear secs' := by
  simp only [yearOf, afterYear, ymdOf, List.cons_lt_cons_iff]
  rcases (Nat.div_le_div_right (c := 86400) h.le).lt_or_eq with hDay | hDay
  · have hYmd := daysToYmd_lt hDay
    tauto
  · rw [hDay]
    simp only [lt_self_iff_false, false_or, true_and, and_false, or_false]
    omega

theorem afterYear_lt_iff (h : yearOf secs = yearOf secs') : afterYear secs < afterYear secs' ↔ secs < secs' := by
  constructor
  · intro hLt
    rcases lt_trichotomy secs secs' with hOrder | rfl | hOrder
    · exact hOrder
    · exact absurd hLt (lt_irrefl _)
    · rcases afterYear_lt hOrder with hYear | ⟨_, hGt⟩
      · omega
      · exact absurd hLt (not_lt_of_gt hGt)
  · intro hLt
    rcases afterYear_lt hLt with hYear | ⟨_, hLt⟩
    · omega
    · exact hLt

theorem isoTimestamp_lt_isoTimestamp_iff (now now' : ℚ) :
    isoTimestamp now < isoTimestamp now' ↔
      yearText (yearOf ⌊now⌋₊) < yearText (yearOf ⌊now'⌋₊) ∨
        yearOf ⌊now⌋₊ = yearOf ⌊now'⌋₊ ∧ ⌊now⌋₊ < ⌊now'⌋₊ := by
  obtain ⟨hMonth, hDay⟩ := ymdOf_fits ⌊now⌋₊
  obtain ⟨hMonth', hDay'⟩ := ymdOf_fits ⌊now'⌋₊
  rw [String.lt_iff, isoTimestamp_toList, isoTimestamp_toList, stamp_lt_iff_year hMonth hMonth' hDay hDay'
    (by omega) (by omega) (by omega) (by omega) (by omega) (by omega)]
  simp only [lt_self_iff_false, and_false, or_false]
  exact or_congr_right (and_congr_right fun h => afterYear_lt_iff h)

theorem isoTimestamp_lt_currentTimestamp_iff (now now' : ℚ) :
    isoTimestamp now < currentTimestamp now' ↔ yearText (yearOf ⌊now⌋₊) < Nat.toDigits 10 ⌊now'⌋₊ := by
  rw [String.lt_iff, isoTimestamp_toList, currentTimestamp, Nat.toList_repr, stamp, padZero_toList,
    append_sep_lt_iff fun x hx => dash_lt_of_mem_toDigits hx]
  rfl

/-! The source reads bytes. A text with other than ASCII characters is refused by either reading, since every
character of an accepted text is a digit or a mark. -/

/-- `str::parse` of an unsigned integer: digits, after an optional plus sign. -/
def parseUnsigned : List Char → Option Nat
  | '+' :: digits => if digits ≠ [] ∧ digits.all Char.isDigit then some (value 10 digits) else none
  | digits => if digits ≠ [] ∧ digits.all Char.isDigit then some (value 10 digits) else none

/-- `str::parse` of a signed integer. -/
def parseSigned : List Char → Option Int
  | '-' :: digits => if digits ≠ [] ∧ digits.all Char.isDigit then some (-(value 10 digits : Int)) else none
  | text => (parseUnsigned text).map Int.ofNat

def splitFraction : List Char → Option (List Char × List Char)
  | '.' :: rest =>
    let digits := rest.takeWhile Char.isDigit
    if digits = [] then none else some (digits, rest.dropWhile Char.isDigit)
  | rest => some ([], rest)

def parseOffset : List Char → Option Int
  | ['Z'] => some 0
  | [sign, h, h', ':', m, m'] => do
    let factor ← if sign = '+' then some 1 else if sign = '-' then some (-1) else none
    let hours ← parseUnsigned [h, h']
    let minutes ← parseUnsigned [m, m']
    if hours > 23 ∨ minutes > 59 then none else some (factor * (hours * 3600 + minutes * 60))
  | _ => none

/-- `parse_rfc3339` of the peek module: whole Unix seconds; a fraction is read and dropped. -/
def parseRfc3339 (s : String) : Option Int := do
  let text := s.toList
  if text.length < 20 ∨ text[4]? ≠ some '-' ∨ text[7]? ≠ some '-' ∨ text[10]? ≠ some 'T' ∨ text[13]? ≠ some ':' ∨
    text[16]? ≠ some ':' then none
  let year ← parseSigned (text.take 4)
  let month ← parseUnsigned ((text.drop 5).take 2)
  let day ← parseUnsigned ((text.drop 8).take 2)
  let hour ← parseUnsigned ((text.drop 11).take 2)
  let minute ← parseUnsigned ((text.drop 14).take 2)
  let second ← parseUnsigned ((text.drop 17).take 2)
  if month < 1 ∨ 12 < month ∨ day < 1 ∨ 31 < day ∨ 23 < hour ∨ 59 < minute ∨ 60 < second then none
  let (_, rest) ← splitFraction (text.drop 19)
  let offset ← parseOffset rest
  let days := daysFromCivil year month day
  if daysToYmd days ≠ (year, month, day) then none
  some (days * 86400 + hour * 3600 + minute * 60 + second - offset)

def normalizeRfc3339Timestamp (s : String) : Option String := do
  let secs ← parseRfc3339 s
  if secs < 0 then none
  some (formatRfc3339 (secs.toNat * 1000))

/-- The instant a text of RFC 3339 denotes, with the fraction that the reader drops. -/
def rfc3339Instant (s : String) : Option ℚ :=
  (parseRfc3339 s).map fun secs =>
    let digits := ((splitFraction (s.toList.drop 19)).getD ([], [])).1
    secs + (value 10 digits : ℚ) / 10 ^ digits.length

theorem value_lt_pow (h : ∀ c ∈ digits, c.isDigit) : value 10 digits < 10 ^ digits.length := by
  induction digits using List.reverseRecOn with
  | nil => exact Nat.one_pos
  | append_singleton digits c ih =>
    have hDigits := ih fun x hx => h x (List.mem_append_left _ hx)
    have hLast : digitVal c < 10 := by
      have hDigit := h c (by simp)
      simp only [Char.isDigit, Bool.and_eq_true, decide_eq_true_eq, UInt32.le_iff_toNat_le] at hDigit
      have hNine : c.toNat ≤ 57 := hDigit.2
      rw [digitVal, if_pos hNine]
      omega
    rw [value_append_singleton, List.length_append, List.length_singleton, pow_succ]
    omega

theorem splitFraction_digits {text : List Char} (h : splitFraction text = some (digits, rest)) :
    ∀ c ∈ digits, c.isDigit := by
  unfold splitFraction at h
  split at h
  · dsimp only at h
    split at h
    · cases h
    · cases h
      exact fun c hc => List.mem_takeWhile_imp hc
  · cases h
    exact fun c hc => absurd hc List.not_mem_nil

theorem normalize_spec {s since : String} (h : normalizeRfc3339Timestamp s = some since) :
    ∃ (secs : Nat) (fraction : ℚ), since = isoTimestamp secs ∧ rfc3339Instant s = some (secs + fraction) ∧
      0 ≤ fraction ∧ fraction < 1 := by
  unfold normalizeRfc3339Timestamp at h
  cases hParse : parseRfc3339 s with
  | none =>
    rw [hParse] at h
    cases h
  | some secs =>
    rw [hParse] at h
    obtain ⟨n, rfl⟩ | hNeg := (le_or_gt 0 secs).imp_left Int.eq_ofNat_of_zero_le
    · have hDigits : ∀ c ∈ ((splitFraction (s.toList.drop 19)).getD ([], [])).1, c.isDigit := by
        cases hSplit : splitFraction (s.toList.drop 19) with
        | none => exact fun c hc => absurd hc List.not_mem_nil
        | some parts => exact splitFraction_digits hSplit
      refine ⟨n, _, ?_, by rw [rfc3339Instant, hParse]; rfl, by positivity, ?_⟩
      · exact (Option.some.inj h).symm
      · rw [div_lt_one (by positivity)]
        exact_mod_cast value_lt_pow hDigits
    · simp [hNeg] at h

example : normalizeRfc3339Timestamp "2026-04-13T02:00:00.75+08:00" = some "2026-04-12T18:00:00Z" := by
  decide +kernel

end Mempal

import Mathlib.Data.Int.Basic
import Mempal.Foundation.Digits

set_option autoImplicit false

/-! Instants are whole milliseconds since the Unix epoch, the precision SQLite gives to `now`. -/

namespace Mempal

/-- `days_to_ymd` of the peek module: days since 1970-01-01 to year, month and day. -/
def daysToYmd (days : Int) : Int × Nat × Nat :=
  let days := days + 719468
  let era := (if 0 ≤ days then days else days - 146096).tdiv 146097
  let doe := (days - era * 146097).toNat
  let yoe := (doe - doe / 1460 + doe / 36524 - doe / 146096) / 365
  let y := (yoe : Int) + era * 400
  let doy := doe - (365 * yoe + yoe / 4 - yoe / 100)
  let mp := (5 * doy + 2) / 153
  let d := doy - (153 * mp + 2) / 5 + 1
  let m := if mp < 10 then mp + 3 else mp - 9
  let y := if m ≤ 2 then y + 1 else y
  (y, m, d)

def padZero (width n : Nat) : String := String.ofList (Foundation.Digits.padded 10 width n)

/-- The part of a timestamp that both forms share: date, `T`, hour and minute. -/
def dateToMinute (secs : Nat) : String :=
  let secOfDay := secs % 86400
  let ymd := daysToYmd ((secs / 86400 : Nat) : Int)
  padZero 4 ymd.1.toNat ++ "-" ++ padZero 2 ymd.2.1 ++ "-" ++ padZero 2 ymd.2.2 ++ "T" ++
    padZero 2 (secOfDay / 3600) ++ ":" ++ padZero 2 (secOfDay / 60 % 60) ++ ":"

/-- `format_rfc3339`: UTC with seconds precision. -/
def formatRfc3339 (instant : Nat) : String :=
  let secs := instant / 1000
  dateToMinute secs ++ padZero 2 (secs % 86400 % 60) ++ "Z"

/-- The last millisecond of the year 9999, beyond which SQLite's date functions answer `NULL`. -/
def sqliteDateLimit : Nat := 253402300799999

/-- `strftime('%Y-%m-%dT%H:%M:%fZ', 'now')`. -/
def strftimeNow (instant : Nat) : Option String :=
  if instant ≤ sqliteDateLimit then
    let secs := instant / 1000
    some (dateToMinute secs ++ padZero 2 (secs % 86400 % 60) ++ "." ++ padZero 3 (instant % 1000) ++ "Z")
  else none

/-- `SystemTime + Duration::from_secs`, which panics once the seconds leave the range of `i64`. -/
def addSecs (instant : Nat) (ttlSecs : UInt64) : Option Nat :=
  if instant / 1000 + ttlSecs.toNat < 2 ^ 63 then some (instant + ttlSecs.toNat * 1000) else none

example : formatRfc3339 1767225605123 = "2026-01-01T00:00:05Z" := by decide

example : strftimeNow 1767225605123 = some "2026-01-01T00:00:05.123Z" := by decide

end Mempal

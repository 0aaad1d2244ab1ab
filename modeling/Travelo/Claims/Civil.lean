import Mathlib.Data.Int.Notation
import Mathlib.Data.Nat.Notation

/-!
# The calendar

Days since 1970-01-01 and their dates in the proleptic Gregorian calendar. The count goes by eras of
400 years that begin on the first of March, so that a leap day is the last one of its year.
-/

namespace Claims

/-- Year, month and day of a day. -/
def civil (day : ℤ) : ℤ × ℕ × ℕ :=
  let z := day + 719468
  let era := z / 146097
  let doe := (z % 146097).toNat
  let yoe := (doe - doe / 1460 + doe / 36524 - doe / 146096) / 365
  let doy := doe - (365 * yoe + yoe / 4 - yoe / 100)
  let mp := (5 * doy + 2) / 153
  let month := if mp < 10 then mp + 3 else mp - 9
  (yoe + era * 400 + (if month ≤ 2 then 1 else 0), month, doy - (153 * mp + 2) / 5 + 1)

/-- The day of a date. -/
def dayOf (year : ℤ) (month day : ℕ) : ℤ :=
  let y := if month ≤ 2 then year - 1 else year
  let yoe := (y % 400).toNat
  let mp := if month ≤ 2 then month + 9 else month - 3
  let doe := yoe * 365 + yoe / 4 - yoe / 100 + ((153 * mp + 2) / 5 + day - 1)
  y / 400 * 146097 + doe - 719468

example : civil 19782 = (2024, 2, 29) ∧ dayOf 2024 2 29 = 19782 := by decide +kernel

/-- The month a day is in, counted from year 0. -/
def monthOf (day : ℤ) : ℤ :=
  let (year, month, _) := civil day
  year * 12 + (month - 1 : ℕ)

/-- The first day of a month. -/
def firstOfMonth (month : ℤ) : ℤ := dayOf (month / 12) ((month % 12).toNat + 1) 1

end Claims

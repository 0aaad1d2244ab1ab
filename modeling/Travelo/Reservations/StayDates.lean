import Travelo.Claims.Months
import Travelo.Schema

/-!
# Stay dates

The dates of `reservation-rules.ts` as the strings they are, lists of characters here. `Date.parse` is
V8's: a day of the month from 1 to 31 is taken in any month, and one that the month does not have
runs on into the next.
-/

namespace Travelo.StayDates

open Claims

abbrev IsoDate := List Char

def digit (c : Char) : Option ℕ := if c.isDigit then some (c.toNat - 48) else none

def number (s : List Char) : Option ℕ := s.foldlM (fun n c => (digit c).map (10 * n + ·)) 0

/-- Year, month and day of a text of the form `ISO_DATE`. -/
def fields : IsoDate → Option (ℕ × ℕ × ℕ)
  | [y₁, y₂, y₃, y₄, '-', m₁, m₂, '-', d₁, d₂] => do
    let year ← number [y₁, y₂, y₃, y₄]
    let month ← number [m₁, m₂]
    let day ← number [d₁, d₂]
    return (year, month, day)
  | _ => none

def DAY_MS : ℤ := 86400000

/-- `Date.parse` of a date, alone or with a UTC midnight behind it; none is NaN. -/
def dateParse (date : IsoDate) : Option ℤ := do
  let (year, month, day) ← fields date
  if 1 ≤ month ∧ month ≤ 12 ∧ 1 ≤ day ∧ day ≤ 31 then
    return (dayOf year month 1 + day - 1) * DAY_MS
  else none

def isIsoDate (value : IsoDate) : Bool := (fields value).isSome && (dateParse value).isSome

def digitChar (n : ℕ) : Char := Char.ofNat (48 + n)

def two (n : ℕ) : List Char := [digitChar (n / 10), digitChar (n % 10)]

/-- `toISOString().slice(0, 10)`: a year out of 0 to 9999 has a sign and six digits. -/
def isoDay (day : ℤ) : IsoDate :=
  let (year, month, dayOfMonth) := civil day
  let y := year.natAbs
  let yearText :=
    if 0 ≤ year ∧ year ≤ 9999 then two (y / 100) ++ two (y % 100)
    else (if year < 0 then '-' else '+') :: (two (y / 10000) ++ two (y / 100 % 100) ++ two (y % 100))
  (yearText ++ '-' :: (two month ++ '-' :: two dayOfMonth)).take 10

/-- Times that a `Date` cannot hold have no text. -/
def dateText (time : ℤ) : Option IsoDate :=
  if time.natAbs ≤ 8640000000000000 then some (isoDay (time / DAY_MS)) else none

def addDays (date : IsoDate) (days : ℤ) : Option IsoDate := do
  let time ← dateParse date
  dateText (time + days * DAY_MS)

def nightsBetween (checkIn checkOut : IsoDate) : Option ℤ := do
  let start ← dateParse checkIn
  let finish ← dateParse checkOut
  return max 1 (roundDiv (finish - start) 86400000)

structure Stay where
  checkIn : IsoDate
  checkOut : IsoDate

def overlaps (a b : Stay) : Prop := a.checkIn < b.checkOut ∧ b.checkIn < a.checkOut

def coversDate (stay : Stay) (date : IsoDate) : Prop :=
  ¬ date < stay.checkIn ∧ date < stay.checkOut

/-! ## The dates of the calendar -/

/-- A day of the years 0 to 9999. -/
def FourDigit (day : ℤ) : Prop := firstOfMonth 0 ≤ day ∧ day < firstOfMonth 120000
  deriving Decidable

/-- A date of the calendar: a text that a day of these years has. -/
def OnCalendar (date : IsoDate) : Prop := ∃ day, FourDigit day ∧ date = isoDay day

/-- Dates of the calendar that `assertDateOrder` lets through. -/
structure Proper (stay : Stay) : Prop where
  checkIn : OnCalendar stay.checkIn
  checkOut : OnCalendar stay.checkOut
  order : stay.checkIn < stay.checkOut

theorem FourDigit.month {day : ℤ} (h : FourDigit day) : 0 ≤ monthOf day ∧ monthOf day < 120000 := by
  have hspec := monthOf_spec day
  constructor
  · by_contra hneg
    have := firstOfMonth_mono (i := monthOf day + 1) (j := 0) (by omega)
    have := h.1
    omega
  · by_contra hlarge
    have := firstOfMonth_mono (i := 120000) (j := monthOf day) (by omega)
    have := h.2
    omega

theorem dayOfMonth_le_31 (day : ℤ) : dayOfMonth day ≤ 31 := by
  have hle := dayOfMonth_le day
  have hlength := lengthOfMonth_bounds (monthOf day)
  omega

theorem isoDay_eq {day : ℤ} (h : FourDigit day) : isoDay day =
    two ((monthOf day / 12).toNat / 100) ++ (two ((monthOf day / 12).toNat % 100) ++ '-' ::
      (two ((monthOf day % 12).toNat + 1) ++ '-' :: two (dayOfMonth day))) := by
  have hmonth := h.month
  have hyear : 0 ≤ monthOf day / 12 ∧ monthOf day / 12 ≤ 9999 := by omega
  have habs : (monthOf day / 12).natAbs = (monthOf day / 12).toNat := by omega
  simp only [isoDay, civil_eq, if_pos hyear, habs]
  rfl

theorem digit_digitChar {n : ℕ} (h : n < 10) : digit (digitChar n) = some n := by
  have hall : ∀ n < 10, digit (digitChar n) = some n := by decide
  exact hall n h

theorem digitChar_lt {m n : ℕ} (hm : m < 10) (hn : n < 10) :
    digitChar m < digitChar n ↔ m < n := by
  have hall : ∀ m < 10, ∀ n < 10, (digitChar m < digitChar n ↔ m < n) := by decide
  exact hall m hm n hn

/-- Texts that begin with two digits are in the order of these, then of the rest. -/
theorem two_append_lt {m n : ℕ} (hm : m < 100) (hn : n < 100) (s t : List Char) :
    two m ++ s < two n ++ t ↔ m < n ∨ m = n ∧ s < t := by
  have hinj {a b : ℕ} (ha : a < 10) (hb : b < 10) : digitChar a = digitChar b ↔ a = b := by
    refine ⟨fun h => ?_, fun h => h ▸ rfl⟩
    have := digit_digitChar ha
    rw [h, digit_digitChar hb] at this
    exact (Option.some.inj this).symm
  simp only [two, List.cons_append, List.nil_append, List.cons_lt_cons_iff,
    digitChar_lt (by omega : m / 10 < 10) (by omega : n / 10 < 10),
    digitChar_lt (by omega : m % 10 < 10) (by omega : n % 10 < 10),
    hinj (by omega : m / 10 < 10) (by omega : n / 10 < 10),
    hinj (by omega : m % 10 < 10) (by omega : n % 10 < 10)]
  by_cases hst : s < t
  · simp only [hst, and_true]
    omega
  · simp only [hst, and_false, or_false]
    omega

theorem isoDay_lt {d e : ℤ} (hd : FourDigit d) (he : FourDigit e) :
    isoDay d < isoDay e ↔ d < e := by
  have hmd := hd.month
  have hme := he.month
  have h31d := dayOfMonth_le_31 d
  have h31e := dayOfMonth_le_31 e
  have hnil : ¬ ([] : List Char) < [] := by decide
  have htext : isoDay d < isoDay e ↔
      monthOf d < monthOf e ∨ monthOf d = monthOf e ∧ dayOfMonth d < dayOfMonth e := by
    rw [isoDay_eq hd, isoDay_eq he, two_append_lt (by omega) (by omega),
      two_append_lt (by omega) (by omega), List.cons_lt_cons_self,
      two_append_lt (by omega) (by omega), List.cons_lt_cons_self,
      ← List.append_nil (two (dayOfMonth d)), ← List.append_nil (two (dayOfMonth e)),
      two_append_lt (by omega) (by omega)]
    simp only [hnil, and_false, or_false]
    omega
  have hsd := monthOf_spec d
  have hse := monthOf_spec e
  rw [htext]
  rcases Int.lt_trichotomy (monthOf d) (monthOf e) with hlt | heq | hgt
  · have := firstOfMonth_mono (i := monthOf d + 1) (j := monthOf e) (by omega)
    omega
  · rw [heq] at hsd
    omega
  · have := firstOfMonth_mono (i := monthOf e + 1) (j := monthOf d) (by omega)
    omega

theorem fields_isoDay {day : ℤ} (h : FourDigit day) : fields (isoDay day) =
    some ((monthOf day / 12).toNat, (monthOf day % 12).toNat + 1, dayOfMonth day) := by
  have hmonth := h.month
  have h31 := dayOfMonth_le_31 day
  have hnumber {n : ℕ} (hn : n < 100) : number (two n) = some n := by
    simp only [number, two, List.foldlM_cons, List.foldlM_nil,
      digit_digitChar (by omega : n / 10 < 10), digit_digitChar (by omega : n % 10 < 10),
      Option.map_some, Option.bind_eq_bind, Option.bind_some, Option.pure_def, Option.some.injEq]
    omega
  have hyear {n : ℕ} (hn : n < 10000) : number (two (n / 100) ++ two (n % 100)) = some n := by
    simp only [number, two, List.cons_append, List.nil_append, List.foldlM_cons, List.foldlM_nil,
      digit_digitChar (by omega : n / 100 / 10 < 10), digit_digitChar (by omega : n / 100 % 10 < 10),
      digit_digitChar (by omega : n % 100 / 10 < 10), digit_digitChar (by omega : n % 100 % 10 < 10),
      Option.map_some, Option.bind_eq_bind, Option.bind_some, Option.pure_def, Option.some.injEq]
    omega
  have hfields (c y m d : ℕ) : fields (two c ++ (two y ++ '-' :: (two m ++ '-' :: two d))) =
      (number (two c ++ two y)).bind fun year => (number (two m)).bind fun month =>
        (number (two d)).bind fun day => some (year, month, day) := rfl
  rw [isoDay_eq h, hfields, hyear (by omega), hnumber (by omega), hnumber (by omega)]
  rfl

theorem dateParse_isoDay {day : ℤ} (h : FourDigit day) :
    dateParse (isoDay day) = some (day * DAY_MS) := by
  have hmonth := h.month
  have hspec := monthOf_spec day
  have hpos := dayOfMonth_pos day
  have h31 := dayOfMonth_le_31 day
  have hfirst := dayOf_eq (monthOf day) (Nat.le_refl 1)
  have hyear : ((monthOf day / 12).toNat : ℤ) = monthOf day / 12 := by omega
  rw [dateParse, fields_isoDay h]
  simp only [Option.bind_eq_bind, Option.bind_some]
  rw [if_pos (by omega), hyear, hfirst]
  congr 2
  push_cast
  omega

theorem isIsoDate_isoDay {day : ℤ} (h : FourDigit day) : isIsoDate (isoDay day) := by
  rw [isIsoDate, fields_isoDay h, dateParse_isoDay h]
  rfl

theorem dateParse_midnight {date : IsoDate} {time : ℤ} (h : dateParse date = some time) :
    ∃ day, time = day * DAY_MS := by
  unfold dateParse at h
  obtain ⟨⟨year, month, day⟩, -, h⟩ := Option.bind_eq_some_iff.mp h
  dsimp only at h
  split at h
  · exact ⟨_, (Option.some.inj h).symm⟩
  · cases h

theorem dateText_midnight {day : ℤ} (h : FourDigit day) :
    dateText (day * DAY_MS) = some (isoDay day) := by
  have hlo : firstOfMonth 0 = -719528 := by decide +kernel
  have hhi : firstOfMonth 120000 = 2932897 := by decide +kernel
  have hrange := h
  rw [FourDigit, hlo, hhi] at hrange
  have hday : day * DAY_MS / DAY_MS = day := by
    unfold DAY_MS
    omega
  rw [dateText, if_pos, hday]
  unfold DAY_MS
  omega

theorem roundDiv_midnights (d e : ℤ) :
    roundDiv (e * DAY_MS - d * DAY_MS) 86400000 = e - d := by
  unfold roundDiv DAY_MS
  omega

end Travelo.StayDates

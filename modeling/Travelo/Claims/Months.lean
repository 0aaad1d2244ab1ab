import Mathlib.Tactic.Common
import Travelo.Claims.Civil

/-!
# Months of the calendar

Every day is in the month that begins last before it, months are 28 to 31 days long, and a day is
told by its month and its day of the month.
-/

namespace Claims

/-! ## Years from March to March -/

/-- The days before a year that begins in March, from the first of March of year 0 on. -/
def yearStart (year : ℤ) : ℤ :=
  year / 400 * 146097 + (365 * (year % 400) + year % 400 / 4 - year % 400 / 100)

variable (month : ℤ)

/-- The days of a year before its month, March being month 0. -/
def monthStart : ℤ := (153 * month + 2) / 5

theorem yearStart_succ (year : ℤ) : yearStart year + 365 ≤ yearStart (year + 1) ∧
    yearStart (year + 1) ≤ yearStart year + 366 := by
  unfold yearStart
  rcases (by omega : (year + 1) % 400 = year % 400 + 1 ∧ (year + 1) / 400 = year / 400 ∨
    (year + 1) % 400 = 0 ∧ (year + 1) / 400 = year / 400 + 1 ∧ year % 400 = 399) with
    ⟨hof, hera⟩ | ⟨hof, hera, hlast⟩
  · rw [hof, hera]
    omega
  · rw [hof, hera, hlast]
    omega

/-- The year of the era a day is in: the days of whole leap cycles and centuries are put right. -/
theorem yearOfEra_spec {doe y : ℕ} (hdoe : doe < 146097)
    (hy : y = (doe - doe / 1460 + doe / 36524 - doe / 146096) / 365) :
    y < 400 ∧ 365 * y + y / 4 - y / 100 ≤ doe ∧
      (y < 399 → doe < 365 * (y + 1) + (y + 1) / 4 - (y + 1) / 100) := by
  have hlow : 365 * y ≤ doe - doe / 1460 + doe / 36524 - doe / 146096 := by omega
  have hhigh : doe - doe / 1460 + doe / 36524 - doe / 146096 < 365 * (y + 1) := by omega
  clear hy
  by_cases hlast : doe = 146096
  · subst hlast
    omega
  have hnone : doe / 146096 = 0 := by omega
  have hcentury : doe / 36524 ≤ 3 := by omega
  have hcenturies := Nat.div_mul_le_self doe 36524
  have hwithin := Nat.lt_div_mul_add (a := doe) (b := 36524) (by omega)
  have hcycles := Nat.div_mul_le_self doe 1460
  have hcycle := Nat.lt_div_mul_add (a := doe) (b := 1460) (by omega)
  rw [hnone] at hlow hhigh
  generalize doe / 36524 = century at *
  generalize doe / 1460 = cycles at *
  have hfrom : 100 * century ≤ y := by omega
  have hbelow : y < 100 * century + 100 := by omega
  have hdone : y / 4 ≤ cycles := by omega
  have hnext : cycles ≤ (y + 1) / 4 := by omega
  omega

/-! ## Months -/

/-- A month begins on the first, after the years before it and the months of its own. -/
theorem firstOfMonth_eq : firstOfMonth month =
    yearStart ((month - 2) / 12) + monthStart ((month - 2) % 12) - 719468 := by
  unfold firstOfMonth dayOf yearStart monthStart
  by_cases hwinter : (month % 12).toNat + 1 ≤ 2
  · have hyear : (month - 2) / 12 = month / 12 - 1 := by omega
    have hmonth : (month - 2) % 12 = month % 12 + 10 := by omega
    simp only [if_pos hwinter, hyear, hmonth]
    omega
  · have hyear : (month - 2) / 12 = month / 12 := by omega
    have hmonth : (month - 2) % 12 = month % 12 - 2 := by omega
    simp only [if_neg hwinter, hyear, hmonth]
    omega

theorem dayOf_eq {day : ℕ} (hday : 1 ≤ day) :
    dayOf (month / 12) ((month % 12).toNat + 1) day = firstOfMonth month + day - 1 := by
  simp only [firstOfMonth, dayOf]
  omega

def lengthOfMonth : ℤ := firstOfMonth (month + 1) - firstOfMonth month

theorem firstOfMonth_succ :
    firstOfMonth (month + 1) = firstOfMonth month + lengthOfMonth month := by
  unfold lengthOfMonth
  omega

theorem lengthOfMonth_bounds : 28 ≤ lengthOfMonth month ∧ lengthOfMonth month ≤ 31 := by
  unfold lengthOfMonth
  rw [firstOfMonth_eq, firstOfMonth_eq]
  have hyear := yearStart_succ ((month - 2) / 12)
  rcases (by omega : (month + 1 - 2) / 12 = (month - 2) / 12 ∧
      (month + 1 - 2) % 12 = (month - 2) % 12 + 1 ∨
    (month + 1 - 2) / 12 = (month - 2) / 12 + 1 ∧ (month + 1 - 2) % 12 = 0 ∧
      (month - 2) % 12 = 11) with ⟨hsame, hnext⟩ | ⟨hnew, hmarch, hfebruary⟩
  · rw [hsame, hnext]
    unfold monthStart
    omega
  · -- February is what is left of the year
    rw [hnew, hmarch, hfebruary]
    unfold monthStart
    omega

theorem firstOfMonth_lt_succ : firstOfMonth month < firstOfMonth (month + 1) := by
  have hlength := lengthOfMonth_bounds month
  rw [firstOfMonth_succ]
  omega

theorem firstOfMonth_add_lt (n : ℕ) :
    firstOfMonth month < firstOfMonth (month + (n + 1)) := by
  induction n with
  | zero => simpa using firstOfMonth_lt_succ month
  | succ n ih =>
    have hnext := firstOfMonth_lt_succ (month + (n + 1))
    rw [Int.add_assoc] at hnext
    push_cast
    omega

theorem firstOfMonth_add_le (n : ℕ) :
    firstOfMonth (month + n) ≤ firstOfMonth month + 31 * n := by
  induction n with
  | zero => simp
  | succ n ih =>
    have hlength := lengthOfMonth_bounds (month + n)
    have hnext := firstOfMonth_succ (month + n)
    rw [Int.add_assoc] at hnext
    push_cast
    omega

theorem firstOfMonth_strictMono {i j : ℤ} (h : i < j) : firstOfMonth i < firstOfMonth j := by
  have hgap := firstOfMonth_add_lt i (j - i - 1).toNat
  have hj : i + ((j - i - 1).toNat + 1 : ℤ) = j := by omega
  rwa [hj] at hgap

theorem firstOfMonth_mono {i j : ℤ} (h : i ≤ j) : firstOfMonth i ≤ firstOfMonth j := by
  rcases Int.lt_or_eq_of_le h with hlt | rfl
  · exact Int.le_of_lt (firstOfMonth_strictMono hlt)
  · exact Int.le_refl _

/-! ## The date of a day -/

variable (day : ℤ)

/-- The day of the month. -/
def dayOfMonth : ℕ := (civil day).2.2

/-- What the formula of `civil` finds: the year from March, the month in it and the day in that. -/
theorem civil_parts : ∃ (year : ℤ) (mp : ℕ), mp < 12 ∧
    monthOf day = 12 * year + mp + 2 ∧
    (dayOfMonth day : ℤ) = day + 719468 - (yearStart year + monthStart mp) + 1 ∧
    yearStart year + monthStart mp ≤ day + 719468 ∧
    (mp < 11 → day + 719468 < yearStart year + monthStart (mp + 1)) ∧
    day + 719468 < yearStart (year + 1) ∧ 1 ≤ (civil day).2.1 ∧ (civil day).2.1 ≤ 12 := by
  simp only [monthOf, dayOfMonth, civil]
  generalize hz : day + 719468 = z
  have hdoe : (z % 146097).toNat < 146097 := by omega
  have hz' : z = z / 146097 * 146097 + (z % 146097).toNat := by omega
  generalize (z % 146097).toNat = doe at *
  generalize z / 146097 = era at *
  generalize hyoe : (doe - doe / 1460 + doe / 36524 - doe / 146096) / 365 = yoe
  have hyear := yearOfEra_spec hdoe hyoe.symm
  have hof : (yoe + era * 400) % 400 = yoe := by omega
  have hera : (yoe + era * 400) / 400 = era := by omega
  have hstart : yearStart (yoe + era * 400) = era * 146097 + (365 * yoe + yoe / 4 - yoe / 100) := by
    unfold yearStart
    rw [hof, hera]
  have hend : z < yearStart (yoe + era * 400 + 1) := by
    by_cases hlast : yoe = 399
    · have hcarry : (yoe + era * 400 + 1) % 400 = 0 ∧ (yoe + era * 400 + 1) / 400 = era + 1 := by
        omega
      unfold yearStart
      rw [hcarry.1, hcarry.2]
      omega
    · have hkept : (yoe + era * 400 + 1) % 400 = (yoe + 1 : ℕ) ∧
          (yoe + era * 400 + 1) / 400 = era := by omega
      have hbelow := hyear.2.2 (by omega)
      unfold yearStart
      rw [hkept.1, hkept.2]
      omega
  have hdays := yearStart_succ (yoe + era * 400)
  generalize hdoy : doe - (365 * yoe + yoe / 4 - yoe / 100) = doy
  generalize hmp : (5 * doy + 2) / 153 = mp
  refine ⟨yoe + era * 400, mp, by omega, ?_, ?_, ?_, ?_, hend, ?_⟩
  · split
    · omega
    · omega
  · unfold monthStart
    omega
  · unfold monthStart
    omega
  · intro _
    unfold monthStart
    omega
  · split
    · omega
    · omega

/-- The month of a day is the one it lies in, and its day of the month counts from one. -/
theorem monthOf_spec : firstOfMonth (monthOf day) ≤ day ∧
    day < firstOfMonth (monthOf day + 1) ∧
      (dayOfMonth day : ℤ) = day - firstOfMonth (monthOf day) + 1 := by
  obtain ⟨year, mp, hmp, hmonth, hday, hfrom, hbefore, hend, -⟩ := civil_parts day
  have hyear : (monthOf day - 2) / 12 = year := by omega
  have hof : (monthOf day - 2) % 12 = mp := by omega
  have hfirst := firstOfMonth_eq (monthOf day)
  have hnext := firstOfMonth_eq (monthOf day + 1)
  rw [hyear, hof] at hfirst
  refine ⟨by omega, ?_, by omega⟩
  by_cases hlast : mp < 11
  · have hnext' : (monthOf day + 1 - 2) / 12 = year ∧ (monthOf day + 1 - 2) % 12 = mp + 1 := by
      omega
    have hbelow := hbefore hlast
    rw [hnext'.1, hnext'.2] at hnext
    omega
  · have hnext' : (monthOf day + 1 - 2) / 12 = year + 1 ∧ (monthOf day + 1 - 2) % 12 = 0 := by
      omega
    have hmarch : monthStart 0 = 0 := by decide
    rw [hnext'.1, hnext'.2, hmarch] at hnext
    omega

theorem monthOf_eq {day month : ℤ} (hfrom : firstOfMonth month ≤ day)
    (hbelow : day < firstOfMonth (month + 1)) : monthOf day = month := by
  have hspec := monthOf_spec day
  rcases Int.lt_trichotomy (monthOf day) month with hlt | heq | hgt
  · have hle := firstOfMonth_mono (i := monthOf day + 1) (j := month) (by omega)
    omega
  · exact heq
  · have hle := firstOfMonth_mono (i := month + 1) (j := monthOf day) (by omega)
    omega

theorem dayOfMonth_pos : 1 ≤ dayOfMonth day := by
  have hspec := monthOf_spec day
  omega

theorem dayOfMonth_le : (dayOfMonth day : ℤ) ≤ lengthOfMonth (monthOf day) := by
  have hspec := monthOf_spec day
  have hnext := firstOfMonth_succ (monthOf day)
  omega

theorem eq_of_monthOf_eq {d e : ℤ} (hmonth : monthOf d = monthOf e)
    (hday : dayOfMonth d = dayOfMonth e) : d = e := by
  have hd := monthOf_spec d
  have he := monthOf_spec e
  rw [hmonth] at hd
  omega

theorem monthOf_day (day : ℕ) (hpos : 1 ≤ day) (hle : day ≤ lengthOfMonth month) :
    monthOf (firstOfMonth month + day - 1) = month ∧
      dayOfMonth (firstOfMonth month + day - 1) = day := by
  have hmonth : monthOf (firstOfMonth month + day - 1) = month := by
    have hnext := firstOfMonth_succ month
    exact monthOf_eq (by omega) (by omega)
  have hspec := monthOf_spec (firstOfMonth month + day - 1)
  rw [hmonth] at hspec
  exact ⟨hmonth, by omega⟩

theorem civil_eq :
    civil day = (monthOf day / 12, (monthOf day % 12).toNat + 1, dayOfMonth day) := by
  obtain ⟨year, mp, -, -, -, -, -, -, hmonth⟩ := civil_parts day
  have hof : monthOf day = (civil day).1 * 12 + ((civil day).2.1 - 1 : ℕ) := rfl
  refine Prod.ext ?_ (Prod.ext ?_ rfl)
  · show (civil day).1 = monthOf day / 12
    omega
  · show (civil day).2.1 = (monthOf day % 12).toNat + 1
    omega

end Claims

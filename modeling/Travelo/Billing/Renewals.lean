import Mathlib.Tactic.Ring
import Travelo.Claims.Months

/-!
# Renewals

A renewal adds months to the later of now and the period's end, and a month that is too short for
the day clamps it. The clamped day is what the next renewal starts from: `renewals_anniversary` says
which day a run of renewals on time ends on, and when that is the anniversary.
-/

namespace Travelo

open Claims

/-- The milliseconds of a day. -/
def DAY_MS : ℤ := 24 * 60 * 60 * 1000

/-- An instant `months` later in the calendar, on the last day of a month that is too short. -/
def addMonths (date months : ℤ) : ℤ :=
  let day := dayOfMonth (date / DAY_MS)
  let absoluteMonth := monthOf (date / DAY_MS) + months
  let targetYear := absoluteMonth / 12
  let targetMonth := absoluteMonth - targetYear * 12
  -- day 0 of the following month
  let daysInTargetMonth := dayOfMonth (firstOfMonth (absoluteMonth + 1) - 1)
  dayOf targetYear (targetMonth.toNat + 1) (min day daysInTargetMonth) * DAY_MS + date % DAY_MS

structure Renewal where
  periodStart : ℤ
  periodEnd : ℤ
  deriving DecidableEq

def computeRenewal (now currentPeriodEnd durationMonths : ℤ) : Except String Renewal :=
  if durationMonths < 1 ∨ durationMonths > 120 then
    .error "Plan durationMonths must be an integer between 1 and 120"
  else
    let periodStart := max now currentPeriodEnd
    .ok { periodStart, periodEnd := addMonths periodStart durationMonths }

example : addMonths (dayOf 2026 1 31 * DAY_MS) 1 = dayOf 2026 2 28 * DAY_MS := by decide +kernel

/-! ## The date of an instant -/

/-- The month an instant is in. -/
def monthAt (t : ℤ) : ℤ := monthOf (t / DAY_MS)

/-- Its day of the month. -/
def dayAt (t : ℤ) : ℕ := dayOfMonth (t / DAY_MS)

def timeOfDay (t : ℤ) : ℤ := t % DAY_MS

theorem instant_eq {t u : ℤ} (hmonth : monthAt t = monthAt u) (hday : dayAt t = dayAt u)
    (htime : timeOfDay t = timeOfDay u) : t = u := by
  have hdays : t / DAY_MS = u / DAY_MS := eq_of_monthOf_eq hmonth hday
  have ht := Int.mul_ediv_add_emod t DAY_MS
  have hu := Int.mul_ediv_add_emod u DAY_MS
  unfold timeOfDay at htime
  rw [hdays, htime] at ht
  omega

theorem last_of_month (month : ℤ) :
    dayOfMonth (firstOfMonth (month + 1) - 1) = (lengthOfMonth month).toNat := by
  have hlength := lengthOfMonth_bounds month
  have hlast := (monthOf_day month (lengthOfMonth month).toNat (by omega) (by omega)).2
  have hday : firstOfMonth month + ((lengthOfMonth month).toNat : ℕ) - 1 =
      firstOfMonth (month + 1) - 1 := by
    rw [firstOfMonth_succ]
    omega
  rwa [hday] at hlast

theorem addMonths_spec (t n : ℤ) : monthAt (addMonths t n) = monthAt t + n ∧
    dayAt (addMonths t n) = min (dayAt t) (lengthOfMonth (monthAt t + n)).toNat ∧
      timeOfDay (addMonths t n) = timeOfDay t := by
  have hlength := lengthOfMonth_bounds (monthAt t + n)
  have hpos := dayOfMonth_pos (t / DAY_MS)
  have hms : 0 < DAY_MS := by decide
  have hne : DAY_MS ≠ 0 := by decide
  have htime := Int.emod_nonneg t hne
  have hwithin := Int.emod_lt_of_pos t hms
  have hday : addMonths t n = (firstOfMonth (monthAt t + n) +
      (min (dayAt t) (lengthOfMonth (monthAt t + n)).toNat : ℕ) - 1) * DAY_MS + t % DAY_MS := by
    rw [← dayOf_eq (monthAt t + n) (by unfold dayAt; omega), ← last_of_month]
    unfold addMonths monthAt dayAt
    have hmonth : (monthOf (t / DAY_MS) + n - (monthOf (t / DAY_MS) + n) / 12 * 12) =
        (monthOf (t / DAY_MS) + n) % 12 := by omega
    simp only [hmonth]
  have hdiv : addMonths t n / DAY_MS = firstOfMonth (monthAt t + n) +
      (min (dayAt t) (lengthOfMonth (monthAt t + n)).toNat : ℕ) - 1 := by
    rw [hday, Int.add_comm, Int.add_mul_ediv_right _ _ hne, Int.ediv_eq_zero_of_lt htime hwithin]
    omega
  have hspec := monthOf_day (monthAt t + n)
    (min (dayAt t) (lengthOfMonth (monthAt t + n)).toNat) (by unfold dayAt; omega) (by omega)
  rw [← hdiv] at hspec
  refine ⟨hspec.1, hspec.2, ?_⟩
  unfold timeOfDay
  rw [hday, Int.add_comm, Int.add_mul_emod_self_right, Int.emod_emod_of_dvd _ (Int.dvd_refl _)]

theorem lt_addMonths {t n : ℤ} (hn : 1 ≤ n) : t < addMonths t n := by
  have hspec := addMonths_spec t n
  have hms : 0 < DAY_MS := by decide
  have hbefore := (monthOf_spec (t / DAY_MS)).2.1
  have hfrom := (monthOf_spec (addMonths t n / DAY_MS)).1
  have hmonths : firstOfMonth (monthAt t + 1) ≤ firstOfMonth (monthAt t + n) :=
    firstOfMonth_mono (by omega)
  have hdays : t / DAY_MS < addMonths t n / DAY_MS := by
    unfold monthAt at hspec hmonths
    rw [hspec.1] at hfrom
    omega
  have ht := Int.mul_ediv_add_emod t DAY_MS
  have hu := Int.mul_ediv_add_emod (addMonths t n) DAY_MS
  have htime := hspec.2.2
  unfold timeOfDay at htime
  have hscale : DAY_MS * (t / DAY_MS) < DAY_MS * (addMonths t n / DAY_MS) :=
    Int.mul_lt_mul_of_pos_left hdays hms
  omega

/-! ## Renewals on time -/

theorem computeRenewal_ok {now currentPeriodEnd durationMonths : ℤ} {r : Renewal}
    (h : computeRenewal now currentPeriodEnd durationMonths = .ok r) :
    1 ≤ durationMonths ∧ r.periodStart = max now currentPeriodEnd ∧
      r.periodEnd = addMonths r.periodStart durationMonths := by
  unfold computeRenewal at h
  split at h
  · exact nomatch h
  · obtain rfl := Except.ok.inj h
    exact ⟨by omega, rfl, rfl⟩

/-- `k` renewals of `n` months, none later than the end of the period it renews. -/
inductive RenewedOnTime (n start : ℤ) : ℕ → ℤ → Prop where
  | start : RenewedOnTime n start 0 start
  | renew {k : ℕ} {current now : ℤ} {r : Renewal} (before : RenewedOnTime n start k current)
      (onTime : now ≤ current) (renewed : computeRenewal now current n = .ok r) :
      RenewedOnTime n start (k + 1) r.periodEnd

/-- Where `k` renewals of `n` months end. -/
structure KeepsAnniversary (n start : ℤ) (k : ℕ) (periodEnd : ℤ) : Prop where
  month : monthAt periodEnd = monthAt start + k * n
  time : timeOfDay periodEnd = timeOfDay start
  /-- The day is clamped by every month a period ended in, and by nothing else. -/
  day : ∀ d : ℕ, d ≤ dayAt periodEnd ↔
    d ≤ dayAt start ∧ ∀ j : ℕ, 1 ≤ j → j ≤ k → d ≤ lengthOfMonth (monthAt start + j * n)

variable {n start periodEnd : ℤ} {k : ℕ}

theorem RenewedOnTime.keeps (h : RenewedOnTime n start k periodEnd) :
    KeepsAnniversary n start k periodEnd := by
  induction h with
  | start =>
    refine ⟨by simp, rfl, ?_⟩
    intro d
    constructor
    · intro hd
      refine ⟨hd, ?_⟩
      intro j hone hzero
      omega
    · intro hd
      exact hd.1
  | @renew k current now r _ honTime hrenewed ih =>
    obtain ⟨-, hstart, hend⟩ := computeRenewal_ok hrenewed
    have hfrom : r.periodStart = current := by omega
    rw [hfrom] at hend
    have hspec := addMonths_spec current n
    rw [← hend] at hspec
    have hmonth : monthAt current + n = monthAt start + (k + 1 : ℕ) * n := by
      rw [ih.month]
      push_cast
      ring
    rw [hmonth] at hspec
    have hlength := lengthOfMonth_bounds (monthAt start + (k + 1 : ℕ) * n)
    refine ⟨hspec.1, hspec.2.2.trans ih.time, ?_⟩
    intro d
    rw [hspec.2.1, Nat.le_min, ih.day d]
    constructor
    · rintro ⟨⟨hday, hearlier⟩, hlast⟩
      refine ⟨hday, ?_⟩
      intro j hone hj
      rcases Nat.lt_or_eq_of_le hj with hlt | rfl
      · exact hearlier j hone (by omega)
      · omega
    · rintro ⟨hday, hall⟩
      refine ⟨⟨hday, ?_⟩, ?_⟩
      · intro j hone hj
        exact hall j hone (by omega)
      · have hlast := hall (k + 1) (by omega) (Nat.le_refl _)
        omega

/-- The anniversary is met when no month in between is shorter than the day of the last one. -/
theorem KeepsAnniversary.eq_iff (h : KeepsAnniversary n start k periodEnd) :
    periodEnd = addMonths start (k * n) ↔ ∀ j : ℕ, 1 ≤ j → j ≤ k →
      dayAt (addMonths start (k * n)) ≤ lengthOfMonth (monthAt start + j * n) := by
  have hspec := addMonths_spec start (k * n)
  have hown := h.day (dayAt periodEnd)
  have htarget := h.day (dayAt (addMonths start (k * n)))
  constructor
  · intro heq
    rw [← heq]
    exact (hown.mp (Nat.le_refl _)).2
  · intro hall
    have hle : dayAt (addMonths start (k * n)) ≤ dayAt periodEnd := htarget.mpr ⟨by omega, hall⟩
    have hge : dayAt periodEnd ≤ dayAt (addMonths start (k * n)) := by
      have hclamps := hown.mp (Nat.le_refl _)
      have hlast : (dayAt periodEnd : ℤ) ≤ lengthOfMonth (monthAt start + k * n) := by
        rw [← h.month]
        exact dayOfMonth_le _
      omega
    exact instant_eq (h.month.trans hspec.1.symm) (by omega) (h.time.trans hspec.2.2.symm)

theorem KeepsAnniversary.eq_of_le (h : KeepsAnniversary n start k periodEnd)
    (hday : dayAt start ≤ 28) : periodEnd = addMonths start (k * n) := by
  rw [h.eq_iff]
  intro j _ _
  have hspec := addMonths_spec start (k * n)
  have hlength := lengthOfMonth_bounds (monthAt start + j * n)
  omega

theorem computeRenewal_later {now currentPeriodEnd durationMonths : ℤ} {r : Renewal}
    (h : computeRenewal now currentPeriodEnd durationMonths = .ok r) :
    now < r.periodEnd ∧ currentPeriodEnd < r.periodEnd := by
  obtain ⟨hmonths, hstart, hend⟩ := computeRenewal_ok h
  have hlater := lt_addMonths (t := r.periodStart) hmonths
  omega

/-- Renewals on time drift from the anniversary only by the months they end in, and no renewal
shortens anything. -/
theorem renewals_anniversary :
    (∀ n start k periodEnd, RenewedOnTime n start k periodEnd →
      KeepsAnniversary n start k periodEnd ∧
      (periodEnd = addMonths start (k * n) ↔ ∀ j : ℕ, 1 ≤ j → j ≤ k →
        dayAt (addMonths start (k * n)) ≤ lengthOfMonth (monthAt start + j * n)) ∧
      (dayAt start ≤ 28 → periodEnd = addMonths start (k * n))) ∧
    ∀ now currentPeriodEnd durationMonths r,
      computeRenewal now currentPeriodEnd durationMonths = .ok r →
        now < r.periodEnd ∧ currentPeriodEnd < r.periodEnd := by
  constructor
  · intro n start k periodEnd hrun
    exact ⟨hrun.keeps, hrun.keeps.eq_iff, hrun.keeps.eq_of_le⟩
  · intro now currentPeriodEnd durationMonths r hrenewed
    exact computeRenewal_later hrenewed

/-- Noon on the last day of January 2026. -/
def januaryEnd : ℤ := dayOf 2026 1 31 * DAY_MS + DAY_MS / 2

def februaryEnd : ℤ := dayOf 2026 2 28 * DAY_MS + DAY_MS / 2

def marchEnd : ℤ := dayOf 2026 3 28 * DAY_MS + DAY_MS / 2

theorem renewedTwice : RenewedOnTime 1 januaryEnd 2 marchEnd := by
  have hfirst : RenewedOnTime 1 januaryEnd 1 februaryEnd :=
    .renew (r := ⟨januaryEnd, februaryEnd⟩) .start (Int.le_refl _) (by decide +kernel)
  exact .renew (r := ⟨februaryEnd, marchEnd⟩) hfirst (Int.le_refl _) (by decide +kernel)

theorem renewals_anniversary_january : KeepsAnniversary 1 januaryEnd 2 marchEnd ∧
    januaryEnd < februaryEnd :=
  ⟨(renewals_anniversary.1 1 januaryEnd 2 marchEnd renewedTwice).1,
    (renewals_anniversary.2 januaryEnd januaryEnd 1 ⟨januaryEnd, februaryEnd⟩
      (by decide +kernel)).1⟩

/-- Two months after the last of January it is the last of March, but the second renewal starts
from the 28th. -/
theorem renewals_drift : ¬∀ n start k periodEnd, RenewedOnTime n start k periodEnd →
    periodEnd = addMonths start (k * n) := by
  intro h
  have hmarch := h 1 januaryEnd 2 marchEnd renewedTwice
  revert hmarch
  decide +kernel

end Travelo

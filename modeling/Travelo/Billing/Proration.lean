import Travelo.Billing.Renewals
import Travelo.Claims.Quotients
import Travelo.Schema

/-!
# Changing plans

`computeProration` credits the unused days of the current cycle against the new plan. What the
credit leaves over buys days of it, counted by a daily rate in double precision: `proration_sound`
says what is credited, what is due, and what the extra days are worth.
-/

namespace Travelo

open Claims

structure ProrationInput where
  now : ℤ
  periodStart : ℤ
  periodEnd : ℤ
  currentPeriodTotalPaise : ℤ
  newMonthlyPaise : ℤ
  newDurationMonths : ℤ

structure Proration where
  creditPaise : ℤ
  newCostPaise : ℤ
  amountDuePaise : ℤ
  newPeriodStart : ℤ
  newPeriodEnd : ℤ

/-- `Math.round(ms / DAY)`. -/
def wholeDays (ms : ℤ) : ℤ := roundDiv ms (24 * 60 * 60 * 1000)

/-- How often a daily rate goes into what is left over, in double precision. -/
def extraDaysFor (leftover newCostPaise newPeriodDays : ℤ) : ℤ :=
  -- the rate is positive as the cost is
  if 0 < newCostPaise then
    ((Binary64.divide leftover.toNat
      (Binary64.ratio newCostPaise.toNat newPeriodDays.toNat)).floor : ℤ)
  else 0

def computeProration (input : ProrationInput) : Proration :=
  let totalDays := max 1 (wholeDays (input.periodEnd - input.periodStart))
  let remainingDays := min totalDays (max 0 (wholeDays (input.periodEnd - input.now)))
  let creditPaise := roundDiv (input.currentPeriodTotalPaise * remainingDays) totalDays.toNat
  let newCostPaise := input.newMonthlyPaise * input.newDurationMonths
  let newPeriodStart := input.now
  let newPeriodEnd := addMonths newPeriodStart input.newDurationMonths
  let amountDuePaise := newCostPaise - creditPaise
  if amountDuePaise < 0 then
    let newPeriodDays := max 1 (wholeDays (newPeriodEnd - newPeriodStart))
    let extraDays := extraDaysFor (-amountDuePaise) newCostPaise newPeriodDays
    { creditPaise, newCostPaise, amountDuePaise := 0, newPeriodStart
      newPeriodEnd := newPeriodEnd + extraDays * DAY_MS }
  else { creditPaise, newCostPaise, amountDuePaise, newPeriodStart, newPeriodEnd }

/-! ## What a change of plan is about -/

namespace ProrationInput

variable (input : ProrationInput)

/-- The days of the current cycle. -/
def cycleDays : ℤ := max 1 (wholeDays (input.periodEnd - input.periodStart))

/-- The paid days still ahead. -/
def daysAhead : ℤ := max 0 (wholeDays (input.periodEnd - input.now))

/-- The price of so many days of the current plan. -/
def valueOf (days : ℤ) : ℤ := roundDiv (input.currentPeriodTotalPaise * days) input.cycleDays.toNat

def newCost : ℤ := input.newMonthlyPaise * input.newDurationMonths

/-- The days of a cycle of the new plan. -/
def newDays : ℤ := max 1 (wholeDays (addMonths input.now input.newDurationMonths - input.now))

/-- What the credit leaves over. -/
def leftover (out : Proration) : ℤ := out.creditPaise - input.newCost

/-- Prices and durations as their columns hold them: 32-bit prices, cycles of 1 to 120 months. -/
structure Stored : Prop where
  total : input.currentPeriodTotalPaise ≤ 120 * 2 ^ 31
  monthly : input.newMonthlyPaise < 2 ^ 31
  months : 1 ≤ input.newDurationMonths ∧ input.newDurationMonths ≤ 120

end ProrationInput

/-- What the leftover buys: days worth at most what is left over, and at least that less one day;
more, unless it is worth exactly so many days. -/
structure ExtraDaysWorth (leftover newCost newDays extraDays : ℤ) : Prop where
  atMost : extraDays * newCost ≤ leftover * newDays
  atLeast : leftover * newDays ≤ (extraDays + 1) * newCost
  above : ¬newCost ∣ leftover * newDays → leftover * newDays < (extraDays + 1) * newCost

/-- A sound change of plan. -/
structure ProrationSound (input : ProrationInput) (out : Proration) : Prop where
  due : 0 ≤ out.amountDuePaise
  /-- The unused days of up to one cycle are credited. -/
  credit : out.creditPaise = input.valueOf (min input.cycleDays input.daysAhead)
  /-- A price that is not negative gives a credit between nothing and what is paid ahead. -/
  bounds : 0 ≤ input.currentPeriodTotalPaise → 0 ≤ out.creditPaise ∧
    out.creditPaise ≤ input.currentPeriodTotalPaise ∧
      out.creditPaise ≤ input.valueOf input.daysAhead
  charged : out.creditPaise ≤ input.newCost → out.amountDuePaise = input.newCost - out.creditPaise ∧
    out.newPeriodEnd = addMonths input.now input.newDurationMonths
  extended : input.newCost < out.creditPaise → out.amountDuePaise = 0 ∧ ∃ extraDays,
    out.newPeriodEnd = addMonths input.now input.newDurationMonths + extraDays * DAY_MS ∧
      (0 < input.newCost →
        ExtraDaysWorth (input.leftover out) input.newCost input.newDays extraDays) ∧
      (input.newCost ≤ 0 → extraDays = 0)

/-! ## Rounding -/

theorem roundDiv_mono {a b : ℤ} {d : ℕ} (hd : 0 < d) (h : a ≤ b) : roundDiv a d ≤ roundDiv b d := by
  unfold roundDiv
  exact Int.ediv_le_ediv (by omega) (by omega)

theorem roundDiv_mul_self (a : ℤ) {d : ℕ} (hd : 0 < d) : roundDiv (a * d) d = a := by
  have hne : (2 * d : ℤ) ≠ 0 := by omega
  have hform : 2 * (a * d) + d = (d : ℤ) + a * (2 * d) := by ring
  unfold roundDiv
  rw [hform, Int.add_mul_ediv_right _ _ hne, Int.ediv_eq_zero_of_lt (by omega) (by omega)]
  omega

theorem wholeDays_mul (k : ℤ) : wholeDays (k * DAY_MS) = k :=
  roundDiv_mul_self k (by decide)

theorem newDays_lt {t n : ℤ} (hn : 1 ≤ n) (hyears : n ≤ 120) :
    wholeDays (addMonths t n - t) < 2 ^ 12 := by
  have hspec := addMonths_spec t n
  have hfrom := (monthOf_spec (t / DAY_MS)).1
  have hbefore := (monthOf_spec (addMonths t n / DAY_MS)).2.1
  have ht := Int.mul_ediv_add_emod t DAY_MS
  have hu := Int.mul_ediv_add_emod (addMonths t n) DAY_MS
  have hdays : addMonths t n - t = (addMonths t n / DAY_MS - t / DAY_MS) * DAY_MS := by
    have htime := hspec.2.2
    unfold timeOfDay at htime
    rw [Int.sub_mul, Int.mul_comm (addMonths t n / DAY_MS), Int.mul_comm (t / DAY_MS)]
    omega
  have hmonths := firstOfMonth_add_le (monthOf (t / DAY_MS)) (n + 1).toNat
  have hnext : monthOf (t / DAY_MS) + ((n + 1).toNat : ℤ) =
      monthOf (addMonths t n / DAY_MS) + 1 := by
    have hmonth := hspec.1
    unfold monthAt at hmonth
    omega
  rw [hnext] at hmonths
  rw [hdays, wholeDays_mul]
  omega

/-! ## The change of plan -/

/-- The days the daily rate buys are the days it is worth, or one less where that is exact. -/
theorem extraDaysFor_worth {leftover newCost newDays : ℤ} (hleft : 0 < leftover)
    (hleft' : leftover ≤ 2 ^ 39) (hcost : 0 < newCost) (hcost' : newCost ≤ 2 ^ 51)
    (hdays : 0 < newDays) (hdays' : newDays ≤ 2 ^ 12) :
    ExtraDaysWorth leftover newCost newDays (extraDaysFor leftover newCost newDays) := by
  obtain ⟨n, rfl⟩ := Int.eq_ofNat_of_zero_le hleft.le
  obtain ⟨c, rfl⟩ := Int.eq_ofNat_of_zero_le hcost.le
  obtain ⟨d, rfl⟩ := Int.eq_ofNat_of_zero_le hdays.le
  have hnd : n * d ≤ 2 ^ 51 := by
    calc n * d ≤ 2 ^ 39 * 2 ^ 12 := Nat.mul_le_mul (by omega) (by omega)
      _ = 2 ^ 51 := by norm_num
  have hpos : 0 < n * d := Nat.mul_pos (by omega) (by omega)
  have hfloor := Binary64.floor_divide_ratio (n := n) (c := c) (d := d) (by omega) (by omega)
    (by omega) hnd (by omega)
  have hextra : extraDaysFor n c d = ((Binary64.divide n (Binary64.ratio c d)).floor : ℤ) :=
    if_pos hcost
  rw [hextra]
  generalize (Binary64.divide n (Binary64.ratio c d)).floor = e at *
  have hmost : e * c ≤ n * d :=
    (Nat.mul_le_mul_right c hfloor.2).trans (Nat.div_mul_le_self _ _)
  have hleast : n * d ≤ (e + 1) * c := by
    have hlt := Nat.lt_div_mul_add (a := n * d - 1) (b := c) (by omega)
    have hle : ((n * d - 1) / c + 1) * c ≤ (e + 1) * c := Nat.mul_le_mul_right c (by omega)
    rw [Nat.succ_mul ((n * d - 1) / c)] at hle
    omega
  refine ⟨by exact_mod_cast hmost, by exact_mod_cast hleast, ?_⟩
  intro hinexact
  have hne : n * d ≠ (e + 1) * c := by
    intro heq
    apply hinexact
    exact_mod_cast (⟨e + 1, by rw [heq, Nat.mul_comm]⟩ : c ∣ n * d)
  have hlt : n * d < (e + 1) * c := by omega
  exact_mod_cast hlt

section Change

variable (input : ProrationInput)

theorem cycleDays_pos : 0 < input.cycleDays := by
  unfold ProrationInput.cycleDays
  omega

theorem valueOf_mono {a b : ℤ} (htotal : 0 ≤ input.currentPeriodTotalPaise) (h : a ≤ b) :
    input.valueOf a ≤ input.valueOf b := by
  have hpos := cycleDays_pos input
  exact roundDiv_mono (by omega) (Int.mul_le_mul_of_nonneg_left h htotal)

theorem valueOf_cycle : input.valueOf input.cycleDays = input.currentPeriodTotalPaise := by
  have hpos := cycleDays_pos input
  have hdays : input.cycleDays = (input.cycleDays.toNat : ℤ) := by omega
  unfold ProrationInput.valueOf
  nth_rewrite 1 [hdays]
  exact roundDiv_mul_self _ (by omega)

theorem valueOf_zero : input.valueOf 0 = 0 := by
  have hpos := cycleDays_pos input
  have hzero := roundDiv_mul_self 0 (d := input.cycleDays.toNat) (by omega)
  rw [Int.zero_mul] at hzero
  unfold ProrationInput.valueOf
  rwa [Int.mul_zero]

theorem credit_le (hprice : input.currentPeriodTotalPaise ≤ 120 * 2 ^ 31) :
    input.valueOf (min input.cycleDays input.daysAhead) ≤ 120 * 2 ^ 31 := by
  rcases Int.le_total 0 input.currentPeriodTotalPaise with hpos | hneg
  · have hmono := valueOf_mono input hpos (Int.min_le_left input.cycleDays input.daysAhead)
    rw [valueOf_cycle] at hmono
    omega
  · have hcycle := cycleDays_pos input
    have hahead : 0 ≤ input.daysAhead := Int.le_max_left 0 _
    have hproduct : input.currentPeriodTotalPaise * min input.cycleDays input.daysAhead ≤
        0 * (input.cycleDays.toNat : ℤ) := by
      rw [Int.zero_mul]
      exact Int.mul_nonpos_of_nonpos_of_nonneg hneg (by omega)
    have hmono := roundDiv_mono (d := input.cycleDays.toNat) (by omega) hproduct
    rw [roundDiv_mul_self 0 (by omega)] at hmono
    exact hmono.trans (by norm_num)

theorem computeProration_cases :
    (computeProration input).creditPaise = input.valueOf (min input.cycleDays input.daysAhead) ∧
    (((computeProration input).creditPaise ≤ input.newCost ∧
      (computeProration input).amountDuePaise =
        input.newCost - (computeProration input).creditPaise ∧
      (computeProration input).newPeriodEnd = addMonths input.now input.newDurationMonths) ∨
    (input.newCost < (computeProration input).creditPaise ∧
      (computeProration input).amountDuePaise = 0 ∧
      (computeProration input).newPeriodEnd = addMonths input.now input.newDurationMonths +
        extraDaysFor (input.leftover (computeProration input)) input.newCost input.newDays *
          DAY_MS)) := by
  have hcredit : (computeProration input).creditPaise =
      input.valueOf (min input.cycleDays input.daysAhead) := by
    unfold computeProration
    simp only
    split
    · rfl
    · rfl
  refine ⟨hcredit, ?_⟩
  unfold ProrationInput.leftover
  rw [hcredit]
  by_cases hover : input.newCost - input.valueOf (min input.cycleDays input.daysAhead) < 0
  · right
    refine ⟨by omega, ?_, ?_⟩
    · exact congrArg Proration.amountDuePaise (if_pos hover)
    · rw [← Int.neg_sub]
      exact congrArg Proration.newPeriodEnd (if_pos hover)
  · left
    refine ⟨by omega, ?_, ?_⟩
    · exact congrArg Proration.amountDuePaise (if_neg hover)
    · exact congrArg Proration.newPeriodEnd (if_neg hover)

end Change

/-- Every change of plan is sound. -/
theorem proration_sound (input : ProrationInput) (hstored : input.Stored) :
    ProrationSound input (computeProration input) := by
  obtain ⟨hcredit, hcases⟩ := computeProration_cases input
  have hmost := credit_le input hstored.total
  rw [← hcredit] at hmost
  constructor
  · rcases hcases with ⟨hle, hdue, -⟩ | ⟨-, hdue, -⟩
    · omega
    · omega
  · exact hcredit
  · intro hpos
    have hahead : 0 ≤ input.daysAhead := Int.le_max_left 0 _
    have hcycle := cycleDays_pos input
    have hlow := valueOf_mono input hpos (a := 0) (b := min input.cycleDays input.daysAhead)
      (by omega)
    have hcap := valueOf_mono input hpos (Int.min_le_left input.cycleDays input.daysAhead)
    have hall := valueOf_mono input hpos (Int.min_le_right input.cycleDays input.daysAhead)
    rw [valueOf_zero] at hlow
    rw [valueOf_cycle] at hcap
    rw [hcredit]
    exact ⟨hlow, hcap, hall⟩
  · intro hle
    rcases hcases with ⟨-, hdue, hend⟩ | ⟨hlt, -, -⟩
    · exact ⟨hdue, hend⟩
    · omega
  · intro hlt
    rcases hcases with ⟨hle, -, -⟩ | ⟨-, hdue, hend⟩
    · omega
    · refine ⟨hdue, _, hend, ?_, ?_⟩
      · intro hcost
        have hbound : input.newCost ≤ 2 ^ 51 := by
          have hmul := Int.mul_le_mul_of_nonneg_right hstored.monthly.le
            (by have := hstored.months.1; omega : 0 ≤ input.newDurationMonths)
          have hmonths := hstored.months.2
          unfold ProrationInput.newCost
          omega
        have hdays := newDays_lt (t := input.now) hstored.months.1 hstored.months.2
        apply extraDaysFor_worth
        · unfold ProrationInput.leftover
          omega
        · unfold ProrationInput.leftover
          omega
        · exact hcost
        · exact hbound
        · unfold ProrationInput.newDays
          omega
        · unfold ProrationInput.newDays
          omega
      · intro hcost
        exact if_neg (by omega)

/-- A month at 3000 rupees, renewed before it ended: the current cycle is still to come. -/
def renewedEarly : ProrationInput :=
  { now := dayOf 2026 1 2 * DAY_MS
    periodStart := dayOf 2026 2 1 * DAY_MS
    periodEnd := dayOf 2026 3 1 * DAY_MS
    currentPeriodTotalPaise := 300000
    newMonthlyPaise := 100000
    newDurationMonths := 1 }

theorem proration_sound_renewedEarly : ProrationSound renewedEarly (computeProration renewedEarly) :=
  proration_sound renewedEarly ⟨by decide, by decide, by decide⟩

/-- 58 paid days are ahead, and 28 of them are credited. -/
theorem credit_short : ¬∀ input : ProrationInput, input.Stored →
    (computeProration input).creditPaise = input.valueOf input.daysAhead := by
  intro h
  have hcredit := h renewedEarly ⟨by decide, by decide, by decide⟩
  revert hcredit
  decide +kernel

end Travelo

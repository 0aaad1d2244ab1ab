import Mathlib.Algebra.Order.BigOperators.Group.List
import Travelo.Claims.Rounding

/-!
# The pricing preview

The pure quote of `rate-plans.service.ts`: a price for the night, the fees of the room type, the
nights and the guests. Where prices include tax, the net rate of a night is solved for and the base
is what the fees leave of the gross: `previewPricing_splits` says how near that is to the nights at
the net rate.
-/

namespace Travelo

open Claims.Rounding

inductive FeeCalculation where
  | PERCENT
  | FIXED
  deriving DecidableEq

inductive FeeBasis where
  | PER_ROOM
  | PER_GUEST
  deriving DecidableEq

inductive FeePeriod where
  | PER_NIGHT
  | PER_STAY
  deriving DecidableEq

structure PreviewFee where
  name : String
  calculation : FeeCalculation
  /-- Basis points when `calculation` is PERCENT, paise when FIXED. -/
  value : ℤ
  basis : FeeBasis
  period : FeePeriod

structure PreviewInput where
  /-- Paise, per unit, per night. -/
  basePricePaise : ℤ
  fees : List PreviewFee
  nights : ℚ
  guests : ℚ
  /-- The advertised price already contains the taxes. -/
  pricesIncludeTax : Bool

structure FeeLine where
  name : String
  amountPaise : ℤ

structure PricingPreview where
  basePaise : ℤ
  feeLines : List FeeLine
  taxTotalPaise : ℤ
  guestTotalPaise : ℤ

def BPS : ℕ := 10000

def roundHalfAwayFromZero (n : ℚ) : ℤ := halfAway n

/-- `Math.max(0, Math.trunc(n))`. -/
def wholeCount (n : ℚ) : ℕ := ⌊n⌋.toNat

def feeMultiplier (fee : PreviewFee) (nights guests : ℕ) : ℕ :=
  (if fee.period = .PER_NIGHT then nights else 1) * (if fee.basis = .PER_GUEST then guests else 1)

/-- The fixed fees of the stay. -/
def fixedTotal (fees : List PreviewFee) (nights guests : ℕ) : ℤ :=
  (fees.map fun fee =>
    if fee.calculation = .FIXED then fee.value * feeMultiplier fee nights guests else 0).sum

/-- The basis points of the percentage fees, each as often as it is charged. -/
def bpsWeighted (fees : List PreviewFee) (nights guests : ℕ) : ℤ :=
  (fees.map fun fee =>
    if fee.calculation = .FIXED then 0 else fee.value * feeMultiplier fee nights guests).sum

/-- The rate of a night the percentage fees are charged against. -/
def perNight (input : PreviewInput) (nights guests : ℕ) : ℤ :=
  if input.pricesIncludeTax then
    let denominator := nights * BPS + bpsWeighted input.fees nights guests
    let solved := if denominator = 0 then 0 else
      roundHalfAwayFromZero
        (((input.basePricePaise * nights - fixedTotal input.fees nights guests) * BPS : ℤ) /
          denominator)
    if solved < 0 then 0 else solved
  else input.basePricePaise

/-- One unit is rounded, then multiplied. -/
def feeLine (rate : ℤ) (nights guests : ℕ) (fee : PreviewFee) : FeeLine :=
  let unit :=
    if fee.calculation = .PERCENT then roundHalfAwayFromZero ((rate * fee.value : ℤ) / BPS)
    else fee.value
  { name := fee.name, amountPaise := unit * feeMultiplier fee nights guests }

def previewPricing (input : PreviewInput) : PricingPreview :=
  let nights := wholeCount input.nights
  let guests := wholeCount input.guests
  if nights = 0 then
    { basePaise := 0
      feeLines := input.fees.map fun fee => { name := fee.name, amountPaise := 0 }
      taxTotalPaise := 0
      guestTotalPaise := 0 }
  else
    let gross := input.basePricePaise * nights
    let feeLines := input.fees.map (feeLine (perNight input nights guests) nights guests)
    let taxTotalPaise := (feeLines.map (·.amountPaise)).sum
    let basePaise := if input.pricesIncludeTax then gross - taxTotalPaise else gross
    { basePaise, feeLines, taxTotalPaise, guestTotalPaise := basePaise + taxTotalPaise }

/-- A negative tax is not a thing. -/
def validateFee (calculation : FeeCalculation) (value : ℤ) : Except String Unit :=
  if value < 0 then .error "value must not be negative"
  else if calculation = .PERCENT ∧ value > 100 * 100 then
    .error "a percent fee cannot exceed 10000 basis points (100%)"
  else .ok ()

/-- A fee that was stored has passed the validator. -/
def PreviewFee.Accepted (fee : PreviewFee) : Prop := validateFee fee.calculation fee.value = .ok ()

theorem PreviewFee.accepted_iff (fee : PreviewFee) :
    fee.Accepted ↔ 0 ≤ fee.value ∧ (fee.calculation = .PERCENT → fee.value ≤ BPS) := by
  unfold Accepted validateFee BPS
  split
  · simp
    omega
  · split
    · next h =>
      simp only [reduceCtorEq, false_iff]
      intro hall
      have := hall.2 h.1
      omega
    · next hneg hover =>
      simp only [true_iff]
      refine ⟨by omega, ?_⟩
      intro hpercent
      by_contra hlarge
      exact hover ⟨hpercent, by omega⟩

/-! ## The sums -/

section Sums

variable (fees : List PreviewFee) (nights guests : ℕ)

/-- How often a percentage fee is charged. -/
def percentUnits (fee : PreviewFee) : ℕ :=
  if fee.calculation = .PERCENT then feeMultiplier fee nights guests else 0

theorem sum_feeLines (rate : ℤ) :
    ((fees.map (feeLine rate nights guests)).map (·.amountPaise)).sum =
    fixedTotal fees nights guests +
      (fees.map fun fee => halfAway ((rate * fee.value : ℤ) / BPS : ℚ) *
        (percentUnits nights guests fee : ℤ)).sum := by
  induction fees with
  | nil => rfl
  | cons fee fees ih =>
    have hline : (feeLine rate nights guests fee).amountPaise =
        (if fee.calculation = .FIXED then fee.value * feeMultiplier fee nights guests else 0) +
          halfAway ((rate * fee.value : ℤ) / BPS : ℚ) * (percentUnits nights guests fee : ℤ) := by
      unfold feeLine percentUnits roundHalfAwayFromZero
      cases fee.calculation <;> simp
    simp only [fixedTotal, List.map_cons, List.sum_cons] at ih ⊢
    rw [hline, ih]
    ring

theorem sum_shares (rate : ℤ) :
    (fees.map fun fee => ((rate * fee.value : ℤ) / BPS : ℚ) * percentUnits nights guests fee).sum =
      rate * bpsWeighted fees nights guests / BPS := by
  induction fees with
  | nil => simp [bpsWeighted]
  | cons fee fees ih =>
    have hshare : ((rate * fee.value : ℤ) / BPS : ℚ) * percentUnits nights guests fee = rate *
        (if fee.calculation = .FIXED then 0 else fee.value * feeMultiplier fee nights guests : ℤ) /
          BPS := by
      unfold percentUnits
      cases fee.calculation
      · simp only [if_true, reduceCtorEq, if_false]
        push_cast
        ring
      · simp
    simp only [bpsWeighted, List.map_cons, List.sum_cons] at ih ⊢
    rw [hshare, ih]
    push_cast
    ring

variable {fees nights guests}

theorem bpsWeighted_nonneg (h : ∀ fee ∈ fees, fee.Accepted) :
    0 ≤ bpsWeighted fees nights guests := by
  refine List.sum_nonneg ?_
  intro a ha
  obtain ⟨fee, hfee, rfl⟩ := List.mem_map.mp ha
  have haccepted := (fee.accepted_iff.mp (h fee hfee)).1
  split
  · exact le_rfl
  · exact mul_nonneg haccepted (Int.natCast_nonneg _)

theorem bpsWeighted_le (h : ∀ fee ∈ fees, fee.Accepted) :
    bpsWeighted fees nights guests ≤ BPS * (fees.map (percentUnits nights guests)).sum := by
  induction fees with
  | nil => simp [bpsWeighted]
  | cons fee fees ih =>
    have hrest := ih fun other hother => h other (List.mem_cons_of_mem fee hother)
    have haccepted := fee.accepted_iff.mp (h fee List.mem_cons_self)
    have hfirst : (if fee.calculation = .FIXED then 0
        else fee.value * feeMultiplier fee nights guests) ≤
          BPS * (percentUnits nights guests fee : ℤ) := by
      unfold percentUnits
      cases hcalc : fee.calculation with
      | PERCENT =>
        simp only [reduceCtorEq, if_false, if_true]
        exact mul_le_mul_of_nonneg_right (haccepted.2 hcalc) (Int.natCast_nonneg _)
      | FIXED => simp
    simp only [bpsWeighted, List.map_cons, List.sum_cons, Nat.cast_add] at hrest ⊢
    rw [mul_add]
    omega

end Sums

/-! ## The split -/

/-- The rate of a night that is shown to be taxed; no night, no rate. -/
def PreviewInput.quotedRate (input : PreviewInput) : ℤ :=
  if wholeCount input.nights = 0 then 0
  else perNight input (wholeCount input.nights) (wholeCount input.guests)

/-- The entered price for the nights. -/
def PreviewInput.grossPaise (input : PreviewInput) : ℤ :=
  input.basePricePaise * wholeCount input.nights

/-- The fixed fees of a stay of at least a night. -/
def PreviewInput.fixedPaise (input : PreviewInput) : ℤ :=
  if wholeCount input.nights = 0 then 0
  else fixedTotal input.fees (wholeCount input.nights) (wholeCount input.guests)

/-- How often percentage fees are charged, together. -/
def PreviewInput.percentCharges (input : PreviewInput) : ℕ :=
  (input.fees.map (percentUnits (wholeCount input.nights) (wholeCount input.guests))).sum

/-- How a preview splits the price. -/
structure PreviewSplits (input : PreviewInput) (out : PricingPreview) : Prop where
  total : out.guestTotalPaise = out.basePaise + (out.feeLines.map (·.amountPaise)).sum
  exclusive : input.pricesIncludeTax = false → out.basePaise = input.grossPaise
  inclusive : input.pricesIncludeTax = true → out.guestTotalPaise = input.grossPaise
  /-- The base is the nights at the net rate, give or take half a paisa a night and a paisa for
  each percentage charged. -/
  base : input.pricesIncludeTax = true → input.fixedPaise ≤ input.grossPaise →
    |(out.basePaise : ℚ) - wholeCount input.nights * input.quotedRate| ≤
      wholeCount input.nights / 2 + input.percentCharges
  /-- Fixed fees above the price leave a base below zero, and nothing to take a share of. -/
  short : input.pricesIncludeTax = true → input.grossPaise < input.fixedPaise →
    out.basePaise = input.grossPaise - input.fixedPaise ∧ input.quotedRate = 0
  /-- A percentage is charged on a night, rounded once, then multiplied. -/
  percent : ∀ (i : ℕ) fee, input.fees[i]? = some fee → fee.calculation = .PERCENT →
    ∃ line unit, out.feeLines[i]? = some line ∧ line.name = fee.name ∧
      Nearest ((input.quotedRate * fee.value : ℤ) / BPS : ℚ) unit ∧
      line.amountPaise =
        unit * feeMultiplier fee (wholeCount input.nights) (wholeCount input.guests)

section Net

variable {input : PreviewInput} {nights guests : ℕ}

/-- The net rate times what it is charged for, against what the fixed fees leave. -/
theorem perNight_near (hnights : nights ≠ 0) (hfees : ∀ fee ∈ input.fees, fee.Accepted)
    (hincl : input.pricesIncludeTax = true)
    (hleft : fixedTotal input.fees nights guests ≤ input.basePricePaise * nights) :
    |((input.basePricePaise * nights - fixedTotal input.fees nights guests : ℤ) : ℚ) -
        perNight input nights guests *
          (nights + bpsWeighted input.fees nights guests / BPS)| ≤
      (nights + bpsWeighted input.fees nights guests / BPS) / 2 := by
  have hweighted : 0 ≤ bpsWeighted input.fees nights guests := bpsWeighted_nonneg hfees
  generalize hleftover : input.basePricePaise * nights - fixedTotal input.fees nights guests = left
  have hleft0 : 0 ≤ left := by omega
  have hden : 0 < (nights * BPS + bpsWeighted input.fees nights guests : ℤ) := by
    unfold BPS
    omega
  have hquot : (0 : ℚ) ≤ ((left * BPS : ℤ) : ℚ) /
      ((nights * BPS + bpsWeighted input.fees nights guests : ℤ) : ℚ) := by
    apply div_nonneg
    · exact_mod_cast mul_nonneg hleft0 (Int.natCast_nonneg _)
    · exact_mod_cast hden.le
  have hrate : perNight input nights guests = halfAway (((left * BPS : ℤ) : ℚ) /
      ((nights * BPS + bpsWeighted input.fees nights guests : ℤ) : ℚ)) := by
    simp only [perNight, if_pos hincl, hleftover, if_neg hden.ne']
    exact if_neg (not_lt.mpr (halfAway_nonneg hquot))
  have hnear := halfAway_near (((left * BPS : ℤ) : ℚ) /
    ((nights * BPS + bpsWeighted input.fees nights guests : ℤ) : ℚ))
  rw [← hrate] at hnear
  have hwidth : (nights : ℚ) + bpsWeighted input.fees nights guests / BPS =
      ((nights * BPS + bpsWeighted input.fees nights guests : ℤ) : ℚ) / BPS := by
    have hbps : (BPS : ℚ) ≠ 0 := by norm_num [BPS]
    push_cast
    field_simp
  have hdenq : (0 : ℚ) < ((nights * BPS + bpsWeighted input.fees nights guests : ℤ) : ℚ) := by
    exact_mod_cast hden
  rw [hwidth]
  generalize ((nights * BPS + bpsWeighted input.fees nights guests : ℤ) : ℚ) = width at *
  have hbps : (0 : ℚ) < BPS := by norm_num [BPS]
  have hscale : (left : ℚ) - perNight input nights guests * (width / BPS) =
      (((left * BPS : ℤ) : ℚ) / width - perNight input nights guests) * (width / BPS) := by
    push_cast
    field_simp
  rw [hscale, abs_mul, abs_of_pos (div_pos hdenq hbps)]
  calc _ ≤ 1 / 2 * (width / BPS) :=
        mul_le_mul_of_nonneg_right hnear (div_pos hdenq hbps).le
    _ = width / BPS / 2 := by ring

theorem perNight_short (hfees : ∀ fee ∈ input.fees, fee.Accepted)
    (hincl : input.pricesIncludeTax = true)
    (hshort : input.basePricePaise * nights < fixedTotal input.fees nights guests) :
    perNight input nights guests = 0 := by
  have hweighted : 0 ≤ bpsWeighted input.fees nights guests := bpsWeighted_nonneg hfees
  have hquot : (((input.basePricePaise * nights - fixedTotal input.fees nights guests) * BPS : ℤ) :
      ℚ) / ((nights * BPS + bpsWeighted input.fees nights guests : ℤ) : ℚ) ≤ 0 := by
    apply div_nonpos_of_nonpos_of_nonneg
    · exact_mod_cast mul_nonpos_of_nonpos_of_nonneg (by omega) (Int.natCast_nonneg _)
    · have hden : 0 ≤ (nights * BPS + bpsWeighted input.fees nights guests : ℤ) := by positivity
      exact_mod_cast hden
  have hsolved := halfAway_nonpos hquot
  simp only [perNight, if_pos hincl, roundHalfAwayFromZero]
  split
  · rfl
  · omega

theorem sum_feeLines_zero (fees : List PreviewFee) :
    ((fees.map (feeLine 0 nights guests)).map (·.amountPaise)).sum =
      fixedTotal fees nights guests := by
  rw [sum_feeLines]
  simp

/-- The base against the nights at the net rate: the rate's own rounding and the lines'. -/
theorem base_near (hnights : nights ≠ 0) (hfees : ∀ fee ∈ input.fees, fee.Accepted)
    (hincl : input.pricesIncludeTax = true)
    (hleft : fixedTotal input.fees nights guests ≤ input.basePricePaise * nights) :
    |((input.basePricePaise * nights - ((input.fees.map
        (feeLine (perNight input nights guests) nights guests)).map (·.amountPaise)).sum : ℤ) : ℚ) -
        nights * perNight input nights guests| ≤
      nights / 2 + ((input.fees.map (percentUnits nights guests)).sum : ℕ) := by
  have hrate := perNight_near hnights hfees hincl hleft
  have hlines := abs_sum_halfAway_sub input.fees
    (fun fee => ((perNight input nights guests * fee.value : ℤ) / BPS : ℚ))
    (percentUnits nights guests)
  have hshares := sum_shares input.fees nights guests (perNight input nights guests)
  have hunits : ((bpsWeighted input.fees nights guests : ℤ) : ℚ) / BPS ≤
      ((input.fees.map (percentUnits nights guests)).sum : ℕ) := by
    have hle : bpsWeighted input.fees nights guests ≤
        BPS * ((input.fees.map (percentUnits nights guests)).sum : ℕ) := bpsWeighted_le hfees
    rw [div_le_iff₀ (by norm_num [BPS]), mul_comm]
    generalize (input.fees.map (percentUnits nights guests)).sum = units at hle ⊢
    exact_mod_cast hle
  rw [sum_feeLines]
  rw [hshares] at hlines
  rw [abs_le] at hrate hlines ⊢
  simp only [Int.cast_sub, Int.cast_add, Int.cast_mul, Int.cast_natCast] at hrate hlines ⊢
  rw [mul_div_assoc] at hlines
  constructor
  · linarith [hrate.1, hlines.2]
  · linarith [hrate.2, hlines.1]

end Net

theorem feeLine_percent {fee : PreviewFee} (rate : ℤ) (nights guests : ℕ)
    (h : fee.calculation = .PERCENT) :
    ∃ unit, (feeLine rate nights guests fee).name = fee.name ∧
      Nearest ((rate * fee.value : ℤ) / BPS : ℚ) unit ∧
      (feeLine rate nights guests fee).amountPaise = unit * feeMultiplier fee nights guests := by
  refine ⟨halfAway ((rate * fee.value : ℤ) / BPS : ℚ), rfl, nearest_halfAway _, ?_⟩
  simp [feeLine, h, roundHalfAwayFromZero]

/-- Every list of fees the validator lets through is split so. -/
theorem previewPricing_splits (input : PreviewInput) (hfees : ∀ fee ∈ input.fees, fee.Accepted) :
    PreviewSplits input (previewPricing input) := by
  by_cases hnights : wholeCount input.nights = 0
  · -- nothing is charged for no night
    have hzero : previewPricing input =
        { basePaise := 0
          feeLines := input.fees.map fun fee => { name := fee.name, amountPaise := 0 }
          taxTotalPaise := 0
          guestTotalPaise := 0 } := if_pos hnights
    have hgross : input.grossPaise = 0 := by simp [PreviewInput.grossPaise, hnights]
    have hrate : input.quotedRate = 0 := if_pos hnights
    have hfixed : input.fixedPaise = 0 := if_pos hnights
    rw [hzero]
    constructor
    · simp [Function.comp_def]
    · intro _
      exact hgross.symm
    · intro _
      exact hgross.symm
    · intro _ _
      rw [hnights, hrate]
      simp
    · intro _ hshort
      omega
    · intro i fee hfee _
      refine ⟨{ name := fee.name, amountPaise := 0 }, 0, ?_, rfl, ?_, ?_⟩
      · simp [hfee]
      · rw [hrate]
        simpa using nearest_halfAway (0 : ℚ)
      · simp
  · have hrun : previewPricing input =
        let feeLines := input.fees.map (feeLine (perNight input (wholeCount input.nights)
          (wholeCount input.guests)) (wholeCount input.nights) (wholeCount input.guests))
        let taxTotalPaise := (feeLines.map (·.amountPaise)).sum
        let basePaise := if input.pricesIncludeTax then input.grossPaise - taxTotalPaise
          else input.grossPaise
        { basePaise, feeLines, taxTotalPaise, guestTotalPaise := basePaise + taxTotalPaise } :=
      if_neg hnights
    have hrate : input.quotedRate =
        perNight input (wholeCount input.nights) (wholeCount input.guests) := if_neg hnights
    have hfixed : input.fixedPaise =
        fixedTotal input.fees (wholeCount input.nights) (wholeCount input.guests) := if_neg hnights
    rw [hrun]
    constructor
    · rfl
    · intro hexcl
      simp [hexcl]
    · intro hincl
      simp [hincl]
    · intro hincl hleft
      rw [hfixed] at hleft
      simp only [hincl, if_true, hrate]
      exact base_near hnights hfees hincl hleft
    · intro hincl hshort
      rw [hfixed] at hshort ⊢
      have hnone := perNight_short hfees hincl hshort
      refine ⟨?_, hrate.trans hnone⟩
      simp only [hincl, if_true]
      rw [hnone, sum_feeLines_zero]
    · intro i fee hfee hpercent
      obtain ⟨unit, hname, hnear, hamount⟩ := feeLine_percent
        (perNight input (wholeCount input.nights) (wholeCount input.guests))
        (wholeCount input.nights) (wholeCount input.guests) hpercent
      refine ⟨_, unit, ?_, hname, ?_, hamount⟩
      · simp [hfee]
      · rw [hrate]
        exact hnear

/-- A cleaning fee of 20 rupees, the stay. -/
def cleaningFee : PreviewFee :=
  { name := "Cleaning", calculation := .FIXED, value := 2000, basis := .PER_ROOM
    period := .PER_STAY }

/-- A tax of 12.5%, the night. -/
def nightTax : PreviewFee :=
  { name := "GST 12.5%", calculation := .PERCENT, value := 1250, basis := .PER_ROOM
    period := .PER_NIGHT }

/-- A night at 10 rupees, everything included. -/
def cheapNight : PreviewInput :=
  { basePricePaise := 1000, fees := [cleaningFee, nightTax], nights := 1, guests := 2
    pricesIncludeTax := true }

theorem previewPricing_splits_cheapNight : PreviewSplits cheapNight (previewPricing cheapNight) :=
  previewPricing_splits cheapNight (by
    intro fee hfee
    rw [fee.accepted_iff]
    revert fee
    decide)

/-- The fees the validator accepts can leave a base below zero. -/
theorem base_below_zero : ¬∀ input : PreviewInput, (∀ fee ∈ input.fees, fee.Accepted) →
    input.pricesIncludeTax = true → 0 ≤ (previewPricing input).basePaise := by
  intro h
  have hbase := h cheapNight (by
    intro fee hfee
    rw [fee.accepted_iff]
    revert fee
    decide) rfl
  revert hbase
  decide +kernel

end Travelo

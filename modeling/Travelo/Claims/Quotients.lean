import Mathlib.Tactic.Linarith
import Mathlib.Tactic.Ring
import Travelo.Claims.Binary64

/-!
# Whole parts of quotients of quotients

How often a rate `c / d` goes into `n`, when the rate and the quotient are both computed in double
precision: at most as often as it does, and as often unless it goes exactly.
-/

namespace Claims

theorem roundHalfEven_bounds {n d : ℕ} (hd : 0 < d) :
    2 * (roundHalfEven n d * d) ≤ 2 * n + d ∧ 2 * n ≤ 2 * (roundHalfEven n d * d) + d := by
  have hdiv := Nat.div_add_mod' n d
  have hmod := Nat.mod_lt n hd
  have hparity := Nat.mod_two_eq_zero_or_one (n / d)
  unfold roundHalfEven
  simp only
  split
  · omega
  · split
    · rw [Nat.succ_mul (n / d)]
      omega
    · rcases hparity with heven | hodd
      · rw [heven, Nat.add_zero]
        omega
      · rw [hodd, Nat.succ_mul (n / d)]
        omega

theorem le_roundHalfEven {n d k : ℕ} (hd : 0 < d) (h : k * d ≤ n) : k ≤ roundHalfEven n d := by
  have hk : k ≤ n / d := (Nat.le_div_iff_mul_le hd).mpr h
  unfold roundHalfEven
  simp only
  split
  · exact hk
  · split
    · omega
    · omega

theorem roundHalfEven_lt {n d k : ℕ} (hd : 0 < d) (h : 2 * n + d < 2 * (k * d)) :
    roundHalfEven n d < k := by
  have hbound := (roundHalfEven_bounds (n := n) hd).1
  exact Nat.lt_of_mul_lt_mul_right (a := d) (by omega)

namespace Binary64

/-- The quotient of a natural number by a number. -/
def divide (n : ℕ) (x : Binary64) : Binary64 := ratio (n * 2 ^ x.shift) x.mantissa

/-- `Math.floor`. -/
def floor (x : Binary64) : ℕ := x.mantissa / 2 ^ x.shift

theorem ratio_mantissa {n : ℕ} (d : ℕ) (hn : n ≠ 0) :
    (ratio n d).mantissa = roundHalfEven (n * 2 ^ (ratio n d).shift) d := by
  simp only [ratio, if_neg hn]

theorem ratio_shift {n : ℕ} (d : ℕ) (hn : n ≠ 0) :
    2 ^ 52 * d ≤ n * 2 ^ (ratio n d).shift := by
  have hnlog := Nat.log2_self_le hn
  have hdlog : d < 2 ^ (d.log2 + 1) := Nat.lt_log2_self
  -- at the first choice of the shift there are 53 bits, perhaps 54
  have hroom : 2 ^ 52 * d ≤ n * 2 ^ (53 + d.log2 - n.log2) := by
    calc 2 ^ 52 * d ≤ 2 ^ 52 * 2 ^ (d.log2 + 1) := Nat.mul_le_mul_left _ hdlog.le
      _ = 2 ^ (53 + d.log2) := by rw [← pow_add]; congr 1; omega
      _ ≤ 2 ^ (n.log2 + (53 + d.log2 - n.log2)) := Nat.pow_le_pow_right (by decide) (by omega)
      _ = 2 ^ n.log2 * 2 ^ (53 + d.log2 - n.log2) := pow_add _ _ _
      _ ≤ n * 2 ^ (53 + d.log2 - n.log2) := Nat.mul_le_mul_right _ hnlog
  simp only [ratio, if_neg hn]
  generalize 53 + d.log2 - n.log2 = s at *
  split
  · exact hroom
  · next hmore =>
    cases s with
    | zero => exact hroom
    | succ s =>
      have hdouble : n * 2 ^ (s + 1) = 2 * (n * 2 ^ s) := by ring
      rw [hdouble] at hmore
      simp only [Nat.add_sub_cancel]
      omega

theorem ratio_le_mantissa {n d : ℕ} (hn : n ≠ 0) (hd : d ≠ 0) :
    2 ^ 52 ≤ (ratio n d).mantissa := by
  rw [ratio_mantissa d hn]
  exact le_roundHalfEven (Nat.pos_of_ne_zero hd) (ratio_shift d hn)

section Quotient

variable {n c d : ℕ} (hn : 0 < n) (hc : 0 < c) (hd : 0 < d) (hnd : n * d ≤ 2 ^ 51)
  (hcost : c ≤ 2 ^ 51)

include hc hd in
theorem rate_bounds : 2 * ((ratio c d).mantissa * d) ≤ 2 * (c * 2 ^ (ratio c d).shift) + d ∧
    2 * (c * 2 ^ (ratio c d).shift) ≤ 2 * ((ratio c d).mantissa * d) + d := by
  rw [ratio_mantissa d hc.ne']
  exact roundHalfEven_bounds hd

include hn hc hd hnd in
/-- One less than the leftover is covered: the quotient reaches every number of times below. -/
theorem le_floor_divide {k : ℕ} (hk : k * c + 1 ≤ n * d) :
    k ≤ (divide n (ratio c d)).floor := by
  have hrate := rate_bounds hc hd
  have hbits := ratio_le_mantissa hc.ne' hd.ne'
  unfold divide floor
  generalize (ratio c d).shift = s at *
  generalize (ratio c d).mantissa = m at *
  have hm : 0 < m := by omega
  have hN : n * 2 ^ s ≠ 0 := by positivity
  rw [ratio_mantissa m hN]
  generalize (ratio (n * 2 ^ s) m).shift = t
  rw [Nat.le_div_iff_mul_le (by positivity)]
  apply le_roundHalfEven hm
  -- the rate's error, `k` times, is less than the one left over
  have hsmall : k * d ≤ 2 * 2 ^ s := by
    refine Nat.le_of_mul_le_mul_left (c := c) ?_ hc
    have hkc : k * c * d ≤ 2 ^ 51 * d := Nat.mul_le_mul_right d (by omega)
    have hmd : 2 ^ 52 * d ≤ m * d := Nat.mul_le_mul_right d hbits
    linarith [hrate.1]
  have hreach : k * m ≤ n * 2 ^ s := by
    refine Nat.le_of_mul_le_mul_left (c := 2 * d) ?_ (by omega)
    have herror : k * (2 * (m * d)) ≤ k * (2 * (c * 2 ^ s) + d) := Nat.mul_le_mul_left k hrate.1
    have hleft : (k * c + 1) * 2 ^ s ≤ n * d * 2 ^ s := Nat.mul_le_mul_right _ hk
    linarith
  calc k * 2 ^ t * m = k * m * 2 ^ t := by ring
    _ ≤ n * 2 ^ s * 2 ^ t := Nat.mul_le_mul_right _ hreach

include hn hc hd hnd hcost in
theorem floor_divide_lt {k : ℕ} (hk : n * d + 1 ≤ k * c) (hnear : k * c ≤ n * d + c) :
    (divide n (ratio c d)).floor < k := by
  have hrate := rate_bounds hc hd
  have hbits := ratio_le_mantissa hc.ne' hd.ne'
  unfold divide floor
  generalize (ratio c d).shift = s at *
  generalize (ratio c d).mantissa = m at *
  have hm : 0 < m := by omega
  have hN : n * 2 ^ s ≠ 0 := by positivity
  have hshift := ratio_shift m hN
  rw [ratio_mantissa m hN]
  generalize (ratio (n * 2 ^ s) m).shift = t at *
  rw [Nat.div_lt_iff_lt_mul (by positivity)]
  apply roundHalfEven_lt hm
  apply Nat.lt_of_mul_lt_mul_right (a := d)
  -- half a unit of the quotient, and the rate's error `k` times
  have hunit : 2 * (m * d) ≤ 2 ^ s * 2 ^ t := by
    have hscaled : 2 ^ 52 * m * d ≤ n * 2 ^ s * 2 ^ t * d := Nat.mul_le_mul_right d hshift
    have hsize : n * d * (2 ^ s * 2 ^ t) ≤ 2 ^ 51 * (2 ^ s * 2 ^ t) := Nat.mul_le_mul_right _ hnd
    linarith
  have herror : 2 * (k * d * 2 ^ t) < 3 * (2 ^ s * 2 ^ t) := by
    apply Nat.lt_of_mul_lt_mul_left (a := c)
    have hkc : k * c * (d * 2 ^ t) ≤ 2 ^ 52 * (d * 2 ^ t) := Nat.mul_le_mul_right _ (by omega)
    have hmd : 2 ^ 52 * d * 2 ^ t ≤ m * d * 2 ^ t :=
      Nat.mul_le_mul_right _ (Nat.mul_le_mul_right d hbits)
    have hrated : 2 * (m * d) * 2 ^ t ≤ (2 * (c * 2 ^ s) + d) * 2 ^ t :=
      Nat.mul_le_mul_right _ hrate.1
    have hpos : 0 < d * 2 ^ t := by positivity
    linarith
  have hover : (n * d + 1) * (2 ^ s * 2 ^ t) ≤ k * c * (2 ^ s * 2 ^ t) := Nat.mul_le_mul_right _ hk
  have hrated : k * 2 ^ t * (2 * (c * 2 ^ s)) ≤ k * 2 ^ t * (2 * (m * d) + d) :=
    Nat.mul_le_mul_left _ hrate.2
  linarith

end Quotient

/-- In double precision a rate of `c / d` goes into `n` as often as it does, or once less where it
goes exactly. -/
theorem floor_divide_ratio {n c d : ℕ} (hn : 0 < n) (hc : 0 < c) (hd : 0 < d)
    (hnd : n * d ≤ 2 ^ 51) (hcost : c ≤ 2 ^ 51) :
    (n * d - 1) / c ≤ (divide n (ratio c d)).floor ∧
      (divide n (ratio c d)).floor ≤ n * d / c := by
  have hpos : 0 < n * d := Nat.mul_pos hn hd
  constructor
  · apply le_floor_divide hn hc hd hnd
    have hle := Nat.div_mul_le_self (n * d - 1) c
    omega
  · have hle := Nat.div_mul_le_self (n * d) c
    have hlt := Nat.lt_div_mul_add (a := n * d) hc
    have hfloor : (divide n (ratio c d)).floor < n * d / c + 1 := by
      apply floor_divide_lt hn hc hd hnd hcost
      · rw [Nat.succ_mul (n * d / c)]
        omega
      · rw [Nat.succ_mul (n * d / c)]
        omega
    omega

/-- A rate of 10 a 29 days goes 29 times into 10, and 28 times in double precision. -/
example : (divide 10 (ratio 10 29)).floor = 28 := by decide

end Binary64

end Claims

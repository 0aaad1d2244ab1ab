import Mathlib.Algebra.Order.Round
import Mathlib.Data.Rat.Floor
import Mathlib.Tactic.Linarith
import Mathlib.Tactic.Ring

/-!
# Rounding to the nearest integer

`halfAway` rounds halves away from zero. A number and its rounding are at most a half apart, and
the roundings of a weighted sum err together by at most half the weights.
-/

namespace Claims.Rounding

variable {α : Type*} [Field α] [LinearOrder α] [IsStrictOrderedRing α] [FloorRing α]

/-- Nearest, halves away from zero. -/
def halfAway (x : α) : ℤ := if x < 0 then -round (-x) else round x

/-- `n` is a nearest integer to `x`, and of two the one farther from zero. -/
structure Nearest (x : α) (n : ℤ) : Prop where
  near : |x - n| ≤ 1 / 2
  away : |x - n| = 1 / 2 → |x| ≤ |(n : α)|

@[simp] theorem halfAway_zero : halfAway (0 : α) = 0 := by
  simp [halfAway]

theorem halfAway_near (x : α) : |x - halfAway x| ≤ 1 / 2 := by
  unfold halfAway
  split
  · have hneg := abs_sub_round (-x)
    rw [Int.cast_neg, sub_neg_eq_add]
    rwa [← abs_neg, neg_sub, sub_neg_eq_add, add_comm] at hneg
  · exact abs_sub_round x

theorem round_nonneg {x : α} (hx : 0 ≤ x) : 0 ≤ round x := by
  rw [round_eq]
  exact Int.floor_nonneg.mpr (by linarith)

theorem halfAway_nonneg {x : α} (hx : 0 ≤ x) : 0 ≤ halfAway x := by
  rw [halfAway, if_neg (not_lt.mpr hx)]
  exact round_nonneg hx

theorem halfAway_nonpos {x : α} (hx : x ≤ 0) : halfAway x ≤ 0 := by
  rcases hx.lt_or_eq with hneg | rfl
  · have hopposite : 0 ≤ round (-x) := round_nonneg (by linarith)
    rw [halfAway, if_pos hneg]
    omega
  · rw [halfAway_zero]

theorem le_round_of_half {x : α} (h : |x - round x| = 1 / 2) : x ≤ round x := by
  have hlt := Int.lt_floor_add_one (x + 1 / 2)
  rw [← round_eq] at hlt
  rcases abs_eq (by norm_num : (0 : α) ≤ 1 / 2) |>.mp h with hup | hdown
  · linarith
  · linarith

theorem nearest_halfAway (x : α) : Nearest x (halfAway x) := by
  refine ⟨halfAway_near x, ?_⟩
  intro hhalf
  rcases lt_or_ge x 0 with hneg | hpos
  · have hround : halfAway x = -round (-x) := if_pos hneg
    have hbelow : -x ≤ round (-x) := by
      apply le_round_of_half
      rw [hround, Int.cast_neg, sub_neg_eq_add] at hhalf
      rwa [← abs_neg, neg_sub, sub_neg_eq_add, add_comm]
    have hopposite : (0 : α) ≤ round (-x) := by linarith
    rw [hround, Int.cast_neg, abs_neg, abs_of_neg hneg, abs_of_nonneg hopposite]
    exact hbelow
  · have hround : halfAway x = round x := if_neg (not_lt.mpr hpos)
    rw [hround] at hhalf ⊢
    have habove := le_round_of_half hhalf
    rw [abs_of_nonneg hpos, abs_of_nonneg (hpos.trans habove)]
    exact habove

/-- Each term rounded before it is multiplied: the sum is off by at most half the weights. -/
theorem abs_sum_halfAway_sub {β : Type*} (l : List β) (x : β → α) (w : β → ℕ) :
    |((l.map fun b => halfAway (x b) * (w b : ℤ)).sum : α) - (l.map fun b => x b * w b).sum| ≤
      (l.map w).sum / 2 := by
  induction l with
  | nil => simp
  | cons b l ih =>
    have hterm : |(halfAway (x b) : α) * w b - x b * w b| ≤ w b / 2 := by
      have hnear := halfAway_near (x b)
      rw [abs_sub_comm] at hnear
      rw [← sub_mul, abs_mul, abs_of_nonneg (Nat.cast_nonneg (w b) : (0 : α) ≤ w b)]
      calc |(halfAway (x b) : α) - x b| * w b ≤ 1 / 2 * w b :=
            mul_le_mul_of_nonneg_right hnear (Nat.cast_nonneg _)
        _ = w b / 2 := by ring
    rw [abs_le] at ih hterm ⊢
    simp only [List.map_cons, List.sum_cons, Int.cast_add, Int.cast_mul, Int.cast_natCast,
      Nat.cast_add]
    constructor
    · linarith [ih.1, hterm.1]
    · linarith [ih.2, hterm.2]

end Claims.Rounding

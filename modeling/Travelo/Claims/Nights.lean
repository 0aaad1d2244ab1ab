import Mathlib.Data.Int.ConditionallyCompleteOrder
import Mathlib.Order.ConditionallyCompleteLattice.Basic
import Mathlib.Data.Int.Interval
import Mathlib.Data.Finset.Lattice.Fold

/-!
# Counting over several nights

A resource of which there are several units is booked over spans of nights. Two ways to say
how many units are free over a window: from the bookings that touch the window, or as the
least number free on one of its nights. The first never exceeds the second, and
`floor_inf'_eq_iff` says when they agree.
-/

namespace Claims

variable {ι : Type}

/-- A lower bound of some numbers agrees with their least, both floored at zero, exactly when
one of the numbers is that bound or not positive. -/
theorem floor_inf'_eq_iff {s : Finset ι} (hs : s.Nonempty) {f : ι → ℤ} {a : ℤ}
    (h : ∀ i ∈ s, a ≤ f i) : max 0 a = max 0 (s.inf' hs f) ↔ ∃ i ∈ s, f i = a ∨ f i ≤ 0 := by
  constructor
  · intro heq
    obtain ⟨i, hi, hmin⟩ := Finset.exists_mem_eq_inf' hs f
    refine ⟨i, hi, ?_⟩
    have hle := h i hi
    rw [hmin] at heq
    omega
  · rintro ⟨i, hi, hcase⟩
    have hle : s.inf' hs f ≤ f i := Finset.inf'_le f hi
    have hge : a ≤ s.inf' hs f := Finset.le_inf' hs f h
    rcases hcase with heq | hneg
    · omega
    · omega

end Claims

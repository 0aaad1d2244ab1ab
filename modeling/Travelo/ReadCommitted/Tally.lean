import Mathlib.Data.List.Nodup

/-!
# Tallies

How many of the first `n` sessions have done something: one session that moves changes the tally
by at most one, and the tally of the others not at all.
-/

namespace ReadCommitted

section Tally

variable {p q r : ℕ → Bool} {i n : ℕ}

/-- How many numbers below `n`, apart from `i`, satisfy `p`. -/
def others (n i : ℕ) (p : ℕ → Bool) : ℕ := ((List.range n).filter (· ≠ i)).countP p

theorem countP_eq_others (n i : ℕ) (p : ℕ → Bool) :
    (List.range n).countP p = others n i p + if i < n ∧ p i = true then 1 else 0 := by
  have hsplit := List.countP_eq_countP_filter_add (List.range n) p (fun j => decide (j ≠ i))
  have hone : (List.range n).filter (fun j => !decide (j ≠ i)) = if i < n then [i] else [] := by
    have heq : (List.range n).filter (fun j => !decide (j ≠ i)) = (List.range n).filter (· = i) :=
      List.filter_congr fun j _ => by simp
    rw [heq, List.filter_eq, List.Nodup.count List.nodup_range]
    simp only [List.mem_range]
    split_ifs <;> rfl
  rw [hsplit, hone]
  unfold others
  by_cases hi : i < n
  · cases hp : p i <;> simp [hi, hp]
  · simp [hi]

theorem countP_le_others_succ (n i : ℕ) (p : ℕ → Bool) :
    (List.range n).countP p ≤ others n i p + 1 := by
  rw [countP_eq_others n i p]
  split_ifs <;> omega

theorem others_le_countP (n i : ℕ) (p : ℕ → Bool) : others n i p ≤ (List.range n).countP p := by
  rw [countP_eq_others n i p]
  omega

theorem others_congr (h : ∀ j, j ≠ i → q j = p j) : others n i q = others n i p := by
  unfold others
  refine List.countP_congr fun j hj => ?_
  simp only [List.mem_filter, decide_eq_true_eq] at hj
  rw [h j hj.2]

theorem others_le_add (h : ∀ j, r j = true → p j = true ∨ q j = true) :
    others n i r ≤ others n i p + others n i q := by
  unfold others
  induction (List.range n).filter (· ≠ i) with
  | nil => simp
  | cons j l ih =>
    have hj := h j
    simp only [List.countP_cons]
    split_ifs <;> simp_all <;> omega

theorem countP_le_succ (h : ∀ j, q j = true → p j = true ∨ j = i) (n : ℕ) :
    (List.range n).countP q ≤ (List.range n).countP p + 1 := by
  have hothers : others n i q ≤ others n i p := by
    refine List.countP_mono_left fun j hj hq => ?_
    simp only [List.mem_filter, decide_eq_true_eq] at hj
    rcases h j hq with hp | hji
    · exact hp
    · exact absurd hji hj.2
  have hq := countP_le_others_succ n i q
  have hp := others_le_countP n i p
  omega

theorem countP_le_of_others (hi : q i = false) (h : ∀ j, j ≠ i → q j = p j) :
    (List.range n).countP q ≤ (List.range n).countP p := by
  have hsame := others_congr (n := n) h
  have hp := others_le_countP n i p
  rw [countP_eq_others n i q, hi]
  simp only [Bool.false_eq_true, and_false, if_false]
  omega

end Tally

end ReadCommitted

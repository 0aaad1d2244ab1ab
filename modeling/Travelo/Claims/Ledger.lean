import Mathlib.Data.Multiset.Filter

/-!
# Ledgers

A ledger is a multiset of entries: the order in which they were made does not matter.
`enter clash a l` makes the entry `a` unless it clashes with one that is there, so that a
repeat changes nothing.

`Reordered apart l l'` says that `l'` is `l` with its actions in another order, where only
actions that are `apart` pass one another; `Reordered.foldl_eq` is the rule for actions of
which the apart ones commute.
-/

namespace Claims

variable {α β : Type}

/-! ## Entries -/

section Enter

variable {clash : α → α → Bool} {a b : α} {l : Multiset α} {f : α → α}

open scoped Classical in
/-- Make the entry, unless it clashes with one. -/
noncomputable def enter (clash : α → α → Bool) (a : α) (l : Multiset α) : Multiset α :=
  if ∃ b ∈ l, clash a b = true then l else a ::ₘ l

theorem enter_of_clash (hb : b ∈ l) (h : clash a b = true) : enter clash a l = l :=
  if_pos ⟨b, hb, h⟩

theorem enter_of_free (h : ∀ b ∈ l, clash a b = false) : enter clash a l = a ::ₘ l := by
  unfold enter
  rw [if_neg]
  rintro ⟨b, hb, hc⟩
  rw [h b hb] at hc
  cases hc

theorem mem_enter (h : b ∈ l) : b ∈ enter clash a l := by
  unfold enter
  split
  · exact h
  · exact Multiset.mem_cons_of_mem h

theorem mem_or_eq_of_mem_enter (h : b ∈ enter clash a l) : b ∈ l ∨ b = a := by
  unfold enter at h
  split at h
  · exact .inl h
  · exact (Multiset.mem_cons.mp h).symm

theorem exists_clash_enter (hab : clash a b = false) :
    (∃ c ∈ enter clash b l, clash a c = true) ↔ ∃ c ∈ l, clash a c = true := by
  constructor
  · rintro ⟨c, hc, ha⟩
    rcases mem_or_eq_of_mem_enter hc with hl | rfl
    · exact ⟨c, hl, ha⟩
    · rw [hab] at ha
      cases ha
  · rintro ⟨c, hc, ha⟩
    exact ⟨c, mem_enter hc, ha⟩

theorem enter_comm (hab : clash a b = false) (hba : clash b a = false) :
    enter clash a (enter clash b l) = enter clash b (enter clash a l) := by
  have hka := exists_clash_enter (l := l) hab
  have hkb := exists_clash_enter (l := l) hba
  by_cases ha : ∃ c ∈ l, clash a c = true <;> by_cases hb : ∃ c ∈ l, clash b c = true
  · rw [enter, if_pos (hka.mpr ha), enter, if_pos hb, enter, if_pos (hkb.mpr hb), enter, if_pos ha]
  · rw [enter, if_pos (hka.mpr ha), enter, if_neg hb, enter, if_neg (fun h => hb (hkb.mp h)), enter,
      if_pos ha]
  · rw [enter, if_neg (fun h => ha (hka.mp h)), enter, if_pos hb, enter, if_pos (hkb.mpr hb), enter,
      if_neg ha]
  · rw [enter, if_neg (fun h => ha (hka.mp h)), enter, if_neg hb, enter,
      if_neg (fun h => hb (hkb.mp h)), enter, if_neg ha, Multiset.cons_swap]

theorem exists_clash_map (hclash : ∀ b, clash a (f b) = clash a b) :
    (∃ b ∈ l.map f, clash a b = true) ↔ ∃ b ∈ l, clash a b = true := by
  simp [Multiset.mem_map, hclash]

theorem map_enter (hclash : ∀ b, clash a (f b) = clash a b) (ha : f a = a) :
    (enter clash a l).map f = enter clash a (l.map f) := by
  have hiff := exists_clash_map (l := l) hclash
  by_cases h : ∃ b ∈ l, clash a b = true
  · rw [enter, if_pos h, enter, if_pos (hiff.mpr h)]
  · rw [enter, if_neg h, enter, if_neg (fun h' => h (hiff.mp h')), Multiset.map_cons, ha]

end Enter

/-! ## Order -/

/-- The same actions in another order, in which only actions that are apart have passed one
another. -/
inductive Reordered (apart : α → α → Prop) : List α → List α → Prop where
  | refl (l : List α) : Reordered apart l l
  | swap (l₁ : List α) {a b : α} (l₂ : List α) (h : apart a b) :
      Reordered apart (l₁ ++ a :: b :: l₂) (l₁ ++ b :: a :: l₂)
  | trans {l l' l'' : List α} (h : Reordered apart l l') (h' : Reordered apart l' l'') :
      Reordered apart l l''

namespace Reordered

variable {apart : α → α → Prop} {l l' : List α}

/-- If actions that are apart commute, the order of such actions does not matter. -/
theorem foldl_eq {f : β → α → β} (hcomm : ∀ a b, apart a b → ∀ s, f (f s a) b = f (f s b) a)
    (h : Reordered apart l l') (s : β) : l.foldl f s = l'.foldl f s := by
  induction h with
  | refl l => rfl
  | swap l₁ l₂ hab => simp only [List.foldl_append, List.foldl_cons, hcomm _ _ hab]
  | trans _ _ ih ih' => exact ih.trans ih'

theorem cons (a : α) (h : Reordered apart l l') : Reordered apart (a :: l) (a :: l') := by
  induction h with
  | refl l => exact .refl _
  | swap l₁ l₂ hab => exact .swap (a :: l₁) l₂ hab
  | trans _ _ ih ih' => exact .trans ih ih'

theorem append_right (r : List α) (h : Reordered apart l l') :
    Reordered apart (l ++ r) (l' ++ r) := by
  induction h with
  | refl l => exact .refl _
  | swap l₁ l₂ hab => simpa using Reordered.swap l₁ (l₂ ++ r) hab
  | trans _ _ ih ih' => exact ih.trans ih'

theorem to_end {a : α} (h : ∀ b ∈ l, apart a b) : Reordered apart (a :: l) (l ++ [a]) := by
  induction l with
  | nil => exact .refl _
  | cons b l ih =>
    have hab : apart a b := h b (by simp)
    have hrest : Reordered apart (a :: l) (l ++ [a]) := ih fun c hc => h c (by simp [hc])
    exact .trans (.swap [] l hab) (hrest.cons b)

end Reordered

end Claims

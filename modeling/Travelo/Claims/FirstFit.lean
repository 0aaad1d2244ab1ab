import Mathlib.Data.List.Find

/-!
# First fit

Items are placed one after another, each in the first of the slots it is offered that is not blocked:
by what was there before, or by an item placed earlier. What is placed is not blocked, nothing placed
blocks what is placed after it, and an item without a slot was blocked in every one.
-/

namespace Claims

namespace FirstFit

variable {ι κ : Type} (offers : ι → List κ) (clash : ι → κ → ι → κ → Bool)

/-- What an item in a slot blocks, besides what is blocked. -/
def claim (blocked : ι → κ → Bool) (i : ι) : Option κ → ι → κ → Bool
  | none => blocked
  | some k => fun j l => blocked j l || clash i k j l

/-- The first slot that is not blocked. -/
def choose (blocked : ι → κ → Bool) (i : ι) : Option κ :=
  (offers i).find? fun k => !blocked i k

/-- Every item with its slot. -/
def place : (ι → κ → Bool) → List ι → List (ι × Option κ)
  | _, [] => []
  | blocked, i :: rest =>
    (i, choose offers blocked i) :: place (claim clash blocked i (choose offers blocked i)) rest

variable {offers clash} {blocked blocked' : ι → κ → Bool} {i j : ι} {k l : κ} {items : List ι}

theorem claim_some : claim clash blocked i (some k) j l = (blocked j l || clash i k j l) := rfl

theorem claim_of_blocked (h : blocked j l = true) (c : Option κ) :
    claim clash blocked i c j l = true := by
  cases c with
  | none => exact h
  | some k => simp [claim, h]

theorem map_fst_place : ∀ (items : List ι) (blocked : ι → κ → Bool),
    (place offers clash blocked items).map Prod.fst = items := by
  intro items
  induction items with
  | nil => exact fun _ => rfl
  | cons i rest ih =>
    intro blocked
    rw [place, List.map_cons, ih]

/-- A slot that an item gets is one that it is offered, and was not blocked at the start. -/
theorem place_sound : ∀ (items : List ι) (blocked : ι → κ → Bool),
    (i, some k) ∈ place offers clash blocked items → k ∈ offers i ∧ blocked i k = false := by
  intro items
  induction items with
  | nil => exact fun _ h => by cases h
  | cons j rest ih =>
    intro blocked h
    rw [place] at h
    rcases List.mem_cons.mp h with heq | h
    · simp only [Prod.mk.injEq] at heq
      obtain ⟨rfl, hchosen⟩ := heq
      have hfind : (offers i).find? (fun k => !blocked i k) = some k := hchosen.symm
      have hfree := List.find?_some hfind
      exact ⟨List.mem_of_find?_eq_some hfind, by simpa using hfree⟩
    · obtain ⟨hoffer, hfree⟩ := ih _ h
      refine ⟨hoffer, ?_⟩
      by_contra hblocked
      rw [claim_of_blocked (by simpa using hblocked)] at hfree
      cases hfree

theorem place_pairwise : ∀ (items : List ι) (blocked : ι → κ → Bool),
    (place offers clash blocked items).Pairwise fun p q =>
      ∀ k ∈ p.2, ∀ l ∈ q.2, clash p.1 k q.1 l = false := by
  intro items
  induction items with
  | nil => exact fun _ => List.Pairwise.nil
  | cons i rest ih =>
    intro blocked
    rw [place, List.pairwise_cons]
    refine ⟨?_, ih _⟩
    rintro ⟨j, c⟩ hq k hk l hl
    obtain rfl : c = some l := hl
    have hchosen : choose offers blocked i = some k := hk
    have hfree := (place_sound rest _ hq).2
    rw [hchosen] at hfree
    simp only [claim, Bool.or_eq_false_iff] at hfree
    exact hfree.2

theorem place_complete : ∀ (items : List ι) (blocked : ι → κ → Bool)
    (before after : List (ι × Option κ)),
    place offers clash blocked items = before ++ (i, none) :: after →
      ∀ k ∈ offers i, blocked i k = true ∨ ∃ p ∈ before, ∃ l ∈ p.2, clash p.1 l i k = true := by
  intro items
  induction items with
  | nil =>
    intro blocked before after h
    cases before <;> cases h
  | cons j rest ih =>
    intro blocked before after h k hk
    rw [place] at h
    cases before with
    | nil =>
      left
      simp only [List.nil_append, List.cons.injEq, Prod.mk.injEq] at h
      obtain ⟨⟨rfl, hnone⟩, -⟩ := h
      have hall := List.find?_eq_none.mp hnone k hk
      simpa using hall
    | cons p before =>
      simp only [List.cons_append, List.cons.injEq] at h
      obtain ⟨rfl, hrest⟩ := h
      rcases ih _ _ _ hrest k hk with hblocked | ⟨p, hp, hclash⟩
      · cases hchosen : choose offers blocked j with
        | none =>
          rw [hchosen] at hblocked
          exact .inl hblocked
        | some l =>
          rw [hchosen] at hblocked
          simp only [claim, Bool.or_eq_true] at hblocked
          rcases hblocked with hblocked | hclash
          · exact .inl hblocked
          · exact .inr ⟨_, List.mem_cons_self, l, rfl, hclash⟩
      · exact .inr ⟨p, List.mem_cons_of_mem _ hp, hclash⟩

end FirstFit

end Claims

import Mathlib.Data.Set.Insert
import Mathlib.Logic.Equiv.Basic

/-!
# Who holds what

Each party holds one resource at most, `holds g`, and some resources are marked as taken.

* `Lodged`: what is held is marked, and nobody holds it with another.
* `Full`: what is marked is held.

The lemmas say what keeps the two when a party enters, leaves, or trades with another.
-/

namespace Claims

open Function

variable {γ ρ : Type}

/-- What is held is marked, and has one holder. -/
structure Lodged (holds : γ → Option ρ) (marked : Set ρ) : Prop where
  held : ∀ g k, holds g = some k → k ∈ marked
  alone : ∀ g g' k, holds g = some k → holds g' = some k → g = g'

/-- What is marked is held. -/
def Full (holds : γ → Option ρ) (marked : Set ρ) : Prop := ∀ k ∈ marked, ∃ g, holds g = some k

variable {holds : γ → Option ρ} {marked marked' : Set ρ} {g g' : γ} {k k' : ρ}

theorem Lodged.mono (h : Lodged holds marked) (hsub : marked ⊆ marked') : Lodged holds marked' :=
  ⟨fun g k hg => hsub (h.held g k hg), h.alone⟩

theorem Full.mono (h : Full holds marked) (hsub : marked' ⊆ marked) : Full holds marked' :=
  fun k hk => h k (hsub hk)

variable [DecidableEq γ]

/-! ## Leaving -/

theorem Lodged.leave (h : Lodged holds marked) (g : γ) :
    Lodged (update holds g none) (marked \ {k | holds g = some k}) := by
  have hother : ∀ x k, update holds g none x = some k → x ≠ g ∧ holds x = some k := by
    intro x k hx
    by_cases hxg : x = g
    · simp [hxg] at hx
    · exact ⟨hxg, by simpa [hxg] using hx⟩
  constructor
  · intro x k hx
    obtain ⟨hne, hxk⟩ := hother x k hx
    exact ⟨h.held x k hxk, fun hg => hne (h.alone x g k hxk hg)⟩
  · intro x y k hx hy
    exact h.alone x y k (hother x k hx).2 (hother y k hy).2

theorem Full.leave (h : Full holds marked) (g : γ) :
    Full (update holds g none) (marked \ {k | holds g = some k}) := by
  intro k hk
  obtain ⟨x, hx⟩ := h k hk.1
  have hxg : x ≠ g := by
    rintro rfl
    exact hk.2 hx
  exact ⟨x, by simpa [hxg] using hx⟩

/-! ## Entering -/

theorem Lodged.take (h : Lodged holds marked) (hk : k ∈ marked)
    (hfree : ∀ x, holds x ≠ some k) : Lodged (update holds g (some k)) marked := by
  have hcases : ∀ x k', update holds g (some k) x = some k' →
      x = g ∧ k' = k ∨ x ≠ g ∧ holds x = some k' := by
    intro x k' hx
    by_cases hxg : x = g
    · subst hxg
      exact .inl ⟨rfl, by simpa using hx.symm⟩
    · exact .inr ⟨hxg, by simpa [hxg] using hx⟩
  constructor
  · intro x k' hx
    rcases hcases x k' hx with ⟨-, rfl⟩ | ⟨-, hx'⟩
    · exact hk
    · exact h.held x k' hx'
  · intro x y k' hx hy
    rcases hcases x k' hx with ⟨rfl, rfl⟩ | ⟨-, hx'⟩ <;>
      rcases hcases y k' hy with ⟨rfl, hkk⟩ | ⟨-, hy'⟩
    · rfl
    · exact absurd hy' (hfree y)
    · exact absurd (hkk ▸ hx') (hfree x)
    · exact h.alone x y k' hx' hy'

theorem Lodged.enter (h : Lodged holds marked) (hk : k ∉ marked) :
    Lodged (update holds g (some k)) (insert k marked) :=
  (h.mono (Set.subset_insert k marked)).take (Set.mem_insert k marked)
    fun x hx => hk (h.held x k hx)

theorem Full.enter (h : Full holds marked) (hg : holds g = none) :
    Full (update holds g (some k)) (insert k marked) := by
  intro k' hk'
  rcases Set.mem_insert_iff.mp hk' with rfl | hk'
  · exact ⟨g, by simp⟩
  · obtain ⟨x, hx⟩ := h k' hk'
    have hxg : x ≠ g := by
      rintro rfl
      simp [hg] at hx
    exact ⟨x, by simpa [hxg] using hx⟩

/-! ## Moving and trading -/

theorem Lodged.move (h : Lodged holds marked) (hk : k ∉ marked) :
    Lodged (update holds g (some k)) (insert k (marked \ {x | holds g = some x})) := by
  have hmoved := (h.leave g).enter (g := g) (k := k) fun hk' => hk hk'.1
  rwa [update_idem] at hmoved

theorem Full.move (h : Full holds marked) :
    Full (update holds g (some k)) (insert k (marked \ {x | holds g = some x})) := by
  have hmoved := (h.leave g).enter (g := g) (k := k) (update_self g none holds)
  rwa [update_idem] at hmoved

theorem trade_eq (hg : holds g = some k) (hg' : holds g' = some k') :
    update (update holds g (some k')) g' (some k) = holds ∘ Equiv.swap g' g := by
  rw [Equiv.comp_swap_eq_update, hg, hg']

theorem Lodged.trade (h : Lodged holds marked) (hg : holds g = some k) (hg' : holds g' = some k') :
    Lodged (update (update holds g (some k')) g' (some k)) marked := by
  rw [trade_eq hg hg']
  constructor
  · exact fun x y hx => h.held _ y hx
  · exact fun x z y hx hz => (Equiv.swap g' g).injective (h.alone _ _ y hx hz)

theorem Full.trade (h : Full holds marked) (hg : holds g = some k) (hg' : holds g' = some k') :
    Full (update (update holds g (some k')) g' (some k)) marked := by
  rw [trade_eq hg hg']
  intro y hy
  obtain ⟨x, hx⟩ := h y hy
  exact ⟨Equiv.swap g' g x, by simpa using hx⟩

end Claims

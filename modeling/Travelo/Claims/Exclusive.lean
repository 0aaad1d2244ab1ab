import Mathlib.Order.Basic
import Mathlib.Order.MinMax
import Mathlib.Data.Set.Subsingleton
import Travelo.ReadCommitted.Table

/-!
# Exclusive claims

Rows of a table claim resources over half-open spans `[lo, hi)`. A table is *exclusive*
when no two rows claim one resource over spans that meet.

The lemmas say what keeps a table exclusive: rows that give up a claim, and a row that
takes a claim which is free in the table apart from that row.
-/

namespace Claims

open ReadCommitted

/-- A half-open span `[lo, hi)` that is not empty. -/
@[ext] structure Span (τ : Type) [LT τ] where
  lo : τ
  hi : τ
  lt : lo < hi

namespace Span

variable {τ : Type} [LinearOrder τ] {s t : Span τ}

/-- Two spans share a point; both comparisons are strict, so spans that only abut do not. -/
def Meets (s t : Span τ) : Prop := s.lo < t.hi ∧ t.lo < s.hi

theorem Meets.symm (h : s.Meets t) : t.Meets s := ⟨h.2, h.1⟩

end Span

section

variable {α κ ρ τ : Type} {key : α → κ} [LinearOrder τ]

/-- No two rows claim one resource over spans that meet. -/
def Exclusive (claim : α → Option (ρ × Span τ)) (t : Table key) : Prop :=
  ∀ a ∈ t, ∀ b ∈ t, key a ≠ key b → ∀ r s s', claim a = some (r, s) → claim b = some (r, s') →
    ¬ s.Meets s'

/-- Nobody but the row with key `k` claims `r` over a span that meets `s`. -/
def FreeFor (claim : α → Option (ρ × Span τ)) (t : Table key) (k : κ) (r : ρ) (s : Span τ) :
    Prop :=
  ∀ b ∈ t, key b ≠ k → ∀ s', claim b = some (r, s') → ¬ s.Meets s'

variable {claim : α → Option (ρ × Span τ)} {t : Table key}

theorem exclusive_empty : Exclusive claim (∅ : Table key) := by
  intro a ha
  exact absurd ha (notMem_empty a)

theorem Exclusive.update_key [DecidableEq κ] {k : κ} {f : α → α} {hf : ∀ a, key (f a) = key a}
    (hx : Exclusive claim t)
    (h : ∀ a ∈ t, key a = k → ∀ r s, claim (f a) = some (r, s) →
      claim a = some (r, s) ∨ FreeFor claim t k r s) :
    Exclusive claim (t.update (fun a => key a = k) f hf) := by
  -- the row `k` against any other row
  have hone : ∀ a ∈ t, key a = k → ∀ b ∈ t, key b ≠ k → ∀ r s s', claim (f a) = some (r, s) →
      claim b = some (r, s') → ¬ s.Meets s' := by
    intro a ha hka b hb hkb r s s' hca hcb
    rcases h a ha hka r s hca with hsame | hfree
    · exact hx a ha b hb (by rw [hka]; exact fun hEq => hkb hEq.symm) r s s' hsame hcb
    · exact hfree b hb hkb s' hcb
  intro a ha b hb hne r s s' hca hcb
  obtain ⟨a₀, ha₀, rfl⟩ := Table.mem_update.mp ha
  obtain ⟨b₀, hb₀, rfl⟩ := Table.mem_update.mp hb
  by_cases hka : key a₀ = k
  · by_cases hkb : key b₀ = k
    · exact absurd (by simp [hka, hkb, hf]) hne
    · exact hone a₀ ha₀ hka b₀ hb₀ hkb r s s' (by simpa [hka] using hca) (by simpa [hkb] using hcb)
  · by_cases hkb : key b₀ = k
    · intro hm
      exact hone b₀ hb₀ hkb a₀ ha₀ hka r s' s (by simpa [hkb] using hcb) (by simpa [hka] using hca)
        hm.symm
    · exact hx a₀ ha₀ b₀ hb₀ (by simpa [hka, hkb] using hne) r s s' (by simpa [hka] using hca)
        (by simpa [hkb] using hcb)

/-- Two rows may exchange resources: each takes a claim that is free apart from the two of
them, and the two claims are of different resources. -/
theorem Exclusive.update_two [DecidableEq κ] {k l : κ} {f g : α → α}
    {hf : ∀ a, key (f a) = key a} {hg : ∀ a, key (g a) = key a} (hkl : k ≠ l)
    (hx : Exclusive claim t)
    (hk : ∀ a ∈ t, key a = k → ∀ r s, claim (f a) = some (r, s) →
      ∀ b ∈ t, key b ≠ k → key b ≠ l → ∀ s', claim b = some (r, s') → ¬ s.Meets s')
    (hl : ∀ a ∈ t, key a = l → ∀ r s, claim (g a) = some (r, s) →
      ∀ b ∈ t, key b ≠ k → key b ≠ l → ∀ s', claim b = some (r, s') → ¬ s.Meets s')
    (hfg : ∀ a ∈ t, key a = k → ∀ b ∈ t, key b = l → ∀ r s s', claim (f a) = some (r, s) →
      claim (g b) = some (r, s') → ¬ s.Meets s') :
    Exclusive claim ((t.update (fun a => key a = k) f hf).update (fun a => key a = l) g hg) := by
  -- a row of the new table is an old row, the row `k` after `f`, or the row `l` after `g`
  have hcases : ∀ b ∈ (t.update (fun a => key a = k) f hf).update (fun a => key a = l) g hg,
      ∃ a ∈ t, (key a ≠ k ∧ key a ≠ l ∧ b = a) ∨ (key a = k ∧ b = f a) ∨ (key a = l ∧ b = g a) := by
    intro b hb
    obtain ⟨b₁, hb₁, rfl⟩ := Table.mem_update.mp hb
    obtain ⟨a, ha, rfl⟩ := Table.mem_update.mp hb₁
    refine ⟨a, ha, ?_⟩
    by_cases hka : key a = k
    · have hal : key (f a) ≠ l := by rw [hf, hka]; exact hkl
      exact .inr (.inl ⟨hka, by simp [hka, hal]⟩)
    · by_cases hla : key a = l
      · exact .inr (.inr ⟨hla, by simp [hla, hkl.symm]⟩)
      · exact .inl ⟨hka, hla, by simp [hka, hla]⟩
  intro a ha b hb hne r s s' hca hcb hm
  obtain ⟨a₀, ha₀, ⟨hak, hal, rfl⟩ | ⟨hak, rfl⟩ | ⟨hal, rfl⟩⟩ := hcases a ha
  · obtain ⟨b₀, hb₀, ⟨hbk, hbl, rfl⟩ | ⟨hbk, rfl⟩ | ⟨hbl, rfl⟩⟩ := hcases b hb
    · exact hx a ha₀ b hb₀ hne r s s' hca hcb hm
    · exact hk b₀ hb₀ hbk r s' hcb a ha₀ hak hal s hca hm.symm
    · exact hl b₀ hb₀ hbl r s' hcb a ha₀ hak hal s hca hm.symm
  · obtain ⟨b₀, hb₀, ⟨hbk, hbl, rfl⟩ | ⟨hbk, rfl⟩ | ⟨hbl, rfl⟩⟩ := hcases b hb
    · exact hk a₀ ha₀ hak r s hca b hb₀ hbk hbl s' hcb hm
    · exact absurd (by rw [hf, hf, hak, hbk]) hne
    · exact hfg a₀ ha₀ hak b₀ hb₀ hbl r s s' hca hcb hm
  · obtain ⟨b₀, hb₀, ⟨hbk, hbl, rfl⟩ | ⟨hbk, rfl⟩ | ⟨hbl, rfl⟩⟩ := hcases b hb
    · exact hl a₀ ha₀ hal r s hca b hb₀ hbk hbl s' hcb hm
    · exact hfg b₀ hb₀ hbk a₀ ha₀ hal r s' s hcb hca hm.symm
    · exact absurd (by rw [hg, hg, hal, hbl]) hne

theorem Exclusive.insert [DecidableEq κ] {a : α} (hx : Exclusive claim t)
    (h : ∀ r s, claim a = some (r, s) → ∀ b ∈ t, ∀ s', claim b = some (r, s') → ¬ s.Meets s') :
    Exclusive claim (t.insert a) := by
  intro b hb c hc hne r s s' hcb hcc hm
  rcases mem_or_eq_of_mem_insert hb with hbt | hba
  · rcases mem_or_eq_of_mem_insert hc with hct | hca
    · exact hx b hbt c hct hne r s s' hcb hcc hm
    · exact h r s' (hca ▸ hcc) b hbt s hcb hm.symm
  · rcases mem_or_eq_of_mem_insert hc with hct | hca
    · exact h r s (hba ▸ hcb) c hct s' hcc hm
    · exact hne (by rw [hba, hca])

end

end Claims

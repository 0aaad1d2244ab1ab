import Mathlib.Data.List.Sort

/-!
# Which of several applies

Several entries may apply to one case, and a list is searched for the first that does. In a
sorted list that one comes before all others that apply (`find?_insertionSort`); a list in
another order gives one of the same rank exactly when its first is of the highest rank
(`find?_highest_iff`).
-/

namespace Claims

variable {α : Type} {p : α → Bool} {l : List α} {a : α}

section Sorted

variable {r : α → α → Prop}

theorem find?_pairwise (hl : l.Pairwise r) (h : l.find? p = some a) :
    ∀ b ∈ l, p b = true → b = a ∨ r a b := by
  obtain ⟨hp, before, after, rfl, hbefore⟩ := List.find?_eq_some_iff_append.mp h
  intro b hb hpb
  rcases List.mem_append.mp hb with hb | hb
  · exact absurd hpb (by simpa using hbefore b hb)
  · rcases List.mem_cons.mp hb with rfl | hb
    · exact .inl rfl
    · have htail : (a :: after).Pairwise r := (List.pairwise_append.mp hl).2.1
      exact .inr ((List.pairwise_cons.mp htail).1 b hb)

theorem find?_isSome_perm {l' : List α} (h : l'.Perm l) :
    (l'.find? p).isSome = (l.find? p).isSome := by
  rw [Bool.eq_iff_iff, List.find?_isSome, List.find?_isSome]
  simp only [h.mem_iff]

variable [DecidableRel r] [Std.Total r] [IsTrans α r]

theorem find?_insertionSort (h : (l.insertionSort r).find? p = some a) :
    a ∈ l ∧ p a = true ∧ ∀ b ∈ l, p b = true → b = a ∨ r a b := by
  have hmem := (List.mem_insertionSort r).mp (List.mem_of_find?_eq_some h)
  refine ⟨hmem, List.find?_some h, fun b hb => ?_⟩
  exact find?_pairwise (List.pairwise_insertionSort r l) h b ((List.mem_insertionSort r).mpr hb)

end Sorted

section Rank

variable {β : Type} [LinearOrder β] {f : α → β}

/-- Two lists of which the same apply: the rank of the first of one that applies is that of the
highest of the other exactly when none is higher. -/
theorem find?_highest_iff {l' : List α} {p' : α → Bool}
    (h : ∀ a, a ∈ l' ∧ p' a = true ↔ a ∈ l ∧ p a = true) :
    (l'.find? p').map f = ((l.insertionSort fun a b => f b ≤ f a).find? p).map f ↔
      ∀ a ∈ l'.find? p', ∀ b ∈ l, p b = true → f b ≤ f a := by
  cases hfirst : l'.find? p' with
  | none =>
    have hbest : (l.insertionSort fun a b => f b ≤ f a).find? p = none := by
      rw [List.find?_eq_none] at hfirst ⊢
      intro a ha hpa
      obtain ⟨ha', hpa'⟩ := (h a).mpr ⟨(List.mem_insertionSort _).mp ha, hpa⟩
      exact hfirst a ha' hpa'
    simp [hbest]
  | some a =>
    obtain ⟨ha, hpa⟩ := (h a).mp ⟨List.mem_of_find?_eq_some hfirst, List.find?_some hfirst⟩
    have hsome : ((l.insertionSort fun a b => f b ≤ f a).find? p).isSome = true :=
      List.find?_isSome.mpr ⟨a, (List.mem_insertionSort _).mpr ha, hpa⟩
    obtain ⟨b, hbest⟩ := Option.isSome_iff_exists.mp hsome
    obtain ⟨hb, hpb, hhighest⟩ := find?_insertionSort hbest
    have hle : ∀ c ∈ l, p c = true → f c ≤ f b := by
      intro c hc hpc
      rcases hhighest c hc hpc with rfl | hrel
      · exact le_refl _
      · exact hrel
    simp only [hbest, Option.map_some, Option.some.injEq, Option.mem_some_iff]
    constructor
    · rintro heq _ rfl c hc hpc
      rw [heq]
      exact hle c hc hpc
    · intro hall
      exact le_antisymm (hle a ha hpa) (hall a rfl b hb hpb)

end Rank

end Claims

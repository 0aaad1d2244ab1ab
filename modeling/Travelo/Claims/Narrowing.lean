import Mathlib.Algebra.BigOperators.Group.List.Basic
import Mathlib.Data.Int.Notation

/-!
# Sums that are narrowed

A number that is put into `bits` bits, or refused. A computation of such steps has at most one
result (`Only`), the one it would have without a limit, so it gives that result exactly when every
number on the way fits.
-/

namespace Claims

variable {ε α β : Type}

/-- The number is in the range of a signed integer. -/
def Fits (bits : ℕ) (n : ℤ) : Prop := -2 ^ (bits - 1) ≤ n ∧ n < 2 ^ (bits - 1)

instance (bits : ℕ) (n : ℤ) : Decidable (Fits bits n) :=
  inferInstanceAs (Decidable (_ ∧ _))

def narrow (bits : ℕ) (overflow : ε) (n : ℤ) : Except ε ℤ :=
  if Fits bits n then .ok n else .error overflow

section Checks

variable {p : Prop} [Decidable p] {e : ε} {f : α → Except ε β} {x : Except ε β} {b : β}

theorem ite_throw_ok_iff :
    (if p then (throw e : Except ε α) >>= f else x) = .ok b ↔ ¬p ∧ x = .ok b := by
  split
  · exact ⟨fun h => (by cases h), fun h => absurd ‹p› h.1⟩
  · exact ⟨fun h => ⟨‹¬p›, h⟩, fun h => h.2⟩

theorem ite_throw_bind_ok_iff {γ : Type} {k : β → Except ε γ} {c : γ} :
    ((if p then (throw e : Except ε α) >>= f else x) >>= k) = .ok c ↔ ¬p ∧ (x >>= k) = .ok c := by
  split
  · exact ⟨fun h => (by cases h), fun h => absurd ‹p› h.1⟩
  · exact ⟨fun h => ⟨‹¬p›, h⟩, fun h => h.2⟩

end Checks

/-- If there is a result, it is this one. -/
def Only (x : Except ε α) (a : α) : Prop := ∀ b, x = .ok b → b = a

section Only

variable {x : Except ε α} {a : α} {b : β} {f : α → Except ε β}

theorem only_ok (a : α) : Only (.ok a : Except ε α) a := by
  intro b h
  cases h
  rfl

theorem only_narrow (bits : ℕ) (overflow : ε) (n : ℤ) : Only (narrow bits overflow n) n := by
  intro m h
  unfold narrow at h
  split at h
  · cases h
    rfl
  · cases h

@[simp] theorem narrow_ok_iff {bits : ℕ} {overflow : ε} {n : ℤ} :
    narrow bits overflow n = .ok n ↔ Fits bits n := by
  unfold narrow
  split
  · simp_all
  · simp_all

theorem Only.bind_ok_iff (h : Only x a) : (x >>= f) = .ok b ↔ x = .ok a ∧ f a = .ok b := by
  cases x with
  | error e => exact ⟨fun hb => (by cases hb), fun hb => (by cases hb.1)⟩
  | ok a' =>
    obtain rfl := h a' rfl
    exact ⟨fun hb => ⟨rfl, hb⟩, fun hb => hb.2⟩

theorem Only.bind (h : Only x a) (hf : Only (f a) b) : Only (x >>= f) b := by
  cases x with
  | error e =>
    intro c hc
    cases hc
  | ok a' =>
    obtain rfl := h a' rfl
    exact hf

variable {xs : List α} {g : α → β}

theorem only_mapM (h : ∀ a ∈ xs, Only (f a) (g a)) : Only (xs.mapM f) (xs.map g) := by
  induction xs with
  | nil => exact only_ok []
  | cons a xs ih =>
    rw [List.mapM_cons]
    refine (h a List.mem_cons_self).bind ?_
    exact (ih fun b hb => h b (List.mem_cons_of_mem a hb)).bind (only_ok _)

/-- A step for each element succeeds with the results it can have when each of them does. -/
theorem mapM_ok_iff (h : ∀ a ∈ xs, Only (f a) (g a)) :
    xs.mapM f = .ok (xs.map g) ↔ ∀ a ∈ xs, f a = .ok (g a) := by
  induction xs with
  | nil => exact ⟨fun _ a ha => (by cases ha), fun _ => rfl⟩
  | cons a xs ih =>
    have htail : ∀ b ∈ xs, Only (f b) (g b) := fun b hb => h b (List.mem_cons_of_mem a hb)
    rw [List.mapM_cons, List.map_cons, (h a List.mem_cons_self).bind_ok_iff,
      (only_mapM htail).bind_ok_iff, ih htail, List.forall_mem_cons]
    exact ⟨fun hall => ⟨hall.1, hall.2.1⟩, fun hall => ⟨hall.1, hall.2, rfl⟩⟩

end Only

end Claims

import Mathlib.Data.List.Count
import Travelo.ReadCommitted.Table

/-!
# Counted claims

`load p t` is the number of rows of the table that satisfy `p`: the rows that use one unit
of a resource of which there are several. The lemmas bound the load after an update or an
insert, so that a bound `load p t ≤ n` is an invariant:

* a row that comes to satisfy `p` needs the load of the others, `loadBut`, to be below `n`;
* a new row that satisfies `p` needs the load to be below `n`.
-/

namespace Claims

open ReadCommitted

variable {α κ : Type} {key : α → κ}

/-- The rows that satisfy `p`. -/
def load (p : α → Bool) (t : Table key) : ℕ := t.rows.countP p

/-- The rows other than `k` that satisfy `p`. -/
def loadBut [DecidableEq κ] (p : α → Bool) (t : Table key) (k : κ) : ℕ :=
  t.rows.countP fun a => p a && key a ≠ k

variable {p : α → Bool} {t : Table key} {n : ℕ}

@[simp] theorem load_empty : load p (∅ : Table key) = 0 := rfl

theorem countP_le_add {p q r : α → Bool} (h : ∀ a, p a = true → q a = true ∨ r a = true)
    (l : List α) : l.countP p ≤ l.countP q + l.countP r := by
  induction l with
  | nil => simp
  | cons a l ih =>
    simp only [List.countP_cons]
    by_cases hp : p a = true
    · rcases h a hp with hq | hr
      · simp only [hp, hq, if_true]
        omega
      · simp only [hp, hr, if_true]
        omega
    · simp only [hp, Bool.false_eq_true, if_false]
      omega

theorem countP_key_le [DecidableEq κ] (t : Table key) (k : κ) :
    t.rows.countP (fun a => key a = k) ≤ 1 := by
  have hcount : t.rows.countP (fun a => key a = k) = (t.rows.map key).count k := by
    rw [List.count, List.countP_map]
    apply List.countP_congr
    intro a _
    simp
  rw [hcount]
  exact List.nodup_iff_count_le_one.mp t.nodup k

variable {f : α → α} {hf : ∀ a, key (f a) = key a}

theorem load_update {q : α → Bool} :
    load p (t.update q f hf) = t.rows.countP fun a => p (if q a then f a else a) := by
  simp only [load, Table.update, List.countP_map]
  rfl

theorem load_update_le {q : α → Bool} (hf : ∀ a, key (f a) = key a)
    (h : ∀ a ∈ t, q a = true → p (f a) = true → p a = true) :
    load p (t.update q f hf) ≤ load p t := by
  rw [load_update]
  refine List.countP_mono_left ?_
  intro a ha hp
  by_cases hq : q a = true
  · rw [if_pos hq] at hp
    exact h a ha hq hp
  · rwa [if_neg hq] at hp

theorem load_update_key_le [DecidableEq κ] {k : κ} :
    load p (t.update (fun a => key a = k) f hf) ≤ loadBut p t k + 1 := by
  rw [load_update]
  have hsplit : ∀ a, p (if decide (key a = k) = true then f a else a) = true →
      (p a && decide (key a ≠ k)) = true ∨ decide (key a = k) = true := by
    intro a hp
    by_cases hk : key a = k
    · exact .inr (by simpa using hk)
    · rw [if_neg (by simpa using hk)] at hp
      exact .inl (by simp [hp, hk])
  have hle := countP_le_add hsplit t.rows
  have hone := countP_key_le t k
  unfold loadBut
  omega

theorem load_update_key_bound [DecidableEq κ] {k : κ}
    (h : ∀ a ∈ t, key a = k → p (f a) = true → p a = true ∨ loadBut p t k < n) (hn : load p t ≤ n) :
    load p (t.update (fun a => key a = k) f hf) ≤ n := by
  by_cases hroom : loadBut p t k < n
  · have hone : load p (t.update (fun a => key a = k) f hf) ≤ loadBut p t k + 1 :=
      load_update_key_le
    omega
  · refine Nat.le_trans (load_update_le hf ?_) hn
    intro a ha hk hp
    rcases h a ha (by simpa using hk) hp with hold | hlt
    · exact hold
    · exact absurd hlt hroom

/-- A bound is kept by a new row that is not under `p` or finds the others below it. -/
theorem load_insert_bound [DecidableEq κ] {a : α} (h : p a = true → load p t < n)
    (hn : load p t ≤ n) : load p (t.insert a) ≤ n := by
  cases hk : t.hasKey (key a) with
  | true => simpa [Table.insert, hk] using hn
  | false =>
    unfold load at *
    rw [rows_insert hk, List.countP_append, List.countP_singleton]
    by_cases hp : p a = true
    · have hlt := h hp
      rw [if_pos hp]
      omega
    · rw [if_neg hp]
      exact hn

end Claims

import Mathlib.Data.Int.Notation
import Mathlib.Data.List.Basic

/-!
# Runs of equal days

A list of days with a value each, collapsed into runs: a run goes on while the next day
follows and has the same value. `mem_collapse` says that nothing is lost and nothing is
added: a value is given to a day by some run exactly when it is given to it in the list, and
`days_collapse` that the runs one after another are the list. The runs of a sorted list do not
overlap, and none could be longer: `pairwise_collapse`.
-/

namespace Claims

/-- The days `lo … hi`, both included, with one value. -/
structure Run (α : Type) where
  lo : ℤ
  hi : ℤ
  ordered : lo ≤ hi
  val : α

namespace Run

variable {α : Type}

/-- The run of one day. -/
def day (d : ℤ) (a : α) : Run α := ⟨d, d, Int.le_refl d, a⟩

/-- The run, with the day after it. -/
def extend (r : Run α) : Run α := { r with hi := r.hi + 1, ordered := by have := r.ordered; omega }

/-- The run gives the day this value. -/
def Gives (r : Run α) (d : ℤ) (a : α) : Prop := r.lo ≤ d ∧ d ≤ r.hi ∧ r.val = a

theorem day_gives {d e : ℤ} {a b : α} : (day d a).Gives e b ↔ (e, b) = (d, a) := by
  simp only [Gives, day, Prod.mk.injEq]
  constructor
  · rintro ⟨hlo, hhi, rfl⟩
    exact ⟨by omega, rfl⟩
  · rintro ⟨rfl, rfl⟩
    exact ⟨Int.le_refl _, Int.le_refl _, rfl⟩

theorem extend_gives {r : Run α} {e : ℤ} {b : α} :
    r.extend.Gives e b ↔ r.Gives e b ∨ (e, b) = (r.hi + 1, r.val) := by
  have hordered := r.ordered
  simp only [Gives, extend, Prod.mk.injEq]
  constructor
  · rintro ⟨hlo, hhi, rfl⟩
    by_cases hlast : e = r.hi + 1
    · exact .inr ⟨hlast, rfl⟩
    · exact .inl ⟨hlo, by omega, rfl⟩
  · rintro (⟨hlo, hhi, rfl⟩ | ⟨rfl, rfl⟩)
    · exact ⟨hlo, by omega, rfl⟩
    · exact ⟨by omega, Int.le_refl _, rfl⟩

variable [DecidableEq α]

/-- The loop: the run so far, then the days still to come. -/
def collapse : Run α → List (ℤ × α) → List (Run α)
  | r, [] => [r]
  | r, (d, a) :: rest =>
    if d = r.hi + 1 ∧ a = r.val then collapse r.extend rest else r :: collapse (day d a) rest

theorem mem_collapse {e : ℤ} {b : α} : ∀ (days : List (ℤ × α)) (r : Run α),
    (∃ u ∈ collapse r days, u.Gives e b) ↔ r.Gives e b ∨ (e, b) ∈ days := by
  intro days
  induction days with
  | nil => simp [collapse]
  | cons day rest ih =>
    obtain ⟨d, a⟩ := day
    intro r
    rw [collapse, List.mem_cons]
    by_cases hnext : d = r.hi + 1 ∧ a = r.val
    · -- the run goes on
      rw [if_pos hnext, ih, extend_gives, hnext.1, hnext.2, or_assoc]
    · rw [if_neg hnext]
      simp only [List.mem_cons, exists_eq_or_imp, ih, day_gives]

/-! ## Day by day -/

omit [DecidableEq α] in
/-- The days of a run, each with its value. -/
def days (r : Run α) : List (ℤ × α) :=
  (List.range (r.hi + 1 - r.lo).toNat).map fun (i : ℕ) => (r.lo + i, r.val)

omit [DecidableEq α] in
theorem days_day (d : ℤ) (a : α) : (day d a).days = [(d, a)] := by
  have hone : (d + 1 - d).toNat = 1 := by omega
  simp [days, day, hone]

omit [DecidableEq α] in
theorem days_extend (r : Run α) : r.extend.days = r.days ++ [(r.hi + 1, r.val)] := by
  have hordered := r.ordered
  have hlength : (r.hi + 1 + 1 - r.lo).toNat = (r.hi + 1 - r.lo).toNat + 1 := by omega
  have hlast : r.lo + ((r.hi + 1 - r.lo).toNat : ℤ) = r.hi + 1 := by omega
  simp only [days, extend, hlength, List.range_succ, List.map_append, List.map_cons, List.map_nil,
    hlast]

theorem days_collapse : ∀ (l : List (ℤ × α)) (r : Run α),
    (collapse r l).flatMap days = r.days ++ l := by
  intro l
  induction l with
  | nil => simp [collapse]
  | cons day rest ih =>
    obtain ⟨d, a⟩ := day
    intro r
    rw [collapse]
    by_cases hnext : d = r.hi + 1 ∧ a = r.val
    · rw [if_pos hnext, ih, days_extend, List.append_assoc, hnext.1, hnext.2]
      rfl
    · rw [if_neg hnext, List.flatMap_cons, ih, days_day]
      rfl

omit [DecidableEq α] in
/-- One run is before another, and where no day is between them they have different values. -/
def Apart (u v : Run α) : Prop := u.hi < v.lo ∧ (v.lo = u.hi + 1 → u.val ≠ v.val)

theorem lo_collapse {v : Run α} : ∀ (l : List (ℤ × α)) (r : Run α),
    (l.Pairwise fun d e => d.1 < e.1) → (∀ d ∈ l, r.hi < d.1) → v ∈ collapse r l →
      (v.lo = r.lo ∧ v.val = r.val) ∨ r.hi < v.lo := by
  intro l
  induction l with
  | nil =>
    intro r _ _ hv
    obtain rfl := List.mem_singleton.mp hv
    exact .inl ⟨rfl, rfl⟩
  | cons day rest ih =>
    obtain ⟨d, a⟩ := day
    intro r hsorted hafter hv
    obtain ⟨hfirst, hrest⟩ := List.pairwise_cons.mp hsorted
    have hd : r.hi < d := hafter (d, a) List.mem_cons_self
    rw [collapse] at hv
    by_cases hnext : d = r.hi + 1 ∧ a = r.val
    · rw [if_pos hnext] at hv
      have hlater : ∀ e ∈ rest, r.extend.hi < e.1 := by
        intro e he
        have hlt : d < e.1 := hfirst e he
        have hhi : r.extend.hi = r.hi + 1 := rfl
        omega
      rcases ih r.extend hrest hlater hv with hsame | hlt
      · exact .inl hsame
      · right
        have hhi : r.extend.hi = r.hi + 1 := rfl
        omega
    · rw [if_neg hnext] at hv
      rcases List.mem_cons.mp hv with rfl | hv
      · exact .inl ⟨rfl, rfl⟩
      · right
        rcases ih (.day d a) hrest hfirst hv with ⟨hlo, -⟩ | hlt
        · rw [hlo]
          exact hd
        · exact Int.lt_trans hd hlt

theorem pairwise_collapse : ∀ (l : List (ℤ × α)) (r : Run α),
    (l.Pairwise fun d e => d.1 < e.1) → (∀ d ∈ l, r.hi < d.1) → (collapse r l).Pairwise Apart := by
  intro l
  induction l with
  | nil => exact fun r _ _ => List.pairwise_singleton _ _
  | cons day rest ih =>
    obtain ⟨d, a⟩ := day
    intro r hsorted hafter
    obtain ⟨hfirst, hrest⟩ := List.pairwise_cons.mp hsorted
    have hd : r.hi < d := hafter (d, a) List.mem_cons_self
    rw [collapse]
    by_cases hnext : d = r.hi + 1 ∧ a = r.val
    · rw [if_pos hnext]
      refine ih r.extend hrest fun e he => ?_
      have hlt : d < e.1 := hfirst e he
      have hhi : r.extend.hi = r.hi + 1 := rfl
      omega
    · rw [if_neg hnext, List.pairwise_cons]
      refine ⟨fun v hv => ?_, ih _ hrest hfirst⟩
      rcases lo_collapse rest _ hrest hfirst hv with ⟨hlo, hval⟩ | hlt
      · -- the run that follows begins with the day that did not go on
        have hstart : v.lo = d := hlo
        refine ⟨by omega, fun hadjacent hsame => hnext ⟨by omega, ?_⟩⟩
        exact (hsame.trans hval).symm
      · have hlater : d < v.lo := hlt
        exact ⟨by omega, fun hadjacent => by omega⟩

end Run

end Claims

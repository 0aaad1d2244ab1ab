import Mathlib.Algebra.Order.BigOperators.Group.Finset
import Mathlib.Data.List.Sort
import Travelo.Claims.Arranged

/-!
# Reading a listing page by page

A listing is read by offset: page `k` holds the places from `size * k` on of the listing *as it is
when the page is asked for*. A page that is not full is the last one, and so is the one that reaches
the bound `cap`.

Each query answers with any of the listings allowed to it, so what is read exactly once in every
reading is what is on one page in all of its listings and on no other page in any of theirs
(`once_iff`). Where a query may answer with any arrangement, the places of an element decide it
(`forall_mem_page_iff`, `forall_notMem_page_iff`).
-/

namespace Claims.Paging

variable {α : Type} {size cap : ℕ}

/-! ## Pages -/

/-- Page `k` of a listing. -/
def page (size : ℕ) (l : List α) (k : ℕ) : List α := (l.drop (size * k)).take size

theorem page_sublist (l : List α) (k : ℕ) : (page size l k).Sublist l :=
  (List.take_sublist _ _).trans (List.drop_sublist _ _)

theorem length_page (l : List α) (k : ℕ) :
    (page size l k).length = min size (l.length - size * k) := by
  rw [page, List.length_take, List.length_drop]

theorem mem_page {l : List α} {k : ℕ} {x : α} :
    x ∈ page size l k ↔ ∃ m, size * k ≤ m ∧ m < size * (k + 1) ∧ l[m]? = some x := by
  rw [page, List.mem_iff_getElem?, Nat.mul_succ]
  constructor
  · rintro ⟨m, hm⟩
    rw [List.getElem?_take] at hm
    split at hm
    · rw [List.getElem?_drop] at hm
      exact ⟨size * k + m, by omega, by omega, hm⟩
    · cases hm
  · rintro ⟨m, hlow, hhigh, hm⟩
    refine ⟨m - size * k, ?_⟩
    rw [List.getElem?_take, if_pos (by omega), List.getElem?_drop, Nat.add_sub_cancel' hlow]
    exact hm

theorem countP_page {p : α → Bool} {l : List α} {x : α} (hp : p x = true)
    (honly : ∀ y ∈ l, p y = true → y = x) (hnodup : l.Nodup) [DecidableEq α] (k : ℕ) :
    (page size l k).countP p = if x ∈ page size l k then 1 else 0 := by
  have hsub : (page size l k).Sublist l := page_sublist l k
  have hcount : (page size l k).countP p = (page size l k).count x := by
    rw [List.count]
    refine List.countP_congr fun y hy => ?_
    constructor
    · intro hpy
      simpa using honly y (hsub.subset hy) hpy
    · intro heq
      obtain rfl : y = x := by simpa using heq
      exact hp
  rw [hcount]
  split
  · rename_i hmem
    exact List.count_eq_one_of_mem (hnodup.sublist hsub) hmem
  · rename_i hmem
    exact List.count_eq_zero.mpr hmem

/-! ## The pages that are asked for -/

/-- Every page before this one was full and did not reach the bound. -/
def Asked (size cap : ℕ) (length : ℕ → ℕ) (k : ℕ) : Prop :=
  ∀ i < k, size * (i + 1) ≤ length i ∧ size * (i + 1) < cap

variable {length : ℕ → ℕ}

instance : DecidablePred (Asked size cap length) :=
  fun k => inferInstanceAs (Decidable (∀ i < k, _))

theorem asked_zero : Asked size cap length 0 := by
  intro i hi
  omega

theorem asked_succ {k : ℕ} : Asked size cap length (k + 1) ↔
    Asked size cap length k ∧ size * (k + 1) ≤ length k ∧ size * (k + 1) < cap := by
  constructor
  · intro h
    exact ⟨fun i hi => h i (by omega), h k (by omega)⟩
  · rintro ⟨hbefore, hfull⟩ i hi
    rcases Nat.lt_succ_iff_lt_or_eq.mp hi with hlt | rfl
    · exact hbefore i hlt
    · exact hfull

theorem Asked.mono {i k : ℕ} (h : Asked size cap length k) (hik : i ≤ k) :
    Asked size cap length i :=
  fun j hj => h j (by omega)

theorem exists_last (hsize : 0 < size) (cap : ℕ) (length : ℕ → ℕ) :
    ∃ n, ∀ k, Asked size cap length k ↔ k ≤ n := by
  have hend : ∃ k, ¬Asked size cap length (k + 1) := by
    refine ⟨cap, fun h => ?_⟩
    have hcap := (h cap (by omega)).2
    have hle : cap + 1 ≤ size * (cap + 1) := Nat.le_mul_of_pos_left _ hsize
    omega
  refine ⟨Nat.find hend, fun k => ⟨fun h => ?_, fun h => ?_⟩⟩
  · by_contra hlt
    exact Nat.find_spec hend (h.mono (by omega))
  · match k, h with
    | 0, _ => exact asked_zero
    | k + 1, h => exact not_not.mp (Nat.find_min hend h)

/-! ## Exactly once -/

/-- **What is counted once in every reading is counted on one page always and on the others
never**: what one query answers does not depend on the answers before. -/
theorem once_iff (n : ℕ) (allowed : ℕ → List α → Prop) (c : ℕ → List α → ℕ)
    (hsome : ∀ k, ∃ l, allowed k l) :
    (∀ l : ℕ → List α, (∀ k, allowed k (l k)) → ∑ k ∈ Finset.range n, c k (l k) = 1) ↔
      ∃ j < n, (∀ l, allowed j l → c j l = 1) ∧
        ∀ i < n, i ≠ j → ∀ l, allowed i l → c i l = 0 := by
  constructor
  · intro h
    choose l₀ hl₀ using hsome
    have hsum := h l₀ hl₀
    -- Another answer to one query changes nothing.
    have hconst : ∀ i < n, ∀ l, allowed i l → c i l = c i (l₀ i) := by
      intro i hi l hl
      have hother := h (Function.update l₀ i l) fun k => by
        by_cases hk : k = i
        · subst hk
          simpa using hl
        · simpa [hk] using hl₀ k
      have hmem : i ∈ Finset.range n := Finset.mem_range.mpr hi
      rw [← Finset.add_sum_erase _ _ hmem] at hsum hother
      have hrest : ∑ k ∈ (Finset.range n).erase i, c k (Function.update l₀ i l k) =
          ∑ k ∈ (Finset.range n).erase i, c k (l₀ k) :=
        Finset.sum_congr rfl fun k hk => by
          rw [Function.update_of_ne (Finset.ne_of_mem_erase hk)]
      rw [hrest, Function.update_self] at hother
      omega
    have hone : ∃ j ∈ Finset.range n, c j (l₀ j) ≠ 0 := by
      by_contra hnone
      simp only [not_exists, not_and, not_not] at hnone
      rw [Finset.sum_eq_zero hnone] at hsum
      omega
    rcases hone with ⟨j, hj, hne⟩
    rw [← Finset.add_sum_erase _ _ hj] at hsum
    refine ⟨j, Finset.mem_range.mp hj, fun l hl => ?_, fun i hi hij l hl => ?_⟩
    · have heq := hconst j (Finset.mem_range.mp hj) l hl
      omega
    · have hin : i ∈ (Finset.range n).erase j :=
        Finset.mem_erase.mpr ⟨hij, Finset.mem_range.mpr hi⟩
      have hzero : ∑ k ∈ (Finset.range n).erase j, c k (l₀ k) = 0 := by omega
      rw [hconst i hi l hl]
      exact Finset.sum_eq_zero_iff.mp hzero i hin
  · rintro ⟨j, hj, hin, hout⟩ l hl
    rw [Finset.sum_eq_single j]
    · exact hin _ (hl j)
    · intro i hi hij
      exact hout i (Finset.mem_range.mp hi) hij _ (hl i)
    · intro hnot
      exact absurd (Finset.mem_range.mpr hj) hnot

section Places

variable {r : α → α → Prop} [Std.Total r] [IsTrans α r] [DecidableRel r] [DecidableEq α]
  {g : List α} {x : α}

omit [IsTrans α r] [DecidableEq α] in
theorem exists_place_of_mem (hx : x ∈ g) {l : List α} (hl : Arranged r g l) :
    ∃ m, l[m]? = some x ∧ strictlyBefore r g x ≤ m ∧ m < notAfter r g x := by
  rcases List.mem_iff_getElem?.mp (hl.mem.mpr hx) with ⟨m, hm⟩
  exact ⟨m, hm, hl.place hm⟩

theorem forall_mem_page_iff (hx : x ∈ g) (hnodup : g.Nodup) {k : ℕ} :
    (∀ l, Arranged r g l → x ∈ page size l k) ↔
      size * k ≤ strictlyBefore r g x ∧ notAfter r g x ≤ size * (k + 1) := by
  constructor
  · intro h
    rcases exists_place_of_mem hx (arranged_insertionSort (r := r) g) with ⟨m, -, hlow, hhigh⟩
    have hat : ∀ i, strictlyBefore r g x ≤ i → i < notAfter r g x →
        size * k ≤ i ∧ i < size * (k + 1) := by
      intro i hi hi'
      rcases exists_place hx hi hi' with ⟨l, hl, hget⟩
      rcases mem_page.mp (h l hl) with ⟨i', hlow', hhigh', hget'⟩
      have hlnodup : l.Nodup := hl.1.nodup_iff.mpr hnodup
      have heq : i = i' :=
        (List.getElem?_inj (List.getElem?_eq_some_iff.mp hget).1 hlnodup).mp
          (hget.trans hget'.symm)
      omega
    have hfirst := hat _ le_rfl (by omega)
    have hlast := hat (notAfter r g x - 1) (by omega) (by omega)
    omega
  · rintro ⟨hfirst, hlast⟩ l hl
    rcases exists_place_of_mem hx hl with ⟨m, hm, hlow, hhigh⟩
    exact mem_page.mpr ⟨m, by omega, by omega, hm⟩

/-- An element is on the page in no arrangement when all of its places are before or after it. -/
theorem forall_notMem_page_iff (hsize : 0 < size) (hx : x ∈ g) {k : ℕ} :
    (∀ l, Arranged r g l → x ∉ page size l k) ↔
      notAfter r g x ≤ size * k ∨ size * (k + 1) ≤ strictlyBefore r g x := by
  constructor
  · intro h
    by_contra hover
    rw [not_or, not_le, not_le] at hover
    rcases exists_place_of_mem hx (arranged_insertionSort (r := r) g) with ⟨m, -, hlow, hhigh⟩
    -- The first place of both.
    rcases exists_place (r := r) hx (le_max_left _ (size * k)) (max_lt (by omega) hover.1) with
      ⟨l, hl, hget⟩
    refine h l hl (mem_page.mpr ⟨_, le_max_right _ _, max_lt hover.2 ?_, hget⟩)
    rw [Nat.mul_succ]
    omega
  · intro h l hl hmem
    rcases mem_page.mp hmem with ⟨m, hin, hin', hget⟩
    rcases hl.place hget with ⟨hlow, hhigh⟩
    omega

end Places

end Claims.Paging

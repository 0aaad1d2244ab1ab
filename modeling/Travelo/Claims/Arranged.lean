import Mathlib.Data.List.Pairwise
import Mathlib.Data.List.Sort

/-!
# Lists in an order that leaves ties open

`ORDER BY` returns the rows in some list that is sorted by a total preorder `r`, and rows that are
equal by it in any order. `Arranged r g l`: the list `l` is such an order of the rows `g`.

What every arrangement does is then a condition on the preorder: a row is always last if every
other one is strictly before it (`forall_getLast?_iff`), some rows are always first
(`forall_prefix_iff`), and the places of a row are those between the rows strictly before it and
the rows that are not after it (`Arranged.place`, `exists_place`).
-/

namespace Claims

variable {α : Type} {r : α → α → Prop} {g l : List α}

/-- The rows `g` in an order by `r`. -/
def Arranged (r : α → α → Prop) (g l : List α) : Prop := l.Perm g ∧ l.Pairwise r

theorem Arranged.mem {x : α} (h : Arranged r g l) : x ∈ l ↔ x ∈ g := h.1.mem_iff

theorem pair_sublist_append {x y : α} {l l' : List α} (h : [x, y].Sublist (l ++ l')) :
    y ∈ l' ∨ (x ∈ l ∧ y ∈ l) := by
  rcases List.sublist_append_iff.mp h with ⟨s, s', heq, hs, hs'⟩
  match s, heq with
  | [], heq =>
    left
    exact hs'.subset (by rw [← List.nil_append s', ← heq]; simp)
  | [a], heq =>
    left
    simp only [List.singleton_append, List.cons.injEq] at heq
    exact hs'.subset (by rw [← heq.2]; simp)
  | a :: b :: s, heq =>
    right
    simp only [List.cons_append, List.cons.injEq] at heq
    rcases heq with ⟨rfl, rfl, -⟩
    exact ⟨hs.subset (by simp), hs.subset (by simp)⟩

theorem eq_filter_append {p : α → Bool} :
    ∀ {l : List α}, l.Pairwise (fun y z => p z = true → p y = true) →
      l = l.filter p ++ l.filter fun a => !p a
  | [], _ => rfl
  | a :: l, h => by
    rcases List.pairwise_cons.mp h with ⟨hhead, htail⟩
    have hrest := eq_filter_append htail
    cases ha : p a with
    | true => simpa [List.filter_cons, ha] using hrest
    | false =>
      -- After an element outside there are only such.
      have hnone : ∀ b ∈ l, p b = false := by
        intro b hb
        cases hpb : p b with
        | false => rfl
        | true =>
          have htrue := hhead b hb hpb
          rw [ha] at htrue
          cases htrue
      have hempty : l.filter p = [] := List.filter_eq_nil_iff.mpr fun b hb => by simp [hnone b hb]
      have hall : (l.filter fun b => !p b) = l :=
        List.filter_eq_self.mpr fun b hb => by simp [hnone b hb]
      simp [ha, hempty, hall]

section Order

variable [Std.Total r] [IsTrans α r]

omit [IsTrans α r] in
theorem rel_of_not {x y : α} (h : ¬r x y) : r y x := (Std.Total.total x y).resolve_left h

omit [IsTrans α r] in
theorem rel_self (x : α) : r x x := (Std.Total.total x x).elim id id

variable [DecidableRel r]

theorem arranged_insertionSort (g : List α) : Arranged r g (g.insertionSort r) :=
  ⟨List.perm_insertionSort r g, List.pairwise_insertionSort r g⟩

theorem exists_before [DecidableEq α] {x y : α} (hx : x ∈ g) (hy : y ∈ g) (hne : x ≠ y)
    (hr : r x y) : ∃ l, Arranged r g l ∧ [x, y].Sublist l := by
  refine ⟨(x :: g.erase x).insertionSort r, ⟨?_, List.pairwise_insertionSort r _⟩, ?_⟩
  · exact (List.perm_insertionSort r _).trans (List.perm_cons_erase hx).symm
  · refine List.pair_sublist_insertionSort hr ?_
    have hmem : y ∈ g.erase x := (List.mem_erase_of_ne (Ne.symm hne)).mpr hy
    exact (List.singleton_sublist.mpr hmem).cons_cons x

theorem forall_getLast?_iff [DecidableEq α] {x : α} (hx : x ∉ g) :
    (∀ l, Arranged r (g ++ [x]) l → l.getLast? = some x) ↔ ∀ y ∈ g, ¬r x y := by
  constructor
  · intro h y hy hr
    have hne : x ≠ y := fun heq => hx (heq ▸ hy)
    rcases exists_before (g := g ++ [x]) (by simp) (List.mem_append_left _ hy) hne hr with
      ⟨l, hl, hsub⟩
    have hlast := h l hl
    rw [List.getLast?_eq_some_iff] at hlast
    rcases hlast with ⟨l', rfl⟩
    have hcount : x ∉ l' := by
      intro hmem
      have hnodup : ((l' ++ [x]).count x) = (g ++ [x]).count x := hl.1.count_eq x
      have hpos : 0 < l'.count x := List.count_pos_iff.mpr hmem
      have hzero : g.count x = 0 := List.count_eq_zero.mpr hx
      simp only [List.count_append] at hnodup
      omega
    rcases pair_sublist_append hsub with hin | hin
    · exact hne (List.mem_singleton.mp hin).symm
    · exact hcount hin.1
  · intro h l hl
    rcases List.eq_nil_or_concat l with rfl | ⟨l', z, rfl⟩
    · have hmem : x ∈ ([] : List α) := hl.mem.mpr (by simp)
      cases hmem
    · rw [List.concat_eq_append] at hl ⊢
      rw [List.getLast?_concat, Option.some.injEq]
      have hz : z ∈ g ++ [x] := hl.mem.mp (by simp)
      rcases List.mem_append.mp hz with hzg | hzx
      · -- Some other row is last, so the row is before it.
        have hxl : x ∈ l' ++ [z] := hl.mem.mpr (by simp)
        rcases List.mem_append.mp hxl with hxl' | hxz
        · exact absurd ((List.pairwise_append.mp hl.2).2.2 x hxl' z (by simp)) (h z hzg)
        · exact (List.mem_singleton.mp hxz).symm
      · exact List.mem_singleton.mp hzx

/-- **Some rows are always first exactly when every other row is strictly after them.** -/
theorem forall_prefix_iff [DecidableEq α] {a b : List α} (hg : g.Perm (a ++ b)) (hnodup : g.Nodup)
    (ha : a.Pairwise fun x y => r x y ∧ ¬r y x) :
    (∀ l, Arranged r g l → a <+: l) ↔ ∀ x ∈ a, ∀ y ∈ b, ¬r y x := by
  have hparts : (a ++ b).Nodup := hg.nodup_iff.mp hnodup
  have hapart : ∀ x ∈ a, ∀ y ∈ b, x ≠ y := (List.nodup_append.mp hparts).2.2
  constructor
  · intro h x hx y hy hr
    have hyg : y ∈ g := hg.mem_iff.mpr (List.mem_append_right _ hy)
    have hxg : x ∈ g := hg.mem_iff.mpr (List.mem_append_left _ hx)
    rcases exists_before hyg hxg (hapart x hx y hy).symm hr with ⟨l, hl, hsub⟩
    rcases h l hl with ⟨t, rfl⟩
    have hlnodup : (a ++ t).Nodup := hl.1.nodup_iff.mpr hnodup
    rcases pair_sublist_append hsub with hin | hin
    · exact (List.nodup_append.mp hlnodup).2.2 x hx x hin rfl
    · exact hapart y hin.1 y hy rfl
  · intro h l hl
    have hsplit : l = l.filter (fun z => decide (z ∈ a)) ++ l.filter fun z => !decide (z ∈ a) := by
      apply eq_filter_append
      refine hl.2.imp_of_mem fun {y z} hy hz hr hza => ?_
      have hza' : z ∈ a := by simpa using hza
      have hyab : y ∈ a ++ b := hg.mem_iff.mp (hl.mem.mp hy)
      rcases List.mem_append.mp hyab with hya | hyb
      · simpa using hya
      · exact absurd hr (h z hza' y hyb)
    have hfirst : l.filter (fun z => decide (z ∈ a)) = a := by
      have hperm : (l.filter fun z => decide (z ∈ a)).Perm a := by
        refine ((hl.1.trans hg).filter _).trans ?_
        rw [List.filter_append, List.filter_eq_self.mpr fun z hz => by simpa using hz,
          List.filter_eq_nil_iff.mpr fun z hz => by simpa using fun hza => hapart z hza z hz rfl,
          List.append_nil]
      have hsorted : (l.filter fun z => decide (z ∈ a)).Pairwise r := hl.2.filter _
      refine List.Perm.eq_of_pairwise ?_ hsorted (ha.imp fun h => h.1) hperm
      intro x y hx hy hxy hyx
      by_contra hne
      have hxa : x ∈ a := hperm.mem_iff.mp hx
      -- Of two named rows one is strictly first.
      have hapair : a.Pairwise fun x y => ¬(r x y ∧ r y x) := ha.imp fun h hboth => h.2 hboth.2
      have : Std.Symm fun x y => ¬(r x y ∧ r y x) := ⟨fun _ _ h hboth => h hboth.symm⟩
      exact hapair.forall hxa hy hne ⟨hxy, hyx⟩
    rw [hsplit, hfirst]
    exact List.prefix_append _ _

/-! ## Places -/

/-- The rows strictly before a row. -/
def strictlyBefore (r : α → α → Prop) [DecidableRel r] (g : List α) (x : α) : ℕ :=
  g.countP fun y => ¬r x y

/-- The rows that are not after a row: those before it and those equal to it. -/
def notAfter (r : α → α → Prop) [DecidableRel r] (g : List α) (x : α) : ℕ :=
  g.countP fun y => r y x

omit [IsTrans α r] in
theorem Arranged.place {x : α} {k : ℕ} (h : Arranged r g l) (hk : l[k]? = some x) :
    strictlyBefore r g x ≤ k ∧ k < notAfter r g x := by
  rcases List.getElem?_eq_some_iff.mp hk with ⟨hlt, hget⟩
  have hsplit : l = l.take k ++ x :: l.drop (k + 1) := by
    rw [← hget, List.getElem_cons_drop, List.take_append_drop]
  have hsorted := h.2
  rw [hsplit, List.pairwise_append, List.pairwise_cons] at hsorted
  rcases hsorted with ⟨-, ⟨hafter, -⟩, hbefore⟩
  have hlen : (l.take k).length = k := by
    rw [List.length_take]
    omega
  constructor
  · -- What is strictly before the row is not behind it.
    have hnone : (x :: l.drop (k + 1)).countP (fun y => ¬r x y) = 0 := by
      rw [List.countP_eq_zero]
      intro y hy
      rcases List.mem_cons.mp hy with rfl | hy
      · simp [rel_self]
      · simp [hafter y hy]
    have hcount : strictlyBefore r g x = (l.take k).countP fun y => ¬r x y := by
      rw [strictlyBefore, ← h.1.countP_eq, hsplit, List.countP_append, hnone, Nat.add_zero,
        ← hsplit]
    rw [hcount]
    exact List.countP_le_length.trans_eq hlen
  · -- What is in front of the row is not after it.
    have hall : (l.take k).countP (fun y => r y x) = k := by
      rw [List.countP_eq_length.mpr, hlen]
      intro y hy
      simpa using hbefore y hy x List.mem_cons_self
    have hcount : notAfter r g x = k + (x :: l.drop (k + 1)).countP fun y => r y x := by
      rw [notAfter, ← h.1.countP_eq, hsplit, List.countP_append, ← hsplit, hall]
    rw [hcount, List.countP_cons_of_pos (by simp [rel_self])]
    omega

theorem exists_place [DecidableEq α] {x : α} {k : ℕ} (hx : x ∈ g)
    (hlow : strictlyBefore r g x ≤ k) (hhigh : k < notAfter r g x) :
    ∃ l, Arranged r g l ∧ l[k]? = some x := by
  -- The rows before, those equal to it and those after.
  let before := (g.filter fun y => ¬r x y).insertionSort r
  let equal := (g.filter fun y => r x y).filter fun y => r y x
  let after := ((g.filter fun y => r x y).filter fun y => ¬r y x).insertionSort r
  let rest := equal.erase x
  let m := k - before.length
  have hbefore : before.length = strictlyBefore r g x := by
    rw [List.length_insertionSort, strictlyBefore, List.countP_eq_length_filter]
  have hxequal : x ∈ equal := by
    simp [equal, hx, rel_self]
  have hnot : notAfter r g x = before.length + equal.length := by
    have hall : (g.filter fun y => !decide (r x y)).countP (fun y => decide (r y x)) =
        (g.filter fun y => !decide (r x y)).length := by
      rw [List.countP_eq_length]
      intro y hy
      have hno : ¬r x y := by simpa using (List.mem_filter.mp hy).2
      simpa using rel_of_not hno
    rw [notAfter, List.countP_eq_countP_filter_add g _ fun y => decide (r x y), hall,
      List.countP_eq_length_filter, List.length_insertionSort, Nat.add_comm]
    simp [equal]
  have hlen : rest.length + 1 = equal.length := by
    rw [List.length_erase_of_mem hxequal]
    have hpos := List.length_pos_of_mem hxequal
    omega
  have hm : m ≤ rest.length := by omega
  refine ⟨before ++ ((rest.take m ++ x :: rest.drop m) ++ after), ⟨?_, ?_⟩, ?_⟩
  · have hmiddle : (rest.take m ++ x :: rest.drop m).Perm equal := by
      refine List.perm_middle.trans ?_
      rw [List.take_append_drop]
      exact (List.perm_cons_erase hxequal).symm
    have hlast : ((rest.take m ++ x :: rest.drop m) ++ after).Perm (g.filter fun y => r x y) := by
      refine (hmiddle.append (List.perm_insertionSort r _)).trans ?_
      have hparts := List.filter_append_perm (fun y => decide (r y x)) (g.filter fun y => r x y)
      simpa only [equal, decide_not] using hparts
    refine ((List.perm_insertionSort r _).append hlast).trans ?_
    refine List.perm_append_comm.trans ?_
    simpa using List.filter_append_perm (fun y => decide (r x y)) g
  · have hmemB : ∀ y ∈ before, r y x := by
      intro y hy
      have hno : ¬r x y := by simpa using (List.mem_filter.mp (List.mem_insertionSort r |>.mp hy)).2
      exact rel_of_not hno
    have hmemM : ∀ y ∈ rest.take m ++ x :: rest.drop m, r y x ∧ r x y := by
      intro y hy
      have hyequal : y ∈ equal := by
        rcases List.mem_append.mp hy with hfirst | hsecond
        · exact List.mem_of_mem_erase (List.mem_of_mem_take hfirst)
        · rcases List.mem_cons.mp hsecond with rfl | hlast
          · exact hxequal
          · exact List.mem_of_mem_erase (List.mem_of_mem_drop hlast)
      simp only [equal, List.mem_filter, decide_eq_true_eq] at hyequal
      exact ⟨hyequal.2, hyequal.1.2⟩
    have hmemA : ∀ y ∈ after, r x y := by
      intro y hy
      have hin := List.mem_filter.mp (List.mem_insertionSort r |>.mp hy)
      simpa using (List.mem_filter.mp hin.1).2
    rw [List.pairwise_append, List.pairwise_append]
    refine ⟨List.pairwise_insertionSort r _, ⟨?_, List.pairwise_insertionSort r _, ?_⟩, ?_⟩
    · exact List.pairwise_of_forall_mem_list fun y hy z hz =>
        IsTrans.trans _ _ _ (hmemM y hy).1 (hmemM z hz).2
    · exact fun y hy z hz => IsTrans.trans _ _ _ (hmemM y hy).1 (hmemA z hz)
    · intro y hy z hz
      rcases List.mem_append.mp hz with hmiddle | hlast
      · exact IsTrans.trans _ _ _ (hmemB y hy) (hmemM z hmiddle).2
      · exact IsTrans.trans _ _ _ (hmemB y hy) (hmemA z hlast)
  · have htake : (rest.take m).length = m := by
      rw [List.length_take]
      omega
    have hk : k = before.length + m := by omega
    rw [hk, List.getElem?_append_right (by omega), Nat.add_sub_cancel_left,
      List.getElem?_append_left (by simp; omega), List.getElem?_append_right (by omega), htake,
      Nat.sub_self]
    rfl

end Order

end Claims

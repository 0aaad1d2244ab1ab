import Mathlib.Data.Set.Insert
import Mathlib.Logic.ExistsUnique

/-!
# Members and their groups

Each member is at a place and in a group, each group is at a place and may be private. `Linked`: the
group of a member is there, at the place of the member. `Sole`: a private group has one member. What
founds a group, moves a member or takes one away keeps the two under the conditions of its lemma.
-/

namespace Claims

/-- The members with their places and groups, and the groups with their places. -/
@[ext]
structure Registry (ι κ π : Type) where
  members : Set (ι × π × κ)
  groups : Set (κ × π × Bool)

namespace Registry

variable {ι κ π : Type} {s : Registry ι κ π} {i : ι} {k : κ} {p : π} {b : Bool} {is : Set ι}

def Linked (s : Registry ι κ π) : Prop := ∀ i p k, (i, p, k) ∈ s.members → ∃ b, (k, p, b) ∈ s.groups

def Sole (s : Registry ι κ π) : Prop :=
  ∀ k p, (k, p, true) ∈ s.groups → ∃! i, ∃ p', (i, p', k) ∈ s.members

/-- The group is not private. -/
def Shared (s : Registry ι κ π) (k : κ) : Prop := ∀ p, (k, p, true) ∉ s.groups

/-- The member is in this group. -/
def In (s : Registry ι κ π) (i : ι) (k : κ) : Prop := ∃ p, (i, p, k) ∈ s.members

/-! ## Steps -/

/-- A new group. -/
def found (s : Registry ι κ π) (k : κ) (p : π) (b : Bool) : Registry ι κ π :=
  { s with groups := insert (k, p, b) s.groups }

/-- New members of a group. -/
def join (s : Registry ι κ π) (is : Set ι) (p : π) (k : κ) : Registry ι κ π :=
  { s with members := s.members ∪ {m | m.1 ∈ is ∧ m.2 = (p, k)} }

/-- A member goes to another group, at its place. -/
def move (s : Registry ι κ π) (i : ι) (k : κ) : Registry ι κ π :=
  { s with members := {m | m ∈ s.members ∧ m.1 ≠ i ∨ m.1 = i ∧ m.2.2 = k ∧
      ∃ k', (i, m.2.1, k') ∈ s.members} }

/-- A member goes away. -/
def leave (s : Registry ι κ π) (i : ι) : Registry ι κ π :=
  { s with members := {m | m ∈ s.members ∧ m.1 ≠ i} }

/-- A group goes away. -/
def dissolve (s : Registry ι κ π) (k : κ) : Registry ι κ π :=
  { s with groups := {g | g ∈ s.groups ∧ g.1 ≠ k} }

/-! ## The group of a member is there -/

theorem Linked.found (h : s.Linked) : (s.found k p b).Linked := by
  intro i q l hi
  obtain ⟨b', hb'⟩ := h i q l hi
  exact ⟨b', Set.mem_insert_of_mem _ hb'⟩

theorem Linked.join (h : s.Linked) (hk : (k, p, b) ∈ s.groups) : (s.join is p k).Linked := by
  rintro i q l (hi | ⟨-, heq⟩)
  · exact h i q l hi
  · cases heq
    exact ⟨b, hk⟩

theorem Linked.move (h : s.Linked) (hk : ∀ p k', (i, p, k') ∈ s.members → ∃ b, (k, p, b) ∈ s.groups) :
    (s.move i k).Linked := by
  rintro j q l (⟨hj, -⟩ | ⟨-, hl, k', hi⟩)
  · exact h j q l hj
  · obtain rfl : l = k := hl
    exact hk q k' hi

theorem Linked.leave (h : s.Linked) : (s.leave i).Linked := fun j q l hj => h j q l hj.1

theorem Linked.dissolve (h : s.Linked) (hk : ∀ i, ¬s.In i k) : (s.dissolve k).Linked := by
  intro i q l hi
  obtain ⟨b, hb⟩ := h i q l hi
  refine ⟨b, hb, ?_⟩
  rintro rfl
  exact hk i ⟨q, hi⟩

/-! ## A private group has one member -/

theorem Sole.congr {s' : Registry ι κ π} (h : s.Sole)
    (hgroups : ∀ k p, (k, p, true) ∈ s'.groups → (k, p, true) ∈ s.groups)
    (hmembers : ∀ i k p, (k, p, true) ∈ s'.groups → (s'.In i k ↔ s.In i k)) : s'.Sole := by
  intro k p hk
  obtain ⟨i, hi, honly⟩ := h k p (hgroups k p hk)
  exact ⟨i, (hmembers i k p hk).mpr hi, fun j hj => honly j ((hmembers j k p hk).mp hj)⟩

theorem Sole.found_shared (h : s.Sole) : (s.found k p false).Sole := by
  refine h.congr (fun l q hl => ?_) fun _ _ _ _ => Iff.rfl
  rcases hl with heq | hl
  · cases heq
  · exact hl

theorem Sole.found_join (h : s.Sole) (hnew : ∀ i, ¬s.In i k) :
    ((s.found k p true).join {i} p k).Sole := by
  intro l q hl
  by_cases hlk : l = k
  · subst hlk
    refine ⟨i, ⟨p, .inr ⟨rfl, rfl⟩⟩, ?_⟩
    rintro j ⟨q', hj | ⟨hj, -⟩⟩
    · exact absurd ⟨q', hj⟩ (hnew j)
    · exact hj
  · have hold : (l, q, true) ∈ s.groups := by
      rcases hl with heq | hl
      · cases heq
        exact absurd rfl hlk
      · exact hl
    obtain ⟨j, ⟨q', hj⟩, honly⟩ := h l q hold
    refine ⟨j, ⟨q', .inl hj⟩, ?_⟩
    rintro j' ⟨q'', hj' | ⟨-, heq⟩⟩
    · exact honly j' ⟨q'', hj'⟩
    · cases heq
      exact absurd rfl hlk

theorem Sole.join (h : s.Sole) (hk : s.Shared k) : (s.join is p k).Sole := by
  refine h.congr (fun _ _ hl => hl) fun j l q hl => ⟨?_, fun ⟨q', hj⟩ => ⟨q', .inl hj⟩⟩
  rintro ⟨q', hj | ⟨-, heq⟩⟩
  · exact ⟨q', hj⟩
  · cases heq
    exact absurd hl (hk q)

theorem move_eq (h : ∀ p k', (i, p, k') ∈ s.members → k' = k) : s.move i k = s := by
  refine Registry.ext (Set.ext fun m => ⟨?_, fun hm => ?_⟩) rfl
  · rintro (⟨hm, -⟩ | ⟨hi, hk, k', hm⟩)
    · exact hm
    · obtain rfl := h _ _ hm
      obtain ⟨j, q, l⟩ := m
      obtain rfl : j = i := hi
      obtain rfl : l = k' := hk
      exact hm
  · by_cases hi : m.1 = i
    · obtain ⟨j, q, l⟩ := m
      obtain rfl : j = i := hi
      exact .inr ⟨rfl, h q l hm, l, hm⟩
    · exact .inl ⟨hm, hi⟩

theorem Sole.move (h : s.Sole) (hold : ∀ k', s.In i k' → s.Shared k') (hk : s.Shared k) :
    (s.move i k).Sole := by
  refine h.congr (fun _ _ hl => hl) fun j l q hl => ⟨?_, ?_⟩
  · rintro ⟨q', ⟨hj, -⟩ | ⟨-, hlk, -⟩⟩
    · exact ⟨q', hj⟩
    · obtain rfl : l = k := hlk
      exact absurd hl (hk q)
  · rintro ⟨q', hj⟩
    refine ⟨q', .inl ⟨hj, ?_⟩⟩
    rintro rfl
    exact hold l ⟨q', hj⟩ q hl

theorem Sole.leave (h : s.Sole) (hold : ∀ k', s.In i k' → s.Shared k') : (s.leave i).Sole := by
  refine h.congr (fun _ _ hl => hl) fun j l q hl => ⟨fun ⟨q', hj⟩ => ⟨q', hj.1⟩, ?_⟩
  rintro ⟨q', hj⟩
  refine ⟨q', hj, ?_⟩
  rintro rfl
  exact hold l ⟨q', hj⟩ q hl

theorem Sole.dissolve (h : s.Sole) : (s.dissolve k).Sole :=
  h.congr (fun _ _ hl => hl.1) fun _ _ _ _ => Iff.rfl

theorem Sole.leave_dissolve (h : s.Sole) (hi : ∀ k', s.In i k' → k' = k) :
    ((s.leave i).dissolve k).Sole := by
  refine h.congr (fun _ _ hl => hl.1) fun j l q hl => ⟨fun ⟨q', hj⟩ => ⟨q', hj.1⟩, ?_⟩
  rintro ⟨q', hj⟩
  refine ⟨q', hj, ?_⟩
  rintro rfl
  exact hl.2 (hi l ⟨q', hj⟩)

end Registry

end Claims

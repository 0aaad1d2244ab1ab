import Mathlib.Data.List.Nodup
import Mathlib.Data.List.Basic

/-!
# Tables with a primary key

A `Table key` is a list of rows in insertion order in which no key occurs twice:
the primary key is a field of the structure, so no statement can break it.
-/

namespace ReadCommitted

theorem find?_eq_some_of_unique {α : Type} {p : α → Bool} {l : List α} {a : α} (ha : a ∈ l)
    (hp : p a = true) (hu : ∀ b ∈ l, p b = true → b = a) : l.find? p = some a := by
  cases hf : l.find? p with
  | none => exact absurd hp (List.find?_eq_none.mp hf a ha)
  | some b => rw [hu b (List.mem_of_find?_eq_some hf) (List.find?_some hf)]

/-- A table: its rows in insertion order, no two with the same key. -/
structure Table {α κ : Type} (key : α → κ) where
  rows : List α
  nodup : (rows.map key).Nodup

namespace Table

variable {α κ : Type} {key : α → κ}

instance : Membership α (Table key) where
  mem t a := a ∈ t.rows

variable {t : Table key} {a : α}

theorem mem_rows : a ∈ t.rows ↔ a ∈ t := Iff.rfl

instance : EmptyCollection (Table key) where
  emptyCollection := ⟨[], List.nodup_nil⟩

@[simp] theorem rows_empty : (∅ : Table key).rows = [] := rfl

@[simp] theorem notMem_empty (a : α) : a ∉ (∅ : Table key) := by
  simp [← mem_rows]

instance (t : Table key) (p : α → Prop) [DecidablePred p] : Decidable (∀ a ∈ t, p a) :=
  inferInstanceAs (Decidable (∀ a ∈ t.rows, p a))

instance (t : Table key) (p : α → Prop) [DecidablePred p] : Decidable (∃ a ∈ t, p a) :=
  inferInstanceAs (Decidable (∃ a ∈ t.rows, p a))

theorem eq_of_key_eq {a b : α} (ha : a ∈ t) (hb : b ∈ t) (h : key a = key b) :
    a = b :=
  List.inj_on_of_nodup_map t.nodup ha hb h

/-! ## Lookup -/

/-- `SELECT … WHERE key = k LIMIT 1`. -/
def find? [DecidableEq κ] (t : Table key) (k : κ) : Option α :=
  t.rows.find? fun a => key a = k

variable {k : κ}

theorem find?_eq_some [DecidableEq κ] :
    t.find? k = some a ↔ a ∈ t ∧ key a = k := by
  constructor
  · intro h
    exact ⟨List.mem_of_find?_eq_some h, by simpa using List.find?_some h⟩
  · rintro ⟨ha, rfl⟩
    refine find?_eq_some_of_unique ha (by simp) ?_
    intro b hb hk
    exact eq_of_key_eq hb ha (by simpa using hk)

theorem mem_of_find? [DecidableEq κ] (h : t.find? k = some a) :
    a ∈ t :=
  (find?_eq_some.mp h).1

theorem key_of_find? [DecidableEq κ] (h : t.find? k = some a) :
    key a = k :=
  (find?_eq_some.mp h).2

theorem find?_key [DecidableEq κ] (h : a ∈ t) :
    t.find? (key a) = some a :=
  find?_eq_some.mpr ⟨h, rfl⟩

/-! ## `UPDATE` -/

/-- `UPDATE … SET … WHERE p`; the assignment leaves the primary key alone. -/
def update (t : Table key) (p : α → Bool) (f : α → α)
    (hf : ∀ a, key (f a) = key a := by intro _; rfl) : Table key where
  rows := t.rows.map fun a => if p a then f a else a
  nodup := by
    have hkeys : (t.rows.map fun a => if p a then f a else a).map key = t.rows.map key := by
      rw [List.map_map]
      apply List.map_congr_left
      intro a _
      by_cases hp : p a <;> simp [hp, hf]
    rw [hkeys]
    exact t.nodup

variable {p : α → Bool}

theorem length_filter_le_one :
    (t.rows.filter p).length ≤ 1 ↔ ∀ a ∈ t, ∀ b ∈ t, p a = true → p b = true → a = b := by
  constructor
  · intro h a ha b hb hpa hpb
    have hma : a ∈ t.rows.filter p := List.mem_filter.mpr ⟨ha, hpa⟩
    have hmb : b ∈ t.rows.filter p := List.mem_filter.mpr ⟨hb, hpb⟩
    match hl : t.rows.filter p with
    | [] =>
      rw [hl] at hma
      cases hma
    | [c] =>
      rw [hl, List.mem_singleton] at hma hmb
      rw [hma, hmb]
    | _ :: _ :: _ =>
      rw [hl] at h
      simp at h
  · intro h
    have hnodup : (t.rows.filter p).Nodup := (List.Nodup.of_map key t.nodup).filter _
    match hl : t.rows.filter p with
    | [] => simp
    | [a] => simp
    | a :: b :: rest =>
      have ha : a ∈ t.rows.filter p := by simp [hl]
      have hb : b ∈ t.rows.filter p := by simp [hl]
      rw [List.mem_filter] at ha hb
      rw [hl, h a ha.1 b hb.1 ha.2 hb.2] at hnodup
      simp at hnodup

theorem filter_key_eq_singleton [DecidableEq κ] :
    (t.rows.filter fun b => key b = k) = [a] ↔ t.find? k = some a := by
  have hhead : t.find? k = (t.rows.filter fun b => key b = k).head? := by
    rw [List.head?_filter]
    rfl
  have hone : (t.rows.filter fun b => key b = k).length ≤ 1 := by
    rw [length_filter_le_one]
    intro b hb c hc hbk hck
    have hbk' : key b = k := by simpa using hbk
    have hck' : key c = k := by simpa using hck
    exact eq_of_key_eq hb hc (hbk'.trans hck'.symm)
  rw [hhead]
  match hl : t.rows.filter fun b => key b = k with
  | [] => simp
  | [b] => simp
  | _ :: _ :: _ =>
    rw [hl] at hone
    simp at hone

variable {f : α → α} {hf : ∀ a, key (f a) = key a}

theorem mem_update {b : α} :
    b ∈ t.update p f hf ↔ ∃ a ∈ t, b = if p a then f a else a := by
  simp only [← mem_rows, update, List.mem_map]
  constructor
  · rintro ⟨a, ha, rfl⟩
    exact ⟨a, ha, rfl⟩
  · rintro ⟨a, ha, rfl⟩
    exact ⟨a, ha, rfl⟩

theorem mem_update_of_mem (hf : ∀ a, key (f a) = key a) (ha : a ∈ t) (hp : p a = true) :
    f a ∈ t.update p f hf :=
  mem_update.mpr ⟨a, ha, by rw [if_pos hp]⟩

theorem countP_update {p q : α → Bool} (ha : a ∈ t) (hpa : p a = true)
    (honly : ∀ b ∈ t, p b = true → b = a) :
    (t.update p f hf).rows.countP q + (if q a then 1 else 0) =
      t.rows.countP q + if q (f a) then 1 else 0 := by
  obtain ⟨l, l', hrows⟩ := List.append_of_mem ha
  have hnodup : t.rows.Nodup := List.Nodup.of_map key t.nodup
  rw [hrows, List.nodup_append] at hnodup
  obtain ⟨-, htail, happart⟩ := hnodup
  have hsame : ∀ m : List α, (∀ b ∈ m, b ∈ t ∧ b ≠ a) →
      m.map (fun b => if p b then f b else b) = m := by
    intro m hm
    refine (List.map_congr_left fun b hb => ?_).trans (List.map_id _)
    have hpb : ¬p b = true := fun h => (hm b hb).2 (honly b (hm b hb).1 h)
    rw [if_neg hpb]
    rfl
  have hl := hsame l fun b hb =>
    ⟨by rw [← mem_rows, hrows]; exact List.mem_append_left _ hb,
      happart b hb a List.mem_cons_self⟩
  have hl' := hsame l' fun b hb =>
    ⟨by rw [← mem_rows, hrows]; exact List.mem_append_right _ (List.mem_cons_of_mem a hb),
      fun heq => (List.nodup_cons.mp htail).1 (heq ▸ hb)⟩
  show List.countP q (t.rows.map _) + _ = _
  rw [hrows, List.map_append, List.map_cons, hl, hl', if_pos hpa]
  simp only [List.countP_append, List.countP_cons]
  omega

theorem find?_update [DecidableEq κ] (k : κ) :
    (t.update p f hf).find? k = (t.find? k).map fun a => if p a then f a else a := by
  have hkey : ∀ a, key (if p a then f a else a) = key a := by
    intro a
    by_cases hp : p a <;> simp [hp, hf]
  simp only [find?, update, List.find?_map]
  congr 1
  apply congrArg (fun q => List.find? q t.rows)
  funext a
  simp [hkey]

theorem find?_update_self [DecidableEq κ] (f : α → α) (hf : ∀ a, key (f a) = key a) (k : κ) :
    (t.update (fun a => key a = k) f hf).find? k = (t.find? k).map f := by
  rw [find?_update]
  cases h : t.find? k with
  | none => rfl
  | some a => simp [key_of_find? h]

theorem find?_update_ne [DecidableEq κ] (f : α → α) (hf : ∀ a, key (f a) = key a) {k k' : κ}
    (h : k' ≠ k) :
    (t.update (fun a => key a = k) f hf).find? k' = t.find? k' := by
  rw [find?_update]
  cases ha : t.find? k' with
  | none => rfl
  | some a => simp [key_of_find? ha, h]

theorem filter_update {p q : α → Bool} (hf : ∀ a, key (f a) = key a)
    (hq : ∀ a ∈ t, p a = true → q a = false ∧ q (f a) = false) :
    (t.update p f hf).rows.filter q = t.rows.filter q := by
  have hlist : ∀ l : List α, (∀ a ∈ l, p a = true → q a = false ∧ q (f a) = false) →
      (l.map fun a => if p a then f a else a).filter q = l.filter q := by
    intro l
    induction l with
    | nil => exact fun _ => rfl
    | cons a l ih =>
      intro hl
      have hrest := ih fun b hb => hl b (List.mem_cons_of_mem a hb)
      rw [List.map_cons, List.filter_cons, List.filter_cons, hrest]
      by_cases hp : p a = true
      · obtain ⟨ha, hfa⟩ := hl a List.mem_cons_self hp
        simp [hp, ha, hfa]
      · simp [hp]
  exact hlist t.rows hq

theorem update_of_fixed (hp : ∀ a ∈ t, p a = true → f a = a) : t.update p f hf = t := by
  have hrows : (t.update p f hf).rows = t.rows := by
    simp only [update]
    refine (List.map_congr_left fun a ha => ?_).trans (List.map_id _)
    cases hpa : p a with
    | false => simp
    | true => simpa using hp a ha hpa
  cases t
  simpa [update] using hrows

theorem update_of_false (hp : ∀ a ∈ t, p a = false) : t.update p f hf = t :=
  update_of_fixed fun a ha htrue => absurd (hp a ha) (by simp [htrue])

/-! ## `INSERT` -/

/-- Whether a row with this key is stored. -/
def hasKey [DecidableEq κ] (t : Table key) (k : κ) : Bool := t.rows.any fun a => key a = k

theorem hasKey_iff [DecidableEq κ] :
    t.hasKey k = true ↔ ∃ a ∈ t, key a = k := by
  simp [hasKey, mem_rows]

theorem hasKey_eq_false [DecidableEq κ] :
    t.hasKey k = false ↔ ∀ a ∈ t, key a ≠ k := by
  simp [hasKey, mem_rows]

/-- `INSERT`; a row whose key is taken changes nothing. -/
def insert [DecidableEq κ] (t : Table key) (a : α) : Table key :=
  if h : t.hasKey (key a) = true then t
  else
    { rows := t.rows ++ [a]
      nodup := by
        have hfresh : ∀ b ∈ t, key b ≠ key a := hasKey_eq_false.mp (by simpa using h)
        rw [List.map_append, List.nodup_append]
        refine ⟨t.nodup, by simp, ?_⟩
        intro k hk k' hk'
        obtain ⟨b, hb, rfl⟩ := List.mem_map.mp hk
        simp only [List.map_cons, List.map_nil, List.mem_singleton] at hk'
        rw [hk']
        exact hfresh b hb }

theorem rows_insert [DecidableEq κ] (h : t.hasKey (key a) = false) :
    (t.insert a).rows = t.rows ++ [a] := by
  simp [insert, h]

variable {l : List α}

theorem rows_foldl_insert [DecidableEq κ] : ∀ {t : Table key},
    (l.map key).Nodup → (∀ a ∈ l, t.hasKey (key a) = false) →
      (l.foldl insert t).rows = t.rows ++ l := by
  induction l with
  | nil => simp
  | cons a l ih =>
    intro t hnodup hfresh
    rw [List.map_cons, List.nodup_cons] at hnodup
    have ha : t.hasKey (key a) = false := hfresh a List.mem_cons_self
    have hrest : ∀ b ∈ l, (t.insert a).hasKey (key b) = false := by
      intro b hb
      rw [hasKey_eq_false]
      intro c hc heq
      rw [← mem_rows, rows_insert ha, List.mem_append, List.mem_singleton] at hc
      rcases hc with hc | rfl
      · exact hasKey_eq_false.mp (hfresh b (List.mem_cons_of_mem _ hb)) c hc heq
      · exact hnodup.1 (heq ▸ List.mem_map_of_mem hb)
    rw [List.foldl_cons, ih hnodup.2 hrest, rows_insert ha, List.append_assoc]
    rfl

theorem mem_insert [DecidableEq κ] {a b : α} (h : t.hasKey (key a) = false) :
    b ∈ t.insert a ↔ b ∈ t ∨ b = a := by
  simp [← mem_rows, rows_insert h]

theorem mem_insert_of_mem [DecidableEq κ] {a b : α} (h : b ∈ t) :
    b ∈ t.insert a := by
  cases hk : t.hasKey (key a) with
  | false => exact (mem_insert hk).mpr (.inl h)
  | true => simpa [insert, hk] using h

theorem mem_or_eq_of_mem_insert [DecidableEq κ] {a b : α} (h : b ∈ t.insert a) :
    b ∈ t ∨ b = a := by
  cases hk : t.hasKey (key a) with
  | false => exact (mem_insert hk).mp h
  | true =>
    left
    simpa [insert, hk] using h

/-- `INSERT` of several rows, none of them when the key of one is taken. -/
def insertAll [DecidableEq κ] : Table key → List α → Option (Table key)
  | t, [] => some t
  | t, a :: l => if t.hasKey (key a) = true then none else insertAll (t.insert a) l

theorem insertAll_eq_none [DecidableEq κ] : ∀ {t : Table key},
    ¬(l.map key).Nodup → t.insertAll l = none := by
  have htaken : ∀ (l : List α) (t : Table key), (∃ a ∈ l, t.hasKey (key a) = true) →
      t.insertAll l = none := by
    intro l
    induction l with
    | nil => simp
    | cons b l ih =>
      rintro t ⟨a, ha, hkey⟩
      unfold insertAll
      split_ifs with hb
      · rfl
      · rcases List.mem_cons.mp ha with rfl | ha
        · exact absurd hkey hb
        · refine ih _ ⟨a, ha, ?_⟩
          rcases hasKey_iff.mp hkey with ⟨c, hc, heq⟩
          exact hasKey_iff.mpr ⟨c, mem_insert_of_mem hc, heq⟩
  induction l with
  | nil => simp
  | cons a l ih =>
    intro t hdup
    rw [List.map_cons, List.nodup_cons, not_and_or, not_not] at hdup
    unfold insertAll
    split_ifs with ha
    · rfl
    · rcases hdup with hmem | hdup
      · rcases List.mem_map.mp hmem with ⟨b, hb, heq⟩
        have hfree : t.hasKey (key a) = false := by simpa using ha
        refine htaken _ _ ⟨b, hb, hasKey_iff.mpr ⟨a, (mem_insert hfree).mpr (.inr rfl), heq.symm⟩⟩
      · exact ih hdup

theorem insertAll_eq_some [DecidableEq κ] : ∀ {t : Table key},
    (l.map key).Nodup → (∀ a ∈ l, t.hasKey (key a) = false) →
      t.insertAll l = some (l.foldl insert t) := by
  induction l with
  | nil => exact fun _ _ => rfl
  | cons a l ih =>
    intro t hnodup hfresh
    rw [List.map_cons, List.nodup_cons] at hnodup
    have ha : t.hasKey (key a) = false := hfresh a List.mem_cons_self
    unfold insertAll
    rw [if_neg (by simp [ha]), List.foldl_cons]
    refine ih hnodup.2 fun b hb => ?_
    rw [hasKey_eq_false]
    intro c hc heq
    rcases (mem_insert ha).mp hc with hc | rfl
    · exact hasKey_eq_false.mp (hfresh b (List.mem_cons_of_mem _ hb)) c hc heq
    · exact hnodup.1 (heq ▸ List.mem_map_of_mem hb)

theorem find?_insert [DecidableEq κ] (h : t.hasKey (key a) = false) (k : κ) :
    (t.insert a).find? k = if key a = k then some a else t.find? k := by
  have hnone : key a = k → t.find? k = none := by
    rintro rfl
    exact List.find?_eq_none.mpr fun b hb => by simpa using hasKey_eq_false.mp h b hb
  simp only [find?, rows_insert h, List.find?_append] at hnone ⊢
  by_cases hk : key a = k
  · simp [hk, hnone hk]
  · simp [hk]

/-- `DELETE … WHERE p`. -/
def delete (t : Table key) (p : α → Bool) : Table key where
  rows := t.rows.filter fun a => !p a
  nodup := (List.filter_sublist.map key).nodup t.nodup

theorem mem_delete :
    a ∈ t.delete p ↔ a ∈ t ∧ p a = false := by
  simp [← mem_rows, delete]

theorem delete_of_false (hp : ∀ a ∈ t, p a = false) :
    t.delete p = t := by
  have hrows : (t.delete p).rows = t.rows :=
    List.filter_eq_self.mpr fun a ha => by simp [hp a ha]
  cases t
  simpa [delete] using hrows

theorem find?_delete [DecidableEq κ] (k : κ) :
    (t.delete p).find? k = (t.find? k).filter fun a => !p a := by
  ext a
  rw [find?_eq_some, Option.filter_eq_some_iff, find?_eq_some, mem_delete]
  simp [and_right_comm]

end Table

export Table (mem_update find?_eq_some eq_of_key_eq key_of_find? find?_key hasKey_eq_false
  mem_or_eq_of_mem_insert mem_rows mem_insert find?_update hasKey_iff mem_of_find? rows_insert
  find?_update_self find?_update_ne mem_insert_of_mem notMem_empty find?_insert mem_delete
  rows_foldl_insert delete_of_false mem_update_of_mem length_filter_le_one)

end ReadCommitted

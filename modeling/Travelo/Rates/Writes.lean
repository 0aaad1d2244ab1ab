import Travelo.RateWrites
import Travelo.ReadCommitted.Straight

/-!
# What a bulk edit writes

A bulk edit touches the rates grid and its log only (`bulkUpdate_ratesOnly`), and of the grid
only the prices of the cells it prices (`bulkUpdate_price_frame`). A price that is typed is
there afterwards, and no rule owns it (`bulkUpdate_typed`).
-/

namespace Travelo

open ReadCommitted

/-- The price of a cell, and the rule that wrote it. -/
def HotelDb.priceAt (db : HotelDb) (key : Id × Option Id × ℤ) : Option ℤ × Option Id :=
  let day := db.rateInventoryDays.find? key
  (day.bind (·.pricePaise), day.bind (·.pricingRuleId))

/-- The two states have the same price in a cell, written by the same hand. -/
def SamePrice (key : Id × Option Id × ℤ) (s s' : HotelDb) : Prop := s'.priceAt key = s.priceAt key

/-- The two states have the same row of a cell. -/
def SameRow (key : Id × Option Id × ℤ) (s s' : HotelDb) : Prop :=
  s'.rateInventoryDays.find? key = s.rateInventoryDays.find? key

/-- The two states differ in the rates grid and its log only. -/
def RatesOnly (s s' : HotelDb) : Prop :=
  ∃ days log, s' = { s with rateInventoryDays := days, rateChangeLog := log }

/-- The request says something of the price. -/
def RateSet.setsPrice (set : RateSet) : Prop :=
  set.pricePaise.isSome = true ∨ set.priceDeltaBp.isSome = true

theorem SamePrice.trans {key : Id × Option Id × ℤ} (s s' s'' : HotelDb)
    (h : SamePrice key s s') (h' : SamePrice key s' s'') : SamePrice key s s'' :=
  Eq.trans h' h

theorem SameRow.refl {key : Id × Option Id × ℤ} (s : HotelDb) : SameRow key s s := rfl

theorem SameRow.trans {key : Id × Option Id × ℤ} (s s' s'' : HotelDb)
    (h : SameRow key s s') (h' : SameRow key s' s'') : SameRow key s s'' :=
  Eq.trans h' h

theorem SameRow.samePrice {key : Id × Option Id × ℤ} {s s' : HotelDb} (h : SameRow key s s') :
    SamePrice key s s' := by
  unfold SamePrice HotelDb.priceAt
  rw [h]

theorem RatesOnly.refl (s : HotelDb) : RatesOnly s s := ⟨_, _, rfl⟩

theorem RatesOnly.trans (s s' s'' : HotelDb) (h : RatesOnly s s') (h' : RatesOnly s' s'') :
    RatesOnly s s'' := by
  obtain ⟨days, log, rfl⟩ := h
  obtain ⟨days', log', rfl⟩ := h'
  exact ⟨days', log', rfl⟩

section Only

variable {s s' : HotelDb} (h : RatesOnly s s')

include h

theorem RatesOnly.roomTypes : s'.roomTypes = s.roomTypes := by
  obtain ⟨_, _, rfl⟩ := h
  rfl

theorem RatesOnly.rateOverrides : s'.rateOverrides = s.rateOverrides := by
  obtain ⟨_, _, rfl⟩ := h
  rfl

theorem RatesOnly.pricingRules : s'.pricingRules = s.pricingRules := by
  obtain ⟨_, _, rfl⟩ := h
  rfl

end Only

namespace RatesService

section Wants

variable {set : RateSet} {base : ℤ} {before : Option RateInventoryDay}

theorem assign_otherWants {w : RateWant} (hw : w ∈ otherWants set before) (next : RateDayPatch) :
    (w.assign next).pricePaise = next.pricePaise := by
  simp only [otherWants, List.mem_append, List.mem_map] at hw
  rcases hw with (((((⟨_, -, rfl⟩ | ⟨_, -, rfl⟩) | ⟨_, -, rfl⟩) | ⟨_, -, rfl⟩) | ⟨_, -, rfl⟩) |
    ⟨_, -, rfl⟩) | ⟨_, -, rfl⟩ <;> rfl

theorem nextOf_price : (nextOf (changesTo set base before)).pricePaise =
    (nextOf ((priceWants set base before).filter (·.differs))).pricePaise := by
  have hrest : ∀ (l : List RateWant) (next : RateDayPatch), (∀ w ∈ l, w ∈ otherWants set before) →
      (l.foldl (fun next w => w.assign next) next).pricePaise = next.pricePaise := by
    intro l
    induction l with
    | nil => exact fun _ _ => rfl
    | cons w l ih =>
      intro next hl
      rw [List.foldl_cons, ih _ fun w' hw' => hl w' (List.mem_cons_of_mem w hw')]
      exact assign_otherWants (hl w List.mem_cons_self) next
  rw [changesTo, List.filter_append, nextOf, List.foldl_append]
  exact hrest _ _ fun w hw => List.mem_of_mem_filter hw

theorem nextOf_unpriced (h : ¬set.setsPrice) :
    (nextOf (changesTo set base before)).pricePaise = none := by
  obtain ⟨hprice, hdelta⟩ : set.pricePaise = none ∧ set.priceDeltaBp = none := by
    simpa [RateSet.setsPrice] using h
  rw [nextOf_price, priceWants, hprice, hdelta]
  rfl

theorem nextOf_typed {value : Option ℤ} (hprice : set.pricePaise = some value)
    (hdelta : set.priceDeltaBp = none) :
    (nextOf (changesTo set base before)).pricePaise =
      if before.bind (·.pricePaise) = value then none else some value := by
  have hvalues : RateValue.ofInt (before.bind (·.pricePaise)) = RateValue.ofInt value ↔
      before.bind (·.pricePaise) = value := by
    cases before.bind (·.pricePaise) <;> cases value <;> simp [RateValue.ofInt]
  rw [nextOf_price, priceWants, hprice, hdelta]
  by_cases heq : before.bind (·.pricePaise) = value
  · simp [want, heq, nextOf]
  · have hne : RateValue.ofInt (before.bind (·.pricePaise)) ≠ RateValue.ofInt value :=
      fun h => heq (hvalues.mp h)
    simp [want, hne, heq, nextOf]

end Wants

section Cell

variable {propertyId : Id} {input : BulkUpdateInput} {now : ℤ} {cell : Id × ℤ}
  {before : Option RateInventoryDay} {next : RateDayPatch} {s s' : HotelDb}

theorem emptyDay_key : (emptyDay propertyId input cell).key = input.keyOf cell := rfl

/-- A write that is accepted: the row of the cell is patched, or inserted where there was none;
the others stay. -/
theorem writeDay_ok (h : writeDay propertyId input now cell before next s = .ok s') :
    RatesOnly s s' ∧ s'.rateChangeLog = s.rateChangeLog ∧
      (∀ key ≠ input.keyOf cell,
        s'.rateInventoryDays.find? key = s.rateInventoryDays.find? key) ∧
      let patch := next.apply input.tag input.actorStaffId now
      match before with
      | some _ => s'.rateInventoryDays.find? (input.keyOf cell) =
          (s.rateInventoryDays.find? (input.keyOf cell)).map patch
      | none => s.rateInventoryDays.find? (input.keyOf cell) = none ∧
          s'.rateInventoryDays.find? (input.keyOf cell) =
            some (patch (emptyDay propertyId input cell)) := by
  cases before with
  | some row =>
    simp only [writeDay] at h
    split_ifs at h
    cases h
    refine ⟨⟨_, _, rfl⟩, rfl, fun key hkey => ?_, ?_⟩
    · exact find?_update_ne _ (next.apply_key _ _ _) hkey
    · exact find?_update_self _ (next.apply_key _ _ _) _
  | none =>
    simp only [writeDay] at h
    split_ifs at h with _ hkey
    · rw [Bool.not_eq_true] at hkey
      cases h
      have hfind := find?_insert (t := s.rateInventoryDays)
        (a := next.apply input.tag input.actorStaffId now (emptyDay propertyId input cell)) hkey
      refine ⟨⟨_, _, rfl⟩, rfl, fun key hne => ?_, ?_, ?_⟩
      · exact (hfind key).trans (if_neg fun heq => hne heq.symm)
      · exact List.find?_eq_none.mpr fun d hd => by
          simpa using Table.hasKey_eq_false.mp hkey d hd
      · exact (hfind _).trans (if_pos rfl)

theorem writeDay_samePrice_ne {key : Id × Option Id × ℤ} (hkey : key ≠ input.keyOf cell)
    (h : writeDay propertyId input now cell before next s = .ok s') : SamePrice key s s' :=
  SameRow.samePrice ((writeDay_ok h).2.2.1 key hkey)

theorem writeDay_samePrice_unpriced (hnext : next.pricePaise = none)
    (h : writeDay propertyId input now cell before next s = .ok s') (key : Id × Option Id × ℤ) :
    SamePrice key s s' := by
  by_cases hkey : key = input.keyOf cell
  · subst hkey
    obtain ⟨-, -, -, hcell⟩ := writeDay_ok h
    unfold SamePrice HotelDb.priceAt
    cases before with
    | some row =>
      rw [hcell]
      cases s.rateInventoryDays.find? (input.keyOf cell) <;> simp [RateDayPatch.apply, hnext]
    | none =>
      rw [hcell.1, hcell.2]
      simp [RateDayPatch.apply, hnext, emptyDay]
  · exact writeDay_samePrice_ne hkey h

theorem writeDay_priced {value : Option ℤ} (hnext : next.pricePaise = some value)
    (hbefore : before.isSome → (s.rateInventoryDays.find? (input.keyOf cell)).isSome)
    (h : writeDay propertyId input now cell before next s = .ok s') :
    s'.priceAt (input.keyOf cell) = (value, input.tag) := by
  obtain ⟨-, -, -, hcell⟩ := writeDay_ok h
  unfold HotelDb.priceAt
  cases before with
  | some row =>
    obtain ⟨day, hday⟩ := Option.isSome_iff_exists.mp (hbefore rfl)
    rw [hcell, hday]
    simp [RateDayPatch.apply, hnext]
  | none =>
    rw [hcell.2]
    simp [RateDayPatch.apply, hnext]

theorem writeDay_stored
    (hbefore : before.isSome → (s.rateInventoryDays.find? (input.keyOf cell)).isSome)
    (h : writeDay propertyId input now cell before next s = .ok s') :
    (s'.rateInventoryDays.find? (input.keyOf cell)).isSome := by
  obtain ⟨-, -, -, hcell⟩ := writeDay_ok h
  cases before with
  | some row =>
    rw [hcell, Option.isSome_map]
    exact hbefore rfl
  | none =>
    rw [hcell.2]
    rfl

variable {batchId : Id} {existing : List RateInventoryDay} {resolved : List (Id × NightPrice)}
  {R : HotelDb → HotelDb → Prop}

theorem updateCell_straight
    (hday : ∀ before next s s', (¬input.set.setsPrice → next.pricePaise = none) →
      writeDay propertyId input now cell before next s = .ok s' → R s s')
    (hlog : ∀ (s : HotelDb) log, R s { s with rateChangeLog := log }) :
    (updateCell propertyId input batchId now existing resolved cell).Straight R := by
  refine .ite _ (.pure _) (.bind (.writeChecked _ _ fun s s' h => ?_) fun _ =>
    .bind (.write _ _ fun s => hlog s _) fun _ => .pure _)
  exact hday _ _ s s' nextOf_unpriced h

end Cell

theorem nightlyPrices_straight {R : HotelDb → HotelDb → Prop} (propertyId roomTypeId : Id)
    (fromDate toDate : ℤ) (ratePlanId : Option Id) :
    (nightlyPrices propertyId roomTypeId fromDate toDate ratePlanId).Straight R :=
  .bind (.lift _) fun _ => .bind (.select _ _) fun _ => .bind (.orThrow _ _) fun _ =>
    .bind (.select _ _) fun _ => .bind (.select _ _) fun _ => .pure _

theorem resolvedPrices_straight {R : HotelDb → HotelDb → Prop} (propertyId : Id)
    (input : BulkUpdateInput) (fromDate toDate : ℤ) :
    (resolvedPrices propertyId input fromDate toDate).Straight R := by
  refine .ite _ (.pure _) (.bind (.all fun typeId _ => ?_) fun _ => .pure _)
  exact .bind (nightlyPrices_straight _ _ _ _ _) fun _ => .pure _

theorem resolvedPrices_idle {propertyId : Id} {input : BulkUpdateInput} {fromDate toDate : ℤ}
    {db db' : HotelDb} {res : Except Err (List (Id × NightPrice))} {t : Tx HotelDb}
    (heval : (resolvedPrices propertyId input fromDate toDate).eval .idle db = (res, t, db')) :
    t = .idle ∧ db = db' := by
  have hread := (resolvedPrices_straight (R := Eq) propertyId input fromDate toDate).eval_idle
    (fun _ => rfl) (fun _ _ _ => Eq.trans) db
  rwa [heval] at hread

section Bulk

variable {propertyId : Id} {input : BulkUpdateInput} {batchId : Id} {now : ℤ}
  {R : HotelDb → HotelDb → Prop}

theorem updateCells_straight {fromDate toDate : ℤ}
    (hcell : ∀ existing resolved, ∀ cell ∈ input.cells,
      (updateCell propertyId input batchId now existing resolved cell).Straight R) :
    (updateCells propertyId input batchId now fromDate toDate).Straight R :=
  .bind (.select _ _) fun existing => .bind (resolvedPrices_straight _ _ _ _) fun resolved =>
    .all (hcell existing resolved)

/-- A bulk edit alone relates the states around it as the edits of its cells do. -/
theorem bulkUpdate_alone (hrefl : ∀ s, R s s) (htrans : ∀ s s' s'', R s s' → R s' s'' → R s s'')
    (hcell : ∀ existing resolved, ∀ cell ∈ input.cells,
      (updateCell propertyId input batchId now existing resolved cell).Straight R) :
    (bulkUpdate propertyId input batchId now).Alone R := by
  refine .bind htrans (.throwIf hrefl _ _) fun _ => .bind htrans (.throwIf hrefl _ _) fun _ =>
    .bind htrans (.lift hrefl _) fun _ => .bind htrans (.select hrefl _ _) fun _ =>
    .bind htrans (.throwIf hrefl _ _) fun _ => ?_
  split
  · exact .bind htrans (.transaction hrefl htrans (updateCells_straight hcell)) fun _ =>
      .pure hrefl _
  · exact .pure hrefl _

theorem bulkUpdate_ratesOnly : (bulkUpdate propertyId input batchId now).Alone RatesOnly :=
  bulkUpdate_alone RatesOnly.refl RatesOnly.trans fun _ _ _ _ =>
    updateCell_straight (fun _ _ _ _ _ h => (writeDay_ok h).1) fun _ _ => ⟨_, _, rfl⟩

/-- The request prices a cell. -/
def Prices (input : BulkUpdateInput) (key : Id × Option Id × ℤ) : Prop :=
  input.set.setsPrice ∧ ∃ cell ∈ input.cells, input.keyOf cell = key

theorem bulkUpdate_price_frame {key : Id × Option Id × ℤ} (h : ¬Prices input key) :
    (bulkUpdate propertyId input batchId now).Alone (SamePrice key) := by
  refine bulkUpdate_alone (fun _ => rfl) SamePrice.trans fun _ _ cell hcell =>
    updateCell_straight (fun before next s s' hnext hwrite => ?_) fun _ _ => rfl
  by_cases hkey : key = input.keyOf cell
  · have hunset : ¬input.set.setsPrice := fun hset => h ⟨hset, cell, hcell, hkey.symm⟩
    exact writeDay_samePrice_unpriced (hnext hunset) hwrite key
  · exact writeDay_samePrice_ne hkey hwrite

theorem bulkUpdate_row_frame {key : Id × Option Id × ℤ}
    (h : ∀ cell ∈ input.cells, input.keyOf cell ≠ key) :
    (bulkUpdate propertyId input batchId now).Alone (SameRow key) :=
  bulkUpdate_alone SameRow.refl SameRow.trans fun _ _ cell hcell =>
    updateCell_straight
      (fun _ _ _ _ _ hwrite => (writeDay_ok hwrite).2.2.1 key fun heq => h cell hcell heq.symm)
      fun _ _ => rfl

theorem updateCells_body {fromDate toDate : ℤ} :
    (updateCells propertyId input batchId now fromDate toDate).Straight fun _ _ => True :=
  updateCells_straight fun _ _ _ _ =>
    updateCell_straight (fun _ _ _ _ _ _ => trivial) fun _ _ => trivial

theorem bulkUpdate_error {db db' : HotelDb} {e : Err} {t : Tx HotelDb}
    (heval : (bulkUpdate propertyId input batchId now).eval .idle db = (.error e, t, db')) :
    db' = db := by
  have hthrow : ∀ {c : Prop} [Decidable c] {e e' : Err} {t : Tx HotelDb} {db' : HotelDb},
      (throwIf c e : Op Unit).eval .idle db = (.error e', t, db') → db' = db := by
    intro c _ e e' t db' h
    rw [eval_throwIf] at h
    split_ifs at h with hc
    · cases h
      rfl
    · cases h
  unfold bulkUpdate at heval
  rcases eval_bind_error heval with h | ⟨_, t₁, db₁, h₁, heval⟩
  · exact hthrow h
  obtain ⟨-, rfl, rfl⟩ := eval_passed h₁
  rcases eval_bind_error heval with h | ⟨_, t₂, db₂, h₂, heval⟩
  · exact hthrow h
  obtain ⟨-, rfl, rfl⟩ := eval_passed h₂
  rcases eval_bind_error heval with h | ⟨_, t₃, db₃, h₃, heval⟩
  · rw [eval_lift] at h
    exact (Prod.mk.inj (Prod.mk.inj h).2).2.symm
  obtain ⟨-, rfl, rfl⟩ := eval_lifted h₃
  rcases eval_bind_error heval with h | ⟨_, t₄, db₄, h₄, heval⟩
  · cases h
  obtain ⟨-, rfl, rfl⟩ := eval_selected h₄
  rcases eval_bind_error heval with h | ⟨_, t₅, db₅, h₅, heval⟩
  · exact hthrow h
  obtain ⟨-, rfl, rfl⟩ := eval_passed h₅
  split at heval
  · next first last _ _ =>
    rcases eval_bind_error heval with h | ⟨_, t₆, db₆, h₆, heval⟩
    · rw [updateCells_body.eval_transaction] at h
      rcases hres : (updateCells propertyId input batchId now first (addDays last 1)).eval .idle db
        with ⟨e' | as, t', db'⟩
      · rw [hres] at h
        cases h
        rfl
      · rw [hres] at h
        cases h
    · cases heval
  · cases heval

end Bulk

/-! ## A price that is set -/

theorem planDay_eq {propertyId roomTypeId : Id} {ratePlanId : Option Id} {d : ℤ} {db : HotelDb} :
    planDay propertyId roomTypeId ratePlanId d db =
      (db.rateInventoryDays.find? (roomTypeId, ratePlanId, d)).filter
        fun r => r.propertyId = propertyId := by
  cases hrow : planDay propertyId roomTypeId ratePlanId d db with
  | some r =>
    have hp := List.find?_some hrow
    simp only [and_decide_eq] at hp
    obtain ⟨⟨⟨hproperty, htype⟩, hplan⟩, hdate⟩ := hp
    have hfind : db.rateInventoryDays.find? (roomTypeId, ratePlanId, d) = some r :=
      Table.find?_eq_some.mpr ⟨List.mem_of_find?_eq_some hrow, by
        simp only [RateInventoryDay.key, htype, hplan, hdate]⟩
    rw [hfind, Option.filter_some_pos (by simpa using hproperty)]
  | none =>
    cases hfind : db.rateInventoryDays.find? (roomTypeId, ratePlanId, d) with
    | none => rfl
    | some r =>
      obtain ⟨hr, hkey⟩ := Table.find?_eq_some.mp hfind
      have hno := List.find?_eq_none.mp hrow r hr
      simp only [RateInventoryDay.key, Prod.mk.injEq] at hkey
      obtain ⟨htype, hplan, hdate⟩ := hkey
      have hproperty : r.propertyId ≠ propertyId := by
        intro heq
        simp [heq, htype, hplan, hdate] at hno
      rw [Option.filter_some_neg (by simpa using hproperty)]

section Priced

variable {propertyId : Id} {input : BulkUpdateInput} {batchId : Id} {now : ℤ}

theorem dates_window {first last d : ℤ} (hfirst : input.dates.head? = some first)
    (hlast : input.dates.getLast? = some last) (hd : d ∈ input.dates) :
    first ≤ d ∧ d < addDays last 1 := by
  have hsorted : input.dates.Pairwise (· ≤ ·) := List.pairwise_insertionSort _ _
  have hle : ∀ (l : List ℤ) (a b : ℤ), l.Pairwise (· ≤ ·) → l.head? = some a →
      l.getLast? = some b → d ∈ l → a ≤ d ∧ d ≤ b := by
    intro l a b hl ha hb hmem
    obtain ⟨rest, rfl⟩ : ∃ rest, l = a :: rest := by
      cases l with
      | nil => cases ha
      | cons x rest =>
        cases ha
        exact ⟨rest, rfl⟩
    obtain ⟨init, hinit⟩ := List.getLast?_eq_some_iff.mp hb
    constructor
    · rcases List.mem_cons.mp hmem with rfl | hrest
      · exact le_refl _
      · exact (List.pairwise_cons.mp hl).1 d hrest
    · rw [hinit] at hl hmem
      rcases List.mem_append.mp hmem with hrest | hlastd
      · exact (List.pairwise_append.mp hl).2.2 d hrest b (List.mem_singleton_self b)
      · rw [List.mem_singleton.mp hlastd]
  obtain ⟨h₁, h₂⟩ := hle _ _ _ hsorted hfirst hlast hd
  exact ⟨h₁, by simp only [addDays]; omega⟩

/-- A bulk edit of some cells that ends well edited them one after the other, each from the row
that was found for it. -/
theorem bulkUpdate_ok {db db' : HotelDb} {res : BulkUpdateResult} {t : Tx HotelDb} {cell : Id × ℤ}
    (heval : (bulkUpdate propertyId input batchId now).eval .idle db = (.ok res, t, db'))
    (hcell : cell ∈ input.cells) :
    ∃ existing resolved as t',
      (∀ cell ∈ input.cells,
        existing.find? (fun r => r.roomTypeId = cell.1 && r.date = cell.2) =
          planDay propertyId cell.1 input.ratePlanId cell.2 db) ∧
      (all (updateCell propertyId input batchId now existing resolved) input.cells).eval .idle
        db = (.ok as, t', db') := by
  unfold bulkUpdate at heval
  obtain ⟨_, t₁, db₁, h₁, heval⟩ := eval_bind_ok heval
  obtain ⟨-, rfl, rfl⟩ := eval_passed h₁
  obtain ⟨_, t₂, db₂, h₂, heval⟩ := eval_bind_ok heval
  obtain ⟨-, rfl, rfl⟩ := eval_passed h₂
  obtain ⟨_, t₃, db₃, h₃, heval⟩ := eval_bind_ok heval
  obtain ⟨-, rfl, rfl⟩ := eval_lifted h₃
  obtain ⟨_, t₄, db₄, h₄, heval⟩ := eval_bind_ok heval
  obtain ⟨-, rfl, rfl⟩ := eval_selected h₄
  obtain ⟨_, t₅, db₅, h₅, heval⟩ := eval_bind_ok heval
  obtain ⟨-, rfl, rfl⟩ := eval_passed h₅
  obtain ⟨first, last, hfirst, hlast⟩ : ∃ first last,
      input.dates.head? = some first ∧ input.dates.getLast? = some last := by
    have hdates : input.dates ≠ [] := by
      intro hnil
      simp [BulkUpdateInput.cells, hnil] at hcell
    exact ⟨_, _, List.head?_eq_some_head hdates, List.getLast?_eq_some_getLast hdates⟩
  rw [hfirst, hlast] at heval
  obtain ⟨as, t₆, db₆, h₆, heval⟩ := eval_bind_ok heval
  cases heval
  rw [updateCells_body.eval_transaction] at h₆
  rcases hcells : (updateCells propertyId input batchId now first (addDays last 1)).eval .idle db
    with ⟨e | as', t', db'⟩
  · rw [hcells] at h₆
    cases h₆
  · rw [hcells] at h₆
    cases h₆
    unfold updateCells at hcells
    obtain ⟨existing, t₇, db₇, h₇, hcells⟩ := eval_bind_ok hcells
    obtain ⟨rfl, rfl, rfl⟩ := eval_selected h₇
    obtain ⟨resolved, t₈, db₈, h₈, hcells⟩ := eval_bind_ok hcells
    obtain ⟨rfl, rfl⟩ := resolvedPrices_idle h₈
    refine ⟨_, resolved, as, t', fun cell hcell => ?_, hcells⟩
    obtain ⟨typeId, htype, hdates⟩ := List.mem_flatMap.mp hcell
    obtain ⟨date, hdate, rfl⟩ := List.mem_map.mp hdates
    exact dayRows_find?_plan htype (dates_window hfirst hlast hdate)

theorem updateCell_ok {existing : List RateInventoryDay} {resolved : List (Id × NightPrice)}
    {cell : Id × ℤ} {s s' : HotelDb} {b : Bool} {t : Tx HotelDb}
    (heval : (updateCell propertyId input batchId now existing resolved cell).eval .idle s =
      (.ok b, t, s')) :
    t = .idle ∧ ∃ base,
      let before := existing.find? fun r => r.roomTypeId = cell.1 && r.date = cell.2
      let changes := changesTo input.set base before
      (changes = [] ∧ s' = s) ∨ ∃ s₁ log, changes ≠ [] ∧
        writeDay propertyId input now cell before (nextOf changes) s = .ok s₁ ∧
          s' = { s₁ with rateChangeLog := log } := by
  unfold updateCell at heval
  simp only [eval_ite, eval_pure] at heval
  split_ifs at heval with hempty
  · cases heval
    exact ⟨rfl, _, .inl ⟨List.isEmpty_iff.mp hempty, rfl⟩⟩
  · obtain ⟨_, t₁, s₁, h₁, heval⟩ := eval_bind_ok heval
    obtain ⟨_, t₂, s₂, h₂, heval⟩ := eval_bind_ok heval
    cases heval
    simp only [Prog.eval_writeChecked_idle] at h₁
    split at h₁
    · next s₃ hwrite =>
      cases h₁
      obtain ⟨-, rfl, rfl⟩ := eval_written h₂
      exact ⟨rfl, _, .inr ⟨_, _, fun hnil => hempty (List.isEmpty_iff.mpr hnil), hwrite, rfl⟩⟩
    · cases h₁

theorem updateCell_other {existing : List RateInventoryDay} {resolved : List (Id × NightPrice)}
    {c cell : Id × ℤ} {s s' : HotelDb} {b : Bool} {t : Tx HotelDb} (hne : c ≠ cell)
    (heval : (updateCell propertyId input batchId now existing resolved c).eval .idle s =
      (.ok b, t, s')) : SameRow (input.keyOf cell) s s' := by
  obtain ⟨-, base, hcase⟩ := updateCell_ok heval
  rcases hcase with ⟨-, rfl⟩ | ⟨s₁, log, -, hwrite, rfl⟩
  · rfl
  · refine (writeDay_ok hwrite).2.2.1 _ fun heq => hne ?_
    simp only [BulkUpdateInput.keyOf, Prod.mk.injEq] at heq
    exact Prod.ext heq.1.symm heq.2.2.symm

/-- The row that was read is still stored. -/
def Stored (input : BulkUpdateInput) (cell : Id × ℤ) (before : Option RateInventoryDay)
    (s : HotelDb) : Prop :=
  before.isSome → (s.rateInventoryDays.find? (input.keyOf cell)).isSome

/-- The edit of a cell that types a price, when the cell still has the price `old` it had when
the rows were read, or the new one. -/
theorem updateCell_typed {existing : List RateInventoryDay} {resolved : List (Id × NightPrice)}
    {cell : Id × ℤ} {before : Option RateInventoryDay} {value : Option ℤ}
    {old : Option ℤ × Option Id} {s s' : HotelDb} {b : Bool} {t : Tx HotelDb}
    (hbefore : existing.find? (fun r => r.roomTypeId = cell.1 && r.date = cell.2) = before)
    (hprice : input.set.pricePaise = some value) (hdelta : input.set.priceDeltaBp = none)
    (hstored : Stored input cell before s)
    (hold : s.priceAt (input.keyOf cell) = old ∨
      before.bind (·.pricePaise) ≠ value ∧ s.priceAt (input.keyOf cell) = (value, input.tag))
    (heval : (updateCell propertyId input batchId now existing resolved cell).eval .idle s =
      (.ok b, t, s')) :
    Stored input cell before s' ∧ s'.priceAt (input.keyOf cell) =
      if before.bind (·.pricePaise) = value then old else (value, input.tag) := by
  obtain ⟨-, base, hcase⟩ := updateCell_ok heval
  rw [hbefore] at hcase
  have hnext : (nextOf (changesTo input.set base before)).pricePaise = _ :=
    nextOf_typed hprice hdelta
  rcases hcase with ⟨hnone, rfl⟩ | ⟨s₁, log, -, hwrite, rfl⟩
  · -- nothing differs, so the price is there
    rw [hnone] at hnext
    have hsame : before.bind (·.pricePaise) = value := by
      by_contra hne
      rw [if_neg hne] at hnext
      cases hnext
    refine ⟨hstored, ?_⟩
    rw [if_pos hsame]
    exact hold.resolve_right fun h => h.1 hsame
  · have hstored₁ := writeDay_stored hstored hwrite
    refine ⟨fun _ => hstored₁, ?_⟩
    by_cases hsame : before.bind (·.pricePaise) = value
    · rw [if_pos hsame] at hnext ⊢
      have hkept : s₁.priceAt (input.keyOf cell) = s.priceAt (input.keyOf cell) :=
        writeDay_samePrice_unpriced hnext hwrite _
      exact hkept.trans (hold.resolve_right fun h => h.1 hsame)
    · rw [if_neg hsame] at hnext ⊢
      have hpriced : s₁.priceAt (input.keyOf cell) = (value, input.tag) :=
        writeDay_priced hnext hstored hwrite
      exact hpriced

/-- The price a request types is in the cell afterwards, tagged by the request, unless it was
there already: then the cell keeps the tag it had. -/
theorem bulkUpdate_priced {db db' : HotelDb} {res : BulkUpdateResult} {t : Tx HotelDb}
    {cell : Id × ℤ} {value : Option ℤ}
    (heval : (bulkUpdate propertyId input batchId now).eval .idle db = (.ok res, t, db'))
    (hprice : input.set.pricePaise = some value) (hdelta : input.set.priceDeltaBp = none)
    (hcell : cell ∈ input.cells) :
    db'.priceAt (input.keyOf cell) =
      if (planDay propertyId cell.1 input.ratePlanId cell.2 db).bind (·.pricePaise) = value then
        db.priceAt (input.keyOf cell)
      else (value, input.tag) := by
  obtain ⟨existing, resolved, as, t', hfound, hcells⟩ := bulkUpdate_ok heval hcell
  have hbefore := hfound cell hcell
  set before := planDay propertyId cell.1 input.ratePlanId cell.2 db
  let P (s : HotelDb) := Stored input cell before s ∧
    (s.priceAt (input.keyOf cell) = db.priceAt (input.keyOf cell) ∨
      before.bind (·.pricePaise) ≠ value ∧ s.priceAt (input.keyOf cell) = (value, input.tag))
  let Q (s : HotelDb) := Stored input cell before s ∧ s.priceAt (input.keyOf cell) =
    if before.bind (·.pricePaise) = value then db.priceAt (input.keyOf cell)
    else (value, input.tag)
  have hQP : ∀ s, Q s → P s := by
    rintro s ⟨hstored, hs⟩
    refine ⟨hstored, ?_⟩
    by_cases hsame : before.bind (·.pricePaise) = value
    · exact .inl (by rw [hs, if_pos hsame])
    · exact .inr ⟨hsame, by rw [hs, if_neg hsame]⟩
  have hframe : ∀ c ≠ cell, ∀ s b t s',
      (updateCell propertyId input batchId now existing resolved c).eval .idle s = (.ok b, t, s') →
      (Stored input cell before s → Stored input cell before s') ∧
        SamePrice (input.keyOf cell) s s' := by
    intro c hne s b t s' heval
    have hrow := updateCell_other hne heval
    exact ⟨fun hs hsome => hrow ▸ hs hsome, hrow.samePrice⟩
  have hself := @updateCell_typed propertyId input batchId now existing resolved cell before value
    (db.priceAt (input.keyOf cell))
  have hidle : ∀ c s b t s', (updateCell propertyId input batchId now existing resolved c).eval
      .idle s = (.ok b, t, s') → t = .idle := fun c s b t s' heval => (updateCell_ok heval).1
  refine (Prog.eval_all_brings (P := P) (Q := Q) hcell ?_ ?_ ?_ ?_ hcells).2
  · rintro c - s b t s' ⟨hs, hold⟩ heval
    refine ⟨hidle c s b t s' heval, ?_⟩
    by_cases hc : c = cell
    · subst hc
      exact hQP s' (hself hbefore hprice hdelta hs hold heval)
    · obtain ⟨hs', hsame⟩ := hframe c hc s b t s' heval
      exact ⟨hs' hs, by rw [hsame]; exact hold⟩
  · rintro c - s b t s' hQs heval
    refine ⟨hidle c s b t s' heval, ?_⟩
    by_cases hc : c = cell
    · subst hc
      exact hself hbefore hprice hdelta hQs.1 (hQP s hQs).2 heval
    · obtain ⟨hs', hsame⟩ := hframe c hc s b t s' heval
      exact ⟨hs' hQs.1, by rw [hsame]; exact hQs.2⟩
  · exact fun s b t s' ⟨hs, hold⟩ heval => hself hbefore hprice hdelta hs hold heval
  · refine ⟨fun hsome => ?_, .inl rfl⟩
    obtain ⟨r, hr⟩ := Option.isSome_iff_exists.mp hsome
    have hkept := planDay_eq.symm.trans hr
    rw [show db.rateInventoryDays.find? (input.keyOf cell) = some r from
      (Option.filter_eq_some_iff.mp hkept).1]
    rfl

theorem bulkUpdate_alien {db : HotelDb} {key : Id × Option Id × ℤ} {row : RateInventoryDay}
    (hrow : db.rateInventoryDays.find? key = some row) (halien : row.propertyId ≠ propertyId) :
    (bulkUpdate propertyId input batchId now).AloneOn (SameRow key) db := by
  by_cases hkey : ∃ cell ∈ input.cells, input.keyOf cell = key
  · obtain ⟨cell, hcell, rfl⟩ := hkey
    refine ⟨(bulkUpdate_ratesOnly db).1, ?_⟩
    rcases heval : (bulkUpdate propertyId input batchId now).eval .idle db with ⟨e | res, t, db'⟩
    · rw [bulkUpdate_error heval]
      exact SameRow.refl db
    · obtain ⟨existing, resolved, as, t', hfound, hcells⟩ := bulkUpdate_ok heval hcell
      have hnone : planDay propertyId cell.1 input.ratePlanId cell.2 db = none := by
        rw [planDay_eq, show db.rateInventoryDays.find? (cell.1, input.ratePlanId, cell.2) =
          some row from hrow, Option.filter_some_neg (by simpa using halien)]
      have hbefore := (hfound cell hcell).trans hnone
      -- its own cell is not found, and an insert would be refused
      let P (s : HotelDb) := s.rateInventoryDays.find? (input.keyOf cell) = some row
      have hkept : P db' := by
        refine (Prog.eval_all_keeps (P := P) ?_ hrow hcells).2
        rintro c - s b t s' hs hc
        obtain ⟨ht, base, hcase⟩ := updateCell_ok hc
        refine ⟨ht, ?_⟩
        by_cases hne : c = cell
        · subst hne
          rw [hbefore] at hcase
          rcases hcase with ⟨-, rfl⟩ | ⟨s₁, log, -, hwrite, -⟩
          · exact hs
          · obtain ⟨-, -, -, hfree, -⟩ := writeDay_ok hwrite
            rw [hs] at hfree
            cases hfree
        · exact Eq.trans (updateCell_other hne hc) hs
      exact Eq.trans hkept hrow.symm
  · exact bulkUpdate_row_frame (fun cell hcell heq => hkey ⟨cell, hcell, heq⟩) db

/-- The row of a cell, if there is one, is of the property. -/
def OwnRow (propertyId : Id) (key : Id × Option Id × ℤ) (s : HotelDb) : Prop :=
  ∀ row, s.rateInventoryDays.find? key = some row → row.propertyId = propertyId

/-- The write of a cell whose row was found at the property, or not at all, leaves a row of the
property. -/
theorem writeDay_own {cell : Id × ℤ} {before : Option RateInventoryDay} {next : RateDayPatch}
    {s s' : HotelDb} (hbefore : before.isSome → OwnRow propertyId (input.keyOf cell) s)
    (h : writeDay propertyId input now cell before next s = .ok s') :
    OwnRow propertyId (input.keyOf cell) s' := by
  obtain ⟨-, -, -, hcell⟩ := writeDay_ok h
  intro row hrow
  cases before with
  | some r =>
    rw [hcell] at hrow
    obtain ⟨day, hday, rfl⟩ := Option.map_eq_some_iff.mp hrow
    exact hbefore rfl day hday
  | none =>
    rw [hcell.2] at hrow
    cases hrow
    rfl

theorem bulkUpdate_own {db db' : HotelDb} {res : BulkUpdateResult} {t : Tx HotelDb}
    {cell : Id × ℤ} {value : Option ℤ}
    (heval : (bulkUpdate propertyId input batchId now).eval .idle db = (.ok res, t, db'))
    (hprice : input.set.pricePaise = some value) (hdelta : input.set.priceDeltaBp = none)
    (hcell : cell ∈ input.cells)
    (hnew : (planDay propertyId cell.1 input.ratePlanId cell.2 db).bind (·.pricePaise) ≠ value) :
    OwnRow propertyId (input.keyOf cell) db' := by
  obtain ⟨existing, resolved, as, t', hfound, hcells⟩ := bulkUpdate_ok heval hcell
  have hbefore := hfound cell hcell
  set before := planDay propertyId cell.1 input.ratePlanId cell.2 db with hplan
  -- the edit of the cell, whatever comes before and after it
  have hself : ∀ s b t s', (before.isSome → OwnRow propertyId (input.keyOf cell) s) →
      (updateCell propertyId input batchId now existing resolved cell).eval .idle s =
        (.ok b, t, s') → OwnRow propertyId (input.keyOf cell) s' := by
    intro s b t s' hs heval
    obtain ⟨-, base, hcase⟩ := updateCell_ok heval
    rw [hbefore] at hcase
    rcases hcase with ⟨hnone, -⟩ | ⟨s₁, log, -, hwrite, rfl⟩
    · have hnext : (nextOf (changesTo input.set base before)).pricePaise = _ :=
        nextOf_typed hprice hdelta
      rw [hnone, if_neg hnew] at hnext
      cases hnext
    · have hown : OwnRow propertyId (input.keyOf cell) s₁ := writeDay_own hs hwrite
      exact hown
  have hframe : ∀ c ≠ cell, ∀ s b t s',
      (updateCell propertyId input batchId now existing resolved c).eval .idle s = (.ok b, t, s') →
      OwnRow propertyId (input.keyOf cell) s → OwnRow propertyId (input.keyOf cell) s' :=
    fun c hne s b t s' heval hs row hrow => hs row ((updateCell_other hne heval).symm.trans hrow)
  refine Prog.eval_all_brings
    (P := fun s => before.isSome → OwnRow propertyId (input.keyOf cell) s)
    (Q := OwnRow propertyId (input.keyOf cell)) hcell ?_ ?_ hself ?_ hcells
  · intro c _ s b t s' hs heval
    refine ⟨(updateCell_ok heval).1, fun hsome => ?_⟩
    by_cases hc : c = cell
    · subst hc
      exact hself s b t s' hs heval
    · exact hframe c hc s b t s' heval (hs hsome)
  · intro c _ s b t s' hs heval
    refine ⟨(updateCell_ok heval).1, ?_⟩
    by_cases hc : c = cell
    · subst hc
      exact hself s b t s' (fun _ => hs) heval
    · exact hframe c hc s b t s' heval hs
  · intro hsome row hrow
    obtain ⟨r, hr⟩ := Option.isSome_iff_exists.mp hsome
    rw [hplan, planDay_eq] at hr
    obtain ⟨hfind, hown⟩ := Option.filter_eq_some_iff.mp hr
    obtain rfl : r = row := Option.some.inj (hfind.symm.trans hrow)
    exact of_decide_eq_true hown

theorem bulkUpdate_noop {db db' : HotelDb} {res : BulkUpdateResult} {t : Tx HotelDb}
    {cell : Id × ℤ}
    (heval : (bulkUpdate propertyId input batchId now).eval .idle db = (.ok res, t, db'))
    (hcell : cell ∈ input.cells)
    (hsame : ∀ cell ∈ input.cells, ∀ base,
      changesTo input.set base (planDay propertyId cell.1 input.ratePlanId cell.2 db) = []) :
    db' = db := by
  obtain ⟨existing, resolved, as, t', hfound, hcells⟩ := bulkUpdate_ok heval hcell
  refine (Prog.eval_all_keeps (P := fun s => s = db) ?_ rfl hcells).2
  rintro c hc s b t s' rfl heval
  obtain ⟨ht, base, hcase⟩ := updateCell_ok heval
  rw [hfound c hc] at hcase
  rcases hcase with ⟨-, rfl⟩ | ⟨_, _, hsome, -, -⟩
  · exact ⟨ht, rfl⟩
  · exact absurd (hsame c hc base) hsome

end Priced

end RatesService

end Travelo

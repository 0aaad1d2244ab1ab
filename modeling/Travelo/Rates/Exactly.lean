import Travelo.Rates.Bulk

/-!
# A bulk edit does what it says

A bulk edit touches exactly what it was asked to (`EditsExactly`) when the request is *clean* in
each cell it changes (`bulkUpdate_exactly_iff`): its type is named once, nothing is in the way of
a new row, no flag is asked to be `null`, the price is not asked for twice, and no override is
sent that differs from what is stored only in the order of its fields.
-/

namespace Travelo

open ReadCommitted

namespace RatesService

section Defs

variable (propertyId : Id) (input : BulkUpdateInput) (resolved : List (Id × NightPrice))
  (cell : Id × ℤ) (db : HotelDb)

/-- The request changes a field of a cell. -/
def Changes (field : RateChangeField) : Prop :=
  Asks input.set (priceOf resolved cell) (cellDay propertyId input cell db) field

instance (field : RateChangeField) :
    Decidable (Changes propertyId input resolved cell db field) :=
  inferInstanceAs (Decidable (Asks _ _ _ _))

/-- What is seen of a field of a cell: without a row, what an empty one has. -/
def shownValue (field : RateChangeField) : RateValue :=
  ((cellDay propertyId input cell db).getD (emptyDay propertyId input cell)).valueOf field

/-- The request asks nothing of a cell but what is there. -/
def Untouched : Prop :=
  (∀ field, ¬Changes propertyId input resolved cell db field) ∧ input.set.sendsBoth = false

/-- The request can be carried out in a cell, and carrying it out again does nothing. -/
structure Clean : Prop where
  once : input.roomTypeIds.count cell.1 = 1
  free : OwnRow propertyId (input.keyOf cell) db
  flags : input.set.clearsFlag = false
  price : input.set.pricePaise.isSome = true → input.set.priceDeltaBp.isSome = true →
    ¬Changes propertyId input resolved cell db .price
  channel : input.set.sendsBoth = true →
    input.set.priceDeltaBp.isSome = true ∧ Changes propertyId input resolved cell db .channel

end Defs

/-- The request did what it says, and nothing else: `db` is the state before, `db'` after. -/
structure EditsExactly (propertyId : Id) (input : BulkUpdateInput)
    (resolved : List (Id × NightPrice)) (db db' : HotelDb) : Prop where
  tables : RatesOnly db db'
  /-- Other cells keep their rows. -/
  frame : ∀ key, (∀ cell ∈ input.cells, input.keyOf cell ≠ key) → SameRow key db db'
  requested : ∀ cell ∈ input.cells, ∀ field,
    ∀ v ∈ requestedOf propertyId input resolved cell db field,
      v.Same (storedValue (cellDay propertyId input cell db') field)
  kept : ∀ cell ∈ input.cells, ∀ field, requestedOf propertyId input resolved cell db field = [] →
    (shownValue propertyId input cell db' field).Same (shownValue propertyId input cell db field)
  /-- One entry for each field that changed, of what it was and what was asked. -/
  logged : ∃ entries, db'.rateChangeLog = db.rateChangeLog ++ entries ∧
    (∀ key field, (entries.countP fun e => e.key = key ∧ e.field = field) =
      if ∃ cell ∈ input.cells, input.keyOf cell = key ∧
        Changes propertyId input resolved cell db field then 1 else 0) ∧
    ∀ e ∈ entries, ∃ cell ∈ input.cells, e.key = input.keyOf cell ∧
      e.before = storedValue (cellDay propertyId input cell db) e.field ∧
      e.after ∈ requestedOf propertyId input resolved cell db e.field
  /-- The same request again changes nothing more. -/
  repeated : input.set.priceDeltaBp = none → ∀ batchId now,
    Succeeds propertyId input db' batchId now ∧
      ((bulkUpdate propertyId input batchId now).run db').db = db'

section Cells

variable {propertyId : Id} {input : BulkUpdateInput} {resolved : List (Id × NightPrice)}
  {batchId : Id} {now : ℤ} {cell : Id × ℤ} {db db' : HotelDb} {field : RateChangeField}

theorem cellChanges_eq_nil_iff :
    cellChanges propertyId input resolved cell db = [] ↔
      Untouched propertyId input resolved cell db :=
  changesTo_eq_nil_iff

theorem cellDay_eq : cellDay propertyId input cell db =
    (db.rateInventoryDays.find? (input.keyOf cell)).filter fun r => r.propertyId = propertyId :=
  planDay_eq

theorem cellDay_same (h : SameRow (input.keyOf cell) db db') :
    cellDay propertyId input cell db' = cellDay propertyId input cell db := by
  rw [cellDay_eq, cellDay_eq, show db'.rateInventoryDays.find? (input.keyOf cell) = _ from h]

theorem ownRow_iff : OwnRow propertyId (input.keyOf cell) db ↔
    (cellDay propertyId input cell db = none →
      db.rateInventoryDays.find? (input.keyOf cell) = none) := by
  rw [cellDay_eq, OwnRow]
  cases db.rateInventoryDays.find? (input.keyOf cell) with
  | none => simp
  | some row => simp [Option.filter]

theorem cellDay_rowAfter (h : db'.rateInventoryDays.find? (input.keyOf cell) =
      some (rowAfter propertyId input now resolved cell db)) :
    cellDay propertyId input cell db' = some (rowAfter propertyId input now resolved cell db) := by
  have hproperty : (rowAfter propertyId input now resolved cell db).propertyId = propertyId := by
    show ((cellDay propertyId input cell db).getD (emptyDay propertyId input cell)).propertyId = _
    cases hday : cellDay propertyId input cell db with
    | none => rfl
    | some row =>
      rw [cellDay_eq] at hday
      exact of_decide_eq_true (Option.filter_eq_some_iff.mp hday).2
  rw [cellDay_eq, h, Option.filter_some_pos (by simpa using hproperty)]

theorem AcceptedEdit.again (h : AcceptedEdit propertyId input resolved db)
    (hdelta : input.set.priceDeltaBp = none) (htables : RatesOnly db db') :
    AcceptedEdit propertyId input [] db' where
  types := h.types
  ranges := h.ranges
  windows := h.windows
  owned := by
    rw [htables.roomTypes]
    exact h.owned
  priced := by
    have hread : ∀ first last,
        ((resolvedPrices propertyId input first last).eval .idle db').1 = .ok [] := by
      intro first last
      simp [resolvedPrices, hdelta]
    unfold resolvedOf
    split
    · exact hread _ _
    · rfl

/-- What the row that is written has in a field that was asked for, and in one that was not. -/
theorem rowAfter_value (now : ℤ)
    (hflags : (nextOf (cellChanges propertyId input resolved cell db)).violatesNotNull = false)
    (field : RateChangeField) :
    let differs (v : RateValue) := ¬v.Same (storedValue (cellDay propertyId input cell db) field) ∨
      field = .channel ∧ input.set.sendsBoth = true
    (∃ v ∈ requestedOf propertyId input resolved cell db field, differs v ∧
      v.Same ((rowAfter propertyId input now resolved cell db).valueOf field)) ∨
    (∀ v ∈ requestedOf propertyId input resolved cell db field, ¬differs v) ∧
      ((rowAfter propertyId input now resolved cell db).valueOf field).Same
        (shownValue propertyId input cell db field) := by
  have hvalue := valueOf_apply hflags input.tag input.actorStaffId now
    ((cellDay propertyId input cell db).getD (emptyDay propertyId input cell)) field
  rcases valueOf_nextOf input.set (priceOf resolved cell) (cellDay propertyId input cell db) field
    with ⟨v, hv, hdiffers, hnext⟩ | ⟨hnone, hnext⟩
  · refine .inl ⟨v, hv, hdiffers, ?_⟩
    rw [show (nextOf (cellChanges propertyId input resolved cell db)).valueOf field = some v
      from hnext] at hvalue
    exact hvalue.symm
  · refine .inr ⟨hnone, ?_⟩
    rw [show (nextOf (cellChanges propertyId input resolved cell db)).valueOf field = none
      from hnext] at hvalue
    exact hvalue

theorem countP_cellChanges (propertyId : Id) (input : BulkUpdateInput)
    (resolved : List (Id × NightPrice)) (cell : Id × ℤ) (db : HotelDb) (field : RateChangeField) :
    (cellChanges propertyId input resolved cell db).countP (fun w => w.field = field) =
      (requestedOf propertyId input resolved cell db field).countP fun v =>
        ¬v.Same (storedValue (cellDay propertyId input cell db) field) ∨
          field = .channel ∧ input.set.sendsBoth = true :=
  countP_changesTo _ _ _ _

/-! ## A clean request -/

section Clean

variable (hcell : cell ∈ input.cells)
  (hclean : Untouched propertyId input resolved cell db ∨
    Clean propertyId input resolved cell db)

include hcell hclean

theorem entries_of_clean (field : RateChangeField) :
    input.cells.count cell *
        (cellChanges propertyId input resolved cell db).countP (fun w => w.field = field) =
      if Changes propertyId input resolved cell db field then 1 else 0 := by
  rcases hclean with huntouched | hclean
  · rw [cellChanges_eq_nil_iff.mpr huntouched, if_neg (huntouched.1 field)]
    rfl
  · rw [count_cells hcell, hclean.once, Nat.one_mul, countP_cellChanges]
    split_ifs with hchanges
    · have hlength : (requestedOf propertyId input resolved cell db field).length ≤ 1 := by
        refine requestedValues_length _ _ fun hprice hboth => ?_
        subst hprice
        exact hclean.price hboth.1 hboth.2 hchanges
      obtain ⟨v, hv, hne⟩ := hchanges
      refine Nat.le_antisymm (List.countP_le_length.trans hlength) ?_
      exact List.countP_pos_iff.mpr ⟨v, hv, decide_eq_true (.inl hne)⟩
    · refine List.countP_eq_zero.mpr fun v hv hdiffers => ?_
      rcases of_decide_eq_true hdiffers with hne | ⟨rfl, hboth⟩
      · exact hchanges ⟨v, hv, hne⟩
      · exact hchanges (hclean.channel hboth).2

theorem fine_of_clean : cellChanges propertyId input resolved cell db = [] ∨
    (nextOf (cellChanges propertyId input resolved cell db)).violatesNotNull = false ∧
      (cellDay propertyId input cell db = none →
        input.cells.count cell = 1 ∧
          db.rateInventoryDays.find? (input.keyOf cell) = none) := by
  refine hclean.imp cellChanges_eq_nil_iff.mpr fun hclean => ⟨?_, fun hnone => ?_⟩
  · by_contra hviolates
    rw [Bool.not_eq_false] at hviolates
    obtain ⟨field, hflag, hnull⟩ := violatesNotNull_iff.mp hviolates
    rcases valueOf_nextOf input.set (priceOf resolved cell) (cellDay propertyId input cell db) field
      with ⟨v, hv, -, hnext⟩ | ⟨-, hnext⟩
    · obtain rfl : v = .null := Option.some.inj (hnext.symm.trans hnull)
      have hclears := (clearsFlag_iff input.set _ _).mpr ⟨field, hflag, hv⟩
      exact Bool.false_ne_true (hclean.flags.symm.trans hclears)
    · exact nomatch hnext.symm.trans hnull
  · exact ⟨(count_cells hcell).trans hclean.once, ownRow_iff.mp hclean.free hnone⟩

end Clean

/-- An empty row has nothing in a field that is neither a flag nor the overrides. -/
theorem emptyDay_valueOf (hflag : field ∉ FLAGS) (hchannel : field ≠ .channel) :
    (emptyDay propertyId input cell).valueOf field = .null := by
  cases field <;> simp_all [FLAGS, RateInventoryDay.valueOf, emptyDay, RateValue.ofInt,
    RateValue.ofNat]

theorem requested_of_clean (hclean : Clean propertyId input resolved cell db)
    (hflags : (nextOf (cellChanges propertyId input resolved cell db)).violatesNotNull = false)
    {v : RateValue} (hv : v ∈ requestedOf propertyId input resolved cell db field) :
    v.Same ((rowAfter propertyId input now resolved cell db).valueOf field) := by
  rcases rowAfter_value now hflags field with ⟨v', hv', hdiffers, hsame⟩ | ⟨hnone, hsame⟩
  · -- one value is requested: two prices would have to be there already
    have hunique : v = v' := by
      refine requestedValues_unique (fun hprice hboth => ?_) hv hv'
      subst hprice
      rcases hdiffers with hne | ⟨hchannel, -⟩
      · exact hclean.price hboth.1 hboth.2 ⟨v', hv', hne⟩
      · cases hchannel
    exact hunique ▸ hsame
  · have hstored : v.Same (storedValue (cellDay propertyId input cell db) field) := by
      by_contra hne
      exact hnone v hv (.inl hne)
    refine .trans ?_ hsame.symm
    unfold shownValue
    cases hday : cellDay propertyId input cell db with
    | some row =>
      rw [hday] at hstored
      exact hstored
    | none =>
      rw [hday] at hstored
      obtain rfl : v = .null := RateValue.same_null_iff.mp hstored
      have hflag : field ∉ FLAGS := by
        intro hflag
        have hclears := (clearsFlag_iff input.set _ _).mpr ⟨field, hflag, hv⟩
        exact Bool.false_ne_true (hclean.flags.symm.trans hclears)
      have hchannel : field ≠ .channel := by
        rintro rfl
        obtain ⟨c, -, hc⟩ := List.mem_map.mp hv
        cases hc
      rw [Option.getD_none, emptyDay_valueOf hflag hchannel]
      exact .refl _

theorem succeeds_of_clean (h : AcceptedEdit propertyId input resolved db) (batchId : Id) (now : ℤ)
    (hclean : ∀ cell ∈ input.cells, Untouched propertyId input resolved cell db ∨
      Clean propertyId input resolved cell db) : Succeeds propertyId input db batchId now := by
  obtain ⟨existing, hfound, heval⟩ := bulkUpdate_eval h batchId now
  obtain ⟨as, db', hcells⟩ : ∃ as db', (all
      (updateCell propertyId input batchId now existing resolved) input.cells).eval .idle db =
        (.ok as, .idle, db') :=
    bulk_succeeds hfound fun cell hcell => fine_of_clean hcell (hclean cell hcell)
  exact (succeeds_iff.mpr ((heval db').mpr ⟨as, .idle, hcells⟩)).1

theorem idle_of_untouched (h : AcceptedEdit propertyId input resolved db) (batchId : Id) (now : ℤ)
    (hnone : ∀ cell ∈ input.cells, Untouched propertyId input resolved cell db) :
    Succeeds propertyId input db batchId now ∧
      ((bulkUpdate propertyId input batchId now).run db).db = db := by
  obtain ⟨existing, hfound, heval⟩ := bulkUpdate_eval h batchId now
  obtain ⟨as, db', hcells, rfl⟩ := Prog.eval_all_succeeds (P := fun s => s = db)
    (p := updateCell propertyId input batchId now existing resolved) (l := input.cells)
    (fun cell hcell s hs => by
      subst hs
      rw [updateCell_eval (hfound cell hcell)]
      exact ⟨_, _, if_pos (cellChanges_eq_nil_iff.mpr (hnone cell hcell)), rfl⟩) rfl
  exact succeeds_iff.mpr ((heval db').mpr ⟨as, .idle, hcells⟩)

theorem exactly_of_clean (h : AcceptedEdit propertyId input resolved db) (batchId : Id) (now : ℤ)
    (hclean : ∀ cell ∈ input.cells, Untouched propertyId input resolved cell db ∨
      Clean propertyId input resolved cell db) :
    EditsExactly propertyId input resolved db
      ((bulkUpdate propertyId input batchId now).run db).db := by
  have hsucceeds := succeeds_of_clean h batchId now hclean
  obtain ⟨existing, hfound, heval⟩ := bulkUpdate_eval h batchId now
  have htables : RatesOnly db ((bulkUpdate propertyId input batchId now).run db).db :=
    bulkUpdate_ratesOnly.run db
  set db' := ((bulkUpdate propertyId input batchId now).run db).db with hdb'
  obtain ⟨as, t, hcells⟩ := (heval db').mp (succeeds_iff.mp ⟨hsucceeds, hdb'.symm⟩)
  -- the row of a cell: as it was, or written
  have hrows : ∀ cell ∈ input.cells,
      cellDay propertyId input cell db' = cellDay propertyId input cell db ∧
          Untouched propertyId input resolved cell db ∨
        cellDay propertyId input cell db' =
            some (rowAfter propertyId input now resolved cell db) ∧
          Clean propertyId input resolved cell db ∧
          (nextOf (cellChanges propertyId input resolved cell db)).violatesNotNull = false := by
    intro cell hcell
    by_cases hnone : cellChanges propertyId input resolved cell db = []
    · exact .inl ⟨cellDay_same (bulk_row_same hfound hnone hcells),
        cellChanges_eq_nil_iff.mp hnone⟩
    · obtain ⟨hflags, -, hrow⟩ := bulk_row hfound hcell hnone hcells
      have hcase := (hclean cell hcell).resolve_left fun hu => hnone (cellChanges_eq_nil_iff.mpr hu)
      exact .inr ⟨cellDay_rowAfter hrow, hcase, hflags⟩
  have hrequested : ∀ cell ∈ input.cells, ∀ field,
      ∀ v ∈ requestedOf propertyId input resolved cell db field,
        v.Same (storedValue (cellDay propertyId input cell db') field) := by
    intro cell hcell field v hv
    rcases hrows cell hcell with ⟨hsame, huntouched⟩ | ⟨hrow, hclean, hflags⟩
    · rw [hsame]
      by_contra hne
      exact huntouched.1 field ⟨v, hv, hne⟩
    · rw [hrow]
      exact requested_of_clean hclean hflags hv
  constructor
  · exact htables
  · intro key hkey
    exact (bulkUpdate_row_frame hkey).run db
  · exact hrequested
  · intro cell hcell field hnothing
    unfold shownValue
    rcases hrows cell hcell with ⟨hsame, -⟩ | ⟨hrow, -, hflags⟩
    · rw [hsame]
      exact .refl _
    · rw [hrow]
      rcases rowAfter_value now hflags field with ⟨v, hv, -⟩ | ⟨-, hkept⟩
      · rw [hnothing] at hv
        cases hv
      · exact hkept
  · refine ⟨_, bulk_log hfound hcells, fun key field => ?_, fun e he => ?_⟩
    · by_cases hkey : ∃ cell ∈ input.cells, input.keyOf cell = key
      · obtain ⟨cell, hcell, rfl⟩ := hkey
        rw [countP_entries, entries_of_clean hcell (hclean cell hcell)]
        refine if_congr ⟨fun hc => ⟨cell, hcell, rfl, hc⟩, ?_⟩ rfl rfl
        rintro ⟨c, -, hc, hchanges⟩
        exact keyOf_inj hc ▸ hchanges
      · rw [if_neg fun ⟨cell, hcell, hk, _⟩ => hkey ⟨cell, hcell, hk⟩]
        refine List.countP_eq_zero.mpr fun e he hat => ?_
        obtain ⟨cell, hcell, w, -, hk, -⟩ := mem_entries he
        exact hkey ⟨cell, hcell, hk.symm.trans (of_decide_eq_true hat).1⟩
    · obtain ⟨cell, hcell, w, hw, hkey, hfield, hbefore, hafter⟩ := mem_entries he
      have hmem := (List.mem_filter.mp hw).1
      refine ⟨cell, hcell, hkey, ?_, ?_⟩
      · rw [hbefore, hfield]
        exact (isWant_of_mem hmem).before
      · rw [hafter, hfield]
        exact mem_requestedValues.mpr ⟨w, hmem, rfl, rfl⟩
  · intro hdelta batchId' now'
    refine idle_of_untouched (h.again hdelta htables) batchId' now' fun cell hcell => ⟨?_, ?_⟩
    · exact fun field => not_asks_after hdelta (hrequested cell hcell field)
    · rcases hclean cell hcell with huntouched | hclean
      · exact huntouched.2
      · by_contra hboth
        have hrelative := (hclean.channel (Bool.eq_true_of_not_eq_false hboth)).1
        rw [hdelta] at hrelative
        cases hrelative

/-! ## When a request does what it says -/

theorem clean_of_exactly (h : AcceptedEdit propertyId input resolved db)
    (hsucceeds : Succeeds propertyId input db batchId now)
    (hexactly : EditsExactly propertyId input resolved db
      ((bulkUpdate propertyId input batchId now).run db).db) (hcell : cell ∈ input.cells)
    (htouched : ¬Untouched propertyId input resolved cell db) :
    Clean propertyId input resolved cell db := by
  obtain ⟨existing, hfound, heval⟩ := bulkUpdate_eval h batchId now
  set db' := ((bulkUpdate propertyId input batchId now).run db).db with hdb'
  obtain ⟨as, t, hcells⟩ := (heval db').mp (succeeds_iff.mp ⟨hsucceeds, hdb'.symm⟩)
  have hsome : cellChanges propertyId input resolved cell db ≠ [] :=
    fun hnil => htouched (cellChanges_eq_nil_iff.mp hnil)
  obtain ⟨-, hfree, hrow⟩ := bulk_row hfound hcell hsome hcells
  have hday := cellDay_rowAfter hrow
  -- the entries of the cell in the log, by the edits and by what the log should hold
  have hentries : ∀ field, input.cells.count cell *
      (cellChanges propertyId input resolved cell db).countP (fun w => w.field = field) =
        if Changes propertyId input resolved cell db field then 1 else 0 := by
    intro field
    obtain ⟨entries, hlog, hcount, -⟩ := hexactly.logged
    have hsame := List.append_cancel_left ((bulk_log hfound hcells).symm.trans hlog)
    have hformula : (entries.countP fun e => e.key = input.keyOf cell ∧ e.field = field) =
        input.cells.count cell *
          (cellChanges propertyId input resolved cell db).countP fun w => w.field = field := by
      rw [← hsame]
      exact countP_entries _ _ _ _
    rw [← hformula, hcount]
    refine if_congr ⟨?_, fun hc => ⟨cell, hcell, rfl, hc⟩⟩ rfl rfl
    rintro ⟨c, -, hc, hchanges⟩
    exact keyOf_inj hc ▸ hchanges
  have honce : input.cells.count cell = 1 := by
    obtain ⟨w, hw⟩ := List.exists_mem_of_ne_nil _ hsome
    have hfield := hentries w.field
    have hchange : 0 < (cellChanges propertyId input resolved cell db).countP
        (fun w' => w'.field = w.field) := List.countP_pos_iff.mpr ⟨w, hw, decide_eq_true rfl⟩
    have hpos := List.count_pos_iff.mpr hcell
    have hle : input.cells.count cell * (cellChanges propertyId input resolved cell db).countP
        (fun w' => w'.field = w.field) ≤ 1 := by
      rw [hfield]
      split_ifs <;> omega
    have hmul := Nat.le_mul_of_pos_right (input.cells.count cell) hchange
    omega
  have hcounts : ∀ field, ((requestedOf propertyId input resolved cell db field).countP fun v =>
      ¬v.Same (storedValue (cellDay propertyId input cell db) field) ∨
        field = .channel ∧ input.set.sendsBoth = true) =
      if Changes propertyId input resolved cell db field then 1 else 0 := by
    intro field
    rw [← countP_cellChanges, ← hentries, honce, Nat.one_mul]
  have hafter := hexactly.requested cell hcell
  rw [hday] at hafter
  constructor
  · rw [← count_cells hcell, honce]
  · exact ownRow_iff.mpr hfree
  · by_contra hclears
    rw [Bool.not_eq_false] at hclears
    obtain ⟨field, hflag, hnull⟩ := (clearsFlag_iff input.set (priceOf resolved cell)
      (cellDay propertyId input cell db)).mp hclears
    have hsame := (hafter field _ hnull).symm
    have hvalue := RateValue.same_null_iff.mp hsame
    -- the row has a flag there
    simp only [FLAGS, List.mem_cons, List.not_mem_nil, or_false] at hflag
    rcases hflag with rfl | rfl | rfl <;> cases hvalue
  · intro hprice hdelta hchanges
    have hcount := hcounts .price
    obtain ⟨v, hv, hne⟩ := hchanges
    -- the two prices are the one that is stored, so both of them are new
    have hall : ∀ v' ∈ requestedOf propertyId input resolved cell db .price,
        ¬v'.Same (storedValue (cellDay propertyId input cell db) .price) := by
      intro v' hv' hsame
      exact hne (((hafter .price v hv).trans (hafter .price v' hv').symm).trans hsame)
    rw [if_pos ⟨v, hv, hne⟩, List.countP_eq_length.mpr fun v' hv' =>
      decide_eq_true (.inl (hall v' hv'))] at hcount
    obtain ⟨value, hvalue⟩ := Option.isSome_iff_exists.mp hprice
    obtain ⟨delta, hdelta⟩ := Option.isSome_iff_exists.mp hdelta
    simp [requestedOf, requestedValues, hvalue, hdelta] at hcount
  · intro hboth
    obtain ⟨c, hc, -⟩ := (Option.any_eq_true _ _).mp hboth
    constructor
    · by_contra hrelative
      have hdelta : input.set.priceDeltaBp = none := by simpa using hrelative
      -- the override is written again by the same request
      obtain ⟨hagain, hidle⟩ := hexactly.repeated hdelta batchId now
      obtain ⟨existing', hfound', heval'⟩ :=
        bulkUpdate_eval (h.again hdelta hexactly.tables) batchId now
      obtain ⟨as', t', hcells'⟩ := (heval' db').mp (succeeds_iff.mp ⟨hagain, hidle⟩)
      have hlog := bulk_log hfound' hcells'
      have hnone := List.append_right_eq_self.mp hlog.symm
      have hcellnone := List.flatMap_eq_nil_iff.mp hnone cell hcell
      have hone := (cellChanges_eq_nil_iff.mp (List.map_eq_nil_iff.mp hcellnone)).2
      exact Bool.false_ne_true (hone.symm.trans hboth)
    · by_contra hnot
      have hcount := hcounts .channel
      rw [if_neg hnot, List.countP_eq_zero] at hcount
      have hmem : RateValue.channels (assignKey
          (((cellDay propertyId input cell db).map (·.channelOverrides)).getD []) c.1 c.2) ∈
          requestedOf propertyId input resolved cell db .channel := by
        simp [requestedOf, requestedValues, hc]
      exact hcount _ hmem (decide_eq_true (.inr ⟨rfl, hboth⟩))

end Cells

/-! ## A type that is named twice -/

/-- One room type, and no day of it priced yet. -/
def unpricedType : HotelDb where
  roomTypes := (∅ : Table RoomType.id).insert
    { id := 7, propertyId := 1, name := "Deluxe", baseRate := 400000 }

/-- A price for day 3, for the types named. -/
def priceFor (roomTypeIds : List Id) : BulkUpdateInput where
  roomTypeIds
  ranges := [⟨3, 3⟩]
  set := { pricePaise := some (some 450000) }
  actorStaffId := some 5
  actorKind := some .STAFF

end RatesService

end Travelo

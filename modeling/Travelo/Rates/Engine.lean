import Travelo.Availability.Published
import Travelo.Rates.Calendar
import Travelo.Rates.Writes
import Travelo.RevenueEngine

/-!
# One run of the revenue engine

A run alone reads everything it needs and then visits the cells of the grid one after the
other (`run_eval`). Visiting a cell writes that cell and no other (`priceCell_row_frame`), so
each is priced from what the run found at its start.
-/

namespace Travelo

open ReadCommitted RatesService

/-! ## The grid -/

/-- The cell of a type on a day, as the grid works it out. -/
def cellAt (propertyId : Id) (fromDate toDate : ℤ) (db : HotelDb) (t : RoomType) (d : ℤ) :
    RateDayCell :=
  let typeIds := (shownTypes propertyId db).map RoomType.id
  gridCell t ((ChannexSyncService.inventory propertyId db).count t.id)
    (dayRows propertyId typeIds fromDate toDate none db)
    (db.rateOverrides.filter fun o =>
      o.propertyId = propertyId && typeIds.contains o.roomTypeId &&
        o.startDate ≤ addDays toDate (-1) && fromDate ≤ o.endDate && o.deletedAt.isNone)
    (ChannexSyncService.staysInPlay propertyId fromDate toDate db) d

theorem gridLine_days {propertyId : Id} {fromDate toDate : ℤ} {db : HotelDb} {t : RoomType} :
    (gridLine propertyId fromDate toDate db t).days =
      (datesFrom fromDate toDate).map (cellAt propertyId fromDate toDate db t) := rfl

theorem grid_eval {propertyId : Id} {fromDate toDate : ℤ} {db : HotelDb} :
    (grid propertyId fromDate toDate none).eval .idle db =
      match assertWindow fromDate toDate with
      | .ok _ => (.ok (gridTypes propertyId fromDate toDate db), .idle, db)
      | .error e => (.error e, .idle, db) := by
  cases hwindow : assertWindow fromDate toDate with
  | error e => simp only [grid, eval_simps, hwindow]
  | ok _ =>
    unfold assertWindow at hwindow
    split_ifs at hwindow with hend hspan
    exact eval_grid ⟨hend, not_lt.mp hspan⟩

namespace RevenueEngineService

/-- The ids of the types a run prices. -/
def typeIdsOf (propertyId : Id) (opts : RunRulesOpts) (db : HotelDb) : List Id :=
  (selectedTypes propertyId opts db).map RoomType.id

/-- The lowest price of a room. -/
def floorOf (propertyId : Id) (db : HotelDb) : ℤ :=
  ((db.propertySettings.find? propertyId).bind (·.minRoomPricePaise)).getD 0

/-- The rules of a run, in the order they are tried. -/
def nightRules (propertyId : Id) (opts : RunRulesOpts) (db : HotelDb) : List PricingRule :=
  byPriority (liveRules propertyId (typeIdsOf propertyId opts db) db)

/-- The cells a run visits. -/
def visited (propertyId : Id) (opts : RunRulesOpts) (now : ℤ) (db : HotelDb) :
    List RateDayCell :=
  cellsOf (typeIdsOf propertyId opts db)
    (gridTypes propertyId (today now) (horizonEnd opts now) db)

/-- The loop of a run over what it read in `db`. -/
def priceCells (propertyId : Id) (opts : RunRulesOpts) (now : ℤ) (batchId : ℕ → Id)
    (db : HotelDb) : Op (List (Option PlannedDay)) :=
  all
    (fun c : RateDayCell × ℕ =>
      priceCell propertyId (floorOf propertyId db) (nightRules propertyId opts db)
        (baseRows propertyId (typeIdsOf propertyId opts db) db) opts.dryRun now c.1 (batchId c.2))
    (visited propertyId opts now db).zipIdx

/-- The end of a run: the rules are stamped. -/
def finish (propertyId : Id) (opts : RunRulesOpts) (now : ℤ) (db : HotelDb)
    (planned : List (Option PlannedDay)) : Op RuleRunResult := do
  let rules := liveRules propertyId (typeIdsOf propertyId opts db) db
  when (opts.dryRun = false ∧ rules ≠ []) (stampRules rules now)
  let plan := planned.reduceOption
  return {
    propertyId
    roomTypes := (typeIdsOf propertyId opts db).length
    rulesEvaluated := (nightRules propertyId opts db).length
    daysPriced := plan.countP fun p => p.ruleId.isSome
    daysReverted := plan.countP fun p => p.ruleId.isNone
    dryRun := opts.dryRun
    plan }

section Run

variable {propertyId : Id} {opts : RunRulesOpts} {now : ℤ} {batchId : ℕ → Id} {db : HotelDb}

theorem mem_visited {c : RateDayCell} : c ∈ visited propertyId opts now db ↔
    ∃ t ∈ shownTypes propertyId db, t.id ∈ typeIdsOf propertyId opts db ∧
      ∃ d ∈ datesFrom (today now) (horizonEnd opts now),
        c = cellAt propertyId (today now) (horizonEnd opts now) db t d := by
  simp only [visited, cellsOf, gridTypes, List.mem_flatMap, List.mem_filter, List.mem_map,
    List.contains_iff_mem]
  constructor
  · rintro ⟨_, ⟨⟨t, ht, rfl⟩, hid⟩, hc⟩
    obtain ⟨d, hd, rfl⟩ := List.mem_map.mp hc
    exact ⟨t, ht, hid, d, hd, rfl⟩
  · rintro ⟨t, ht, hid, d, hd, rfl⟩
    exact ⟨_, ⟨⟨t, ht, rfl⟩, hid⟩, List.mem_map_of_mem hd⟩

theorem visited_type {c : RateDayCell} (hc : c ∈ visited propertyId opts now db) :
    c.roomTypeId ∈ typeIdsOf propertyId opts db := by
  obtain ⟨t, -, hid, d, -, rfl⟩ := mem_visited.mp hc
  exact hid

/-- A run alone: nothing to do, an impossible window, or the loop over what was read. -/
theorem run_eval :
    (run propertyId opts now batchId).eval .idle db =
      if selectedTypes propertyId opts db = [] then
        (.ok ⟨propertyId, 0, 0, 0, 0, opts.dryRun, []⟩, .idle, db)
      else match assertWindow (today now) (horizonEnd opts now) with
        | .ok _ => (priceCells propertyId opts now batchId db >>=
            finish propertyId opts now db).eval .idle db
        | .error e => (.error e, .idle, db) := by
  simp only [run, eval_simps, eval_ite, grid_eval, List.isEmpty_iff]
  split_ifs with hempty
  · rfl
  · cases assertWindow (today now) (horizonEnd opts now) with
    | error e => rfl
    | ok _ =>
      simp only [finish, eval_bind]
      rfl

theorem finish_alone {R : HotelDb → HotelDb → Prop} (hrefl : ∀ s, R s s)
    (htrans : ∀ s s' s'', R s s' → R s' s'' → R s s'')
    (hstamp : ∀ (s : HotelDb) rules, R s { s with pricingRules := rules })
    (planned : List (Option PlannedDay)) : (finish propertyId opts now db planned).Alone R :=
  .bind htrans (.when hrefl _ (.write _ _ fun s => hstamp s _)) fun _ => .pure hrefl _

end Run

/-! ## One cell -/

theorem datesFrom_nodup (fromDate toDate : ℤ) : (datesFrom fromDate toDate).Nodup := by
  refine List.Nodup.map (fun i j h => ?_) List.nodup_range
  simp only [addDays] at h
  omega

theorem datesFrom_day (d : ℤ) : datesFrom d (addDays d 1) = [d] := by
  simp [datesFrom, addDays, show d + 1 - d = 1 by omega]

section Cell

variable {propertyId : Id} {now : ℤ} {batchId : Id} {c : RateDayCell} {price : Option ℤ}
  {ruleId : Option Id} {R : HotelDb → HotelDb → Prop}

/-- The row of a cell of the grid. -/
def keyOf (c : RateDayCell) : Id × Option Id × ℤ := (c.roomTypeId, none, c.date)

theorem mem_cellEdit {cell : Id × ℤ} :
    cell ∈ (cellEdit c price ruleId).cells ↔ cell = (c.roomTypeId, c.date) := by
  have hdates : (cellEdit c price ruleId).dates = [c.date] := by
    simp [BulkUpdateInput.dates, cellEdit, datesFrom_day]
  simp only [BulkUpdateInput.cells, hdates, List.mem_flatMap, List.map_cons, List.map_nil,
    List.mem_singleton]
  simp [cellEdit]

variable {dryRun : Bool}

variable {key : Id × Option Id × ℤ}

theorem writeCell_row_frame (hkey : key ≠ keyOf c) :
    (writeCell propertyId dryRun batchId now c price ruleId).Alone (SameRow key) := by
  have hedit : ∀ cell ∈ (cellEdit c price ruleId).cells,
      (cellEdit c price ruleId).keyOf cell ≠ key := by
    rintro cell hcell rfl
    rw [mem_cellEdit.mp hcell] at hkey
    exact hkey rfl
  refine .when SameRow.refl _ (.bind SameRow.trans ?_ fun _ => .pure SameRow.refl _)
  exact bulkUpdate_row_frame hedit

theorem writeCell_ratesOnly :
    (writeCell propertyId dryRun batchId now c price ruleId).Alone RatesOnly :=
  .when RatesOnly.refl _ (.bind RatesOnly.trans bulkUpdate_ratesOnly fun _ =>
    .pure RatesOnly.refl _)

theorem baseWithoutRule_readOnly {roomTypeId : Id} {date : ℤ} :
    (baseWithoutRule propertyId roomTypeId date).ReadOnly := by
  have hnights : ∀ toDate, (nightlyPrices propertyId roomTypeId date toDate none).ReadOnly :=
    fun toDate => .bind (.lift _) fun _ => .bind (.select _ _) fun _ => .bind (.orThrow _ _)
      fun _ => .bind (.select _ _) fun _ => .bind (.select _ _) fun _ => .pure _
  exact .bind (hnights _) fun _ => .bind (.orThrow _ _) fun _ => .ite _ (.pure _)
    (.bind (.select _ _) fun _ => .bind (.select _ _) fun _ => .pure _)

theorem basePrice_readOnly : (basePrice propertyId c).ReadOnly :=
  .ite _ baseWithoutRule_readOnly (.pure _)

variable {rows : List RateInventoryDay} {rules : List PricingRule} {floor : ℤ}

theorem priceCell_alone (hrefl : ∀ s, R s s) (htrans : ∀ s s' s'', R s s' → R s' s'' → R s s'')
    (hwrite : ∀ price ruleId, (writeCell propertyId dryRun batchId now c price ruleId).Alone R) :
    (priceCell propertyId floor rules rows dryRun now c batchId).Alone R := by
  refine .ite _ (.pure hrefl _)
    (.bind htrans (.of_readOnly hrefl basePrice_readOnly) fun base => ?_)
  split
  · exact .ite _ (.pure hrefl _) (.bind htrans (hwrite _ _) fun _ => .pure hrefl _)
  · exact .ite _ (.pure hrefl _) (.bind htrans (hwrite _ _) fun _ => .pure hrefl _)

theorem priceCell_row_frame (hkey : key ≠ keyOf c) :
    (priceCell propertyId floor rules rows dryRun now c batchId).Alone (SameRow key) :=
  priceCell_alone SameRow.refl SameRow.trans fun _ _ => writeCell_row_frame hkey

theorem priceCell_ratesOnly :
    (priceCell propertyId floor rules rows dryRun now c batchId).Alone RatesOnly :=
  priceCell_alone RatesOnly.refl RatesOnly.trans fun _ _ => writeCell_ratesOnly

end Cell

variable {d : ℤ}

variable {db : HotelDb}

theorem baseRows_find? {propertyId roomTypeId : Id} {typeIds : List Id}
    (hmem : roomTypeId ∈ typeIds) :
    (baseRows propertyId typeIds db).find? (fun r => r.roomTypeId = roomTypeId && r.date = d) =
      planDay propertyId roomTypeId none d db := by
  rw [baseRows, List.find?_filter, planDay]
  congr 1
  funext r
  by_cases htype : r.roomTypeId = roomTypeId
  · simp [htype, hmem]
  · simp [htype]

variable {propertyId : Id}

theorem run_aloneOn {opts : RunRulesOpts} {now : ℤ} {batchId : ℕ → Id}
    {R : HotelDb → HotelDb → Prop} (hrefl : ∀ s, R s s)
    (htrans : ∀ s s' s'', R s s' → R s' s'' → R s s'')
    (hstamp : ∀ (s : HotelDb) rules, R s { s with pricingRules := rules })
    (hcell : ∀ c ∈ visited propertyId opts now db, ∀ batchId,
      (priceCell propertyId (floorOf propertyId db) (nightRules propertyId opts db)
        (baseRows propertyId (typeIdsOf propertyId opts db) db) opts.dryRun now c batchId).Alone R) :
    (run propertyId opts now batchId).AloneOn R db := by
  have hloop : (priceCells propertyId opts now batchId db).Alone R :=
    .all hrefl htrans fun c hc => hcell c.1 (List.fst_mem_of_mem_zipIdx hc) _
  unfold Prog.AloneOn
  rw [run_eval]
  split_ifs with hempty
  · exact ⟨rfl, hrefl db⟩
  · cases assertWindow (today now) (horizonEnd opts now) with
    | error e => exact ⟨rfl, hrefl db⟩
    | ok _ =>
      exact Prog.AloneOn.bind htrans (hloop db) fun planned s _ =>
        finish_alone hrefl htrans hstamp planned s

/-! ## The base -/

/-- The overrides of a type that cover a night, by their first day. -/
def listedOverrides (propertyId roomTypeId : Id) (d : ℤ) (db : HotelDb) : List RateOverride :=
  ((db.rateOverrides.filter fun o => o.propertyId = propertyId && o.deletedAt.isNone).insertionSort
    fun a b => a.startDate ≤ b.startDate).filter fun o =>
      o.roomTypeId = roomTypeId && o.startDate ≤ d && d ≤ o.endDate

/-- The price a run starts from in a cell. -/
def engineBase (propertyId : Id) (db : HotelDb) (c : RateDayCell) : ℤ :=
  if c.priceSource = .day then
    ((listedOverrides propertyId c.roomTypeId c.date db).head?.map (·.ratePaise)).getD
      (((db.roomTypes.find? c.roomTypeId).map (·.baseRate)).getD c.pricePaise)
  else c.pricePaise

/-- One night of a type, as it is charged. -/
def nightOf (propertyId : Id) (type : RoomType) (d : ℤ) (db : HotelDb) : NightPrice :=
  nightPrice (dayRows propertyId [type.id] d (addDays d 1) none db)
    (overridesOf propertyId type.id d (addDays d 1) db) type.id type.baseRate d

variable {type : RoomType}

theorem nightlyPrices_day {s : HotelDb} (htype : type ∈ s.roomTypes)
    (hproperty : type.propertyId = propertyId) :
    (nightlyPrices propertyId type.id d (addDays d 1) none).eval .idle s =
      (.ok [nightOf propertyId type d s], .idle, s) := by
  have hwindow : assertWindow d (addDays d 1) = .ok () := by
    have h₁ : d < addDays d 1 := by simp only [addDays]; omega
    have h₂ : ¬MAX_RATE_WINDOW_DAYS < addDays d 1 - d := by
      simp only [addDays, MAX_RATE_WINDOW_DAYS]
      omega
    rw [assertWindow, if_neg (not_not.mpr h₁), if_neg h₂]
  have hfound : (s.roomTypes.find? type.id).filter (fun t => t.propertyId = propertyId) =
      some type := by
    rw [find?_key htype, Option.filter_some_pos (by simpa using hproperty)]
  simp only [nightlyPrices, eval_simps, hwindow, hfound, Option.elim_some, datesFrom_day]
  rfl

theorem nightOf_eq :
    nightOf propertyId type d db =
      let price := dayPrice propertyId type.id none d db
      let ov := (overridesOf propertyId type.id d (addDays d 1) db).find? fun o =>
        o.startDate ≤ d && d ≤ o.endDate
      { date := d
        pricePaise := price.getD ((ov.map (·.ratePaise)).getD type.baseRate)
        source := if price.isSome then .day else if ov.isSome then .override else .base } := by
  have hday : d ≤ d ∧ d < addDays d 1 := by
    simp only [addDays]
    omega
  rw [nightOf, nightPrice_eq, dayRows_find?_plan (List.mem_singleton_self type.id) hday]
  rfl

theorem nightOf_day (h : (dayPrice propertyId type.id none d db).isSome = true) :
    (nightOf propertyId type d db).source = .day := by
  rw [nightOf_eq]
  exact if_pos h

section Visit

variable {propertyId : Id} {opts : RunRulesOpts} {now : ℤ} {db s : HotelDb} {c : RateDayCell}

theorem visited_cell (hc : c ∈ visited propertyId opts now db) :
    ∃ type ∈ db.roomTypes, type.id = c.roomTypeId ∧ type.propertyId = propertyId ∧
      let price := dayPrice propertyId c.roomTypeId none c.date db
      let ov := (coveringOverrides propertyId c.roomTypeId c.date db).head?
      c.pricePaise = price.getD ((ov.map (·.ratePaise)).getD type.baseRate) ∧
        c.priceSource = if price.isSome then .day else if ov.isSome then .override else .base := by
  obtain ⟨type, htype, -, d, hd, rfl⟩ := mem_visited.mp hc
  have hrow := List.mem_filter.mp ((List.mem_insertionSort _).mp htype)
  have hids := List.mem_map_of_mem (f := RoomType.id) htype
  rw [mem_datesFrom] at hd
  refine ⟨type, hrow.1, rfl, ?_, ?_⟩
  · have hproperty := hrow.2
    simp only [and_decide_eq] at hproperty
    exact hproperty.1.1
  · simp only [cellAt, gridCell, dayRows_find?_plan hids hd, gridOverride_eq hids hd]
    exact ⟨rfl, rfl⟩

theorem visited_source (hc : c ∈ visited propertyId opts now db) :
    c.priceSource = .day ↔ (dayPrice propertyId c.roomTypeId none c.date db).isSome = true := by
  obtain ⟨type, -, -, -, -, hsource⟩ := visited_cell hc
  rw [hsource]
  split_ifs <;> simp_all

theorem basePrice_eval (hc : c ∈ visited propertyId opts now db) (hs : RatesOnly db s)
    (hrow : SameRow (keyOf c) db s) :
    (basePrice propertyId c).eval .idle s = (.ok (engineBase propertyId db c), .idle, s) := by
  obtain ⟨type, htype, hid, hproperty, hprice, hsource⟩ := visited_cell hc
  have hday : dayPrice propertyId c.roomTypeId none c.date s =
      dayPrice propertyId c.roomTypeId none c.date db := by
    rw [dayPrice, dayPrice, planDay_eq, planDay_eq]
    exact congrArg (fun r => (Option.filter (fun d => d.propertyId = propertyId) r).bind
      (·.pricePaise)) hrow
  have htypes : s.roomTypes = db.roomTypes := hs.roomTypes
  unfold basePrice engineBase
  by_cases hd : c.priceSource = .day
  · have hpriced := (visited_source hc).mp hd
    have hnight : (nightOf propertyId type c.date s).source = .day :=
      nightOf_day (by rw [hid, hday]; exact hpriced)
    have hnights := nightlyPrices_day (d := c.date) (htypes ▸ htype) hproperty
    rw [hid] at hnights
    have hfound : db.roomTypes.find? c.roomTypeId = some type := by
      rw [← hid]
      exact find?_key htype
    rw [if_pos hd, if_pos hd]
    simp only [baseWithoutRule, eval_simps, hnights, List.head?_cons, Option.elim_some, hnight,
      ne_eq, not_true_eq_false, if_false, RatesService.list, listedOverrides, List.head?_filter,
      htypes, hs.rateOverrides, hfound]
    rfl
  · rw [if_neg hd, if_neg hd]
    rfl

end Visit

end RevenueEngineService

end Travelo

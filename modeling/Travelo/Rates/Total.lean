import Travelo.Rates.House

/-!
# A run ends well

The rows of the grid are at the properties of their types (`SoundRows`): a bulk edit checks
it, and a run keeps it. In such a state a run over the usual window ends well
(`run_succeeds`): the row of a cell it visits is its own, to be updated or inserted.
-/

namespace Travelo

open ReadCommitted RatesService

/-- Every row of the grid is at the property of its type. -/
def SoundRows (db : HotelDb) : Prop :=
  ∀ row ∈ db.rateInventoryDays, ∃ t ∈ db.roomTypes, t.id = row.roomTypeId ∧
    t.propertyId = row.propertyId

theorem SoundRows.ownRow {db : HotelDb} (h : SoundRows db) {t : RoomType} (ht : t ∈ db.roomTypes)
    {ratePlanId : Option Id} {d : ℤ} : OwnRow t.propertyId (t.id, ratePlanId, d) db := by
  intro row hrow
  obtain ⟨hmem, hkey⟩ := Table.find?_eq_some.mp hrow
  obtain ⟨t', ht', hid, hproperty⟩ := h row hmem
  have htype : row.roomTypeId = t.id := (Prod.mk.inj hkey).1
  rw [← hproperty, eq_of_key_eq ht' ht (hid.trans htype)]

namespace RatesService

section Write

variable {propertyId : Id} {input : BulkUpdateInput} {batchId : Id} {now : ℤ} {cell : Id × ℤ}
  {s : HotelDb}

theorem writeDay_succeeds {next : RateDayPatch}
    (hown : OwnRow propertyId (input.keyOf cell) s) (hflags : next.violatesNotNull = false) :
    ∃ s', writeDay propertyId input now cell
      (planDay propertyId cell.1 input.ratePlanId cell.2 s) next s = .ok s' := by
  unfold writeDay
  rw [if_neg (by simp [hflags])]
  cases hbefore : planDay propertyId cell.1 input.ratePlanId cell.2 s with
  | some row => exact ⟨_, rfl⟩
  | none =>
    have hfree : s.rateInventoryDays.hasKey (input.keyOf cell) = false := by
      rw [hasKey_eq_false]
      intro row hrow hkey
      have hfind : s.rateInventoryDays.find? (input.keyOf cell) = some row :=
        Table.find?_eq_some.mpr ⟨hrow, hkey⟩
      rw [planDay_eq, show s.rateInventoryDays.find? (cell.1, input.ratePlanId, cell.2) =
        some row from hfind, Option.filter_some_pos (by simpa using hown row hfind)] at hbefore
      cases hbefore
    simp only [hfree]
    exact ⟨_, rfl⟩

theorem updateCell_succeeds {existing : List RateInventoryDay} {resolved : List (Id × NightPrice)}
    (hfound : existing.find? (fun r => r.roomTypeId = cell.1 && r.date = cell.2) =
      planDay propertyId cell.1 input.ratePlanId cell.2 s)
    (hown : OwnRow propertyId (input.keyOf cell) s)
    (hflags : ∀ base before, (nextOf (changesTo input.set base before)).violatesNotNull = false) :
    ∃ b s', (updateCell propertyId input batchId now existing resolved cell).eval .idle s =
      (.ok b, .idle, s') := by
  simp only [updateCell, hfound, eval_ite, eval_simps, Prog.eval_writeChecked_idle]
  split_ifs with hempty
  · exact ⟨_, _, rfl⟩
  · obtain ⟨s', hwrite⟩ := @writeDay_succeeds propertyId input now cell s _ hown (hflags _ _)
    rw [hwrite]
    exact ⟨_, _, rfl⟩

theorem writeDay_sound {before : Option RateInventoryDay} {next : RateDayPatch} {s' : HotelDb}
    {t : RoomType} (ht : t ∈ s.roomTypes) (hid : t.id = cell.1)
    (hproperty : t.propertyId = propertyId)
    (h : writeDay propertyId input now cell before next s = .ok s') (hs : SoundRows s) :
    SoundRows s' := by
  obtain ⟨honly, -, hother, hcell⟩ := writeDay_ok h
  intro row hrow
  rw [honly.roomTypes]
  have hfind := find?_key hrow
  by_cases hkey : row.key = input.keyOf cell
  · rw [hkey] at hfind
    cases before with
    | some _ =>
      rw [hcell] at hfind
      obtain ⟨day, hday, rfl⟩ := Option.map_eq_some_iff.mp hfind
      exact hs day (mem_of_find? hday)
    | none =>
      rw [hcell.2] at hfind
      cases hfind
      exact ⟨t, ht, hid, hproperty⟩
  · rw [hother _ hkey] at hfind
    exact hs row (mem_of_find? hfind)

end Write

end RatesService

namespace RevenueEngineService

section Cell

variable {propertyId : Id} {opts : RunRulesOpts} {now : ℤ} {batchId : Id} {db s : HotelDb}
  {c : RateDayCell}

theorem cellEdit_dates {price : Option ℤ} {ruleId : Option Id} :
    (cellEdit c price ruleId).dates = [c.date] := by
  simp [BulkUpdateInput.dates, cellEdit, datesFrom_day]

theorem cellEdit_cells {price : Option ℤ} {ruleId : Option Id} :
    (cellEdit c price ruleId).cells = [(c.roomTypeId, c.date)] := by
  rw [BulkUpdateInput.cells, cellEdit_dates]
  rfl

theorem cellEdit_flags {price : Option ℤ} {ruleId : Option Id} {base : ℤ}
    {before : Option RateInventoryDay} :
    (nextOf (changesTo (cellEdit c price ruleId).set base before)).violatesNotNull = false := by
  simp only [changesTo, priceWants, otherWants, cellEdit, Option.toList_some, Option.toList_none,
    List.map_cons, List.map_nil, List.append_nil, List.filter_cons, List.filter_nil]
  split_ifs <;> rfl

theorem cellEdit_owned {t : RoomType} (ht : t ∈ s.roomTypes) (hid : t.id = c.roomTypeId)
    (hproperty : t.propertyId = propertyId) (hlive : t.deletedAt = none) :
    s.roomTypes.rows.countP (fun t => t.propertyId = propertyId &&
      [c.roomTypeId].contains t.id && t.deletedAt.isNone) = 1 := by
  have hsame : ∀ r ∈ s.roomTypes.rows, (r.propertyId = propertyId &&
      [c.roomTypeId].contains r.id && r.deletedAt.isNone) = true ↔ (r.id == t.id) = true := by
    intro r hr
    simp only [and_decide_eq, List.contains_iff_mem, List.mem_singleton, beq_iff_eq]
    constructor
    · exact fun h => h.1.2.trans hid.symm
    · intro h
      obtain rfl : r = t := eq_of_key_eq hr ht h
      exact ⟨⟨hproperty, hid⟩, by rw [hlive]; rfl⟩
  rw [List.countP_congr hsame]
  have hcount : (s.roomTypes.rows.map RoomType.id).count t.id = 1 :=
    List.count_eq_one_of_mem s.roomTypes.nodup (List.mem_map_of_mem ht)
  rwa [List.count, List.countP_map] at hcount

theorem cellEdit_succeeds {price : Option ℤ} {ruleId : Option Id} {t : RoomType}
    (ht : t ∈ s.roomTypes) (hid : t.id = c.roomTypeId) (hproperty : t.propertyId = propertyId)
    (hlive : t.deletedAt = none) (hown : OwnRow propertyId (keyOf c) s) :
    ∃ res s', (bulkUpdate propertyId (cellEdit c price ruleId) batchId now).eval .idle s =
      (.ok res, .idle, s') := by
  have hwindow : c.date ≤ c.date ∧ c.date < addDays c.date 1 := by
    simp only [addDays]
    omega
  have hranges : assertRanges (cellEdit c price ruleId).ranges = .ok () := by
    have hassert : assertWindow c.date (addDays c.date 1) = .ok () := by
      have hspan : ¬MAX_RATE_WINDOW_DAYS < addDays c.date 1 - c.date := by
        simp only [addDays, MAX_RATE_WINDOW_DAYS]
        omega
      rw [assertWindow, if_neg (not_not.mpr hwindow.2), if_neg hspan]
    simp [assertRanges, cellEdit, hassert]
  obtain ⟨b, s', hcell⟩ := @updateCell_succeeds propertyId (cellEdit c price ruleId) batchId now
    (c.roomTypeId, c.date) s (dayRows propertyId (cellEdit c price ruleId).roomTypeIds c.date
      (addDays c.date 1) (cellEdit c price ruleId).ratePlanId s) []
    (dayRows_find?_plan (List.mem_singleton_self _) hwindow) hown fun _ _ => cellEdit_flags
  have hcells : (updateCells propertyId (cellEdit c price ruleId) batchId now c.date
      (addDays c.date 1)).eval .idle s = (.ok [b], .idle, s') := by
    have hdelta : (cellEdit c price ruleId).set.priceDeltaBp.isNone = true := rfl
    simp only [updateCells, resolvedPrices, cellEdit_cells, eval_simps, if_pos hdelta, all,
      eval_bind', hcell, eval_ret]
  have htransaction := updateCells_body.eval_transaction (p := updateCells propertyId
    (cellEdit c price ruleId) batchId now c.date (addDays c.date 1)) s
  rw [hcells] at htransaction
  have htypes : (cellEdit c price ruleId).roomTypeIds ≠ [] := List.cons_ne_nil _ _
  have hranged : (cellEdit c price ruleId).ranges ≠ [] := List.cons_ne_nil _ _
  have hone : ¬s.roomTypes.rows.countP (fun t => t.propertyId = propertyId &&
      (cellEdit c price ruleId).roomTypeIds.contains t.id && t.deletedAt.isNone) ≠
        (cellEdit c price ruleId).roomTypeIds.dedup.length :=
    not_not.mpr (cellEdit_owned ht hid hproperty hlive)
  refine ⟨⟨some batchId, 1, [b].countP id⟩, s', ?_⟩
  unfold bulkUpdate
  simp only [eval_simps, if_neg htypes, if_neg hranged, hranges, if_neg hone, cellEdit_dates,
    List.head?_cons, List.getLast?_singleton, htransaction, cellEdit_cells, List.length_singleton]

theorem visited_liveType (hc : c ∈ visited propertyId opts now db) :
    ∃ t ∈ db.roomTypes, t.id = c.roomTypeId ∧ t.propertyId = propertyId ∧ t.deletedAt = none := by
  obtain ⟨t, ht, -, d, -, rfl⟩ := mem_visited.mp hc
  have hrow := List.mem_filter.mp ((List.mem_insertionSort _).mp ht)
  have hshown := hrow.2
  simp only [and_decide_eq, Option.isNone_iff_eq_none] at hshown
  exact ⟨t, hrow.1, rfl, hshown.1.1, hshown.1.2⟩

theorem writeCell_sound {dryRun : Bool} {price : Option ℤ} {ruleId : Option Id}
    (hc : c ∈ visited propertyId opts now db) :
    (writeCell propertyId dryRun batchId now c price ruleId).Alone fun s s' =>
      s.roomTypes = db.roomTypes ∧ SoundRows s → s'.roomTypes = db.roomTypes ∧ SoundRows s' := by
  have htrans : ∀ s s' s'' : HotelDb,
      (s.roomTypes = db.roomTypes ∧ SoundRows s → s'.roomTypes = db.roomTypes ∧ SoundRows s') →
      (s'.roomTypes = db.roomTypes ∧ SoundRows s' → s''.roomTypes = db.roomTypes ∧ SoundRows s'') →
      s.roomTypes = db.roomTypes ∧ SoundRows s → s''.roomTypes = db.roomTypes ∧ SoundRows s'' :=
    fun _ _ _ h h' hs => h' (h hs)
  obtain ⟨t, ht, hid, hproperty, -⟩ := visited_liveType hc
  refine .when (fun _ => id) _ (.bind htrans ?_ fun _ => .pure (fun _ => id) _)
  refine bulkUpdate_alone (fun _ => id) htrans fun existing resolved cell hcell =>
    updateCell_straight (fun before next s s' _ hwrite => ?_) fun s log hs => hs
  rintro ⟨htypes, hs⟩
  obtain rfl := mem_cellEdit.mp hcell
  refine ⟨(writeDay_ok hwrite).1.roomTypes.trans htypes, ?_⟩
  exact writeDay_sound (htypes ▸ ht) hid hproperty hwrite hs

theorem basePrice_succeeds (hc : c ∈ visited propertyId opts now db)
    (htypes : s.roomTypes = db.roomTypes) :
    ∃ base, (basePrice propertyId c).eval .idle s = (.ok base, .idle, s) := by
  obtain ⟨t, ht, hid, hproperty, -⟩ := visited_liveType hc
  unfold basePrice
  split_ifs with hday
  · have hnights := nightlyPrices_day (d := c.date) (htypes ▸ ht) hproperty
    rw [hid] at hnights
    simp only [baseWithoutRule, eval_simps, hnights, List.head?_cons, Option.elim_some, eval_ite,
      RatesService.list]
    split_ifs <;> exact ⟨_, rfl⟩
  · exact ⟨_, rfl⟩

theorem priceCell_sound {floor : ℤ} {rules : List PricingRule} {rows : List RateInventoryDay}
    {dryRun : Bool} (hc : c ∈ visited propertyId opts now db) :
    (priceCell propertyId floor rules rows dryRun now c batchId).Alone fun s s' =>
      s.roomTypes = db.roomTypes ∧ SoundRows s → s'.roomTypes = db.roomTypes ∧ SoundRows s' :=
  priceCell_alone (fun _ => id) (fun _ _ _ h h' hs => h' (h hs)) fun _ _ => writeCell_sound hc

theorem priceCell_succeeds {floor : ℤ} {rules : List PricingRule} {rows : List RateInventoryDay}
    {dryRun : Bool} (hc : c ∈ visited propertyId opts now db)
    (htypes : s.roomTypes = db.roomTypes) (hs : SoundRows s) :
    ∃ p s', (priceCell propertyId floor rules rows dryRun now c batchId).eval .idle s =
      (.ok p, .idle, s') := by
  obtain ⟨t, ht, hid, hproperty, hlive⟩ := visited_liveType hc
  obtain ⟨base, hbase⟩ := basePrice_succeeds hc htypes
  have hwrite : ∀ price ruleId, ∃ u s',
      (writeCell propertyId dryRun batchId now c price ruleId).eval .idle s = (.ok u, .idle, s') := by
    intro price ruleId
    have hown : OwnRow propertyId (keyOf c) s := by
      have hrows := @SoundRows.ownRow s hs t (htypes ▸ ht) none c.date
      rwa [hid, hproperty] at hrows
    obtain ⟨res, s', hupdate⟩ := @cellEdit_succeeds propertyId now batchId s c price ruleId t
      (htypes ▸ ht) hid hproperty hlive hown
    rw [writeCell, eval_when]
    split_ifs
    · exact ⟨(), s', by rw [eval_bind, hupdate]; rfl⟩
    · exact ⟨(), s, rfl⟩
  unfold priceCell
  cases ruleFor rules c with
  | some rule =>
    obtain ⟨u, s', heval⟩ := hwrite (some (max floor (apply base rule))) (some rule.id)
    simp only [eval_ite, eval_simps, hbase, heval]
    split_ifs <;> exact ⟨_, _, rfl⟩
  | none =>
    obtain ⟨u, s', heval⟩ := hwrite none none
    simp only [eval_ite, eval_simps, hbase, heval]
    split_ifs <;> exact ⟨_, _, rfl⟩

end Cell

/-- In a sound state a run over a window that may be read ends well, and leaves a sound state. -/
theorem run_succeeds {propertyId : Id} {opts : RunRulesOpts} {now : ℤ} {batchId : ℕ → Id}
    {db : HotelDb} (hwindow : assertWindow (today now) (horizonEnd opts now) = .ok ())
    (hs : SoundRows db) :
    ∃ res db', (run propertyId opts now batchId).eval .idle db = (.ok res, .idle, db') ∧
      SoundRows db' := by
  rw [run_eval, hwindow]
  split_ifs with hempty
  · exact ⟨_, _, rfl, hs⟩
  · let P (s : HotelDb) := s.roomTypes = db.roomTypes ∧ SoundRows s
    have hloop : ∃ plan s, (priceCells propertyId opts now batchId db).eval .idle db =
        (.ok plan, .idle, s) ∧ P s := by
      refine Prog.eval_all_succeeds (P := P) (fun c hc s hP => ?_) ⟨rfl, hs⟩
      have hmem := List.fst_mem_of_mem_zipIdx hc
      obtain ⟨p, s', heval⟩ := priceCell_succeeds hmem hP.1 hP.2
      exact ⟨p, s', heval, ((priceCell_sound hmem).relates heval).2 hP⟩
    obtain ⟨plan, s, hcells, -, hsound⟩ := hloop
    simp only [eval_bind, hcells]
    unfold finish
    simp only [eval_bind, eval_when]
    split_ifs
    · exact ⟨_, _, rfl, hsound⟩
    · exact ⟨_, _, rfl, hsound⟩

end RevenueEngineService

end Travelo

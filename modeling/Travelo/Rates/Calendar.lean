import Travelo.Claims.Precedence
import Travelo.Rates
import Travelo.ReadCommitted.Alone

/-!
# The rate calendar

The grid and `nightlyPrices` work out the price of a night by one precedence: the day row,
then an override, then the base rate. They differ in which of several overlapping overrides
they take: the grid the first the database returns, `nightlyPrices` the dearest.
`calendar_shows_charge_iff` says when that makes no difference.
-/

namespace Travelo

open ReadCommitted RatesService

/-- The live overrides of a type that cover a night, in the order the database returns them. -/
def coveringOverrides (propertyId roomTypeId : Id) (d : ℤ) (db : HotelDb) : List RateOverride :=
  db.rateOverrides.filter fun o =>
    o.propertyId = propertyId && o.roomTypeId = roomTypeId && o.deletedAt.isNone &&
      o.startDate ≤ d && d ≤ o.endDate

/-- No other is dearer than the first. -/
def DearestFirst (l : List RateOverride) : Prop :=
  ∀ o ∈ l.head?, ∀ o' ∈ l, o'.ratePaise ≤ o.ratePaise

instance (l : List RateOverride) : Decidable (DearestFirst l) :=
  inferInstanceAs (Decidable (∀ o ∈ l.head?, ∀ o' ∈ l, _))

/-- The price of a day, of the base plan or of a rate plan. -/
def dayPrice (propertyId roomTypeId : Id) (ratePlanId : Option Id) (d : ℤ) (db : HotelDb) :
    Option ℤ :=
  (planDay propertyId roomTypeId ratePlanId d db).bind (·.pricePaise)

section Cells

variable {propertyId roomTypeId : Id} {ratePlanId : Option Id} {fromDate toDate d : ℤ}
  {db : HotelDb}

theorem gridOverride_eq {typeIds : List Id} (hmem : roomTypeId ∈ typeIds)
    (hd : fromDate ≤ d ∧ d < toDate) :
    (db.rateOverrides.filter fun o =>
      o.propertyId = propertyId && typeIds.contains o.roomTypeId &&
        o.startDate ≤ addDays toDate (-1) && fromDate ≤ o.endDate && o.deletedAt.isNone).find?
        (fun o => o.roomTypeId = roomTypeId && o.startDate ≤ d && d ≤ o.endDate) =
      (coveringOverrides propertyId roomTypeId d db).head? := by
  rw [List.find?_filter, coveringOverrides, List.head?_filter]
  congr 1
  funext o
  simp only [addDays]
  grind

theorem coveringOverrides_eq (hd : fromDate ≤ d ∧ d < toDate) :
    coveringOverrides propertyId roomTypeId d db =
      (db.rateOverrides.filter fun o =>
        o.propertyId = propertyId && o.roomTypeId = roomTypeId &&
          o.startDate ≤ addDays toDate (-1) && fromDate ≤ o.endDate && o.deletedAt.isNone).filter
        fun o => o.startDate ≤ d && d ≤ o.endDate := by
  simp only [coveringOverrides, List.filter_filter, addDays]
  congr 1
  funext o
  grind

theorem nightOverride_isSome (hd : fromDate ≤ d ∧ d < toDate) :
    (coveringOverrides propertyId roomTypeId d db).head?.isSome =
      ((overridesOf propertyId roomTypeId fromDate toDate db).find? fun o =>
        o.startDate ≤ d && d ≤ o.endDate).isSome := by
  rw [coveringOverrides_eq hd, List.head?_filter]
  exact Claims.find?_isSome_perm (List.perm_insertionSort _ _).symm

theorem nightOverride_iff (hd : fromDate ≤ d ∧ d < toDate) :
    (coveringOverrides propertyId roomTypeId d db).head?.map (·.ratePaise) =
        ((overridesOf propertyId roomTypeId fromDate toDate db).find? fun o =>
          o.startDate ≤ d && d ≤ o.endDate).map (·.ratePaise) ↔
      DearestFirst (coveringOverrides propertyId roomTypeId d db) := by
  unfold DearestFirst
  rw [coveringOverrides_eq hd, List.head?_filter]
  refine (Claims.find?_highest_iff fun _ => Iff.rfl).trans ?_
  simp only [List.mem_filter, and_imp]

theorem grid_cell {types : List GridType} {t : GridType} {c : RateDayCell}
    (hgrid : ((grid propertyId fromDate toDate ratePlanId).run db).res = .ok types)
    (ht : t ∈ types) (hc : c ∈ t.days) :
    ∃ row ∈ db.roomTypes, row.id = t.id ∧
      let price := dayPrice propertyId t.id ratePlanId c.date db
      let ov := (coveringOverrides propertyId t.id c.date db).head?
      c.pricePaise = price.getD ((ov.map (·.ratePaise)).getD row.baseRate) ∧
        c.priceSource = if price.isSome then .day else if ov.isSome then .override else .base := by
  rw [Prog.run_res] at hgrid
  simp only [grid, eval_simps] at hgrid
  cases hwindow : assertWindow fromDate toDate with
  | error e => simp [hwindow] at hgrid
  | ok _ =>
    simp only [hwindow, eval_simps, eval_ite] at hgrid
    split_ifs at hgrid with hempty
    · cases hgrid
      cases ht
    · cases hgrid
      obtain ⟨row, hrow, rfl⟩ := List.mem_map.mp ht
      obtain ⟨d, hd, rfl⟩ := List.mem_map.mp hc
      rw [mem_datesFrom] at hd
      have hids := List.mem_map_of_mem (f := RoomType.id) hrow
      refine ⟨row, List.mem_of_mem_filter ((List.mem_insertionSort _).mp hrow), rfl, ?_⟩
      simp only [gridCell, dayRows_find?_plan hids hd, gridOverride_eq hids hd]
      exact ⟨rfl, rfl⟩

theorem nightlyPrices_night {nights : List NightPrice} {n : NightPrice}
    (hnights : ((nightlyPrices propertyId roomTypeId fromDate toDate ratePlanId).run db).res =
      .ok nights) (hn : n ∈ nights) :
    ∃ row ∈ db.roomTypes, row.id = roomTypeId ∧ (fromDate ≤ n.date ∧ n.date < toDate) ∧
      let price := dayPrice propertyId roomTypeId ratePlanId n.date db
      let ov := (overridesOf propertyId roomTypeId fromDate toDate db).find? fun o =>
        o.startDate ≤ n.date && n.date ≤ o.endDate
      n.pricePaise = price.getD ((ov.map (·.ratePaise)).getD row.baseRate) ∧
        n.source = if price.isSome then .day else if ov.isSome then .override else .base := by
  rw [Prog.run_res] at hnights
  simp only [nightlyPrices, eval_simps] at hnights
  cases hwindow : assertWindow fromDate toDate with
  | error e => simp [hwindow] at hnights
  | ok _ =>
    simp only [hwindow, eval_simps] at hnights
    cases hfind : (db.roomTypes.find? roomTypeId).filter fun t => t.propertyId = propertyId with
    | none => simp [hfind] at hnights
    | some row =>
      simp only [hfind, Option.elim_some, eval_simps] at hnights
      cases hnights
      obtain ⟨hrow, -⟩ := Option.filter_eq_some_iff.mp hfind
      obtain ⟨d, hd, rfl⟩ := List.mem_map.mp hn
      rw [mem_datesFrom] at hd
      rw [nightPrice_eq, dayRows_find?_plan (List.mem_singleton_self roomTypeId) hd]
      exact ⟨row, mem_of_find? hrow, key_of_find? hrow, hd, rfl, rfl⟩

end Cells

/-- A cell shows the price and the source a night is charged by exactly when the day has a
price of its own, or no covering override is dearer than the one the database returns
first. -/
theorem calendar_shows_charge_iff (propertyId roomTypeId : Id) (ratePlanId : Option Id)
    (gridFrom gridTo fromDate toDate : ℤ) (db : HotelDb) (types : List GridType)
    (nights : List NightPrice)
    (hgrid : ((grid propertyId gridFrom gridTo ratePlanId).run db).res = .ok types)
    (hnights : ((nightlyPrices propertyId roomTypeId fromDate toDate ratePlanId).run db).res =
      .ok nights) :
    ∀ t ∈ types, t.id = roomTypeId → ∀ c ∈ t.days, ∀ n ∈ nights, n.date = c.date →
      (c.pricePaise = n.pricePaise ∧ c.priceSource = n.source ↔
        (dayPrice propertyId roomTypeId ratePlanId c.date db).isSome ∨
          DearestFirst (coveringOverrides propertyId roomTypeId c.date db)) := by
  rintro t ht rfl c hc n hn hdate
  obtain ⟨row, hrow, hid, hprice, hsource⟩ := grid_cell hgrid ht hc
  obtain ⟨row', hrow', hid', hwindow, hprice', hsource'⟩ := nightlyPrices_night hnights hn
  obtain rfl : row = row' := eq_of_key_eq hrow hrow' (hid.trans hid'.symm)
  rw [hdate] at hwindow hprice' hsource'
  have hiff := @nightOverride_iff propertyId t.id fromDate toDate c.date db hwindow
  have hsome := @nightOverride_isSome propertyId t.id fromDate toDate c.date db hwindow
  rw [hprice, hsource, hprice', hsource', ← hiff, ← hsome]
  cases dayPrice propertyId t.id ratePlanId c.date db with
  | some price => simp
  | none =>
    -- one of the overrides applies in both or in neither
    cases hfirst : (coveringOverrides propertyId t.id c.date db).head? with
    | none =>
      rw [hfirst] at hsome
      rw [Option.isSome_eq_false_iff.mp hsome.symm |> Option.isNone_iff_eq_none.mp]
      simp
    | some ov =>
      rw [hfirst] at hsome
      obtain ⟨best, hbest⟩ := Option.isSome_iff_exists.mp hsome.symm
      rw [hbest]
      simp

/-! ## Two seasons on one night -/

/-- A deluxe type with two overlapping seasons, of which the database returns `first` first. -/
def twoSeasons (first second : ℤ) : HotelDb :=
  { roomTypes := (∅ : Table RoomType.id).insert
      { id := 1, propertyId := 1, name := "Deluxe", baseRate := 400000 }
    rateOverrides :=
      [{ propertyId := 1, roomTypeId := 1, startDate := 0, endDate := 9, ratePaise := first },
        { propertyId := 1, roomTypeId := 1, startDate := 5, endDate := 5, ratePaise := second }] }

/-- The prices of a type the grid shows. -/
def shownPrices (types : List GridType) : List (ℤ × PriceSource) :=
  types.flatMap fun t => t.days.map fun c => (c.pricePaise, c.priceSource)

/-- On the night of both seasons the grid shows the one that is returned first, and the guest is
charged the dearer. -/
theorem calendar_shows_less :
    ((grid 1 5 6 none).run (twoSeasons 500000 900000)).res.map shownPrices =
        .ok [(500000, .override)] ∧
      ((nightlyPrices 1 1 5 6 none).run (twoSeasons 500000 900000)).res.map
        (List.map fun n => (n.pricePaise, n.source)) = .ok [(900000, .override)] := by
  decide

/-- With the dearer returned first both say the same. -/
theorem calendar_shows_dearest :
    ∃ types nights, ((grid 1 5 6 none).run (twoSeasons 900000 500000)).res = .ok types ∧
      ((nightlyPrices 1 1 5 6 none).run (twoSeasons 900000 500000)).res = .ok nights ∧
      ∀ t ∈ types, t.id = 1 → ∀ c ∈ t.days, ∀ n ∈ nights, n.date = c.date →
        (c.pricePaise = n.pricePaise ∧ c.priceSource = n.source ↔
          (dayPrice 1 1 none c.date (twoSeasons 900000 500000)).isSome ∨
            DearestFirst (coveringOverrides 1 1 c.date (twoSeasons 900000 500000))) :=
  ⟨_, _, rfl, rfl, calendar_shows_charge_iff 1 1 none 5 6 5 6 (twoSeasons 900000 500000) _ _ rfl rfl⟩

end Travelo

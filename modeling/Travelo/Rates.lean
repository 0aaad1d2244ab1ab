import Mathlib.Data.List.Sort
import Travelo.Reservations.Rules

/-!
# Rates and inventory

`RatesService`: the nightly prices of a stay, the day rules the booking path enforces,
and the grid of resolved days.
-/

namespace Travelo

open ReadCommitted

/-- How many days one grid read may span. -/
def MAX_RATE_WINDOW_DAYS : ℤ := 400

inductive PriceSource where
  | day
  | override
  | base
  deriving DecidableEq

structure NightPrice where
  date : ℤ
  pricePaise : ℤ
  source : PriceSource

/-- The restrictions the booking path enforces for one type on one night. -/
structure DayRules where
  date : ℤ
  cap : Option ℕ := none
  minLos : Option ℕ := none
  maxLos : Option ℕ := none
  stopSell : Bool := false
  closedToArrival : Bool := false
  closedToDeparture : Bool := false

/-- One cell of the grid. -/
structure RateDayCell where
  roomTypeId : Id
  date : ℤ
  pricePaise : ℤ
  priceSource : PriceSource
  /-- Rooms that may still be sold tonight after caps and stop-sell. -/
  available : ℕ
  /-- Physical rooms of the type not out of order. -/
  physical : ℕ
  sold : ℕ
  cap : Option ℕ
  minLos : Option ℕ
  maxLos : Option ℕ
  stopSell : Bool
  closedToArrival : Bool
  closedToDeparture : Bool
  channelOverrides : List (Id × ChannelDayOverride)
  pricingRuleId : Option Id

structure GridType where
  id : Id
  name : String
  baseRatePaise : ℤ
  isPrivate : Bool
  physical : ℕ
  days : List RateDayCell

/-- A live reservation that occupies a room. -/
def Reservation.occupies (r : Reservation) : Bool :=
  r.deletedAt.isNone && OCCUPYING_STATUSES.contains r.status

/-- A live room of the property that is not out of order. -/
def Room.sellable (propertyId : Id) (r : Room) : Bool :=
  r.propertyId = propertyId && r.deletedAt.isNone && r.status ≠ .OUT_OF_ORDER

namespace RatesService

def assertWindow (fromDate toDate : ℤ) : Except Err Unit :=
  if ¬ fromDate < toDate then .error (.badRequest "The window must end after it starts")
  else if MAX_RATE_WINDOW_DAYS < toDate - fromDate then
    .error (.badRequest "A window may span at most 400 days")
  else .ok ()

/-- The rows of the day table for some types, of the base plan or of one rate plan. -/
def dayRows (propertyId : Id) (typeIds : List Id) (fromDate toDate : ℤ)
    (ratePlanId : Option Id) (db : HotelDb) : List RateInventoryDay :=
  db.rateInventoryDays.rows.filter fun d =>
    d.propertyId = propertyId && typeIds.contains d.roomTypeId && fromDate ≤ d.date &&
      d.date < toDate && d.ratePlanId = ratePlanId

/-- The live overrides of one type that touch the window, highest rate first. -/
def overridesOf (propertyId roomTypeId : Id) (fromDate toDate : ℤ) (db : HotelDb) :
    List RateOverride :=
  (db.rateOverrides.filter fun o =>
    o.propertyId = propertyId && o.roomTypeId = roomTypeId && o.startDate ≤ addDays toDate (-1) &&
      fromDate ≤ o.endDate && o.deletedAt.isNone).insertionSort fun a b => b.ratePaise ≤ a.ratePaise

variable (days : List RateInventoryDay)

/-- Day row, then override, then base rate. -/
def nightPrice (overrides : List RateOverride) (roomTypeId : Id) (baseRate : ℤ) (d : ℤ) :
    NightPrice :=
  match (days.find? fun r => r.roomTypeId = roomTypeId && r.date = d).bind (·.pricePaise) with
  | some price => ⟨d, price, .day⟩
  | none =>
    match overrides.find? fun o => o.startDate ≤ d && d ≤ o.endDate with
    | some ov => ⟨d, ov.ratePaise, .override⟩
    | none => ⟨d, baseRate, .base⟩

theorem nightPrice_eq (overrides : List RateOverride) (roomTypeId : Id) (baseRate d : ℤ) :
    nightPrice days overrides roomTypeId baseRate d =
      let price := (days.find? fun r => r.roomTypeId = roomTypeId && r.date = d).bind (·.pricePaise)
      let ov := overrides.find? fun o => o.startDate ≤ d && d ≤ o.endDate
      { date := d
        pricePaise := price.getD ((ov.map (·.ratePaise)).getD baseRate)
        source := if price.isSome then .day else if ov.isSome then .override else .base } := by
  unfold nightPrice
  split
  · next h => simp [h]
  · next h =>
    split
    · next h' => simp [h, h']
    · next h' => simp [h, h']

/-- The sell price of one type on each night of `[fromDate, toDate)`. -/
def nightlyPrices (propertyId roomTypeId : Id) (fromDate toDate : ℤ) (ratePlanId : Option Id) :
    Op (List NightPrice) := do
  lift (assertWindow fromDate toDate)
  let row ← select (.roomType roomTypeId) fun db =>
    (db.roomTypes.find? roomTypeId).filter fun t => t.propertyId = propertyId
  let type ← orThrow row .roomTypeNotFound
  let days ← select (.rates propertyId roomTypeId) fun db =>
    dayRows propertyId [roomTypeId] fromDate toDate ratePlanId db
  let overrides ← select (.rates propertyId roomTypeId) fun db =>
    overridesOf propertyId roomTypeId fromDate toDate db
  return (datesFrom fromDate toDate).map (nightPrice days overrides roomTypeId type.baseRate)

/-- The restrictions of one day; a day without a row has none. -/
def dayRule (d : ℤ) : DayRules :=
  match days.find? fun x => x.date = d with
  | some r => ⟨d, r.available, r.minLos, r.maxLos, r.stopSell, r.closedToArrival,
      r.closedToDeparture⟩
  | none => { date := d }

theorem dayRule_eq (d : ℤ) :
    dayRule days d =
      let day := days.find? fun x => x.date = d
      { date := d
        cap := day.bind (·.available)
        minLos := day.bind (·.minLos)
        maxLos := day.bind (·.maxLos)
        stopSell := (day.map (·.stopSell)).getD false
        closedToArrival := (day.map (·.closedToArrival)).getD false
        closedToDeparture := (day.map (·.closedToDeparture)).getD false } := by
  unfold dayRule
  cases days.find? fun x => x.date = d <;> rfl

/-- The row of a plan for a type and a day. -/
def planDay (propertyId roomTypeId : Id) (ratePlanId : Option Id) (d : ℤ) (db : HotelDb) :
    Option RateInventoryDay :=
  db.rateInventoryDays.rows.find? fun r =>
    r.propertyId = propertyId && r.roomTypeId = roomTypeId && r.ratePlanId = ratePlanId &&
      r.date = d

/-- The row of the base plan for a type and a day. -/
def baseDay (propertyId roomTypeId : Id) (d : ℤ) (db : HotelDb) : Option RateInventoryDay :=
  db.rateInventoryDays.rows.find? fun r =>
    r.propertyId = propertyId && r.roomTypeId = roomTypeId && r.ratePlanId = none && r.date = d

section Rows

variable {propertyId roomTypeId : Id} {ratePlanId : Option Id} {fromDate toDate d : ℤ}
  {db : HotelDb}

theorem dayRows_find?_plan {typeIds : List Id} (hmem : roomTypeId ∈ typeIds)
    (hd : fromDate ≤ d ∧ d < toDate) :
    (dayRows propertyId typeIds fromDate toDate ratePlanId db).find?
        (fun r => r.roomTypeId = roomTypeId && r.date = d) =
      planDay propertyId roomTypeId ratePlanId d db := by
  rw [dayRows, List.find?_filter, planDay]
  congr 1
  funext r
  by_cases hdate : r.date = d
  · by_cases htype : r.roomTypeId = roomTypeId
    · simp [hdate, htype, hmem, hd]
    · simp [htype]
  · simp [hdate]

theorem dayRows_find? {typeIds : List Id} (hmem : roomTypeId ∈ typeIds)
    (hd : fromDate ≤ d ∧ d < toDate) :
    (dayRows propertyId typeIds fromDate toDate none db).find?
        (fun r => r.roomTypeId = roomTypeId && r.date = d) =
      baseDay propertyId roomTypeId d db :=
  dayRows_find?_plan hmem hd

theorem dayRows_find?_single (hd : fromDate ≤ d ∧ d < toDate) :
    (dayRows propertyId [roomTypeId] fromDate toDate none db).find? (fun r => r.date = d) =
      baseDay propertyId roomTypeId d db := by
  rw [dayRows, List.find?_filter, baseDay]
  congr 1
  funext r
  by_cases hdate : r.date = d
  · simp [hdate, hd]
  · simp [hdate]

end Rows

/-- What `dayRules` answers, as a function of the state. -/
def dayRulesOf (propertyId roomTypeId : Id) (fromDate toDate : ℤ) (db : HotelDb) :
    List DayRules :=
  (datesFrom fromDate toDate).map
    (dayRule (dayRows propertyId [roomTypeId] fromDate toDate none db))

/-- The restrictions for one type on each night of `[fromDate, toDate)`. -/
def dayRules (propertyId roomTypeId : Id) (fromDate toDate : ℤ) : Op (List DayRules) :=
  select (.rates propertyId roomTypeId) (dayRulesOf propertyId roomTypeId fromDate toDate)

/-- One cell of the grid. -/
def gridCell (t : RoomType) (total : ℕ) (days : List RateInventoryDay)
    (overrides : List RateOverride) (stays : List Reservation) (d : ℤ) : RateDayCell :=
  let day := days.find? fun r => r.roomTypeId = t.id && r.date = d
  let ov := overrides.find? fun o => o.roomTypeId = t.id && o.startDate ≤ d && d ≤ o.endDate
  let sold := (stays.filter fun s =>
    s.roomTypeId = t.id && coversDate s.checkIn s.checkOut d).length
  let cap := day.bind (·.available)
  let free := total - sold
  let stopSell := (day.map (·.stopSell)).getD false
  { roomTypeId := t.id
    date := d
    pricePaise := (day.bind (·.pricePaise)).getD ((ov.map (·.ratePaise)).getD t.baseRate)
    priceSource :=
      if (day.bind (·.pricePaise)).isSome then .day else if ov.isSome then .override else .base
    available := if stopSell then 0 else match cap with | none => free | some c => min c free
    physical := total
    sold
    cap
    minLos := day.bind (·.minLos)
    maxLos := day.bind (·.maxLos)
    stopSell
    closedToArrival := (day.map (·.closedToArrival)).getD false
    closedToDeparture := (day.map (·.closedToDeparture)).getD false
    channelOverrides := (day.map (·.channelOverrides)).getD []
    pricingRuleId := day.bind (·.pricingRuleId) }

/-- The rates and inventory grid: every active type, every night of the window. -/
def grid (propertyId : Id) (fromDate toDate : ℤ) (ratePlanId : Option Id) :
    Op (List GridType) := do
  lift (assertWindow fromDate toDate)
  let types ← select (.rooms propertyId) fun db =>
    (db.roomTypes.rows.filter fun t =>
      t.propertyId = propertyId && t.deletedAt.isNone && t.active).insertionSort
        fun a b => a.name ≤ b.name
  if types.isEmpty then return []
  let typeIds := types.map RoomType.id
  let physicalRows ← select (.rooms propertyId) fun db =>
    (db.rooms.rows.filter (Room.sellable propertyId)).map Room.roomTypeId
  let days ← select (.stays propertyId) fun db =>
    dayRows propertyId typeIds fromDate toDate ratePlanId db
  let overrides ← select (.stays propertyId) fun db =>
    db.rateOverrides.filter fun o =>
      o.propertyId = propertyId && typeIds.contains o.roomTypeId &&
        o.startDate ≤ addDays toDate (-1) && fromDate ≤ o.endDate && o.deletedAt.isNone
  let stays ← select (.stays propertyId) fun db =>
    db.reservations.rows.filter fun r =>
      r.propertyId = propertyId && r.occupies && r.checkIn < toDate && fromDate < r.checkOut
  return types.map fun t =>
    let total := physicalRows.count t.id
    { id := t.id
      name := t.name
      baseRatePaise := t.baseRate
      isPrivate := t.isPrivate
      physical := total
      days := (datesFrom fromDate toDate).map (gridCell t total days overrides stays) }

end RatesService

end Travelo

import Mathlib.Data.List.Dedup
import Travelo.Rates

/-!
# The write path of the rates

`RatesService.bulkUpdate`: every write to the rates grid, even of a single cell, is one bulk
edit. It expands the request into cells, reads the rows that exist, writes each cell that
changes and logs every field that changed under one batch id.
-/

namespace Travelo

open ReadCommitted

/-- What a bulk edit sets. A field that is `none` is left alone; `some none` clears it. -/
structure RateSet where
  pricePaise : Option (Option ℤ) := none
  /-- Basis points on the resolved price; a `null` counts as 0. -/
  priceDeltaBp : Option ℤ := none
  available : Option (Option ℕ) := none
  minLos : Option (Option ℕ) := none
  maxLos : Option (Option ℕ) := none
  stopSell : Option (Option Bool) := none
  closedToArrival : Option (Option Bool) := none
  closedToDeparture : Option (Option Bool) := none
  /-- The override of one connection; `none` removes it. -/
  channel : Option (Id × Option ChannelDayOverride) := none

/-- Both ends are included. -/
structure DateRange where
  fromDate : ℤ
  toDate : ℤ

structure BulkUpdateInput where
  roomTypeIds : List Id
  ranges : List DateRange
  /-- 0 is Sunday; empty for every day of the ranges. -/
  daysOfWeek : List ℤ := []
  ratePlanId : Option Id := none
  set : RateSet
  actorStaffId : Option Id := none
  actorKind : Option RateChangeActor := none
  pricingRuleId : Option Id := none

structure BulkUpdateResult where
  batchId : Option Id
  cells : ℕ
  changed : ℕ
  deriving DecidableEq

/-- `getUTCDay`: day 0 was a Thursday. -/
def utcDay (date : ℤ) : ℤ := (date + 4) % 7

/-! ## Channel overrides in JSON -/

inductive OverrideField where
  | priceDeltaBp
  | available
  deriving DecidableEq

namespace ChannelDayOverride

/-- The fields as the controller writes them. -/
def sentFields (o : ChannelDayOverride) : List (OverrideField × ℤ) :=
  (o.priceDeltaBp.toList.map fun n => (OverrideField.priceDeltaBp, n)) ++
    o.available.toList.map fun n => (OverrideField.available, (n : ℤ))

/-- The fields as `jsonb` gives them back: the shorter name first. -/
def storedFields (o : ChannelDayOverride) : List (OverrideField × ℤ) :=
  (o.available.toList.map fun n => (OverrideField.available, (n : ℤ))) ++
    o.priceDeltaBp.toList.map fun n => (OverrideField.priceDeltaBp, n)

end ChannelDayOverride

/-- `cur[key] = value` keeps the place of a key, `delete cur[key]` removes it. -/
def assignKey {α : Type} (cur : List (Id × α)) (key : Id) : Option α → List (Id × α)
  | none => cur.filter fun e => e.1 ≠ key
  | some value =>
    if cur.any fun e => e.1 = key then cur.map fun e => if e.1 = key then (key, value) else e
    else cur ++ [(key, value)]

/-- `jsonb` keeps its keys in order. -/
def jsonb (overrides : List (Id × ChannelDayOverride)) : List (Id × ChannelDayOverride) :=
  overrides.insertionSort fun a b => a.1 ≤ b.1

/-! ## One cell -/

/-- The columns an edit gives a day: `Partial<RateInventoryDay>`. -/
structure RateDayPatch where
  pricePaise : Option (Option ℤ) := none
  available : Option (Option ℕ) := none
  minLos : Option (Option ℕ) := none
  maxLos : Option (Option ℕ) := none
  stopSell : Option (Option Bool) := none
  closedToArrival : Option (Option Bool) := none
  closedToDeparture : Option (Option Bool) := none
  channelOverrides : Option (List (Id × ChannelDayOverride)) := none

/-- A column that differs: what is logged, and how it is put into the patch. -/
structure RateWant where
  field : RateChangeField
  before : RateValue
  after : RateValue
  /-- The JSON of the two is not the same. -/
  differs : Bool
  assign : RateDayPatch → RateDayPatch

namespace RateValue

def ofInt : Option ℤ → RateValue
  | some n => .number n
  | none => .null

def ofNat : Option ℕ → RateValue
  | some n => .number n
  | none => .null

def ofBool : Option Bool → RateValue
  | some b => .flag b
  | none => .null

def ofChannels : Option (List (Id × ChannelDayOverride)) → RateValue
  | some overrides => .channels overrides
  | none => .null

end RateValue

namespace RatesService

/-- `want(field, key, value)`. -/
def want (field : RateChangeField) (before after : RateValue)
    (assign : RateDayPatch → RateDayPatch) : RateWant :=
  ⟨field, before, after, before ≠ after, assign⟩

/-- The price a relative change gives. -/
def deltaPrice (base priceDeltaBp : ℤ) : ℤ :=
  max 0 (roundDiv (base * (10000 + priceDeltaBp)) 10000)

/-- The override of one connection: the texts of the two objects are compared, in which a new
override has its fields in the order they were sent in. -/
def wantChannel (before : Option RateInventoryDay) (connectionId : Id)
    (override : Option ChannelDayOverride) : RateWant :=
  let old := before.map (·.channelOverrides)
  let cur := assignKey (old.getD []) connectionId override
  let text (e : Id × ChannelDayOverride) := (e.1, e.2.storedFields)
  let sent (e : Id × ChannelDayOverride) :=
    (e.1, if e.1 = connectionId then e.2.sentFields else e.2.storedFields)
  { field := .channel
    before := .ofChannels old
    after := .ofChannels (some cur)
    differs := old.map (·.map text) ≠ some (cur.map sent)
    assign := fun next => { next with channelOverrides := some cur } }

variable (set : RateSet)

/-- What the request asks of the price of a cell; `base` is the resolved price. -/
def priceWants (base : ℤ) (before : Option RateInventoryDay) : List RateWant :=
  let price := RateValue.ofInt (before.bind (·.pricePaise))
  (set.pricePaise.toList.map fun value =>
    want .price price (.ofInt value) fun next => { next with pricePaise := some value }) ++
  set.priceDeltaBp.toList.map fun delta =>
    want .price price (.ofInt (some (deltaPrice base delta))) fun next =>
      { next with pricePaise := some (some (deltaPrice base delta)) }

/-- What it asks of the other columns. -/
def otherWants (before : Option RateInventoryDay) : List RateWant :=
  (set.available.toList.map fun value =>
    want .available (.ofNat (before.bind (·.available))) (.ofNat value) fun next =>
      { next with available := some value }) ++
  (set.minLos.toList.map fun value =>
    want .minLos (.ofNat (before.bind (·.minLos))) (.ofNat value) fun next =>
      { next with minLos := some value }) ++
  (set.maxLos.toList.map fun value =>
    want .maxLos (.ofNat (before.bind (·.maxLos))) (.ofNat value) fun next =>
      { next with maxLos := some value }) ++
  (set.stopSell.toList.map fun value =>
    want .stopSell (.ofBool (before.map (·.stopSell))) (.ofBool value) fun next =>
      { next with stopSell := some value }) ++
  (set.closedToArrival.toList.map fun value =>
    want .cta (.ofBool (before.map (·.closedToArrival))) (.ofBool value) fun next =>
      { next with closedToArrival := some value }) ++
  (set.closedToDeparture.toList.map fun value =>
    want .ctd (.ofBool (before.map (·.closedToDeparture))) (.ofBool value) fun next =>
      { next with closedToDeparture := some value }) ++
  set.channel.toList.map fun c => wantChannel before c.1 c.2

/-- What the request asks of a cell that is not so. -/
def changesTo (base : ℤ) (before : Option RateInventoryDay) : List RateWant :=
  (priceWants set base before ++ otherWants set before).filter (·.differs)

/-- The columns the changes give. -/
def nextOf (changes : List RateWant) : RateDayPatch :=
  changes.foldl (fun next w => w.assign next) {}

end RatesService

namespace RateDayPatch

variable (next : RateDayPatch)

/-- A flag cannot be `null`: SQLSTATE 23502. -/
def violatesNotNull : Bool :=
  next.stopSell = some none || next.closedToArrival = some none ||
    next.closedToDeparture = some none

/-- A price that is written is tagged with the rule that wrote it; a hand-typed one clears the
tag. -/
def apply (tag updatedBy : Option Id) (now : ℤ) (d : RateInventoryDay) :
    RateInventoryDay :=
  { d with
    pricePaise := next.pricePaise.getD d.pricePaise
    available := next.available.getD d.available
    minLos := next.minLos.getD d.minLos
    maxLos := next.maxLos.getD d.maxLos
    stopSell := next.stopSell.join.getD d.stopSell
    closedToArrival := next.closedToArrival.join.getD d.closedToArrival
    closedToDeparture := next.closedToDeparture.join.getD d.closedToDeparture
    channelOverrides := (next.channelOverrides.map jsonb).getD d.channelOverrides
    pricingRuleId := if next.pricePaise.isSome then tag else d.pricingRuleId
    updatedBy
    updatedAt := now }

theorem apply_key (tag updatedBy : Option Id) (now : ℤ) (d : RateInventoryDay) :
    (next.apply tag updatedBy now d).key = d.key := rfl

end RateDayPatch

namespace BulkUpdateInput

variable (input : BulkUpdateInput)

/-- The dates of the request, in order and each once. -/
def dates : List ℤ :=
  ((input.ranges.flatMap fun r => datesFrom r.fromDate (addDays r.toDate 1)).filter fun d =>
    input.daysOfWeek.isEmpty || input.daysOfWeek.contains (utcDay d)).dedup.insertionSort (· ≤ ·)

/-- The cells of the request. -/
def cells : List (Id × ℤ) :=
  input.roomTypeIds.flatMap fun typeId => input.dates.map fun date => (typeId, date)

/-- The row of a cell. -/
def keyOf (cell : Id × ℤ) : Id × Option Id × ℤ :=
  (cell.1, input.ratePlanId, cell.2)

/-- The rule a price written by the request is tagged with. -/
def tag : Option Id :=
  if input.actorKind = some .RULE then input.pricingRuleId else none

end BulkUpdateInput

namespace RatesService

variable (propertyId : Id) (input : BulkUpdateInput)

/-- The columns of a new row besides what the edit sets. -/
def emptyDay (cell : Id × ℤ) : RateInventoryDay where
  propertyId
  roomTypeId := cell.1
  ratePlanId := input.ratePlanId
  date := cell.2

/-- `UPDATE` of the row that was found, or `INSERT`. -/
def writeDay (now : ℤ) (cell : Id × ℤ) (before : Option RateInventoryDay) (next : RateDayPatch)
    (db : HotelDb) : Except Err HotelDb :=
  if next.violatesNotNull then .error (.internal "23502")
  else
    let patch := next.apply input.tag input.actorStaffId now
    match before with
    | some _ =>
      .ok { db with
        rateInventoryDays := db.rateInventoryDays.update (fun d => d.key = input.keyOf cell) patch
          (next.apply_key _ _ _) }
    | none =>
      if db.rateInventoryDays.hasKey (input.keyOf cell) then .error .uniqueViolation
      else .ok { db with
        rateInventoryDays := db.rateInventoryDays.insert (patch (emptyDay propertyId input cell)) }

variable (batchId : Id)

/-- The log entries of a cell. -/
def changesOf (cell : Id × ℤ) (changes : List RateWant) : List RateChange :=
  changes.map fun w =>
    { propertyId
      roomTypeId := cell.1
      ratePlanId := input.ratePlanId
      date := cell.2
      field := w.field
      before := w.before
      after := w.after
      actorKind := input.actorKind.getD .STAFF
      actorStaffId := input.actorStaffId
      pricingRuleId := input.pricingRuleId
      batchId }

/-- One cell of a bulk edit; answers whether it changed. -/
def updateCell (now : ℤ) (existing : List RateInventoryDay) (resolved : List (Id × NightPrice))
    (cell : Id × ℤ) :
    Op Bool := do
  let before := existing.find? fun r => r.roomTypeId = cell.1 && r.date = cell.2
  let night := resolved.reverse.find? fun n => n.1 = cell.1 && n.2.date = cell.2
  let changes := changesTo input.set ((night.map (·.2.pricePaise)).getD 0) before
  if changes.isEmpty then return false
  writeChecked (fun _ => [.rateDay (input.keyOf cell)])
    (writeDay propertyId input now cell before (nextOf changes)) fun _ => ()
  write (fun _ => []) (fun db =>
    { db with
      rateChangeLog := db.rateChangeLog ++ changesOf propertyId input batchId cell changes })
    fun _ => ()
  return true

/-- The prices a relative change starts from. -/
def resolvedPrices (fromDate toDate : ℤ) :
    Op (List (Id × NightPrice)) := do
  if input.set.priceDeltaBp.isNone then return []
  let nights ← all (fun typeId => do
    let nightly ← nightlyPrices propertyId typeId fromDate toDate input.ratePlanId
    return nightly.map fun n => (typeId, n)) input.roomTypeIds
  return nights.flatten

/-- The transaction of a bulk edit: the window is that of its dates. -/
def updateCells (now : ℤ) (fromDate toDate : ℤ) : Op (List Bool) := do
  let existing ← select (.stays propertyId) fun db =>
    dayRows propertyId input.roomTypeIds fromDate toDate input.ratePlanId db
  let resolved ← resolvedPrices propertyId input fromDate toDate
  all (updateCell propertyId input batchId now existing resolved) input.cells

/-- The windows of the ranges are valid. -/
def assertRanges (ranges : List DateRange) : Except Err Unit :=
  ranges.forM fun r => assertWindow r.fromDate (addDays r.toDate 1)

def bulkUpdate (now : ℤ) :
    Op BulkUpdateResult := do
  throwIf (input.roomTypeIds = []) (.badRequest "Choose at least one room type")
  throwIf (input.ranges = []) (.badRequest "Choose at least one date range")
  lift (assertRanges input.ranges)
  let owned ← select (.rooms propertyId) fun db =>
    db.roomTypes.rows.countP fun t =>
      t.propertyId = propertyId && input.roomTypeIds.contains t.id && t.deletedAt.isNone
  throwIf (owned ≠ input.roomTypeIds.dedup.length) .roomTypeNotFound
  match input.dates.head?, input.dates.getLast? with
  | some first, some last =>
    let changed ← transaction
      (updateCells propertyId input batchId now first (addDays last 1))
    return ⟨some batchId, input.cells.length, changed.countP id⟩
  | _, _ => return ⟨none, 0, 0⟩

/-- The date-range overrides of a property, by their first day. -/
def list : Op (List RateOverride) :=
  select (.stays propertyId) fun db =>
    (db.rateOverrides.filter fun o => o.propertyId = propertyId && o.deletedAt.isNone)
      |>.insertionSort fun a b => a.startDate ≤ b.startDate

end RatesService

end Travelo

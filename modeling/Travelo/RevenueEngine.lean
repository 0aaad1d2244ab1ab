import Travelo.Claims.Binary64
import Travelo.RateWrites

/-!
# The revenue engine

`RevenueEngineService` applies the pricing rules of a property to the rates grid: for every
active type and every night of the horizon it works out the price the night would have
without a rule, and writes what the first matching rule makes of it, tagged with the rule. A
night whose price a rule wrote and that no rule matches any more is cleared.

The rules themselves are those of `RatePlansService`. Rules that speak of a booking and not
of a night are left out: the engine passes them over.
-/

namespace Travelo

open ReadCommitted

/-- How far ahead a rule is applied on the grid. -/
def RULE_HORIZON_DAYS : ℤ := 90

structure RunRulesOpts where
  roomTypeId : Option Id := none
  days : Option ℤ := none
  dryRun : Bool := false

/-- What the engine would write on a day of a type and why. -/
structure PlannedDay where
  roomTypeId : Id
  date : ℤ
  fromPaise : ℤ
  toPaise : Option ℤ
  ruleId : Option Id
  ruleName : Option String

structure RuleRunResult where
  propertyId : Id
  roomTypes : ℕ
  rulesEvaluated : ℕ
  daysPriced : ℕ
  daysReverted : ℕ
  dryRun : Bool
  plan : List PlannedDay

/-- The trigger as it is stored. -/
def PricingTrigger.text : PricingTrigger → String
  | .OCCUPANCY => "OCCUPANCY"
  | .DAY_OF_WEEK => "DAY_OF_WEEK"
  | .SEASON => "SEASON"
  | .LENGTH_OF_STAY => "LENGTH_OF_STAY"
  | .ADVANCE_BOOKING => "ADVANCE_BOOKING"
  | .SPECIAL_DATE => "SPECIAL_DATE"

/-- The rule describes a night, and not a booking. -/
def PricingRule.isNightRule (r : PricingRule) : Bool :=
  r.trigger ≠ .LENGTH_OF_STAY && r.trigger ≠ .ADVANCE_BOOKING

/-- The rule is switched on and not deleted. -/
def PricingRule.live (r : PricingRule) : Bool := r.enabled && r.deletedAt.isNone

/-- The day is sold at a price a rule wrote. -/
def RateInventoryDay.ruled (d : RateInventoryDay) : Bool :=
  d.pricePaise.isSome && d.pricingRuleId.isSome

/-- `Math.round((sold / physical) * 100)`. -/
def RateDayCell.occupancyPct (c : RateDayCell) : ℤ :=
  if 0 < c.physical then (Claims.Binary64.ratio c.sold c.physical).scale 100 |>.round else 0

namespace RevenueEngineService

def compare (value : ℤ) (cmp : PricingComparator) (threshold : ℤ) : Bool :=
  match cmp with
  | .GT => threshold < value
  | .GTE => threshold ≤ value
  | .LT => value < threshold
  | .LTE => value ≤ threshold
  | .EQ => value = threshold

def inRange (rule : PricingRule) (date : ℤ) (required : Bool) : Bool :=
  if rule.startDate.isNone && rule.endDate.isNone then !required
  else rule.startDate.all (· ≤ date) && rule.endDate.all (date ≤ ·)

/-- 1 is Monday. -/
def isoDay (date : ℤ) : ℤ := (utcDay date + 6) % 7 + 1

/-- Does a night-level rule apply to this date at this occupancy? -/
def «matches» (rule : PricingRule) (date : ℤ) (occupancyPct : ℤ) : Bool :=
  match rule.trigger with
  | .OCCUPANCY =>
    compare occupancyPct rule.comparator (rule.threshold.getD 0) && inRange rule date false
  | .DAY_OF_WEEK => isoDay date = rule.threshold.getD 0 && inRange rule date false
  | .SEASON => inRange rule date true
  | .SPECIAL_DATE => inRange rule date true
  | .LENGTH_OF_STAY => false
  | .ADVANCE_BOOKING => false

/-- Basis points for `PERCENT`, paise for `FIXED`; never below zero. -/
def apply (basePaise : ℤ) (rule : PricingRule) : ℤ :=
  max 0 <| match rule.adjustmentKind with
    | .PERCENT => roundDiv (basePaise * (10000 + rule.adjustmentValue)) 10000
    | .FIXED => basePaise + rule.adjustmentValue

variable (propertyId : Id)

/-- The price a day would resolve to if the rule-written row were absent. -/
def baseWithoutRule (roomTypeId : Id) (date : ℤ) : Op ℤ := do
  let nights ← RatesService.nightlyPrices propertyId roomTypeId date (addDays date 1) none
  let n ← orThrow nights.head? (.internal "TypeError")
  if n.source ≠ .day then return n.pricePaise
  let type ← select (.roomType roomTypeId) fun db => db.roomTypes.find? roomTypeId
  let overrides ← RatesService.list propertyId
  let ov := overrides.find? fun o =>
    o.roomTypeId = roomTypeId && o.startDate ≤ date && date ≤ o.endDate
  return (ov.map (·.ratePaise)).getD ((type.map (·.baseRate)).getD n.pricePaise)

/-- What the day would be with no rule: override or room-type rate. -/
def basePrice (cell : RateDayCell) : Op ℤ :=
  if cell.priceSource = .day then baseWithoutRule propertyId cell.roomTypeId cell.date
  else return cell.pricePaise

/-- The rule of the highest priority that applies to a cell. -/
def ruleFor (byPriority : List PricingRule) (cell : RateDayCell) : Option PricingRule :=
  (byPriority.filter fun r => r.roomTypeId = cell.roomTypeId).find? fun r =>
    «matches» r cell.date cell.occupancyPct

/-- The edit that writes, or clears, the price of one cell. -/
def cellEdit (cell : RateDayCell) (price : Option ℤ) (ruleId : Option Id) : BulkUpdateInput where
  roomTypeIds := [cell.roomTypeId]
  ranges := [⟨cell.date, cell.date⟩]
  set := { pricePaise := some price }
  actorKind := some .RULE
  pricingRuleId := ruleId

/-- Write the price of a cell, unless this is a preview. -/
def writeCell (dryRun : Bool) (batchId : Id) (now : ℤ) (cell : RateDayCell) (price : Option ℤ)
    (ruleId : Option Id) : Op Unit :=
  when (dryRun = false) do
    let _ ← RatesService.bulkUpdate propertyId (cellEdit cell price ruleId) batchId now
    return ()

/-- One cell of the grid; answers what was planned. -/
def priceCell (floor : ℤ) (byPriority : List PricingRule) (dayRows : List RateInventoryDay)
    (dryRun : Bool) (now : ℤ) (cell : RateDayCell) (batchId : Id) : Op (Option PlannedDay) := do
  let day := dayRows.find? fun d => d.roomTypeId = cell.roomTypeId && d.date = cell.date
  -- the person wins
  if day.any fun d => d.pricePaise.isSome && d.pricingRuleId.isNone then return none
  let base ← basePrice propertyId cell
  match ruleFor byPriority cell with
  | some rule =>
    let target := max floor (apply base rule)
    let current := (day.filter (·.pricingRuleId.isSome)).bind (·.pricePaise)
    if some target = current then return none
    writeCell propertyId dryRun batchId now cell (some target) (some rule.id)
    return some
      { roomTypeId := cell.roomTypeId
        date := cell.date
        fromPaise := cell.pricePaise
        toPaise := some target
        ruleId := some rule.id
        ruleName := some (rule.name.getD rule.trigger.text) }
  | none =>
    if ¬day.any fun d => d.pricingRuleId.isSome then return none
    -- a rule priced this day and no rule matches now
    writeCell propertyId dryRun batchId now cell none none
    return some
      { roomTypeId := cell.roomTypeId
        date := cell.date
        fromPaise := cell.pricePaise
        toPaise := none
        ruleId := none
        ruleName := none }

variable (opts : RunRulesOpts)

/-- The types a run prices. -/
def selectedTypes (db : HotelDb) : List RoomType :=
  db.roomTypes.rows.filter fun t =>
    t.propertyId = propertyId && t.deletedAt.isNone && t.active && opts.roomTypeId.all (t.id = ·)

variable (typeIds : List Id)

/-- The live rules of some types. -/
def liveRules (db : HotelDb) : List PricingRule :=
  db.pricingRules.rows.filter fun r =>
    r.propertyId = propertyId && typeIds.contains r.roomTypeId && r.live

/-- The rules in the order they are tried. -/
def byPriority (rules : List PricingRule) : List PricingRule :=
  (rules.filter PricingRule.isNightRule).insertionSort fun a b => b.priority ≤ a.priority

/-- All rows of the base plan of some types. -/
def baseRows (db : HotelDb) : List RateInventoryDay :=
  db.rateInventoryDays.rows.filter fun d =>
    d.propertyId = propertyId && typeIds.contains d.roomTypeId && d.ratePlanId = none

/-- The cells of the grid a run visits. -/
def cellsOf (grid : List GridType) : List RateDayCell :=
  (grid.filter fun row => typeIds.contains row.id).flatMap (·.days)

/-- Stamp the rules that were run. -/
def stampRules (rules : List PricingRule) (now : ℤ) : Op Unit :=
  write (fun _ => rules.map fun r => .pricingRule r.id)
    (fun db =>
      { db with
        pricingRules := db.pricingRules.update (fun r => (rules.map (·.id)).contains r.id)
          fun r => { r with lastRunAt := some now } })
    fun _ => ()

/-- The last day of a run, excluded. -/
def horizonEnd (now : ℤ) : ℤ :=
  addDays (today now) (min (opts.days.getD RULE_HORIZON_DAYS) 400)

/-- Apply the rules of a property; `batchId n` is the fresh id of the edit of the `n`-th cell. -/
def run (now : ℤ) (batchId : ℕ → Id) :
    Op RuleRunResult := do
  let settings ← select (.settings propertyId) fun db =>
    db.propertySettings.find? propertyId
  let floor := (settings.bind (·.minRoomPricePaise)).getD 0
  let types ← select (.rooms propertyId) (selectedTypes propertyId opts)
  if types.isEmpty then return ⟨propertyId, 0, 0, 0, 0, opts.dryRun, []⟩
  let typeIds := types.map RoomType.id
  let rules ← select (.pricingRules propertyId) (liveRules propertyId typeIds)
  let grid ← RatesService.grid propertyId (today now) (horizonEnd opts now) none
  let dayRows ← select (.stays propertyId) (baseRows propertyId typeIds)
  let planned ← all
    (fun c : RateDayCell × ℕ =>
      priceCell propertyId floor (byPriority rules) dayRows opts.dryRun now c.1 (batchId c.2))
    (cellsOf typeIds grid).zipIdx
  when (opts.dryRun = false ∧ rules ≠ []) (stampRules rules now)
  let plan := planned.reduceOption
  return {
    propertyId
    roomTypes := typeIds.length
    rulesEvaluated := (byPriority rules).length
    daysPriced := plan.countP fun p => p.ruleId.isSome
    daysReverted := plan.countP fun p => p.ruleId.isNone
    dryRun := opts.dryRun
    plan }

end RevenueEngineService

/-! ## The rules -/

structure CreatePricingRuleDto where
  trigger : PricingTrigger
  comparator : Option PricingComparator := none
  threshold : Option ℤ := none
  startDate : Option ℤ := none
  endDate : Option ℤ := none
  adjustmentKind : Option AdjustmentKind := none
  adjustmentValue : ℤ
  enabled : Option Bool := none
  priority : Option ℤ := none

/-- Only what is sent is written; `some none` clears a column. -/
structure UpdatePricingRuleDto where
  trigger : Option PricingTrigger := none
  comparator : Option PricingComparator := none
  threshold : Option (Option ℤ) := none
  startDate : Option (Option ℤ) := none
  endDate : Option (Option ℤ) := none
  adjustmentKind : Option AdjustmentKind := none
  adjustmentValue : Option ℤ := none
  enabled : Option Bool := none
  priority : Option ℤ := none

namespace RatePlansService

variable (propertyId : Id)

/-- The type must be at the caller's property. -/
def requireRoomType (roomTypeId : Id) : Op RoomType := do
  let row ← select (.roomType roomTypeId) fun db =>
    (db.roomTypes.find? roomTypeId).filter fun t =>
      t.propertyId = propertyId && t.deletedAt.isNone
  orThrow row .roomTypeNotFound

variable (id : Id)

def requirePricingRule : Op PricingRule := do
  let row ← select (.pricingRules propertyId) fun db =>
    (db.pricingRules.find? id).filter fun r => r.propertyId = propertyId && r.deletedAt.isNone
  orThrow row .pricingRuleNotFound

def validateRule (startDate endDate : Option ℤ) : Except Err Unit :=
  match startDate, endDate with
  | some start, some stop =>
    if stop < start then .error (.ratePlanInvalid "endDate must not be before startDate")
    else .ok ()
  | _, _ => .ok ()

/-- `INSERT` of a rule; the label of the request is not stored. -/
def createPricingRule (roomTypeId : Id) (dto : CreatePricingRuleDto) (id : Id) :
    Op Unit := do
  let _ ← requireRoomType propertyId roomTypeId
  lift (validateRule dto.startDate dto.endDate)
  write (fun _ => [.pricingRule id])
    (fun db =>
      { db with
        pricingRules := db.pricingRules.insert
          { id
            propertyId
            roomTypeId
            trigger := dto.trigger
            comparator := dto.comparator.getD .GTE
            threshold := dto.threshold
            startDate := dto.startDate
            endDate := dto.endDate
            adjustmentKind := dto.adjustmentKind.getD .PERCENT
            adjustmentValue := dto.adjustmentValue
            enabled := dto.enabled.getD true
            priority := dto.priority.getD 0 } })
    fun _ => ()

/-- `UPDATE pricing_rules SET … WHERE id = … AND property_id = …`. -/
def setPricingRule (f : PricingRule → PricingRule) (hf : ∀ r, (f r).id = r.id) : Op Unit := do
  let found ← write (fun _ => [.pricingRule id])
    (fun db =>
      { db with
        pricingRules :=
          db.pricingRules.update (fun r => r.id = id && r.propertyId = propertyId) f hf })
    fun db => (db.pricingRules.find? id).any fun r => r.propertyId = propertyId
  throwIf (found = false) .pricingRuleNotFound

def updatePricingRule (dto : UpdatePricingRuleDto) : Op Unit := do
  let existing ← requirePricingRule propertyId id
  lift (validateRule (dto.startDate.join.orElse fun _ => existing.startDate)
    (dto.endDate.join.orElse fun _ => existing.endDate))
  setPricingRule propertyId id
    (fun r =>
      { r with
        trigger := dto.trigger.getD r.trigger
        comparator := dto.comparator.getD r.comparator
        threshold := dto.threshold.getD r.threshold
        startDate := dto.startDate.getD r.startDate
        endDate := dto.endDate.getD r.endDate
        adjustmentKind := dto.adjustmentKind.getD r.adjustmentKind
        adjustmentValue := dto.adjustmentValue.getD r.adjustmentValue
        enabled := dto.enabled.getD r.enabled
        priority := dto.priority.getD r.priority })
    fun _ => rfl

def removePricingRule (now : ℤ) : Op Unit := do
  let _ ← requirePricingRule propertyId id
  setPricingRule propertyId id (fun r => { r with deletedAt := some now }) fun _ => rfl

end RatePlansService

/-! ## The worker -/

namespace RevenueRuleWorker

/-- The properties that have a rule switched on. -/
def properties (db : HotelDb) : List Id :=
  ((db.pricingRules.rows.filter PricingRule.live).map (·.propertyId)).dedup

/-- A run that fails is logged, and the next property still gets its own. -/
def runProperty (now : ℤ) (batchId : ℕ → Id) (propertyId : Id) : Op (Option RuleRunResult) :=
  tryCatchThe Err
    (do
      let res ← RevenueEngineService.run propertyId {} now batchId
      return some res)
    fun _ => return none

/-- Apply the rules of every property that has one switched on. -/
def run (now : ℤ) (batchId : Id → ℕ → Id) : Op (List (Option RuleRunResult)) := do
  let rows ← select (.pricingRules 0) properties
  all (fun propertyId => runProperty now (batchId propertyId) propertyId) rows

end RevenueRuleWorker

end Travelo

import Mathlib.Data.Rat.Init
import Travelo.Cash
import Travelo.DirectBilling
import Travelo.Folio.Lines
import Travelo.Inventory

/-!
# The restaurant

`restaurant-rules.ts`, `TablesService` and `OrdersService`: a table and a menu become an order,
the order a bill, and the bill is paid in one or more parts. Order numbers are counts; fresh
uuids, the clock and the configured tax rate come from outside.
-/

namespace Travelo

open ReadCommitted

/-! ## Rules -/

/-- BILLED → OPEN is deliberately missing. -/
def ORDER_TRANSITIONS : RestaurantOrderStatus → List RestaurantOrderStatus
  | .OPEN => [.BILLED, .CANCELLED]
  | .BILLED => [.PAID]
  | .PAID => []
  | .CANCELLED => []

def canTransitionOrder (fromStatus toStatus : RestaurantOrderStatus) : Bool :=
  toStatus ∈ ORDER_TRANSITIONS fromStatus

def assertOrderTransition (fromStatus toStatus : RestaurantOrderStatus) : Except Err Unit :=
  if canTransitionOrder fromStatus toStatus then .ok ()
  else .error (.invalidOrderTransition fromStatus toStatus)

/-- Once the kitchen has started, a line is not the waiter's to pull. -/
def KOT_TRANSITIONS : KotStatus → List KotStatus
  | .NEW => [.PREPARING, .READY, .CANCELLED]
  | .PREPARING => [.READY, .SERVED]
  | .READY => [.SERVED]
  | .SERVED => []
  | .CANCELLED => []

def canTransitionKot (fromStatus toStatus : KotStatus) : Bool :=
  toStatus ∈ KOT_TRANSITIONS fromStatus

def assertKotTransition (fromStatus toStatus : KotStatus) : Except Err Unit :=
  if canTransitionKot fromStatus toStatus then .ok ()
  else .error (.invalidKotTransition fromStatus toStatus)

/-- The roles that may move a kitchen line; all others may not. -/
inductive KotRole where
  | CHEF
  | WAITER
  | RESTAURANT_MANAGER
  | other

def KOT_ROLE_TARGETS : KotRole → List KotStatus
  | .CHEF => [.PREPARING, .READY]
  | .WAITER => [.SERVED, .CANCELLED]
  | .RESTAURANT_MANAGER => [.PREPARING, .READY, .SERVED, .CANCELLED]
  | .other => []

def roleMaySetKot (role : KotRole) (toStatus : KotStatus) : Bool :=
  toStatus ∈ KOT_ROLE_TARGETS role

/-- A cancelled line is not billed. -/
def countsTowardsBill (status : KotStatus) : Bool := status ≠ .CANCELLED

/-- The tax rate in percent; `none` is a setting that is no finite number. -/
def resolveTaxPercent : Option ℚ → ℚ
  | some n => if n < 0 then 5 else n
  | none => 5

structure BillTotals where
  subtotalPaise : ℤ
  discountPaise : ℤ
  serviceChargePaise : ℤ
  taxPaise : ℤ
  totalPaise : ℤ
  deriving DecidableEq

/-- What the lines that count come to, at their snapshots. -/
def grossOf (lines : List OrderItem) : ℤ :=
  ((lines.filter fun l => countsTowardsBill l.kotStatus).map fun l =>
    l.pricePaiseSnapshot * l.qty).sum

/-- The bill of lines: the discount comes off first, service charge and tax are computed on
what is left. -/
def computeBill (lines : List OrderItem) (taxPercent : ℚ) (discount serviceChargeBp : ℤ) :
    BillTotals :=
  let gross := grossOf lines
  let discountPaise := min (max 0 discount) gross
  let subtotalPaise := gross - discountPaise
  let serviceChargePaise := roundDiv (subtotalPaise * serviceChargeBp) 10000
  let taxPaise :=
    roundDiv ((subtotalPaise + serviceChargePaise) * taxPercent.num) (100 * taxPercent.den)
  { subtotalPaise
    discountPaise
    serviceChargePaise
    taxPaise
    totalPaise := subtotalPaise + serviceChargePaise + taxPaise }

/-- `ORD-00001`. -/
def formatOrderNumber (sequence : ℕ) : String :=
  let digits := toString sequence
  "ORD-" ++ "".pushn '0' (5 - digits.length) ++ digits

/-! ## Requests and answers -/

/-- What comes from outside: the clock, fresh uuids and `RESTAURANT_TAX_PERCENT`. -/
structure RestaurantEnv where
  now : ℤ := 0
  uuid : ℕ → Id := id
  taxSetting : Option ℚ := none

def RestaurantEnv.taxPercent (env : RestaurantEnv) : ℚ := resolveTaxPercent env.taxSetting

structure CreateOrderDto where
  /-- Absent for a takeaway. -/
  tableId : Option Id := none
  guestCount : ℕ

structure AddOrderItemDto where
  menuItemId : Id
  qty : ℤ
  notes : Option String := none
  inRange : 1 ≤ qty ∧ qty ≤ 100 := by decide

structure SettleOrderDto where
  method : RestaurantPaymentMethod
  reservationId : Option Id := none
  corporateAccountId : Option Id := none
  /-- Pay this much now; the whole balance when absent. -/
  amountPaise : Option ℤ := none
  reference : Option String := none
  remarks : Option String := none
  positive : ∀ a ∈ amountPaise, 1 ≤ a := by decide

theorem SettleOrderDto.whole : ∀ a ∈ (none : Option ℤ), 1 ≤ a := by decide

structure OrderDiscountDto where
  amountPaise : ℤ
  reason : String
  nonneg : 0 ≤ amountPaise := by decide

/-- An order with its lines and the name of its table, as it is answered. -/
structure OrderDto where
  order : RestaurantOrder
  items : List OrderItem
  table : Option (Id × String)

/-! ## Tables -/

namespace TablesService

/-- The live table of the property. -/
def tableOf (propertyId id : Id) (db : HotelDb) : Option RestaurantTable :=
  (db.restaurantTables.find? id).filter fun t => t.propertyId = propertyId && t.deletedAt.isNone

def requireTable (propertyId id : Id) : Op RestaurantTable := do
  let row ← select (.table id) (tableOf propertyId id)
  orThrow row .tableNotFound

/-- Set the columns of one table. -/
def setTable (id : Id) (f : RestaurantTable → RestaurantTable) (hf : ∀ t, (f t).id = t.id)
    (db : HotelDb) : HotelDb :=
  { db with restaurantTables := db.restaurantTables.update (fun t => t.id = id) f hf }

def withStatus (status : RestaurantTableStatus) (now : ℤ) (t : RestaurantTable) :
    RestaurantTable :=
  { t with status, updatedAt := now }

@[simp] theorem withStatus_id (status : RestaurantTableStatus) (now : ℤ) (t : RestaurantTable) :
    (withStatus status now t).id = t.id := rfl

def setStatus (tableId : Id) (status : RestaurantTableStatus) (now : ℤ) : Op Unit :=
  write (fun _ => [.table tableId])
    (setTable tableId (withStatus status now) (withStatus_id status now)) fun _ => ()

end TablesService

/-! ## Orders -/

namespace OrdersService

/-- Order numbers are counts; a create at the same time can take the number. -/
def NUMBER_ATTEMPTS : ℕ := 5

def orderOf (propertyId id : Id) (db : HotelDb) : Option RestaurantOrder :=
  (db.restaurantOrders.find? id).filter fun o => o.propertyId = propertyId

def requireOrder (propertyId id : Id) : Op RestaurantOrder := do
  let row ← select (.order id) (orderOf propertyId id)
  orThrow row .orderNotFound

/-- The lines of an order. -/
def linesOf (orderId : Id) (db : HotelDb) : List OrderItem :=
  db.orderItems.rows.filter fun i => i.orderId = orderId

def itemsFor (orderId : Id) : Op (List OrderItem) := select (.order orderId) (linesOf orderId)

/-- The name of the table, if the order has one. -/
def tableName : Option Id → Op (Option (Id × String))
  | some tableId => select (.table tableId) fun db =>
    (db.restaurantTables.find? tableId).map fun t => (t.id, t.name)
  | none => return none

def hydrate (o : RestaurantOrder) : Op OrderDto := do
  let items ← itemsFor o.id
  let table ← tableName o.tableId
  return { order := o, items, table }

/-- The order as it is now, answered. -/
def refreshed (propertyId orderId : Id) : Op OrderDto := do
  let order ← requireOrder propertyId orderId
  hydrate order

/-- Set the columns of one order. -/
def setOrder (id : Id) (f : RestaurantOrder → RestaurantOrder) (hf : ∀ o, (f o).id = o.id)
    (db : HotelDb) : HotelDb :=
  { db with restaurantOrders := db.restaurantOrders.update (fun o => o.id = id) f hf }

/-- `UPDATE restaurant_orders SET … WHERE id`. -/
def updateOrder (id : Id) (f : RestaurantOrder → RestaurantOrder) (hf : ∀ o, (f o).id = o.id) :
    Op Unit :=
  write (fun _ => [.order id]) (setOrder id f hf) fun _ => ()

/-- The status of the order's table, if it has one. -/
def setTableStatus (o : RestaurantOrder) (status : RestaurantTableStatus) (now : ℤ) : Op Unit :=
  forSome o.tableId fun tableId => TablesService.setStatus tableId status now

/-! ### Create -/

/-- The open order of a table. -/
def openOrderOf (tableId : Id) (db : HotelDb) : Option RestaurantOrder :=
  db.restaurantOrders.rows.find? fun o => o.tableId = some tableId && o.status = .OPEN

/-- The checks of a new order at a table. -/
def checkTable (propertyId tableId : Id) : Op Unit := do
  let table ← TablesService.requireTable propertyId tableId
  throwIf (table.status = .BLOCKED) (.tableUnavailable table.name table.status)
  let existing ← select (.tableOrders tableId) (openOrderOf tableId)
  throwIf existing.isSome (.tableOccupied table.name)

/-- The row of a new order when `count` orders exist. -/
def newOrder (env : RestaurantEnv) (propertyId : Id) (dto : CreateOrderDto)
    (waiterStaffId : Option Id) (count attempt : ℕ) : RestaurantOrder :=
  { id := env.uuid attempt
    propertyId
    tableId := dto.tableId
    orderNumber := count + 1 + attempt
    guestCount := dto.guestCount
    waiterStaffId
    createdAt := env.now
    updatedAt := env.now }

/-- The unique indexes: an order number occurs once in a property, and a table has one open
order. -/
def orderTaken (row : RestaurantOrder) (db : HotelDb) : Bool :=
  db.restaurantOrders.rows.any fun o =>
    o.id = row.id || (o.propertyId = row.propertyId && o.orderNumber = row.orderNumber) ||
      (row.status = .OPEN && o.status = .OPEN && row.tableId.isSome && o.tableId = row.tableId)

/-- `INSERT INTO restaurant_orders`. -/
def insertOrder (row : RestaurantOrder) (db : HotelDb) : Except Err HotelDb :=
  if orderTaken row db then .error .uniqueViolation
  else .ok { db with restaurantOrders := db.restaurantOrders.insert row }

/-- The keys an insert can wait for. -/
def orderKeys (row : RestaurantOrder) : List RowKey :=
  .order row.id :: .orderNumber row.propertyId row.orderNumber ::
    row.tableId.toList.map fun t => .openOrder t

/-- One attempt, in one transaction. -/
def createTx (env : RestaurantEnv) (propertyId : Id) (dto : CreateOrderDto)
    (waiterStaffId : Option Id) (attempt : ℕ) : Op RestaurantOrder :=
  transaction do
    forSome dto.tableId (checkTable propertyId)
    let count ← select (.orders propertyId) fun db =>
      db.restaurantOrders.rows.countP fun o => o.propertyId = propertyId
    let created := newOrder env propertyId dto waiterStaffId count attempt
    writeChecked (fun _ => orderKeys created) (insertOrder created) fun _ => ()
    setTableStatus created .OCCUPIED env.now
    return created

def createFrom (env : RestaurantEnv) (propertyId : Id) (dto : CreateOrderDto)
    (waiterStaffId : Option Id) : ℕ → ℕ → Op OrderDto
  | 0, _ => throw .orderNotFound
  | left + 1, attempt =>
    tryCatchThe Err
      (do
        let order ← createTx env propertyId dto waiterStaffId attempt
        hydrate order)
      fun e =>
        if e = .uniqueViolation ∧ attempt < NUMBER_ATTEMPTS - 1 then
          createFrom env propertyId dto waiterStaffId left (attempt + 1)
        else throw e

/-- Open an order; a taken number is worth another attempt. -/
def create (env : RestaurantEnv) (propertyId : Id) (dto : CreateOrderDto)
    (waiterStaffId : Option Id) : Op OrderDto :=
  createFrom env propertyId dto waiterStaffId NUMBER_ATTEMPTS 0

/-! ### Lines -/

/-- The menu items of the request. -/
def menuRows (propertyId : Id) (ids : List Id) (db : HotelDb) : List MenuItem :=
  db.menuItems.rows.filter fun m => m.propertyId = propertyId && m.id ∈ ids

/-- The menu item of a line, on sale. -/
def menuItemFor (menu : List MenuItem) (line : AddOrderItemDto) : Op MenuItem := do
  let item ← orThrow (menu.find? fun m => m.id = line.menuItemId && m.deletedAt.isNone)
    .menuItemNotFound
  throwIf (item.status ≠ .ACTIVE) (.itemUnavailable item.name)
  return item

/-- A line with the name and the price of its menu item. -/
def newLine (env : RestaurantEnv) (orderId : Id) (line : AddOrderItemDto) (item : MenuItem)
    (n : ℕ) : OrderItem :=
  { id := env.uuid n
    orderId
    menuItemId := some item.id
    nameSnapshot := item.name
    pricePaiseSnapshot := item.pricePaise
    qty := line.qty
    notes := line.notes
    kotStatus := .NEW
    createdAt := env.now
    updatedAt := env.now
    counted := ⟨item.priced, line.inRange.1⟩ }

def insertLine (row : OrderItem) (db : HotelDb) : HotelDb :=
  { db with orderItems := db.orderItems.insert row }

def addLine (env : RestaurantEnv) (orderId : Id) (entry : (AddOrderItemDto × MenuItem) × ℕ) :
    Op Unit :=
  write (fun _ => []) (insertLine (newLine env orderId entry.1.1 entry.1.2 entry.2))
    fun _ => ()

/-- The columns `addItems` writes. -/
def touched (now : ℤ) (o : RestaurantOrder) : RestaurantOrder := { o with updatedAt := now }

@[simp] theorem touched_id (now : ℤ) (o : RestaurantOrder) : (touched now o).id = o.id := rfl

/-- Add lines to an open order; all menu items are resolved before anything is written. -/
def addItems (env : RestaurantEnv) (propertyId orderId : Id) (items : List AddOrderItemDto) :
    Op OrderDto :=
  transaction do
    let order ← requireOrder propertyId orderId
    throwIf (order.status ≠ .OPEN) .orderNotOpen
    let menu ← select (.menu propertyId) (menuRows propertyId (items.map (·.menuItemId)))
    let resolved ← all (menuItemFor menu) items
    let _ ← all (addLine env orderId) (items.zip resolved).zipIdx
    updateOrder orderId (touched env.now) (touched_id env.now)
    refreshed propertyId orderId

/-- A line of the order. -/
def lineOf (orderId itemId : Id) (db : HotelDb) : Option OrderItem :=
  (db.orderItems.find? itemId).filter fun i => i.orderId = orderId

def requireOrderItem (propertyId orderId itemId : Id) : Op (RestaurantOrder × OrderItem) := do
  let order ← requireOrder propertyId orderId
  let row ← select (.order orderId) (lineOf orderId itemId)
  let item ← orThrow row .orderItemNotFound
  return (order, item)

/-- Set the columns of one line. -/
def setLine (id : Id) (f : OrderItem → OrderItem) (hf : ∀ i, (f i).id = i.id) (db : HotelDb) :
    HotelDb :=
  { db with orderItems := db.orderItems.update (fun i => i.id = id) f hf }

def withKot (status : KotStatus) (now : ℤ) (i : OrderItem) : OrderItem :=
  { i with kotStatus := status, updatedAt := now }

@[simp] theorem withKot_id (status : KotStatus) (now : ℤ) (i : OrderItem) :
    (withKot status now i).id = i.id := rfl

/-- `UPDATE order_items SET kot_status … WHERE id`. -/
def updateKot (itemId : Id) (status : KotStatus) (now : ℤ) : Op Unit :=
  write (fun _ => [.orderItem itemId])
    (setLine itemId (withKot status now) (withKot_id status now)) fun _ => ()

/-- Advance a line in the kitchen. -/
def setKotStatus (env : RestaurantEnv) (propertyId orderId itemId : Id) (toStatus : KotStatus)
    (role : KotRole) : Op OrderDto :=
  transaction do
    let found ← requireOrderItem propertyId orderId itemId
    throwIf (found.1.status ≠ .OPEN) .orderNotOpen
    throwIf (roleMaySetKot role toStatus = false) (.kotNotPermittedForRole toStatus)
    lift (assertKotTransition found.2.kotStatus toStatus)
    updateKot itemId toStatus env.now
    refreshed propertyId orderId

/-- Cancel a line that the kitchen has not started. -/
def cancelItem (env : RestaurantEnv) (propertyId orderId itemId : Id) : Op OrderDto :=
  transaction do
    let found ← requireOrderItem propertyId orderId itemId
    throwIf (found.1.status ≠ .OPEN) .orderNotOpen
    throwIf (found.2.kotStatus ≠ .NEW) .itemCancelTooLate
    updateKot itemId .CANCELLED env.now
    refreshed propertyId orderId

/-! ### Bill -/

/-- The service charge of the property, in basis points. -/
def serviceChargeOf (propertyId : Id) (db : HotelDb) : ℤ :=
  ((db.propertySettings.find? propertyId).map (·.restaurantServiceChargeBp)).getD 0

def serviceChargeBp (propertyId : Id) : Op ℤ :=
  select (.settings propertyId) (serviceChargeOf propertyId)

/-- The columns `bill` writes. -/
def billed (totals : BillTotals) (now : ℤ) (o : RestaurantOrder) : RestaurantOrder :=
  { o with
    status := .BILLED
    subtotalPaise := totals.subtotalPaise
    discountPaise := totals.discountPaise
    serviceChargePaise := totals.serviceChargePaise
    taxPaise := totals.taxPaise
    totalPaise := totals.totalPaise
    billedAt := some now
    updatedAt := now }

@[simp] theorem billed_id (totals : BillTotals) (now : ℤ) (o : RestaurantOrder) :
    (billed totals now o).id = o.id := rfl

def bill (env : RestaurantEnv) (propertyId orderId : Id) : Op OrderDto :=
  transaction do
    let order ← requireOrder propertyId orderId
    lift (assertOrderTransition order.status .BILLED)
    let lines ← itemsFor orderId
    throwIf ((lines.filter fun l => countsTowardsBill l.kotStatus) = []) .emptyBill
    let bp ← serviceChargeBp propertyId
    let totals := computeBill lines env.taxPercent order.discountPaise bp
    updateOrder orderId (billed totals env.now) (billed_id totals env.now)
    setTableStatus order .BILLED env.now
    refreshed propertyId orderId

/-! ### Settle -/

/-- What the lines take from the store, in the order it is taken. -/
def consumptions (lines : List OrderItem) (recipes : List MenuItemRecipe) : List (Id × ℤ) :=
  (lines.flatMap fun l =>
    (recipes.filter fun r => l.menuItemId = some r.menuItemId).map fun r =>
      (r.inventoryItemId, r.qtyPerUnit * l.qty)).filter fun c => 0 < c.2

/-- Take one consumption; an item that cannot give it is skipped. -/
def deplete (propertyId orderId : Id) (settledBy : Option Id) (now : ℤ) (c : Id × ℤ) : Op Unit :=
  tryCatchThe Err
    (do
      let _ ← ItemsService.applyMovement
        { propertyId
          itemId := c.1
          type := .OUT
          qty := c.2
          reason := some ("Consumed by restaurant order " ++ toString orderId)
          createdBy := settledBy } now)
    fun _ => return ()

/-- The recipes of the lines. -/
def recipesFor (propertyId : Id) (menuItemIds : List Id) (db : HotelDb) : List MenuItemRecipe :=
  db.menuItemRecipes.filter fun r => r.propertyId = propertyId && r.menuItemId ∈ menuItemIds

def depleteStock (propertyId orderId : Id) (settledBy : Option Id) (now : ℤ) : Op Unit := do
  let lines ← select (.order orderId) fun db =>
    (linesOf orderId db).filter fun l => l.kotStatus ≠ .CANCELLED
  let menuItemIds := lines.filterMap (·.menuItemId)
  when (menuItemIds ≠ []) do
    let recipes ← select (.menu propertyId) (recipesFor propertyId menuItemIds)
    let _ ← all (deplete propertyId orderId settledBy now) (consumptions lines recipes)

/-- Where a payment goes: the reservation and the account the order then names, and the
amount. -/
structure Payment where
  reservationId : Option Id
  corporateAccountId : Option Id
  amount : ℤ

/-- Charged to a room or an account, the whole balance is taken. -/
def paymentOf (propertyId : Id) (order : RestaurantOrder) (dto : SettleOrderDto)
    (remaining : ℤ) : Op Payment :=
  match dto.method with
  | .ROOM_CHARGE => do
    let id ← orThrow dto.reservationId .reservationRequired
    let res ← select (.inHouse id) fun db =>
      (db.reservations.find? id).filter fun r =>
        r.propertyId = propertyId && r.status = .CHECKED_IN
    let res ← orThrow res .reservationNotInHouse
    return ⟨some res.id, order.corporateAccountId, remaining⟩
  | .CORPORATE => do
    let accountId ← orThrow dto.corporateAccountId .corporateAccountRequired
    return ⟨order.reservationId, some accountId, remaining⟩
  | _ => return ⟨order.reservationId, order.corporateAccountId,
      min (dto.amountPaise.getD remaining) remaining⟩

/-- The row of a payment. -/
def newPayment (propertyId orderId : Id) (dto : SettleOrderDto) (amount : ℤ)
    (settledBy : Option Id) : RestaurantOrderPayment :=
  { orderId
    propertyId
    method := dto.method
    amountPaise := amount
    reference := dto.reference
    remarks := dto.remarks
    collectedBy := settledBy }

/-- The columns `settle` writes. -/
def settledOrder (order : RestaurantOrder) (dto : SettleOrderDto) (p : Payment) (paid : ℤ)
    (settledBy : Option Id) (now : ℤ) (o : RestaurantOrder) : RestaurantOrder :=
  { o with
    status := if order.totalPaise ≤ paid then .PAID else .BILLED
    paidPaise := paid
    paymentMethod := some dto.method
    reservationId := p.reservationId
    corporateAccountId := p.corporateAccountId
    remarks := dto.remarks.or order.remarks
    settledBy
    paidAt := if order.totalPaise ≤ paid then some now else none
    updatedAt := now }

@[simp] theorem settledOrder_id (order : RestaurantOrder) (dto : SettleOrderDto) (p : Payment)
    (paid : ℤ) (settledBy : Option Id) (now : ℤ) (o : RestaurantOrder) :
    (settledOrder order dto p paid settledBy now o).id = o.id := rfl

/-- The line of a bill on the folio. -/
def roomCharge (propertyId : Id) (order : RestaurantOrder) (reservationId : Id)
    (settledBy : Option Id) : PostChargeInput :=
  { reservationId
    propertyId
    kind := .RESTAURANT
    description := "Restaurant " ++ formatOrderNumber order.orderNumber
    amountPaise := order.totalPaise
    sourceType := some "restaurant_order"
    sourceId := some order.id
    postedBy := settledBy }

/-- What a payment is besides: a line on the folio, a charge on the account, or cash. -/
def postPayment (env : RestaurantEnv) (propertyId : Id) (order : RestaurantOrder)
    (dto : SettleOrderDto) (p : Payment) (settledBy : Option Id) : Op Unit :=
  match dto.method with
  | .ROOM_CHARGE => forSome p.reservationId fun reservationId => do
    let _ ← FolioService.postCharge (roomCharge propertyId order reservationId settledBy)
      (env.uuid 0) env.now
  | .CORPORATE => forSome p.corporateAccountId fun accountId => do
    let _ ← DirectBillingService.charge
      { propertyId
        accountId
        amountPaise := p.amount
        orderId := some order.id
        reference := some order.orderNumber
        recordedBy := settledBy }
  | .CASH => do
    let _ ← CashService.record
      { propertyId
        kind := .POS_CASH
        amountPaise := p.amount
        orderId := some order.id
        recordedBy := settledBy
        note := some (formatOrderNumber order.orderNumber) }
  | _ => return ()

def addPayment (row : RestaurantOrderPayment) (db : HotelDb) : HotelDb :=
  { db with restaurantOrderPayments := db.restaurantOrderPayments ++ [row] }

/-- Settle in full or in part; the order is PAID once the payments cover the total. -/
def settle (env : RestaurantEnv) (propertyId orderId : Id) (dto : SettleOrderDto)
    (settledBy : Option Id) : Op OrderDto :=
  transaction do
    let order ← requireOrder propertyId orderId
    throwIf (order.status ≠ .BILLED) .orderNotBilled
    let remaining := max 0 (order.totalPaise - order.paidPaise)
    let p ← paymentOf propertyId order dto remaining
    write (fun _ => []) (addPayment (newPayment propertyId orderId dto p.amount settledBy))
      fun _ => ()
    let paid := order.paidPaise + p.amount
    updateOrder orderId (settledOrder order dto p paid settledBy env.now)
      (settledOrder_id order dto p paid settledBy env.now)
    postPayment env propertyId order dto p settledBy
    when (order.totalPaise ≤ paid) do
      depleteStock propertyId orderId settledBy env.now
      setTableStatus order .OPEN env.now
    refreshed propertyId orderId

/-! ### Discount and cancel -/

/-- The columns `applyDiscount` writes on an open order. -/
def discounted (dto : OrderDiscountDto) (now : ℤ) (o : RestaurantOrder) : RestaurantOrder :=
  { o with
    discountPaise := dto.amountPaise
    discountReason := some dto.reason
    updatedAt := now }

@[simp] theorem discounted_id (dto : OrderDiscountDto) (now : ℤ) (o : RestaurantOrder) :
    (discounted dto now o).id = o.id := rfl

/-- Those it writes on a billed one. -/
def rebilled (dto : OrderDiscountDto) (totals : BillTotals) (now : ℤ) (o : RestaurantOrder) :
    RestaurantOrder :=
  { o with
    discountPaise := dto.amountPaise
    discountReason := some dto.reason
    subtotalPaise := totals.subtotalPaise
    serviceChargePaise := totals.serviceChargePaise
    taxPaise := totals.taxPaise
    totalPaise := totals.totalPaise
    updatedAt := now }

@[simp] theorem rebilled_id (dto : OrderDiscountDto) (totals : BillTotals) (now : ℤ)
    (o : RestaurantOrder) : (rebilled dto totals now o).id = o.id := rfl

/-- The write of a discount; the bill of a billed order is computed anew. -/
def discountOrder (env : RestaurantEnv) (propertyId orderId : Id) (dto : OrderDiscountDto)
    (status : RestaurantOrderStatus) : Op Unit :=
  if status = .BILLED then do
    let lines ← itemsFor orderId
    let bp ← serviceChargeBp propertyId
    let totals := computeBill lines env.taxPercent dto.amountPaise bp
    updateOrder orderId (rebilled dto totals env.now) (rebilled_id dto totals env.now)
  else updateOrder orderId (discounted dto env.now) (discounted_id dto env.now)

/-- A discount on an open or billed order. -/
def applyDiscount (env : RestaurantEnv) (propertyId orderId : Id) (dto : OrderDiscountDto) :
    Op OrderDto :=
  transaction do
    let order ← requireOrder propertyId orderId
    throwIf (order.status = .PAID ∨ order.status = .CANCELLED) .orderNotBilled
    discountOrder env propertyId orderId dto order.status
    refreshed propertyId orderId

/-- The columns `cancel` writes. -/
def cancelled (reason : String) (now : ℤ) (o : RestaurantOrder) : RestaurantOrder :=
  { o with
    status := .CANCELLED
    cancelReason := some reason
    cancelledAt := some now
    updatedAt := now }

@[simp] theorem cancelled_id (reason : String) (now : ℤ) (o : RestaurantOrder) :
    (cancelled reason now o).id = o.id := rfl

/-- The manager's void of an open order of which nothing was served. -/
def cancel (env : RestaurantEnv) (propertyId orderId : Id) (reason : String) : Op OrderDto :=
  transaction do
    let order ← requireOrder propertyId orderId
    lift (assertOrderTransition order.status .CANCELLED)
    let lines ← itemsFor orderId
    throwIf (lines.any fun l => l.kotStatus = .SERVED) .orderHasServedItems
    updateOrder orderId (cancelled reason env.now) (cancelled_id reason env.now)
    setTableStatus order .OPEN env.now
    refreshed propertyId orderId

end OrdersService

end Travelo

import Travelo.Schema

/-!
# The store

`inventory-rules.ts`, `ItemsService` and `PurchaseOrdersService`: the signed effect of a stock
movement, the one function that changes the quantity on hand, and purchase orders up to their
receipt. The clock comes from outside.
-/

namespace Travelo

open ReadCommitted

/-! ## Rules -/

/-- The signed effect of a movement on the quantity on hand. -/
def stockDelta : StockMovementType → ℤ → ℤ
  | .IN, qty => qty.natAbs
  | .OUT, qty => -qty.natAbs
  | .WASTAGE, qty => -qty.natAbs
  | .ADJUST, qty => qty

def stockStaysNonNegative (current delta : ℤ) : Bool := 0 ≤ current + delta

/-- RECEIVED and CANCELLED are terminal. -/
def PO_TRANSITIONS : PurchaseOrderStatus → List PurchaseOrderStatus
  | .DRAFT => [.SENT, .CANCELLED]
  | .SENT => [.RECEIVED, .CANCELLED]
  | .RECEIVED => []
  | .CANCELLED => []

def canTransitionPo (fromStatus toStatus : PurchaseOrderStatus) : Bool :=
  toStatus ∈ PO_TRANSITIONS fromStatus

def assertPoTransition (fromStatus toStatus : PurchaseOrderStatus) : Except Err Unit :=
  if canTransitionPo fromStatus toStatus then .ok ()
  else .error (.invalidPoTransition fromStatus toStatus)

/-- Lines may be edited while the order is a draft. -/
def poIsEditable (status : PurchaseOrderStatus) : Bool := status = .DRAFT

structure PoLineInput where
  itemId : Id
  nameSnapshot : String
  unitSnapshot : String
  qty : ℤ
  unitPricePaise : ℤ
  positive : 1 ≤ qty

/-- The total of a line. -/
def poLine (l : PoLineInput) : PurchaseOrderLine :=
  { itemId := l.itemId
    nameSnapshot := l.nameSnapshot
    unitSnapshot := l.unitSnapshot
    qty := l.qty
    unitPricePaise := l.unitPricePaise
    lineTotalPaise := l.qty * l.unitPricePaise
    positive := l.positive }

/-- The lines with their totals, and the total of the order. -/
def computePoTotals (lines : List PoLineInput) : List PurchaseOrderLine × ℤ :=
  let computed := lines.map poLine
  (computed, computed.foldl (fun sum l => sum + l.lineTotalPaise) 0)

/-- `PO-00001`. -/
def formatPoNumber (sequence : ℕ) : String :=
  let digits := toString sequence
  "PO-" ++ "".pushn '0' (5 - digits.length) ++ digits

/-! ## Items -/

structure ApplyMovementInput where
  propertyId : Id
  itemId : Id
  type : StockMovementType
  qty : ℤ
  reason : Option String := none
  purchaseOrderId : Option Id := none
  createdBy : Option Id := none

structure CreateMovementInput where
  type : StockMovementType
  qty : ℤ
  reason : Option String := none
  createdBy : Option Id := none

namespace ItemsService

variable (propertyId id : Id)

/-- The live item of the property. -/
def itemOf (db : HotelDb) : Option InventoryItem :=
  (db.inventoryItems.find? id).filter fun i => i.propertyId = propertyId && i.deletedAt.isNone

def requireItem : Op InventoryItem := do
  let row ← select (.inventoryItem id) (itemOf propertyId id)
  orThrow row .itemNotFound

/-- Set the columns of one item. -/
def setItem (f : InventoryItem → InventoryItem) (hf : ∀ i, (f i).id = i.id) (db : HotelDb) :
    HotelDb :=
  { db with inventoryItems := db.inventoryItems.update (fun i => i.id = id) f hf }

theorem find?_setItem_self (f : InventoryItem → InventoryItem) (hf : ∀ i, (f i).id = i.id)
    (db : HotelDb) :
    (setItem id f hf db).inventoryItems.find? id = (db.inventoryItems.find? id).map f :=
  find?_update_self f hf id

theorem find?_setItem_ne {id id' : Id} (h : id' ≠ id) (f : InventoryItem → InventoryItem)
    (hf : ∀ i, (f i).id = i.id) (db : HotelDb) :
    (setItem id f hf db).inventoryItems.find? id' = db.inventoryItems.find? id' :=
  find?_update_ne f hf h

/-- A new quantity on hand. -/
def stocked (balanceAfter now : ℤ) (i : InventoryItem) : InventoryItem :=
  { i with currentQty := balanceAfter, updatedAt := now }

@[simp] theorem stocked_id (balanceAfter now : ℤ) (i : InventoryItem) :
    (stocked balanceAfter now i).id = i.id := rfl

/-- The row of a movement. -/
def newMovement (input : ApplyMovementInput) (itemId : Id) (delta balanceAfter : ℤ) :
    StockMovement :=
  { propertyId := input.propertyId
    itemId
    type := input.type
    qty := input.qty.natAbs
    qtyDelta := delta
    balanceAfter
    reason := input.reason
    purchaseOrderId := input.purchaseOrderId
    createdBy := input.createdBy }

def addMovement (m : StockMovement) (db : HotelDb) : HotelDb :=
  { db with stockMovements := db.stockMovements ++ [m] }

/-- The single choke point that changes the quantity on hand: the item is locked, the balance
stays non-negative, and the movement is written with the new quantity. -/
def applyMovement (input : ApplyMovementInput) (now : ℤ) :
    Op (Option InventoryItem × StockMovement) := do
  let found ← selectForUpdate (.inventoryItem input.itemId)
    (fun db => (itemOf input.propertyId input.itemId db).toList.map fun i => .inventoryItem i.id)
    (itemOf input.propertyId input.itemId)
  let item ← orThrow found .itemNotFound
  let delta := stockDelta input.type input.qty
  throwIf (input.type = .ADJUST ∧ delta = 0) .zeroAdjustment
  throwIf (stockStaysNonNegative item.currentQty delta = false) (.negativeStock item.name)
  let balanceAfter := item.currentQty + delta
  let updated ← write (fun _ => [.inventoryItem item.id])
    (setItem item.id (stocked balanceAfter now) (stocked_id balanceAfter now))
    fun db => (db.inventoryItems.find? item.id).map (stocked balanceAfter now)
  let movement := newMovement input item.id delta balanceAfter
  write (fun _ => []) (addMovement movement) fun _ => ()
  return (updated, movement)

/-- One movement of one item. -/
def recordMovement (itemId : Id) (dto : CreateMovementInput) (now : ℤ) :
    Op (Option InventoryItem × StockMovement) :=
  transaction (applyMovement
    { propertyId
      itemId
      type := dto.type
      qty := dto.qty
      reason := dto.reason
      createdBy := dto.createdBy } now)

end ItemsService

/-! ## Purchase orders -/

structure PoLineDto where
  itemId : Id
  qty : ℤ
  unitPricePaise : ℤ
  positive : 1 ≤ qty := by decide

structure UpdatePoDto where
  supplierId : Option Id := none
  supplierName : Option String := none
  note : Option String := none
  lines : Option (List PoLineDto) := none

/-- The statuses `setStatus` takes. -/
inductive PoStatusDto where
  | SENT
  | CANCELLED
  deriving DecidableEq

def PoStatusDto.status : PoStatusDto → PurchaseOrderStatus
  | .SENT => .SENT
  | .CANCELLED => .CANCELLED

/-- `s.trim() || null`. -/
def trimOrNull (s : String) : Option String :=
  let trimmed := ((s.toList.dropWhile isJsSpace).reverse.dropWhile isJsSpace).reverse
  if trimmed.isEmpty then none else some (String.ofList trimmed)

namespace PurchaseOrdersService

variable (propertyId id : Id)

/-- The live order of the property. -/
def poOf (db : HotelDb) : Option PurchaseOrder :=
  (db.purchaseOrders.find? id).filter fun p => p.propertyId = propertyId && p.deletedAt.isNone

def requirePo : Op PurchaseOrder := do
  let row ← select (.purchaseOrder id) (poOf propertyId id)
  orThrow row .poNotFound

/-- A line with the name and the unit of its item. -/
def resolveLine (l : PoLineDto) : Op PoLineInput := do
  let item ← ItemsService.requireItem propertyId l.itemId
  return {
    itemId := item.id
    nameSnapshot := item.name
    unitSnapshot := item.unit
    qty := l.qty
    unitPricePaise := l.unitPricePaise
    positive := l.positive }

def resolveLines (lines : List PoLineDto) : Op (List PoLineInput) :=
  all (resolveLine propertyId) lines

/-- The live supplier of the property. -/
def supplierOf (db : HotelDb) : Option Supplier :=
  (db.suppliers.find? id).filter fun s => s.propertyId = propertyId && s.deletedAt.isNone

def resolveSupplierName (fallback : Option String) :
    Option Id → Op (Option String)
  | some supplierId => do
    let row ← select (.supplier supplierId) (supplierOf propertyId supplierId)
    let supplier ← orThrow row .supplierNotFound
    return some supplier.name
  | none => return fallback.bind trimOrNull

/-- What `update` sets; a field that is absent is left alone. -/
structure PoPatch where
  note : Option (Option String)
  supplier : Option (Option Id × Option String)
  lines : Option (List PurchaseOrderLine × ℤ)

def PoPatch.apply (patch : PoPatch) (now : ℤ) (p : PurchaseOrder) : PurchaseOrder :=
  { p with
    note := patch.note.getD p.note
    supplierId := (patch.supplier.map (·.1)).getD p.supplierId
    supplierName := (patch.supplier.map (·.2)).getD p.supplierName
    lines := (patch.lines.map (·.1)).getD p.lines
    totalPaise := (patch.lines.map (·.2)).getD p.totalPaise
    updatedAt := now }

@[simp] theorem PoPatch.apply_id (patch : PoPatch) (now : ℤ) (p : PurchaseOrder) :
    (patch.apply now p).id = p.id := rfl

/-- Set the columns of one order. -/
def setPo (f : PurchaseOrder → PurchaseOrder) (hf : ∀ p, (f p).id = p.id) (db : HotelDb) :
    HotelDb :=
  { db with purchaseOrders := db.purchaseOrders.update (fun p => p.id = id) f hf }

/-- The supplier columns, if the request names a supplier. -/
def supplierPatch (dto : UpdatePoDto) :
    Op (Option (Option Id × Option String)) :=
  if dto.supplierId.isSome ∨ dto.supplierName.isSome then do
    let name ← resolveSupplierName propertyId dto.supplierName dto.supplierId
    return some (dto.supplierId, name)
  else return none

/-- The lines and their total, if the request has lines. -/
def linesPatch : Option (List PoLineDto) →
    Op (Option (List PurchaseOrderLine × ℤ))
  | some lines => do
    throwIf (lines = []) .emptyPo
    let resolved ← resolveLines propertyId lines
    return some (computePoTotals resolved)
  | none => return none

def update (dto : UpdatePoDto) (now : ℤ) :
    Op (PurchaseOrder × Option PurchaseOrder) :=
  transaction do
    let before ← requirePo propertyId id
    throwIf (poIsEditable before.status = false) .poNotEditable
    let supplier ← supplierPatch propertyId dto
    let lines ← linesPatch propertyId dto.lines
    let patch : PoPatch := { note := dto.note.map trimOrNull, supplier, lines }
    let after ← write (fun _ => [.purchaseOrder id])
      (setPo id (patch.apply now) (patch.apply_id now))
      fun db => (db.purchaseOrders.find? id).map (patch.apply now)
    return (before, after)

/-- The columns `setStatus` writes. -/
def withStatus (status : PurchaseOrderStatus) (now : ℤ) (p : PurchaseOrder) : PurchaseOrder :=
  { p with status, updatedAt := now }

@[simp] theorem withStatus_id (status : PurchaseOrderStatus) (now : ℤ) (p : PurchaseOrder) :
    (withStatus status now p).id = p.id := rfl

/-- DRAFT → SENT, or DRAFT and SENT → CANCELLED. -/
def setStatus (toStatus : PoStatusDto) (now : ℤ) :
    Op (PurchaseOrder × Option PurchaseOrder) := do
  let before ← requirePo propertyId id
  lift (assertPoTransition before.status toStatus.status)
  let after ← write (fun _ => [.purchaseOrder id])
    (setPo id (withStatus toStatus.status now) (withStatus_id toStatus.status now))
    fun db => (db.purchaseOrders.find? id).map (withStatus toStatus.status now)
  return (before, after)

/-- The movement of a line of a received order. -/
def lineMovement (po : PurchaseOrder) (propertyId : Id) (receivedBy : Option Id)
    (line : PurchaseOrderLine) : ApplyMovementInput :=
  { propertyId
    itemId := line.itemId
    type := .IN
    qty := line.qty
    reason := some ("Received " ++ formatPoNumber po.poNumber)
    purchaseOrderId := some po.id
    createdBy := receivedBy }

/-- The cost stock is valued at: what was paid last. -/
def withCost (unitPricePaise now : ℤ) (i : InventoryItem) : InventoryItem :=
  { i with unitCostPaise := unitPricePaise, updatedAt := now }

@[simp] theorem withCost_id (unitPricePaise now : ℤ) (i : InventoryItem) :
    (withCost unitPricePaise now i).id = i.id := rfl

def receiveLine (po : PurchaseOrder) (propertyId : Id) (receivedBy : Option Id) (now : ℤ)
    (line : PurchaseOrderLine) : Op Unit := do
  let _ ← ItemsService.applyMovement (lineMovement po propertyId receivedBy line) now
  write (fun _ => [.inventoryItem line.itemId])
    (ItemsService.setItem line.itemId (withCost line.unitPricePaise now)
      (withCost_id line.unitPricePaise now)) fun _ => ()

/-- The columns `receive` writes. -/
def received (now : ℤ) (p : PurchaseOrder) : PurchaseOrder :=
  { p with status := .RECEIVED, receivedAt := some now, updatedAt := now }

@[simp] theorem received_id (now : ℤ) (p : PurchaseOrder) : (received now p).id = p.id := rfl

/-- Receive a sent order: an IN movement for each line, and the status, in one transaction. -/
def receive (receivedBy : Option Id) (now : ℤ) :
    Op (PurchaseOrder × Option PurchaseOrder) :=
  transaction do
    let before ← requirePo propertyId id
    throwIf (before.status ≠ .SENT) .poNotReceivable
    lift (assertPoTransition before.status .RECEIVED)
    let _ ← all (receiveLine before propertyId receivedBy now) before.lines
    let after ← write (fun _ => [.purchaseOrder id])
      (setPo id (received now) (received_id now))
      fun db => (db.purchaseOrders.find? id).map (received now)
    return (before, after)

end PurchaseOrdersService

end Travelo

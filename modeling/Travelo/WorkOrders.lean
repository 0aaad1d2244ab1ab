import Travelo.Reservations.Service

/-!
# Work orders

`WorkOrdersService`: the maintenance loop. An order that takes its room out of service sends it
to OUT_OF_ORDER when it is raised, to MAINTENANCE when it is accepted, and to DIRTY when it is
completed or cancelled.
-/

namespace Travelo

open ReadCommitted

/-- The central map; COMPLETED and CANCELLED are terminal. -/
def WORK_ORDER_TRANSITIONS : WorkOrderStatus → List WorkOrderStatus
  | .OPEN => [.ACCEPTED, .CANCELLED]
  | .ACCEPTED => [.IN_PROGRESS, .CANCELLED]
  | .IN_PROGRESS => [.PAUSED, .COMPLETED, .CANCELLED]
  | .PAUSED => [.IN_PROGRESS, .CANCELLED]
  | .COMPLETED => []
  | .CANCELLED => []

def canWorkOrderTransition (fromStatus toStatus : WorkOrderStatus) : Bool :=
  (WORK_ORDER_TRANSITIONS fromStatus).contains toStatus

def assertWorkOrderTransition (fromStatus toStatus : WorkOrderStatus) : Except Err Unit :=
  if canWorkOrderTransition fromStatus toStatus then .ok ()
  else .error (.invalidWorkOrderTransition fromStatus toStatus)

/-- The number behind `WO-`. -/
def formatWorkOrderNumber (sequence : ℕ) : ℕ := sequence % 100000

structure WorkOrderActor where
  id : Id
  isSupervisor : Bool

structure CreateWorkOrderDto where
  roomId : Option Id := none
  title : String
  description : Option String := none
  priority : Option String := none
  takesRoomOutOfService : Option Bool := none

structure CompleteWorkOrderDto where
  resolution : String

structure CancelWorkOrderDto where
  reason : String

/-- An order as it is returned, with what `hydrate` adds of its room. -/
structure WorkOrderDto where
  row : WorkOrder
  roomNumber : Option String
  roomStatus : Option RoomStatus

/-- `UPDATE work_orders SET … WHERE id = …`. -/
def HotelDb.updateWorkOrder (db : HotelDb) (id : Id) (f : WorkOrder → WorkOrder)
    (hf : ∀ w, (f w).id = w.id := by intro _; rfl) : HotelDb :=
  { db with workOrders := db.workOrders.update (fun w => w.id = id) f hf }

namespace WorkOrdersService

def NUMBER_ATTEMPTS : ℕ := 5

variable (propertyId id : Id)

/-- The row of a live order of the property. -/
def workOrderOf (db : HotelDb) : Option WorkOrder :=
  (db.workOrders.find? id).filter fun w => w.propertyId = propertyId && w.deletedAt.isNone

def requireWorkOrder : Op WorkOrder := do
  let row ← select (.workOrder id) (workOrderOf propertyId id)
  orThrow row .workOrderNotFound

def updateWorkOrder (id : Id) (f : WorkOrder → WorkOrder)
    (hf : ∀ w, (f w).id = w.id := by intro _; rfl) : Op (Option WorkOrder) :=
  write (fun _ => [.workOrder id]) (fun db => db.updateWorkOrder id f hf)
    fun db => (db.workOrders.find? id).map f

def setRoomStatus (roomId : Id) (status : RoomStatus) (now : ℤ) : Op Unit :=
  write (fun _ => [.room roomId]) (fun db => db.setRoomStatus roomId status now) fun _ => ()

/-- The answer for a row; a query for the room it names. -/
def hydrate (row : Option WorkOrder) : Op WorkOrderDto := do
  let w ← orThrow row (.internal "Cannot read properties of undefined")
  let room ← ReservationsService.hydrateRoom w.roomId
  return { row := w, roomNumber := room.map (·.number), roomStatus := room.map (·.status) }

/-! ## Raising an order -/

variable (dto : CreateWorkOrderDto) (reporterId : Id)

/-- The row `create` inserts; its id is drawn by the database. -/
def newWorkOrder (number : ℕ) (id : Id) : WorkOrder where
  id
  propertyId
  roomId := dto.roomId
  workOrderNumber := number
  title := dto.title
  description := dto.description
  priority := dto.priority.getD "NORMAL"
  status := .OPEN
  reportedBy := some reporterId
  takesRoomOutOfService := dto.takesRoomOutOfService.getD false

/-- The partial unique index on the number. -/
def numberTaken (row : WorkOrder) (db : HotelDb) : Bool :=
  db.workOrders.rows.any fun w =>
    w.propertyId = row.propertyId && w.workOrderNumber = row.workOrderNumber && w.deletedAt.isNone

/-- The row with the id it gets. -/
def drawn (row : Id → WorkOrder) (db : HotelDb) : WorkOrder :=
  row (freshId (db.workOrders.rows.map (·.id)))

/-- `INSERT INTO work_orders`. -/
def insertWorkOrder (row : Id → WorkOrder) (db : HotelDb) : Except Err HotelDb :=
  if numberTaken (drawn row db) db then .error .uniqueViolation
  else .ok { db with workOrders := db.workOrders.insert (drawn row db) }

variable (now : ℤ)

/-- One attempt: the number, the row, and the room it takes out of service at once. -/
def createTx (attempt : ℕ) : Op WorkOrder :=
  transaction do
    let count ← select (.workOrders propertyId) fun db =>
      db.workOrders.rows.countP fun w => w.propertyId = propertyId
    let number := formatWorkOrderNumber (count + 1 + attempt)
    let row := newWorkOrder propertyId dto reporterId number
    let created ← writeChecked (fun _ => [.workOrderNumber propertyId number])
      (insertWorkOrder row) (drawn row)
    when (dto.takesRoomOutOfService.getD false = true) <|
      forSome dto.roomId fun roomId => setRoomStatus roomId .OUT_OF_ORDER now
    return created

/-- The retry loop: a taken number is worth another attempt. -/
def createAttempts (body : ℕ → Op WorkOrderDto) : ℕ → ℕ → Op WorkOrderDto
  | 0, _ => throw .workOrderNotFound
  | left + 1, attempt =>
    tryCatchThe Err (body attempt) fun e =>
      if e = .uniqueViolation ∧ attempt < NUMBER_ATTEMPTS - 1 then
        createAttempts body left (attempt + 1)
      else throw e

def create :
    Op WorkOrderDto := do
  forSome dto.roomId fun roomId => do
    let _ ← ReservationsService.requireRoom propertyId roomId
  createAttempts
    (fun attempt => do
      let row ← createTx propertyId dto reporterId now attempt
      hydrate (some row))
    NUMBER_ATTEMPTS 0

/-! ## Transitions -/

/-- An update of an order in one transaction with the status its room gets, if the order takes
the room out of service. -/
def updateWithRoom (before : WorkOrder) (f : WorkOrder → WorkOrder) (status : RoomStatus) (now : ℤ)
    (hf : ∀ w, (f w).id = w.id := by intro _; rfl) : Op (Option WorkOrder) :=
  transaction do
    let updated ← updateWorkOrder before.id f hf
    when (before.takesRoomOutOfService = true) <|
      forSome before.roomId fun roomId => setRoomStatus roomId status now
    return updated

/-- OPEN → ACCEPTED; an unassigned order is the caller's. -/
def accept (actor : WorkOrderActor) (now : ℤ) :
    Op (WorkOrder × WorkOrderDto) := do
  let before ← requireWorkOrder propertyId id
  lift (assertWorkOrderTransition before.status .ACCEPTED)
  let assignee := before.assignedStaffId.getD actor.id
  let row ← updateWithRoom before
    (fun w =>
      { w with status := .ACCEPTED, assignedStaffId := some assignee, acceptedAt := some now,
               updatedAt := now })
    .MAINTENANCE now
  let out ← hydrate row
  return (before, out)

/-- A change of status that leaves the room alone; `startedAt` is stamped by the first start. -/
def simpleTransition (target : WorkOrderStatus) (startedAt : Option ℤ) (now : ℤ) :
    Op (WorkOrder × WorkOrderDto) := do
  let before ← requireWorkOrder propertyId id
  lift (assertWorkOrderTransition before.status target)
  let stamp := startedAt.or
    (if target = .IN_PROGRESS ∧ before.startedAt = none then some now else none)
  let row ← updateWorkOrder id fun w =>
    { w with status := target, updatedAt := now, startedAt := stamp.or w.startedAt }
  let out ← hydrate row
  return (before, out)

/-- ACCEPTED or PAUSED → IN_PROGRESS. -/
def start : Op (WorkOrder × WorkOrderDto) :=
  simpleTransition propertyId id .IN_PROGRESS (some now) now

/-- IN_PROGRESS → PAUSED. -/
def pause : Op (WorkOrder × WorkOrderDto) :=
  simpleTransition propertyId id .PAUSED none now

/-- PAUSED → IN_PROGRESS. -/
def resume : Op (WorkOrder × WorkOrderDto) :=
  simpleTransition propertyId id .IN_PROGRESS none now

/-- IN_PROGRESS → COMPLETED, with a resolution. -/
def complete (dto : CompleteWorkOrderDto) (now : ℤ) :
    Op (WorkOrder × WorkOrderDto) := do
  let before ← requireWorkOrder propertyId id
  throwIf (trim dto.resolution = "") .resolutionRequired
  lift (assertWorkOrderTransition before.status .COMPLETED)
  let row ← updateWithRoom before
    (fun w =>
      { w with status := .COMPLETED, resolution := some (trim dto.resolution),
               completedAt := some now, updatedAt := now })
    .DIRTY now
  let out ← hydrate row
  return (before, out)

/-- Any state that is not terminal → CANCELLED, with a reason. -/
def cancel (dto : CancelWorkOrderDto) (now : ℤ) :
    Op (WorkOrder × WorkOrderDto) := do
  let before ← requireWorkOrder propertyId id
  throwIf (trim dto.reason = "") .cancelReasonRequired
  lift (assertWorkOrderTransition before.status .CANCELLED)
  let row ← updateWithRoom before
    (fun w =>
      { w with status := .CANCELLED, cancelReason := some (trim dto.reason),
               cancelledAt := some now, updatedAt := now })
    .DIRTY now
  let out ← hydrate row
  return (before, out)

end WorkOrdersService

end Travelo

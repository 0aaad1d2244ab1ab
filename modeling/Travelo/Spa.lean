import Travelo.Folio.Lines

/-!
# The spa

`SpaBillsService`: settling a bill, to a room or otherwise, and refunding it.
-/

namespace Travelo

open ReadCommitted

structure SettleBillDto where
  method : SpaPaymentMethod
  /-- Required only for ROOM_CHARGE. -/
  reservationId : Option Id := none

structure RefundBillDto where
  reason : String

def BILL_TRANSITIONS : SpaBillStatus → List SpaBillStatus
  | .UNPAID => [.PAID]
  | .PAID => [.REFUNDED]
  | .REFUNDED => []

def canTransitionBill (fromStatus toStatus : SpaBillStatus) : Bool :=
  toStatus ∈ BILL_TRANSITIONS fromStatus

def assertBillTransition (fromStatus toStatus : SpaBillStatus) : Except Err Unit :=
  if canTransitionBill fromStatus toStatus then .ok ()
  else .error (.invalidBillTransition fromStatus toStatus)

namespace SpaBillsService

variable (propertyId id : Id)

def billOf (db : HotelDb) : Option SpaBill :=
  (db.spaBills.find? id).filter fun b => b.propertyId = propertyId

def requireBill : Op SpaBill := do
  let row ← select (.spaBill id) (billOf propertyId id)
  orThrow row .billNotFound

/-- `UPDATE spa_bills SET … WHERE id AND property_id`. -/
def setBill (f : SpaBill → SpaBill) (hf : ∀ b, (f b).id = b.id) (db : HotelDb) : HotelDb :=
  { db with spaBills := db.spaBills.update (fun b => b.id = id && b.propertyId = propertyId) f hf }

/-- And the row as it is then. -/
def updateBill (f : SpaBill → SpaBill) (hf : ∀ b, (f b).id = b.id) :
    Op (Option SpaBill) :=
  write (fun _ => [.spaBill id]) (setBill propertyId id f hf) fun db =>
    (billOf propertyId id db).map f

variable (dto : SettleBillDto)

/-- The reservation a bill is charged to: one that is in house at the property. -/
def roomOf : Op (Option Id) :=
  if dto.method = .ROOM_CHARGE then do
    let id ← orThrow dto.reservationId .reservationRequired
    let res ← select (.inHouse id) fun db =>
      (db.reservations.find? id).filter fun r => r.propertyId = propertyId
    let res ← orThrow (res.filter fun r => r.status = .CHECKED_IN) .reservationNotInHouse
    return some res.id
  else return none

/-- The columns `settle` writes. -/
def settledBill (reservationId settledBy : Option Id) (now : ℤ) (b : SpaBill) : SpaBill :=
  { b with
    status := .PAID
    paymentMethod := some dto.method
    reservationId
    settledBy
    paidAt := some now
    updatedAt := now }

@[simp] theorem settledBill_id (reservationId settledBy : Option Id) (now : ℤ) (b : SpaBill) :
    (settledBill dto reservationId settledBy now b).id = b.id := rfl

/-- The text of the line, by the name of the treatment. -/
def description (name : Option String) : String :=
  match name with
  | some n => if n = "" then "Spa services" else "Spa — " ++ n
  | none => "Spa services"

/-- The line of a bill on the folio. -/
def spaCharge (bill : SpaBill) (reservationId : Id) (name : Option String) (settledBy : Option Id) :
    PostChargeInput :=
  { reservationId
    propertyId
    kind := .SPA
    description := description name
    amountPaise := bill.totalPaise
    sourceType := some "spa_bill"
    sourceId := some bill.id
    postedBy := settledBy }

/-- Settle a bill; one that is charged to a room posts to the folio. -/
def settle (lineId : Id) (now : ℤ) (propertyId id : Id) (dto : SettleBillDto)
    (settledBy : Option Id) : Op (SpaBill × SpaBill) :=
  transaction do
    let bill ← requireBill propertyId id
    throwIf (bill.status ≠ .UNPAID) .billNotUnpaid
    lift (assertBillTransition bill.status .PAID)
    let reservationId ← roomOf propertyId dto
    let row ← updateBill propertyId id (settledBill dto reservationId settledBy now)
      (settledBill_id dto reservationId settledBy now)
    forSome reservationId fun reservationId => do
      let name ← select (.spaBill id) fun db =>
        (db.spaAppointments.find? bill.appointmentId).map (·.serviceNameSnapshot)
      let _ ← FolioService.postCharge (spaCharge propertyId bill reservationId name settledBy)
        lineId now
    let row ← orThrow row (.internal "Cannot read properties of undefined")
    return (bill, row)

/-- The columns `refund` writes. -/
def refundedBill (dto : RefundBillDto) (now : ℤ) (b : SpaBill) : SpaBill :=
  { b with
    status := .REFUNDED
    refundReason := some dto.reason
    refundedAt := some now
    updatedAt := now }

@[simp] theorem refundedBill_id (dto : RefundBillDto) (now : ℤ) (b : SpaBill) :
    (refundedBill dto now b).id = b.id := rfl

/-- Record a refund; the money moved back outside the app. -/
def refund (now : ℤ) (propertyId id : Id) (dto : RefundBillDto) : Op (SpaBill × SpaBill) := do
  let bill ← requireBill propertyId id
  throwIf (bill.status ≠ .PAID) .billNotPaid
  lift (assertBillTransition bill.status .REFUNDED)
  let row ← updateBill propertyId id (refundedBill dto now) (refundedBill_id dto now)
  let row ← orThrow row (.internal "Cannot read properties of undefined")
  return (bill, row)

end SpaBillsService

end Travelo

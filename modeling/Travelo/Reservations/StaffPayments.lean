import Travelo.Cash
import Travelo.DirectBilling
import Travelo.Reservations.Service

/-!
# The payment endpoints of the staff app

`StaffReservationsController`: collecting a payment, refunding one, checking out. A payment
in cash also goes to the cash tracker, one by the company to its account. The audit rows
are read by nothing here and are left out.
-/

namespace Travelo

open ReadCommitted

/-- Who is asking. -/
structure AuthenticatedStaff where
  id : Id
  propertyId : Id

/-- A body that passed validation. -/
structure CollectPaymentDto where
  method : FolioPaymentMethod
  amountPaise : ℤ
  amount_pos : 1 ≤ amountPaise := by decide
  amount_le : amountPaise ≤ 100000000 := by decide
  direction : Option FolioPaymentDirection := none
  reference : Option String := none
  reference_le : ∀ s ∈ reference, s.length ≤ 120 := by decide
  note : Option String := none
  note_le : ∀ s ∈ note, s.length ≤ 500 := by decide
  idempotencyKey : Option String := none
  key_length : ∀ k ∈ idempotencyKey, 1 ≤ k.length ∧ k.length ≤ 80 := by decide

namespace StaffReservationsController

/-- What the service is handed: the direction is the endpoint's, whatever the body says. -/
def paymentInput (dto : CollectPaymentDto) (direction : FolioPaymentDirection) :
    CollectPaymentInput :=
  { method := dto.method
    amountPaise := dto.amountPaise
    direction := some direction
    reference := dto.reference
    note := dto.note
    idempotencyKey := dto.idempotencyKey }

/-- Cash goes into the drawer; a corporate settlement charges the account. -/
def sideLedger (me : AuthenticatedStaff) (id : Id) (dto : CollectPaymentDto) : Op Unit :=
  match dto.method with
  | .CASH => do
    let _ ← CashService.record
      { propertyId := me.propertyId
        kind := .FOLIO_CASH
        amountPaise := dto.amountPaise
        reservationId := some id
        recordedBy := some me.id }
  | .CORPORATE => do
    let stay ← ReservationsService.requireReservation me.propertyId id
    let accountId ← orThrow stay.guest.corporateAccountId .corporateAccountRequired
    let _ ← DirectBillingService.charge
      { propertyId := me.propertyId
        accountId
        amountPaise := dto.amountPaise
        reservationId := some id
        reference := some stay.reservationNumber
        recordedBy := some me.id }
  | _ => pure ()

/-- `POST :id/payments`. -/
def collectPayment (env : Env) (me : AuthenticatedStaff) (id : Id) (dto : CollectPaymentDto) :
    Op (FolioPayment × ℤ × ℤ) := do
  let out ← ReservationsService.collectPayment env me.propertyId id (paymentInput dto .PAYMENT)
    (some me.id)
  sideLedger me id dto
  return out

/-- `POST :id/refunds`. -/
def refundPayment (env : Env) (me : AuthenticatedStaff) (id : Id) (dto : CollectPaymentDto) :
    Op (FolioPayment × ℤ × ℤ) :=
  ReservationsService.collectPayment env me.propertyId id (paymentInput dto .REFUND) (some me.id)

/-- `POST :id/check-out`. -/
def checkOut (env : Env) (me : AuthenticatedStaff) (id : Id) (dto : CheckOutDto) :
    Op (ReservationStatus × ReservationDto × ℤ × Bool) :=
  ReservationsService.checkOut env me.propertyId id dto (some me.id)

end StaffReservationsController

end Travelo

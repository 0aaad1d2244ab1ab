import Travelo.Schema

/-!
# Requests and answers of the reservation service

Ids and dates are well formed when a request reaches the service (the controllers validate
them), and a booking is created in one of two statuses only.
-/

namespace Travelo

/-- The two statuses a booking may be created in. -/
inductive BookingStatus where
  | PENDING
  | CONFIRMED
  deriving DecidableEq

def BookingStatus.toStatus : BookingStatus → ReservationStatus
  | .PENDING => .PENDING
  | .CONFIRMED => .CONFIRMED

structure CreateReservationDto where
  roomTypeId : Id
  roomId : Option Id := none
  guest : GuestDetails
  checkIn : ℤ
  checkOut : ℤ
  ratePaise : Option ℤ := none
  holdMinutes : Option ℤ := none
  status : Option BookingStatus := none

/-- One field of an update that no rule depends on. -/
inductive DetailPatch where
  | guestName (v : String)
  | guestPhone (v : String)
  | guestEmail (v : Option String)
  | guestIdType (v : Option String)
  | guestIdNumber (v : Option String)
  | adults (v : ℕ)
  | children (v : ℕ)
  | source (v : ReservationSource)
  | notes (v : Option String)
  | ratePlanId (v : Option Id)
  | bookingSourceId (v : Option Id)
  | segment (v : Option String)
  | subSegment (v : Option String)
  | scantyBaggage (v : Bool)
  | checkinTime (v : Option String)
  | checkoutTime (v : Option String)
  | companyName (v : Option String)
  | companyGstin (v : Option String)
  | companyAddress (v : Option String)
  | corporateAccountId (v : Option Id)

/-- The column the patch sets. -/
def DetailPatch.field : DetailPatch → String
  | .guestName _ => "guestName"
  | .guestPhone _ => "guestPhone"
  | .guestEmail _ => "guestEmail"
  | .guestIdType _ => "guestIdType"
  | .guestIdNumber _ => "guestIdNumber"
  | .adults _ => "adults"
  | .children _ => "children"
  | .source _ => "source"
  | .notes _ => "notes"
  | .ratePlanId _ => "ratePlanId"
  | .bookingSourceId _ => "bookingSourceId"
  | .segment _ => "segment"
  | .subSegment _ => "subSegment"
  | .scantyBaggage _ => "scantyBaggage"
  | .checkinTime _ => "checkinTime"
  | .checkoutTime _ => "checkoutTime"
  | .companyName _ => "companyName"
  | .companyGstin _ => "companyGstin"
  | .companyAddress _ => "companyAddress"
  | .corporateAccountId _ => "corporateAccountId"

def DetailPatch.apply : DetailPatch → GuestDetails → GuestDetails
  | .guestName v, g => { g with guestName := v }
  | .guestPhone v, g => { g with guestPhone := v }
  | .guestEmail v, g => { g with guestEmail := v }
  | .guestIdType v, g => { g with guestIdType := v }
  | .guestIdNumber v, g => { g with guestIdNumber := v }
  | .adults v, g => { g with adults := v }
  | .children v, g => { g with children := v }
  | .source v, g => { g with source := v }
  | .notes v, g => { g with notes := v }
  | .ratePlanId v, g => { g with ratePlanId := v }
  | .bookingSourceId v, g => { g with bookingSourceId := v }
  | .segment v, g => { g with segment := v }
  | .subSegment v, g => { g with subSegment := v }
  | .scantyBaggage v, g => { g with scantyBaggage := v }
  | .checkinTime v, g => { g with checkinTime := v }
  | .checkoutTime v, g => { g with checkoutTime := v }
  | .companyName v, g => { g with companyName := v }
  | .companyGstin v, g => { g with companyGstin := v }
  | .companyAddress v, g => { g with companyAddress := v }
  | .corporateAccountId v, g => { g with corporateAccountId := v }

structure UpdateReservationDto where
  details : List DetailPatch := []
  checkIn : Option ℤ := none
  checkOut : Option ℤ := none
  ratePaise : Option ℤ := none

structure ExtendStayDto where
  checkOut : ℤ
  ratePaise : Option ℤ := none

structure MoveRoomDto where
  roomId : Id
  ratePaise : Option ℤ := none

structure CheckInDto where
  roomId : Option Id := none
  guestIdType : Option String := none
  guestIdNumber : Option String := none

structure CheckOutDto where
  collectedPaise : Option ℤ := none
  paymentMethod : Option FolioPaymentMethod := none
  reference : Option String := none
  allowOutstanding : Bool := false
  idempotencyKey : Option String := none
  note : Option String := none

structure CollectPaymentInput where
  method : FolioPaymentMethod
  amountPaise : ℤ
  direction : Option FolioPaymentDirection := none
  reference : Option String := none
  note : Option String := none
  idempotencyKey : Option String := none

structure AutoAllocateDto where
  fromDate : ℤ
  toDate : ℤ
  dryRun : Bool := false

/-- A reservation as it is returned, with what `hydrate` adds to the row. -/
structure ReservationDto where
  row : Reservation
  roomTypeName : Option String
  roomNumber : Option String
  roomStatus : Option RoomStatus
  nights : ℕ
  balancePaise : ℤ

structure PlanLine where
  reservationId : Id
  reservationNumber : ℕ
  roomId : Option Id
  roomNumber : Option String

structure AllocationPlan where
  fromDate : ℤ
  toDate : ℤ
  dryRun : Bool
  considered : ℕ
  assigned : ℕ
  unplaced : ℕ
  plan : List PlanLine

end Travelo

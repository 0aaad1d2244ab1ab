import Travelo.Desk
import Travelo.Folio.Lines

/-!
# The hotel's own booking channel

`BookingEngineService`: the search and the booking of the hosted page, with what they read
of `PropertyConfigService`. The prices of the add-ons are left out: posting one fails before
they are used.
-/

namespace Travelo

open ReadCommitted

/-- How far ahead the public page may look or book. -/
def MAX_ADVANCE_DAYS : ℤ := 365

def MAX_NIGHTS : ℕ := 30

structure PublicAvailabilityQueryDto where
  checkIn : ℤ
  checkOut : ℤ
  adults : Option ℕ := none
  children : Option ℕ := none

structure PublicAddonDto where
  id : Id
  quantity : Option ℕ := none

/-- A guest booking from the hosted page or the widget. -/
structure PublicReservationDto where
  roomTypeId : Id
  ratePlanId : Option Id := none
  checkIn : ℤ
  checkOut : ℤ
  adults : ℕ
  children : Option ℕ := none
  guestName : String
  guestPhone : String
  guestEmail : Option String := none
  notes : Option String := none
  couponCode : Option String := none
  addons : List PublicAddonDto := []

/-- The code of a request; an empty one is none. -/
def PublicReservationDto.coupon (dto : PublicReservationDto) : Option String :=
  dto.couponCode.filter (· ≠ "")

/-- The search `book` makes for itself. -/
def PublicReservationDto.search (dto : PublicReservationDto) : PublicAvailabilityQueryDto where
  checkIn := dto.checkIn
  checkOut := dto.checkOut
  adults := some dto.adults
  children := dto.children

/-- One line of the search. -/
structure PublicAvailabilityItem where
  roomTypeId : Id
  name : String
  maxOccupancy : ℕ
  fitsGuests : Bool
  available : ℕ
  nights : ℕ
  nightly : List NightPrice
  totalPaise : ℤ
  averageNightPaise : ℤ
  /-- The day and the rule that would refuse the stay. -/
  restriction : Option (ℤ × String)
  bookable : Bool

structure PublicAvailability where
  checkIn : ℤ
  checkOut : ℤ
  nights : ℕ
  items : List PublicAvailabilityItem

/-- The answer to a booking; its total is that of the folio. -/
structure PublicBooking where
  reservationNumber : ℕ
  status : ReservationStatus
  holdExpiresAt : Option ℤ
  checkIn : ℤ
  checkOut : ℤ
  nights : ℕ
  roomTypeName : Option String
  guestName : String
  subtotalPaise : ℤ
  taxPaise : ℤ
  totalPaise : ℤ
  checkinTime : String

namespace PropertyConfigService

def settingsOfSlug (slug : String) (db : HotelDb) : Option PropertySettings :=
  db.propertySettings.rows.find? fun s =>
    s.bookingEngineSlug = some slug && s.bookingEngineEnabled

def settingsBySlug (slug : String) : Op (Option PropertySettings) :=
  select (.page slug) (settingsOfSlug slug)

def listAddons (propertyId : Id) : Op (List AddonService) :=
  select (.addons propertyId) fun db =>
    db.addonServices.rows.filter fun a => a.propertyId = propertyId && a.deletedAt.isNone

/-- The stay a coupon is checked against. -/
structure CouponStay where
  checkIn : ℤ
  nights : ℕ
  subtotalPaise : ℤ

structure CouponVerdict where
  coupon : Option Coupon
  discountPaise : ℤ
  reason : Option String

/-- What a coupon takes off the stay. -/
def discountOf (c : Coupon) (subtotalPaise : ℤ) : ℤ :=
  match c.kind with
  | .PERCENT => roundDiv (subtotalPaise * c.value) 10000
  | .FIXED => min c.value subtotalPaise

/-- The verdict on the coupon of a code; a limit of zero is none. -/
def couponVerdict (found : Option Coupon) (stay : CouponStay) : CouponVerdict :=
  match found.filter (·.isActive) with
  | none => ⟨none, 0, some "That code is not valid"⟩
  | some c =>
    let minNights := c.minNights.getD 0
    let maxUses := c.maxUses.getD 0
    if c.validFrom.any fun d => stay.checkIn < d then
      ⟨some c, 0, some "That code is not valid yet"⟩
    else if c.validTo.any fun d => d < stay.checkIn then
      ⟨some c, 0, some "That code has expired"⟩
    else if minNights ≠ 0 ∧ stay.nights < minNights then
      ⟨some c, 0, some s!"That code needs a stay of {minNights} nights"⟩
    else if maxUses ≠ 0 ∧ maxUses ≤ c.uses then
      ⟨some c, 0, some "That code has been used up"⟩
    else ⟨some c, discountOf c stay.subtotalPaise, none⟩

def redeemableCoupon (propertyId : Id) (code : String) (stay : CouponStay) :
    Op CouponVerdict := do
  let found ← select (.coupons propertyId) fun db =>
    db.coupons.rows.find? fun c =>
      c.propertyId = propertyId && c.code.toUpper = code.toUpper && c.deletedAt.isNone
  return couponVerdict found stay

/-- Count a use, unless the limit is reached. -/
def consumeCoupon (id : Id) : Op Unit :=
  write (fun _ => [.coupon id])
    (fun db =>
      { db with
        coupons := db.coupons.update
          (fun c => c.id = id && c.maxUses.all fun max => c.uses < max) fun c =>
            { c with uses := c.uses + 1 } })
    fun _ => ()

end PropertyConfigService

namespace BookingEngineService

open PropertyConfigService

/-- The property behind a slug, or a 404 that does not say whether it exists. -/
def resolve (slug : String) : Op PropertySettings := do
  let settings ← settingsBySlug slug
  orThrow settings .bookingPageNotFound

def assertStay (now checkIn checkOut : ℤ) : Except Err Unit := do
  let _ ← assertDateOrder checkIn checkOut
  if checkIn < today now then .error (.badRequest "Check-in cannot be in the past")
  else if MAX_ADVANCE_DAYS < checkIn - today now then
    .error (.badRequest s!"Bookings open up to {MAX_ADVANCE_DAYS} days ahead")
  else if MAX_NIGHTS < nightsBetween checkIn checkOut then
    .error (.badRequest s!"Stays of up to {MAX_NIGHTS} nights can be booked online")
  else .ok ()

/-- The rule that refuses a stay. -/
def restrictionOf : Except Err Unit → Option (ℤ × String)
  | .ok _ => none
  | .error (.restricted date reason) => some (date, reason)
  -- `assertRules` throws nothing else
  | .error _ => some (0, "Not available")

/-- The lowest day cap across the stay bounds what can be sold. -/
def cappedRooms (availableRooms : ℕ) (rules : List DayRules) : ℕ :=
  match (rules.filterMap (·.cap)).min? with
  | some cap => min availableRooms cap
  | none => availableRooms

/-- The line of a type, from its prices and rules. -/
def itemOf (q : PublicAvailabilityQueryDto) (t : DeskAvailabilityItem)
    (nightly : List NightPrice) (rules departure : List DayRules) : PublicAvailabilityItem :=
  let nights := nightsBetween q.checkIn q.checkOut
  let guests := q.adults.getD 1 + q.children.getD 0
  let restriction :=
    restrictionOf (ReservationsService.assertRules (rules ++ departure) q.checkIn q.checkOut)
  let available := cappedRooms t.availableRooms rules
  let totalPaise := (nightly.map (·.pricePaise)).sum
  { roomTypeId := t.roomTypeId
    name := t.name
    maxOccupancy := t.maxOccupancy
    fitsGuests := guests ≤ t.maxOccupancy
    available
    nights
    nightly
    totalPaise
    averageNightPaise := roundDiv totalPaise nights
    restriction
    bookable := 0 < available && restriction.isNone && guests ≤ t.maxOccupancy }

/-- The prices, the rules of the stay, and those of the check-out day: the window of the
last read starts and ends on that day. -/
def publicItem (propertyId : Id) (q : PublicAvailabilityQueryDto) (t : DeskAvailabilityItem) :
    Op PublicAvailabilityItem := do
  let nightly ←
    RatesService.nightlyPrices propertyId t.roomTypeId q.checkIn q.checkOut none
  let rules ← RatesService.dayRules propertyId t.roomTypeId q.checkIn q.checkOut
  let departure ← RatesService.dayRules propertyId t.roomTypeId q.checkOut q.checkOut
  return itemOf q t nightly rules departure

/-- Rooms and prices for a stay. -/
def availability (env : Env) (slug : String) (q : PublicAvailabilityQueryDto) :
    Op PublicAvailability := do
  let settings ← resolve slug
  lift (assertStay env.now q.checkIn q.checkOut)
  let base ← DeskService.availability settings.propertyId ⟨q.checkIn, q.checkOut, none⟩
  let items ← all (publicItem settings.propertyId q) base.items
  return ⟨q.checkIn, q.checkOut, nightsBetween q.checkIn q.checkOut, items⟩

/-- The verdict on a code; an unusable one refuses the booking. -/
def requireCoupon (propertyId : Id) (code : String) (stay : CouponStay) :
    Op (Coupon × ℤ) := do
  let verdict ← redeemableCoupon propertyId code stay
  let invalid := Err.couponInvalid (verdict.reason.getD "That code is not valid")
  let coupon ← orThrow verdict.coupon invalid
  throwIf verdict.reason.isSome invalid
  return (coupon, verdict.discountPaise)

/-- Post one add-on. The source id of its charge is two uuids joined by a colon, and the
first statement of `postCharge` compares it with a uuid column. -/
def postAddon : Op Unit := throw (.internal "invalid input syntax for type uuid")

/-- Add-ons the hotel no longer sells are passed over. -/
def postAddons (addons : List AddonService) (picks : List PublicAddonDto) : Op Unit := do
  let _ ← all
    (fun pick : PublicAddonDto =>
      when (addons.any fun a => a.id = pick.id && a.isActive && a.sellOnline) postAddon) picks
  return ()

/-- The discount line of a coupon, and its use. -/
def redeem (env : Env) (propertyId reservationId : Id) (code : String) (stay : CouponStay) :
    Op Unit := do
  let (coupon, discountPaise) ← requireCoupon propertyId code stay
  when (0 < discountPaise) do
    -- the uuid after those of the reservation
    let _ ← FolioService.applyDiscount
      { reservationId
        propertyId
        amountPaise := discountPaise
        reason := "Coupon " ++ coupon.code
        actorStaffId := none } (env.uuid NUMBER_ATTEMPTS) env.now
    consumeCoupon coupon.id

/-- What `book` asks of the desk's own `create`. -/
def createDto (dto : PublicReservationDto) (settings : PropertySettings) : CreateReservationDto :=
  let hold := settings.holdExpiryMinutes.getD 0
  { roomTypeId := dto.roomTypeId
    guest :=
      { guestName := dto.guestName
        guestPhone := dto.guestPhone
        guestEmail := dto.guestEmail
        adults := dto.adults
        children := dto.children.getD 0
        source := .BOOKING_ENGINE
        notes := dto.notes
        ratePlanId := dto.ratePlanId }
    checkIn := dto.checkIn
    checkOut := dto.checkOut
    status := some (if 0 < hold then .PENDING else .CONFIRMED)
    holdMinutes := some (if 0 < hold then hold else 0) }

def bookingAnswer (settings : PropertySettings) (created : ReservationDto)
    (summary : FolioSummary) : PublicBooking where
  reservationNumber := created.row.reservationNumber
  status := created.row.status
  holdExpiresAt := created.row.holdExpiresAt
  checkIn := created.row.checkIn
  checkOut := created.row.checkOut
  nights := created.nights
  roomTypeName := created.roomTypeName
  guestName := created.row.guest.guestName
  subtotalPaise := summary.subtotalPaise
  taxPaise := summary.taxPaise
  totalPaise := summary.chargesPaise
  checkinTime := settings.checkinTime

/-- A hold when the property expires holds, otherwise confirmed: in both cases through the
desk's own `create`. -/
def book (env : Env) (slug : String) (dto : PublicReservationDto) : Op PublicBooking := do
  let settings ← resolve slug
  lift (assertStay env.now dto.checkIn dto.checkOut)
  let search ← availability env slug dto.search
  let chosen ← orThrow (search.items.find? fun i => i.roomTypeId = dto.roomTypeId)
    .roomTypeNotFound
  throwIf (¬chosen.bookable) (.notBookable chosen.restriction)
  let stay : CouponStay :=
    ⟨dto.checkIn, nightsBetween dto.checkIn dto.checkOut, chosen.totalPaise⟩
  forSome dto.coupon fun code => do
    let _ ← requireCoupon settings.propertyId code stay
    return ()
  let created ← ReservationsService.create env settings.propertyId (createDto dto settings) none
  let addons ← (if dto.addons.isEmpty then pure [] else listAddons settings.propertyId)
  postAddons addons dto.addons
  forSome dto.coupon fun code =>
    redeem env settings.propertyId created.row.id code stay
  let summary ← FolioService.summary created.row.id
  return bookingAnswer settings created summary

end BookingEngineService

end Travelo

import Travelo.ReadCommitted.Table
import Travelo.ReadCommitted.Prog
import Mathlib.Algebra.Ring.Int.Defs

/-!
# The hotel tables

The columns the modelled services read or write.

* uuids are numbers; the fresh ones come from outside, as does the clock.
* A date is the number of its day, so comparing dates is comparing numbers, as it is
  for the `YYYY-MM-DD` strings of the source; a timestamp is in milliseconds.
* Money is in paise.
* `reservations_dates_ordered` is the field `ordered` of a reservation: a row whose
  check-out is not after its check-in cannot be built.
-/

namespace Travelo

open ReadCommitted

abbrev Id := ℕ

/-- `Math.round(n / d)`: halves go up. -/
def roundDiv (n : ℤ) (d : ℕ) : ℤ := (2 * n + d) / (2 * d)

/-- The characters `String.prototype.trim` takes off. -/
def isJsSpace (c : Char) : Bool :=
  c.toNat ∈ [0x09, 0x0a, 0x0b, 0x0c, 0x0d, 0x20, 0xa0, 0x1680, 0x2028, 0x2029, 0x202f, 0x205f,
    0x3000, 0xfeff] || (0x2000 ≤ c.toNat && c.toNat ≤ 0x200a)

/-- `s.trim()`. -/
def trim (s : String) : String :=
  String.ofList ((s.toList.dropWhile isJsSpace).reverse.dropWhile isJsSpace).reverse

/-! ## Statuses -/

inductive ReservationStatus where
  | PENDING
  | CONFIRMED
  | CHECKED_IN
  | CHECKED_OUT
  | CANCELLED
  | NO_SHOW
  deriving DecidableEq, Repr

/-- The two statuses that occupy a room. -/
def OCCUPYING_STATUSES : List ReservationStatus := [.CONFIRMED, .CHECKED_IN]

inductive RoomStatus where
  | AVAILABLE
  | OCCUPIED
  | DIRTY
  | CLEANING
  | INSPECTED
  | READY
  | MAINTENANCE
  | OUT_OF_ORDER
  deriving DecidableEq, Repr

inductive FolioPaymentDirection where
  | PAYMENT
  | REFUND
  deriving DecidableEq, Repr

inductive FolioPaymentMethod where
  | CASH
  | CARD
  | UPI
  | BANK
  | ONLINE
  | CORPORATE
  deriving DecidableEq, Repr

inductive ReservationSource where
  | WALK_IN
  | PHONE
  | EMAIL
  | OTA
  | BOOKING_ENGINE
  | OTHER
  deriving DecidableEq, Repr

/-! ## Rows -/

/-- The columns of a reservation that say who is coming; no rule depends on them but the
place of supply (`companyGstin`) and the head count of a per-guest tax. -/
structure GuestDetails where
  guestName : String
  guestPhone : String
  guestEmail : Option String := none
  guestIdType : Option String := none
  guestIdNumber : Option String := none
  adults : ℕ := 1
  children : ℕ := 0
  source : ReservationSource := .WALK_IN
  notes : Option String := none
  groupId : Option Id := none
  ratePlanId : Option Id := none
  bookingSourceId : Option Id := none
  segment : Option String := none
  subSegment : Option String := none
  scantyBaggage : Bool := false
  checkinTime : Option String := none
  checkoutTime : Option String := none
  companyName : Option String := none
  companyGstin : Option String := none
  companyAddress : Option String := none
  corporateAccountId : Option Id := none

structure Reservation where
  id : Id
  propertyId : Id
  roomTypeId : Id
  roomId : Option Id
  /-- The sequence in `RSV-XXXXXX`. -/
  reservationNumber : ℕ
  guest : GuestDetails
  checkIn : ℤ
  checkOut : ℤ
  ordered : checkIn < checkOut
  status : ReservationStatus
  ratePaise : ℤ
  totalPaise : ℤ
  paidPaise : ℤ := 0
  currency : String := "INR"
  holdExpiresAt : Option ℤ := none
  roomLocked : Bool := false
  createdBy : Option Id := none
  checkedInAt : Option ℤ := none
  checkedOutAt : Option ℤ := none
  cancelledAt : Option ℤ := none
  createdAt : ℤ := 0
  updatedAt : ℤ := 0
  deletedAt : Option ℤ := none
  /-- The Channex booking the row was made for. -/
  externalRef : Option String := none

theorem oneNight_ordered : (10 : ℤ) < 11 := by decide

theorem twoNights_ordered : (10 : ℤ) < 12 := by decide

structure Room where
  id : Id
  propertyId : Id
  roomTypeId : Id
  number : String
  status : RoomStatus
  notes : Option String := none
  updatedAt : ℤ := 0
  deletedAt : Option ℤ := none

inductive BedType where
  | SINGLE
  | TWIN
  | DOUBLE
  | QUEEN
  | KING
  | BUNK
  | SOFA_BED
  | BUNK_BED
  | EXTRA_BED
  | CRIB
  | OTHER

inductive UnitKind where
  | ROOM
  | VILLA
  deriving DecidableEq

inductive SizeUnit where
  | SQM
  | SQFT

structure RoomType where
  id : Id
  propertyId : Id
  name : String
  bedType : BedType := .DOUBLE
  baseRate : ℤ
  currency : String := "INR"
  /-- `status = 'ACTIVE'`. -/
  active : Bool := true
  isPrivate : Bool := false
  maxOccupancy : ℕ := 2
  deletedAt : Option ℤ := none
  code : Option String := none
  unitKind : UnitKind := .ROOM
  unitRoomCount : ℕ := 1
  bedCount : ℕ := 1
  baseOccupancy : ℕ := 2
  maxAdults : ℕ := 2
  maxChildren : ℕ := 0
  maxInfants : ℕ := 0
  extraBedCapacity : Option ℕ := none
  extraBedPricePaise : Option ℤ := none
  sizeSqft : Option ℕ := none
  sizeValue : Option ℕ := none
  sizeUnit : SizeUnit := .SQFT

/-- One row of the sleeping arrangement of a type. -/
structure RoomTypeBed where
  roomTypeId : Id
  bedType : BedType
  quantity : ℕ
  sortOrder : ℕ

inductive AmenityScope where
  | ROOM
  | PROPERTY
  deriving DecidableEq

structure Amenity where
  id : Id
  scope : AmenityScope

/-- `roomCount` is derived from the live rooms and written with them. -/
structure Property where
  id : Id
  roomCount : ℕ := 0
  updatedAt : ℤ := 0
  deletedAt : Option ℤ := none

/-- A date-ranged price of a room type; both ends are included. -/
structure RateOverride where
  propertyId : Id
  roomTypeId : Id
  startDate : ℤ
  endDate : ℤ
  ratePaise : ℤ
  deletedAt : Option ℤ := none

/-- What one sales channel changes on one day. -/
structure ChannelDayOverride where
  priceDeltaBp : Option ℤ := none
  available : Option ℕ := none
  deriving DecidableEq

/-- One day of the rates grid, of the base plan (`ratePlanId = none`) or of a rate plan. -/
structure RateInventoryDay where
  propertyId : Id
  roomTypeId : Id
  ratePlanId : Option Id
  date : ℤ
  pricePaise : Option ℤ := none
  available : Option ℕ := none
  minLos : Option ℕ := none
  maxLos : Option ℕ := none
  stopSell : Bool := false
  closedToArrival : Bool := false
  closedToDeparture : Bool := false
  channelOverrides : List (Id × ChannelDayOverride) := []
  /-- The rule that wrote the price, if a rule did. -/
  pricingRuleId : Option Id := none
  updatedBy : Option Id := none
  updatedAt : ℤ := 0

inductive RateChangeField where
  | price
  | available
  | minLos
  | maxLos
  | stopSell
  | cta
  | ctd
  | channel
  deriving DecidableEq

inductive RateChangeActor where
  | STAFF
  | RULE
  | CHANNEL
  | IMPORT
  deriving DecidableEq

/-- A column of a day as the change log keeps it, in JSON. -/
inductive RateValue where
  | null
  | number (n : ℤ)
  | flag (b : Bool)
  | channels (overrides : List (Id × ChannelDayOverride))
  deriving DecidableEq

structure RateChange where
  propertyId : Id
  roomTypeId : Id
  ratePlanId : Option Id
  date : ℤ
  field : RateChangeField
  before : RateValue
  after : RateValue
  actorKind : RateChangeActor
  actorStaffId : Option Id
  pricingRuleId : Option Id
  batchId : Id

inductive PricingTrigger where
  | OCCUPANCY
  | DAY_OF_WEEK
  | SEASON
  | LENGTH_OF_STAY
  | ADVANCE_BOOKING
  | SPECIAL_DATE
  deriving DecidableEq

inductive PricingComparator where
  | GT
  | GTE
  | LT
  | LTE
  | EQ

inductive AdjustmentKind where
  | PERCENT
  | FIXED

/-- A conditional adjustment to the rate of a room type. -/
structure PricingRule where
  id : Id
  propertyId : Id
  roomTypeId : Id
  trigger : PricingTrigger
  comparator : PricingComparator := .GTE
  /-- What it means depends on the trigger. -/
  threshold : Option ℤ := none
  startDate : Option ℤ := none
  endDate : Option ℤ := none
  adjustmentKind : AdjustmentKind := .PERCENT
  /-- Basis points or paise, by kind; negative for a discount. -/
  adjustmentValue : ℤ
  name : Option String := none
  lastRunAt : Option ℤ := none
  enabled : Bool := true
  /-- Higher wins. -/
  priority : ℤ := 0
  deletedAt : Option ℤ := none

structure PropertySettings where
  propertyId : Id
  holdExpiryMinutes : Option ℤ := none
  gstStateCode : Option String := none
  bookingEngineEnabled : Bool := false
  bookingEngineSlug : Option String := none
  checkinTime : String := "14:00"
  minRoomPricePaise : Option ℤ := none
  restaurantServiceChargeBp : ℤ := 0

inductive TaxCalculation where
  | PERCENT
  | FIXED

inductive TaxBasis where
  | PER_NIGHT
  | PER_GUEST
  | PER_STAY

inductive TaxAppliesTo where
  | ROOM
  | RESTAURANT
  | SPA
  | ADDON
  | ALL
  deriving DecidableEq

structure PropertyTax where
  propertyId : Id
  calculation : TaxCalculation
  value : ℤ
  basis : TaxBasis
  appliesTo : TaxAppliesTo
  isActive : Bool := true
  deletedAt : Option ℤ := none

inductive CouponKind where
  | PERCENT
  | FIXED

structure Coupon where
  id : Id
  propertyId : Id
  code : String
  kind : CouponKind := .PERCENT
  /-- Basis points or paise, by kind. -/
  value : ℤ
  validFrom : Option ℤ := none
  validTo : Option ℤ := none
  minNights : Option ℕ := none
  maxUses : Option ℕ := none
  uses : ℕ := 0
  isActive : Bool := true
  deletedAt : Option ℤ := none

inductive FolioLineKind where
  | RESTAURANT
  | SPA
  | MISC
  | ADJUSTMENT
  deriving DecidableEq

inductive GstCategory where
  | accommodation
  | restaurant
  | saas
  | other

inductive AddonUnit where
  | PER_STAY
  | PER_NIGHT
  | PER_GUEST
  | PER_GUEST_NIGHT

/-- An extra the hotel sells with a stay. -/
structure AddonService where
  id : Id
  propertyId : Id
  name : String := ""
  pricePaise : ℤ := 0
  unit : AddonUnit := .PER_STAY
  taxCategory : GstCategory := .other
  hsnCode : Option String := none
  sellOnline : Bool := true
  isActive : Bool := true
  deletedAt : Option ℤ := none

/-- The link of a guest; the hash of a token is known by the token. -/
structure GuestLink where
  id : Id
  reservationId : Id
  tokenHash : String
  expiresAt : ℤ
  openedAt : Option ℤ := none

/-- An ancillary charge, or a negative one: a discount. -/
structure FolioLineItem where
  id : Id
  reservationId : Id
  propertyId : Id
  kind : FolioLineKind
  description : String := ""
  amountPaise : ℤ
  quantity : ℤ := 1
  taxPaise : ℤ := 0
  /-- In hundredths of a percent. -/
  taxRateBp : ℕ := 0
  taxCategory : Option GstCategory := none
  taxExempt : Bool := false
  hsnCode : Option String := none
  sourceType : Option String := none
  sourceId : Option Id := none
  voidedAt : Option ℤ := none
  voidedBy : Option Id := none
  voidReason : Option String := none
  postedBy : Option Id := none
  updatedAt : ℤ := 0

/-- What a row of the folio log carries. -/
inductive FolioEventPayload where
  | discountApplied (lineId : Id) (amountPaise : ℤ) (reason : String)
  | lineVoided (lineId : Id) (amountPaise : ℤ) (reason : String)
  | taxExemption (lineId : Id) (reason : String)

structure FolioEvent where
  reservationId : Id
  propertyId : Id
  type : String
  actorStaffId : Option Id
  payload : FolioEventPayload

structure FolioPayment where
  reservationId : Id
  propertyId : Id
  direction : FolioPaymentDirection
  method : FolioPaymentMethod
  amountPaise : ℤ
  reference : Option String
  note : Option String
  collectedBy : Option Id
  idempotencyKey : Option String
  deriving DecidableEq

inductive HousekeepingTaskStatus where
  | PENDING
  | IN_PROGRESS
  | COMPLETED
  | INSPECTED
  | REJECTED
  deriving DecidableEq

/-- A task names a room or an area; `housekeeping_tasks_location_check` is the field
`located`. -/
structure HousekeepingTask where
  id : Id
  propertyId : Id
  roomId : Option Id
  area : Option String := none
  located : roomId.isSome ≠ area.isSome
  type : String
  status : HousekeepingTaskStatus
  priority : String
  guestRequest : Option String := none
  notes : Option String
  assignedStaffId : Option Id := none
  startedAt : Option ℤ := none
  completedAt : Option ℤ := none
  inspectedAt : Option ℤ := none
  createdBy : Option Id
  createdAt : ℤ
  updatedAt : ℤ := 0
  deletedAt : Option ℤ := none

inductive WorkOrderStatus where
  | OPEN
  | ACCEPTED
  | IN_PROGRESS
  | PAUSED
  | COMPLETED
  | CANCELLED
  deriving DecidableEq

structure WorkOrder where
  id : Id
  propertyId : Id
  roomId : Option Id
  workOrderNumber : ℕ
  title : String
  description : Option String := none
  priority : String
  status : WorkOrderStatus
  reportedBy : Option Id := none
  assignedStaffId : Option Id := none
  resolution : Option String := none
  takesRoomOutOfService : Bool := false
  cancelReason : Option String := none
  acceptedAt : Option ℤ := none
  startedAt : Option ℤ := none
  completedAt : Option ℤ := none
  cancelledAt : Option ℤ := none
  updatedAt : ℤ := 0
  deletedAt : Option ℤ := none

/-- The figures the night audit keeps of a business date. -/
structure PropertyDailySnapshot where
  propertyId : Id
  businessDate : ℤ
  arrivals : ℕ
  departures : ℕ
  inHouse : ℕ
  roomsAvailable : ℕ
  roomsSold : ℕ
  occupancyPct : ℤ
  noShows : ℕ
  revenuePaise : ℤ

inductive CashEntryKind where
  | FOLIO_CASH
  | POS_CASH
  | CASH_IN
  | WITHDRAWAL
  | TOP_UP
  | EXPENSE
  deriving DecidableEq

/-- A movement of cash; the amount is positive and the kind gives the direction. -/
structure CashEntry where
  propertyId : Id
  shiftId : Option Id
  kind : CashEntryKind
  amountPaise : ℤ
  reservationId : Option Id := none
  orderId : Option Id := none
  expenseId : Option Id := none
  note : Option String := none
  recordedBy : Option Id := none
  deriving DecidableEq

structure StaffShift where
  id : Id
  propertyId : Id
  staffId : Id
  openedAt : ℤ := 0
  closedAt : Option ℤ := none
  openingCashPaise : ℤ := 0
  declaredCashPaise : Option ℤ := none
  expectedCashPaise : Option ℤ := none
  note : Option String := none

structure CorporateAccount where
  id : Id
  propertyId : Id
  deletedAt : Option ℤ := none

inductive LedgerKind where
  | CHARGE
  | PAYMENT
  deriving DecidableEq

/-- An entry of a corporate account; the ledger is append-only. -/
structure CorporateLedgerEntry where
  accountId : Id
  propertyId : Id
  kind : LedgerKind
  amountPaise : ℤ
  reservationId : Option Id := none
  orderId : Option Id := none
  /-- The reservation number, or the number of the order. -/
  reference : Option ℕ := none
  note : Option String := none
  recordedBy : Option Id := none

/-- What a row of the reservation trail carries. -/
inductive EventPayload where
  | none
  | created (status : ReservationStatus) (checkIn checkOut : ℤ)
  | updated (fields : List String)
  | stayExtended (fromDate toDate : ℤ) (totalPaise : ℤ)
  | roomMoved (fromRoomId : Option Id) (toRoomId : Id) (toRoomNumber : String)
  | roomSwapped (fromRoomId toRoomId : Option Id) (partner : Id)
  | roomAutoAssigned (roomId : Id) (roomNumber : String)
  | roomAssigned (roomId : Id) (roomNumber : String) (previousRoomId : Option Id)
  | roomLock (roomId : Option Id)
  | checkedIn (roomId : Id) (roomNumber : String)
  | checkedOut (roomId : Option Id) (collectedPaise balancePaise : ℤ)
      (outstandingOverride : Bool) (note : Option String)
  | cancelled (reason : String) (previousStatus : ReservationStatus)
  | noShow (checkIn : ℤ)

structure ReservationEvent where
  reservationId : Id
  type : String
  actorStaffId : Option Id
  payload : EventPayload

/-! ### The restaurant -/

inductive RestaurantTableStatus where
  | OPEN
  | OCCUPIED
  | BILLED
  | BLOCKED
  deriving DecidableEq, Repr

structure RestaurantTable where
  id : Id
  propertyId : Id
  name : String
  status : RestaurantTableStatus := .OPEN
  updatedAt : ℤ := 0
  deletedAt : Option ℤ := none

inductive MenuItemStatus where
  | ACTIVE
  | UNAVAILABLE
  | ARCHIVED
  deriving DecidableEq

structure MenuItem where
  id : Id
  propertyId : Id
  name : String
  pricePaise : ℤ
  status : MenuItemStatus := .ACTIVE
  deletedAt : Option ℤ := none
  priced : 0 ≤ pricePaise := by decide

/-- What one serving of a menu item takes from the store. -/
structure MenuItemRecipe where
  propertyId : Id
  menuItemId : Id
  inventoryItemId : Id
  qtyPerUnit : ℤ := 1

inductive RestaurantOrderStatus where
  | OPEN
  | BILLED
  | PAID
  | CANCELLED
  deriving DecidableEq, Repr

inductive RestaurantPaymentMethod where
  | CASH
  | CARD
  | UPI
  | ROOM_CHARGE
  | CORPORATE
  deriving DecidableEq

structure RestaurantOrder where
  id : Id
  propertyId : Id
  /-- `none` is a takeaway. -/
  tableId : Option Id := none
  /-- The sequence in `ORD-XXXXX`. -/
  orderNumber : ℕ
  status : RestaurantOrderStatus := .OPEN
  waiterStaffId : Option Id := none
  guestCount : ℕ := 1
  subtotalPaise : ℤ := 0
  discountPaise : ℤ := 0
  discountReason : Option String := none
  serviceChargePaise : ℤ := 0
  taxPaise : ℤ := 0
  totalPaise : ℤ := 0
  paidPaise : ℤ := 0
  remarks : Option String := none
  corporateAccountId : Option Id := none
  paymentMethod : Option RestaurantPaymentMethod := none
  reservationId : Option Id := none
  settledBy : Option Id := none
  billedAt : Option ℤ := none
  paidAt : Option ℤ := none
  cancelledAt : Option ℤ := none
  cancelReason : Option String := none
  createdAt : ℤ := 0
  updatedAt : ℤ := 0

inductive KotStatus where
  | NEW
  | PREPARING
  | READY
  | SERVED
  | CANCELLED
  deriving DecidableEq, Repr

/-- A line of an order, with the name and the price of the menu when it was taken. -/
structure OrderItem where
  id : Id
  orderId : Id
  menuItemId : Option Id
  nameSnapshot : String
  pricePaiseSnapshot : ℤ
  qty : ℤ := 1
  notes : Option String := none
  kotStatus : KotStatus := .NEW
  createdAt : ℤ := 0
  updatedAt : ℤ := 0
  counted : 0 ≤ pricePaiseSnapshot ∧ 1 ≤ qty := by decide

structure RestaurantOrderPayment where
  orderId : Id
  propertyId : Id
  method : RestaurantPaymentMethod
  amountPaise : ℤ
  reference : Option String
  remarks : Option String
  collectedBy : Option Id

/-! ### The spa -/

structure SpaAppointment where
  id : Id
  propertyId : Id
  serviceNameSnapshot : String

inductive SpaBillStatus where
  | UNPAID
  | PAID
  | REFUNDED
  deriving DecidableEq, Repr

inductive SpaPaymentMethod where
  | CASH
  | CARD
  | UPI
  | ROOM_CHARGE
  deriving DecidableEq

structure SpaBill where
  id : Id
  propertyId : Id
  appointmentId : Id
  subtotalPaise : ℤ := 0
  taxPaise : ℤ := 0
  totalPaise : ℤ := 0
  status : SpaBillStatus := .UNPAID
  paymentMethod : Option SpaPaymentMethod := none
  reservationId : Option Id := none
  settledBy : Option Id := none
  refundReason : Option String := none
  paidAt : Option ℤ := none
  refundedAt : Option ℤ := none
  updatedAt : ℤ := 0

/-! ### The store -/

structure InventoryItem where
  id : Id
  propertyId : Id
  name : String
  sku : String
  unit : String := "pcs"
  category : Option String := none
  reorderLevel : ℤ := 0
  currentQty : ℤ := 0
  unitCostPaise : ℤ := 0
  updatedAt : ℤ := 0
  deletedAt : Option ℤ := none

inductive StockMovementType where
  | IN
  | OUT
  | WASTAGE
  | ADJUST
  deriving DecidableEq

structure StockMovement where
  propertyId : Id
  itemId : Id
  type : StockMovementType
  /-- The magnitude entered. -/
  qty : ℤ
  /-- The signed effect on the quantity on hand. -/
  qtyDelta : ℤ
  balanceAfter : ℤ
  reason : Option String := none
  purchaseOrderId : Option Id := none
  createdBy : Option Id := none

structure Supplier where
  id : Id
  propertyId : Id
  name : String
  deletedAt : Option ℤ := none

inductive PurchaseOrderStatus where
  | DRAFT
  | SENT
  | RECEIVED
  | CANCELLED
  deriving DecidableEq, Repr

/-- A line orders one unit at least. -/
structure PurchaseOrderLine where
  itemId : Id
  nameSnapshot : String
  unitSnapshot : String
  qty : ℤ
  unitPricePaise : ℤ
  lineTotalPaise : ℤ
  positive : 1 ≤ qty := by decide

structure PurchaseOrder where
  id : Id
  propertyId : Id
  /-- The sequence in `PO-XXXXX`. -/
  poNumber : ℕ
  supplierId : Option Id := none
  supplierName : Option String := none
  status : PurchaseOrderStatus := .DRAFT
  lines : List PurchaseOrderLine := []
  totalPaise : ℤ := 0
  note : Option String := none
  receivedAt : Option ℤ := none
  createdBy : Option Id := none
  updatedAt : ℤ := 0
  deletedAt : Option ℤ := none

/-! ### The expense register -/

inductive ExpenseCategory where
  | UTILITIES
  | SUPPLIES
  | MAINTENANCE
  | SALARY
  | MARKETING
  | TRAVEL
  | FOOD_BEVERAGE
  | RENT
  | OTHER

inductive ExpenseStatus where
  | DRAFT
  | APPROVED
  | PAID
  deriving DecidableEq

/-- What a property spends. -/
structure Expense where
  id : Id
  propertyId : Id
  category : ExpenseCategory
  amountPaise : ℤ := 0
  vendor : Option String := none
  incurredOn : ℤ := 0
  note : Option String := none
  status : ExpenseStatus := .DRAFT
  createdBy : Option Id := none
  updatedAt : ℤ := 0
  deletedAt : Option ℤ := none

/-! ### The channel manager -/

inductive ConnectionStatus where
  | HEALTHY
  | WARNING
  | ERROR
  | DISCONNECTED
  deriving DecidableEq, Repr

/-- A connection to a channel manager; the last columns are what `config` maps. -/
structure IntegrationConnection where
  id : Id
  propertyId : Option Id := none
  provider : String
  status : ConnectionStatus := .HEALTHY
  lastSyncAt : Option ℤ := none
  lastSuccessAt : Option ℤ := none
  lastFailureAt : Option ℤ := none
  errorCount : ℕ := 0
  detail : Option String := none
  channexPropertyId : Option String := none
  roomTypeMap : List (Id × String) := []
  ratePlanMap : List (Id × String) := []
  updatedAt : ℤ := 0

inductive ChannexDirection where
  | PUSH
  | PULL

inductive ChannexEntity where
  | AVAILABILITY
  | RATES
  | BOOKING
  | PROPERTY

inductive ChannexSyncStatus where
  | SUCCESS
  | FAILED

/-- One attempted exchange. -/
structure ChannexSyncLog where
  connectionId : Id
  direction : ChannexDirection
  entity : ChannexEntity
  status : ChannexSyncStatus
  requestSummary : Option String
  responseSummary : Option String
  error : Option String

/-- An event of the inbound hook; no two have one event id. -/
structure ChannexWebhookEvent where
  id : Id
  eventId : String
  processedAt : Option ℤ := none
  error : Option String := none

/-! ## The database -/

/-- `rate_inventory_days` allows one row for a type, plan and date. -/
abbrev RateInventoryDay.key (d : RateInventoryDay) : Id × Option Id × ℤ :=
  (d.roomTypeId, d.ratePlanId, d.date)

/-- `property_daily_snapshots` allows one row for a property and date. -/
abbrev PropertyDailySnapshot.key (d : PropertyDailySnapshot) : Id × ℤ :=
  (d.propertyId, d.businessDate)

structure HotelDb where
  reservations : Table Reservation.id := ∅
  rooms : Table Room.id := ∅
  roomTypes : Table RoomType.id := ∅
  rateOverrides : List RateOverride := []
  rateInventoryDays : Table RateInventoryDay.key := ∅
  rateChangeLog : List RateChange := []
  pricingRules : Table PricingRule.id := ∅
  propertySettings : Table PropertySettings.propertyId := ∅
  propertyTaxes : List PropertyTax := []
  addonServices : Table AddonService.id := ∅
  coupons : Table Coupon.id := ∅
  folioLineItems : Table FolioLineItem.id := ∅
  folioPayments : List FolioPayment := []
  folioEvents : List FolioEvent := []
  housekeepingTasks : Table HousekeepingTask.id := ∅
  reservationEvents : List ReservationEvent := []
  staffShifts : Table StaffShift.id := ∅
  cashEntries : List CashEntry := []
  corporateAccounts : Table CorporateAccount.id := ∅
  corporateLedger : List CorporateLedgerEntry := []
  restaurantTables : Table RestaurantTable.id := ∅
  menuItems : Table MenuItem.id := ∅
  menuItemRecipes : List MenuItemRecipe := []
  restaurantOrders : Table RestaurantOrder.id := ∅
  orderItems : Table OrderItem.id := ∅
  restaurantOrderPayments : List RestaurantOrderPayment := []
  spaAppointments : Table SpaAppointment.id := ∅
  spaBills : Table SpaBill.id := ∅
  inventoryItems : Table InventoryItem.id := ∅
  stockMovements : List StockMovement := []
  suppliers : Table Supplier.id := ∅
  purchaseOrders : Table PurchaseOrder.id := ∅
  expenses : Table Expense.id := ∅
  integrationConnections : Table IntegrationConnection.id := ∅
  channexSyncLog : List ChannexSyncLog := []
  channexWebhookEvents : Table ChannexWebhookEvent.id := ∅
  properties : Table Property.id := ∅
  amenities : Table Amenity.id := ∅
  roomAmenities : List (Id × Id) := []
  roomTypeAmenities : List (Id × Id) := []
  roomTypeBeds : List RoomTypeBed := []
  workOrders : Table WorkOrder.id := ∅
  propertyDailySnapshots : Table PropertyDailySnapshot.key := ∅
  guestLinks : Table GuestLink.id := ∅

instance : Inhabited HotelDb := ⟨{}⟩

/-- The rows and unique keys a statement can wait for. -/
inductive RowKey where
  | reservation (id : Id)
  | reservationNumber (propertyId : Id) (number : ℕ)
  | room (id : Id)
  | guestLink (id : Id)
  | folioPayment (reservationId : Id) (idempotencyKey : String)
  | folioLine (id : Id)
  | folioSource (sourceType : String) (sourceId : Id)
  | coupon (id : Id)
  | task (id : Id)
  | rateDay (key : Id × Option Id × ℤ)
  | pricingRule (id : Id)
  | shift (id : Id)
  | table (id : Id)
  | order (id : Id)
  | orderNumber (propertyId : Id) (number : ℕ)
  /-- The one open order of a table. -/
  | openOrder (tableId : Id)
  | orderItem (id : Id)
  | spaBill (id : Id)
  | inventoryItem (id : Id)
  | sku (propertyId : Id) (sku : String)
  | purchaseOrder (id : Id)
  | expense (id : Id)
  | externalRef (propertyId : Id) (externalRef : String)
  | connection (id : Id)
  | webhookEvent (eventId : String)
  | property (id : Id)
  | roomNumber (propertyId : Id) (number : String)
  | roomTypeName (propertyId : Id) (name : String)
  | roomTypeCode (propertyId : Id) (code : String)
  | workOrder (id : Id)
  | workOrderNumber (propertyId : Id) (number : ℕ)
  | dailySnapshot (key : Id × ℤ)
  deriving DecidableEq

/-- The `WHERE` clause of the double-booking probe. -/
structure RoomProbe where
  propertyId : Id
  roomId : Id
  checkIn : ℤ
  checkOut : ℤ
  excludeId : Option Id := none
  excludeId2 : Option Id := none
  deriving DecidableEq

/-- What a statement looks at. -/
inductive Look where
  | reservation (id : Id)
  | room (id : Id)
  | roomType (id : Id)
  /-- The stays that clash with a probe. -/
  | roomStays (probe : RoomProbe)
  /-- The sellable rooms of a type. -/
  | typeRooms (propertyId roomTypeId : Id)
  /-- The committed stays of a type. -/
  | typeStays (propertyId roomTypeId : Id) (checkIn checkOut : ℤ) (excludeId : Option Id)
  /-- The unassigned arrivals of a window. -/
  | arrivals (propertyId : Id) (fromDate toDate : ℤ)
  /-- The rooms of a property. -/
  | rooms (propertyId : Id)
  /-- The committed stays of a property. -/
  | stays (propertyId : Id)
  /-- The rates grid of a type. -/
  | rates (propertyId roomTypeId : Id)
  | settings (propertyId : Id)
  /-- The booking page of a slug. -/
  | page (slug : String)
  | addons (propertyId : Id)
  | link (token : String)
  | coupons (propertyId : Id)
  | folio (reservationId : Id)
  | tasks (roomId : Id)
  | task (id : Id)
  | cash (propertyId : Id)
  | account (id : Id)
  | pricingRules (propertyId : Id)
  | table (id : Id)
  | tableOrders (tableId : Id)
  | orders (propertyId : Id)
  | menu (propertyId : Id)
  /-- An order with its lines. -/
  | order (id : Id)
  /-- The status of a reservation to charge. -/
  | inHouse (id : Id)
  | spaBill (id : Id)
  | inventoryItem (id : Id)
  | supplier (id : Id)
  | purchaseOrder (id : Id)
  | expense (id : Id)
  /-- The reservation of a Channex booking. -/
  | externalRef (propertyId : Id) (externalRef : String)
  | connection (id : Id)
  | connections
  | roomTypes (propertyId : Id)
  /-- The rooms with some of these numbers. -/
  | roomNumbers (propertyId : Id) (numbers : List String)
  /-- The number of live rooms. -/
  | roomCount (propertyId : Id)
  | amenities (ids : List Id)
  | workOrder (id : Id)
  | workOrders (propertyId : Id)
  | properties
  /-- The figures of a business date. -/
  | dayFigures (propertyId : Id) (date : ℤ)
  deriving DecidableEq

/-- What a service method throws: the refusals of `ReservationErrors` with their values,
and the errors of the database. -/
inductive Err where
  | notFound
  | roomNotFound
  | roomTypeNotFound
  | roomUnavailable
  | noAvailability (date : ℤ)
  | balanceOutstanding (balancePaise : ℤ)
  | extensionMustBeLater
  | notInHouse
  | sameRoom
  | roomNotReady (number : String) (status : RoomStatus)
  | restricted (date : ℤ) (reason : String)
  | roomRequired
  | swapSelf
  | roomLocked
  | roomTypeMismatch
  | invalidTransition (fromStatus toStatus : ReservationStatus)
  | invalidDates
  | notArrivalDay
  | noRoomAssigned
  | datesLocked
  | nothingToUpdate
  | corporateAccountRequired
  | corporateAccountNotFound
  | bookingPageNotFound
  | linkNotFound
  /-- With the restriction that refuses the stay, if it is not for want of a room. -/
  | notBookable (restriction : Option (ℤ × String))
  | couponInvalid (reason : String)
  | shiftAlreadyOpen
  | noOpenShift
  | tableNotFound
  | tableOccupied (name : String)
  | tableUnavailable (name : String) (status : RestaurantTableStatus)
  | menuItemNotFound
  | itemUnavailable (name : String)
  | orderNotFound
  | orderItemNotFound
  | orderNotOpen
  | orderNotBilled
  | invalidOrderTransition (fromStatus toStatus : RestaurantOrderStatus)
  | invalidKotTransition (fromStatus toStatus : KotStatus)
  | kotNotPermittedForRole (status : KotStatus)
  | itemCancelTooLate
  | emptyBill
  | orderHasServedItems
  | reservationRequired
  | reservationNotInHouse
  | billNotFound
  | billNotUnpaid
  | billNotPaid
  | invalidBillTransition (fromStatus toStatus : SpaBillStatus)
  | itemNotFound
  | supplierNotFound
  | poNotFound
  | duplicateSku
  | negativeStock (name : String)
  | zeroAdjustment
  | invalidPoTransition (fromStatus toStatus : PurchaseOrderStatus)
  | poNotReceivable
  | emptyPo
  | poNotEditable
  | expenseNotFound
  | invalidExpenseTransition (fromStatus toStatus : ExpenseStatus)
  | taskNotFound
  | notYourTask
  | invalidTaskTransition (fromStatus toStatus : HousekeepingTaskStatus)
  | pricingRuleNotFound
  | ratePlanInvalid (message : String)
  | channexNotConfigured
  | integrationNotFound
  | channexWrongProvider (provider : String)
  | channexPropertyUnmapped
  | channexBadSignature
  | roomSpecsMissing
  | roomSpecsAmbiguous
  | roomNumberTaken (number : String)
  | bulkTooLarge (asked max : ℕ)
  | nothingToCreate
  | amenityNotFound
  | amenityScopeMismatch (expected : AmenityScope)
  | occupancyInvalid (message : String)
  | rateInvalid (message : String)
  | roomTypeNameTaken
  | roomTypeCodeTaken
  | roomTypeInUse (count : ℕ)
  | roomSpecsShared
  | workOrderNotFound
  | resolutionRequired
  | cancelReasonRequired
  | invalidWorkOrderTransition (fromStatus toStatus : WorkOrderStatus)
  | badRequest (message : String)
  /-- `ConflictException`. -/
  | conflict (message : String)
  /-- `NotFoundException`. -/
  | missing (message : String)
  /-- SQLSTATE 23505. -/
  | uniqueViolation
  /-- SQLSTATE 23514. -/
  | checkViolation
  /-- Anything else: a lost connection, a programming error. -/
  | internal (message : String)
  deriving DecidableEq

instance : Faults Err := ⟨.internal⟩

/-- The `error` field of a refusal, which the staff app branches on. -/
def Err.code : Err → Option String
  | .notFound => some "RESERVATION_NOT_FOUND"
  | .roomNotFound => some "ROOM_NOT_FOUND"
  | .roomTypeNotFound => some "ROOM_TYPE_NOT_FOUND"
  | .roomUnavailable => some "ROOM_UNAVAILABLE"
  | .noAvailability _ => some "NO_AVAILABILITY"
  | .balanceOutstanding _ => some "BALANCE_OUTSTANDING"
  | .extensionMustBeLater => some "EXTENSION_MUST_BE_LATER"
  | .notInHouse => some "NOT_IN_HOUSE"
  | .sameRoom => some "SAME_ROOM"
  | .roomNotReady _ _ => some "ROOM_NOT_READY"
  | .restricted _ _ => some "STAY_RESTRICTED"
  | .roomRequired => some "ROOM_REQUIRED"
  | .swapSelf => some "SWAP_SELF"
  | .roomLocked => some "ROOM_LOCKED"
  | .roomTypeMismatch => some "ROOM_TYPE_MISMATCH"
  | .invalidTransition _ _ => some "INVALID_TRANSITION"
  | .invalidDates => some "INVALID_DATES"
  | .notArrivalDay => some "NOT_ARRIVAL_DAY"
  | .noRoomAssigned => some "NO_ROOM_ASSIGNED"
  | .datesLocked => some "DATES_LOCKED"
  | .nothingToUpdate => some "NOTHING_TO_UPDATE"
  | .corporateAccountRequired => some "CORPORATE_ACCOUNT_REQUIRED"
  | .corporateAccountNotFound => some "CORPORATE_ACCOUNT_NOT_FOUND"
  | .bookingPageNotFound => some "BOOKING_PAGE_NOT_FOUND"
  | .notBookable _ => some "NOT_BOOKABLE"
  | .couponInvalid _ => some "COUPON_INVALID"
  | .shiftAlreadyOpen => some "SHIFT_ALREADY_OPEN"
  | .noOpenShift => some "NO_OPEN_SHIFT"
  | .tableNotFound => some "TABLE_NOT_FOUND"
  | .tableOccupied _ => some "TABLE_OCCUPIED"
  | .tableUnavailable _ _ => some "TABLE_UNAVAILABLE"
  | .menuItemNotFound => some "MENU_ITEM_NOT_FOUND"
  | .itemUnavailable _ => some "MENU_ITEM_UNAVAILABLE"
  | .orderNotFound => some "ORDER_NOT_FOUND"
  | .orderItemNotFound => some "ORDER_ITEM_NOT_FOUND"
  | .orderNotOpen => some "ORDER_NOT_OPEN"
  | .orderNotBilled => some "ORDER_NOT_BILLED"
  | .invalidOrderTransition _ _ => some "INVALID_ORDER_TRANSITION"
  | .invalidKotTransition _ _ => some "INVALID_KOT_TRANSITION"
  | .kotNotPermittedForRole _ => some "KOT_NOT_PERMITTED_FOR_ROLE"
  | .itemCancelTooLate => some "ITEM_CANCEL_TOO_LATE"
  | .emptyBill => some "EMPTY_BILL"
  | .orderHasServedItems => some "ORDER_HAS_SERVED_ITEMS"
  | .reservationRequired => some "RESERVATION_REQUIRED"
  | .reservationNotInHouse => some "RESERVATION_NOT_IN_HOUSE"
  | .billNotFound => some "SPA_BILL_NOT_FOUND"
  | .billNotUnpaid => some "SPA_BILL_NOT_UNPAID"
  | .billNotPaid => some "SPA_BILL_NOT_PAID"
  | .invalidBillTransition _ _ => some "INVALID_BILL_TRANSITION"
  | .itemNotFound => some "INVENTORY_ITEM_NOT_FOUND"
  | .supplierNotFound => some "SUPPLIER_NOT_FOUND"
  | .poNotFound => some "PURCHASE_ORDER_NOT_FOUND"
  | .duplicateSku => some "DUPLICATE_SKU"
  | .negativeStock _ => some "NEGATIVE_STOCK"
  | .zeroAdjustment => some "ZERO_ADJUSTMENT"
  | .invalidPoTransition _ _ => some "INVALID_PO_TRANSITION"
  | .poNotReceivable => some "PO_NOT_RECEIVABLE"
  | .emptyPo => some "EMPTY_PO"
  | .poNotEditable => some "PO_NOT_EDITABLE"
  | .expenseNotFound => some "EXPENSE_NOT_FOUND"
  | .invalidExpenseTransition _ _ => some "INVALID_EXPENSE_TRANSITION"
  | .taskNotFound => some "HK_TASK_NOT_FOUND"
  | .notYourTask => some "HK_NOT_YOUR_TASK"
  | .invalidTaskTransition _ _ => some "HK_INVALID_TRANSITION"
  | .pricingRuleNotFound => some "PRICING_RULE_NOT_FOUND"
  | .ratePlanInvalid _ => some "RATE_PLAN_INVALID"
  | .channexNotConfigured => some "CHANNEX_NOT_CONFIGURED"
  | .integrationNotFound => some "INTEGRATION_NOT_FOUND"
  | .channexWrongProvider _ => some "CHANNEX_WRONG_PROVIDER"
  | .channexPropertyUnmapped => some "CHANNEX_PROPERTY_UNMAPPED"
  | .channexBadSignature => some "CHANNEX_BAD_SIGNATURE"
  | .roomSpecsMissing => some "ROOM_SPECS_MISSING"
  | .roomSpecsAmbiguous => some "ROOM_SPECS_AMBIGUOUS"
  | .roomNumberTaken _ => some "ROOM_NUMBER_TAKEN"
  | .bulkTooLarge _ _ => some "BULK_TOO_LARGE"
  | .nothingToCreate => some "NOTHING_TO_CREATE"
  | .amenityNotFound => some "AMENITY_NOT_FOUND"
  | .amenityScopeMismatch _ => some "AMENITY_SCOPE_MISMATCH"
  | .occupancyInvalid _ => some "OCCUPANCY_INVALID"
  | .rateInvalid _ => some "RATE_INVALID"
  | .roomTypeNameTaken => some "ROOM_TYPE_NAME_TAKEN"
  | .roomTypeCodeTaken => some "ROOM_TYPE_CODE_TAKEN"
  | .roomTypeInUse _ => some "ROOM_TYPE_IN_USE"
  | .roomSpecsShared => some "ROOM_SPECS_SHARED"
  | .workOrderNotFound => some "WORK_ORDER_NOT_FOUND"
  | .resolutionRequired => some "WORK_ORDER_RESOLUTION_REQUIRED"
  | .cancelReasonRequired => some "WORK_ORDER_CANCEL_REASON_REQUIRED"
  | .invalidWorkOrderTransition _ _ => some "WORK_ORDER_INVALID_TRANSITION"
  | _ => none

/-- A service method over the hotel tables. -/
abbrev Op := Prog HotelDb RowKey Look Err

/-- The history of a call. -/
abbrev Trace := List (Obs HotelDb Look)

end Travelo

import Travelo.Reservations.Service

/-!
# The desk's availability screen

`DeskService.availability`: free rooms for each type over a date range, next to the room
types of the booking form.
-/

namespace Travelo

open ReadCommitted

structure AvailabilityQueryDto where
  checkIn : ℤ
  checkOut : ℤ
  /-- Narrow to one type. -/
  roomTypeId : Option Id := none

/-- One line of the screen. -/
structure DeskAvailabilityItem where
  roomTypeId : Id
  name : String
  bedType : BedType
  maxOccupancy : ℕ
  baseRate : ℤ
  currency : String
  totalRooms : ℕ
  bookedRooms : ℕ
  availableRooms : ℕ

structure DeskAvailability where
  checkIn : ℤ
  checkOut : ℤ
  items : List DeskAvailabilityItem

/-- An active type of the property, and the one asked for. -/
def RoomType.shown (propertyId : Id) (roomTypeId : Option Id) (t : RoomType) : Bool :=
  t.propertyId = propertyId && t.deletedAt.isNone && t.active &&
    roomTypeId.all fun id => t.id = id

namespace DeskService

/-- The line of a type, from the types of the sellable rooms and of the booked stays. -/
def availabilityItem (sellable booked : List Id) (t : RoomType) : DeskAvailabilityItem :=
  let total := sellable.count t.id
  let taken := booked.count t.id
  { roomTypeId := t.id
    name := t.name
    bedType := t.bedType
    maxOccupancy := t.maxOccupancy
    baseRate := t.baseRate
    currency := t.currency
    totalRooms := total
    bookedRooms := taken
    -- Subtraction stops at zero.
    availableRooms := total - taken }

/-- The types of the live stays that touch the range. -/
def bookedTypes (propertyId : Id) (typeIds : List Id) (checkIn checkOut : ℤ) (db : HotelDb) :
    List Id :=
  (db.reservations.rows.filter fun r =>
    r.propertyId = propertyId && r.deletedAt.isNone && typeIds.contains r.roomTypeId &&
      OCCUPYING_STATUSES.contains r.status && r.checkIn < checkOut && checkIn < r.checkOut).map
    Reservation.roomTypeId

/-- The types of the live rooms that are not out of order. -/
def sellableTypes (propertyId : Id) (typeIds : List Id) (db : HotelDb) : List Id :=
  (db.rooms.rows.filter fun r => r.sellable propertyId && typeIds.contains r.roomTypeId).map
    Room.roomTypeId

/-- Free rooms per type for a date range. -/
def availability (propertyId : Id) (q : AvailabilityQueryDto) : Op DeskAvailability := do
  let _ ← lift (assertDateOrder q.checkIn q.checkOut)
  let types ← select (.rooms propertyId) fun db =>
    (db.roomTypes.rows.filter (RoomType.shown propertyId q.roomTypeId)).insertionSort
      fun a b => a.name ≤ b.name
  if types.isEmpty then return ⟨q.checkIn, q.checkOut, []⟩
  let typeIds := types.map RoomType.id
  let sellable ← select (.rooms propertyId) (sellableTypes propertyId typeIds)
  let booked ← select (.stays propertyId)
    (bookedTypes propertyId typeIds q.checkIn q.checkOut)
  return ⟨q.checkIn, q.checkOut, types.map (availabilityItem sellable booked)⟩

end DeskService

end Travelo

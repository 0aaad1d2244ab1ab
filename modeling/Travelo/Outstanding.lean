import Mathlib.Data.List.Sort
import Travelo.Schema

/-!
# What the desk and the group page show

`DeskService.today` is the reception board of a day, `GroupsService.get` a group with its stays.
Both work out what is owed from two columns of a stay, `total_paise` and `paid_paise`.
-/

namespace Travelo.Outstanding

open ReadCommitted

/-! ## The board -/

/-- A stay with the names the board shows next to it. -/
structure BoardStay where
  stay : Reservation
  roomTypeName : Option String
  room : Option (String × RoomStatus)

structure BoardCounts where
  arrivals : ℕ
  departures : ℕ
  inHouse : ℕ
  availableRooms : ℕ
  roomsAvailable : ℕ
  roomsDirty : ℕ
  roomsReady : ℕ
  walkInsToday : ℕ
  pendingPaymentPaise : ℤ
  pendingFolios : ℕ

structure DeskToday where
  date : ℤ
  arrivals : List BoardStay
  departures : List BoardStay
  inHouse : List BoardStay
  counts : BoardCounts

variable (propertyId : Id)

/-- A live stay of the property. -/
def base (r : Reservation) : Bool :=
  r.propertyId = propertyId && r.deletedAt.isNone

def byGuestName (rows : List Reservation) : List Reservation :=
  rows.insertionSort fun a b => a.guest.guestName ≤ b.guest.guestName

variable (day : ℤ) (db : HotelDb)

def arrivalsOf : List Reservation :=
  byGuestName (db.reservations.rows.filter fun r =>
    base propertyId r && r.status = .CONFIRMED && r.checkIn = day)

def departuresOf : List Reservation :=
  byGuestName (db.reservations.rows.filter fun r =>
    base propertyId r && r.status = .CHECKED_IN && r.checkOut = day)

/-- The guests who sleep here tonight. -/
def inHouseOf : List Reservation :=
  byGuestName (db.reservations.rows.filter fun r =>
    base propertyId r && r.status = .CHECKED_IN && r.checkIn ≤ day && day < r.checkOut)

def hydrate (rows : List Reservation) : List BoardStay :=
  rows.map fun r =>
    { stay := r
      roomTypeName := (db.roomTypes.find? r.roomTypeId).map (·.name)
      room := (r.roomId.bind db.rooms.find?).map fun room => (room.number, room.status) }

/-- What the two columns say is owed. -/
def due (r : Reservation) : ℤ := r.totalPaise - r.paidPaise

/-- The loop over the listed stays: money still owed and on how many stays. -/
def pending (stays : List BoardStay) : ℤ × ℕ :=
  stays.foldl (fun (paise, folios) s =>
    if 0 < due s.stay then (paise + due s.stay, folios + 1) else (paise, folios)) (0, 0)

/-- The rooms of the property with one of the statuses. -/
def roomsIn (statuses : List RoomStatus) (db : HotelDb) : ℕ :=
  db.rooms.rows.countP fun r =>
    r.propertyId = propertyId && r.deletedAt.isNone && statuses.contains r.status

def walkIns (startOfDay : ℤ) (db : HotelDb) : ℕ :=
  db.reservations.rows.countP fun r =>
    base propertyId r && r.guest.source = .WALK_IN && r.status ≠ .CANCELLED &&
      startOfDay ≤ r.createdAt

/-- `day` is the date of the call in UTC, `startOfDay` the last midnight where the server is. -/
def today (startOfDay : ℤ) (db : HotelDb) : DeskToday :=
  let departures := hydrate db (departuresOf propertyId day db)
  let inHouse := hydrate db (inHouseOf propertyId day db)
  let (pendingPaymentPaise, pendingFolios) := pending (departures ++ inHouse)
  { date := day
    arrivals := hydrate db (arrivalsOf propertyId day db)
    departures
    inHouse
    counts :=
      { arrivals := (arrivalsOf propertyId day db).length
        departures := (departuresOf propertyId day db).length
        inHouse := (inHouseOf propertyId day db).length
        availableRooms := roomsIn propertyId [.AVAILABLE, .READY, .INSPECTED] db
        roomsAvailable := roomsIn propertyId [.AVAILABLE] db
        roomsDirty := roomsIn propertyId [.DIRTY] db
        roomsReady := roomsIn propertyId [.READY] db + roomsIn propertyId [.INSPECTED] db
        walkInsToday := walkIns propertyId startOfDay db
        pendingPaymentPaise
        pendingFolios } }

/-! ## Groups -/

structure BookingGroup where
  id : Id
  propertyId : Id
  name : String
  contactName : Option String := none
  contactPhone : Option String := none
  notes : Option String := none
  createdBy : Option Id := none
  deletedAt : Option ℤ := none

structure GroupDb where
  hotel : HotelDb := {}
  bookingGroups : Table BookingGroup.id := ∅

structure GroupPage where
  group : BookingGroup
  rooms : ℕ
  totalPaise : ℤ
  paidPaise : ℤ
  balancePaise : ℤ
  reservations : List Reservation

/-- The live stays of a group, whatever became of them. -/
def staysOf (groupId : Id) (db : HotelDb) : List Reservation :=
  (db.reservations.rows.filter fun r =>
    r.guest.groupId = some groupId && r.propertyId = propertyId && r.deletedAt.isNone).insertionSort
      fun a b => a.checkIn ≤ b.checkIn

def groupOf (id : Id) (db : GroupDb) : Option BookingGroup :=
  (db.bookingGroups.find? id).filter fun g => g.propertyId = propertyId && g.deletedAt.isNone

/-- A group with every reservation in it and its totals; none when there is no such group. -/
def get (id : Id) (db : GroupDb) : Option GroupPage := do
  let group ← groupOf propertyId id db
  let stays := staysOf propertyId id db.hotel
  let totalPaise := stays.foldl (fun s r => s + r.totalPaise) 0
  let paidPaise := stays.foldl (fun s r => s + r.paidPaise) 0
  return {
    group
    rooms := stays.length
    totalPaise
    paidPaise
    balancePaise := totalPaise - paidPaise
    reservations := stays }

end Travelo.Outstanding

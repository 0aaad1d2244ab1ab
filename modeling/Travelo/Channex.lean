import Travelo.Claims.Runs
import Travelo.Rates

/-!
# Publishing availability to Channex

`ChannexSyncService.pushAvailability`: rooms of each type less who is in them, under the
word of the rates grid, collapsed into ranges for the channel manager.

The call to the Channex client and the sync log come after the ranges are made, and are
left out.
-/

namespace Travelo

open ReadCommitted

/-- The free rooms of a type for one night. -/
structure NightlyAvailability where
  roomTypeId : Id
  date : ℤ
  available : ℕ

/-- What a connection maps: our property, and our room types, to theirs. -/
structure ChannexConnectionConfig where
  channexPropertyId : String
  roomTypeMap : List (Id × String)

/-- One range of the request; `date_to` is included. -/
structure ChannexAvailabilityUpdate where
  property_id : String
  room_type_id : String
  date_from : ℤ
  date_to : ℤ
  availability : ℕ

structure ChannexPush where
  updates : List ChannexAvailabilityUpdate
  unmapped : List Id

namespace ChannexSyncService

/-- Per room type, per night: rooms of that type less the stays that cover the night. -/
def computeAvailability (rooms : List Id) (stays : List Reservation) (start endDate : ℤ) :
    List NightlyAvailability :=
  rooms.eraseDups.flatMap fun roomTypeId =>
    (datesFrom start endDate).map fun date =>
      { roomTypeId
        date
        available := rooms.count roomTypeId - (stays.filter fun s =>
          s.roomTypeId = roomTypeId && coversDate s.checkIn s.checkOut date).length }

/-- The grid's cell of a type and a night. -/
def cellOf (grid : List GridType) (roomTypeId : Id) (date : ℤ) : Option RateDayCell :=
  (grid.find? fun t => t.id = roomTypeId).bind fun t => t.days.find? fun c => c.date = date

/-- The grid's word is final: no more than it has, and no more than the cap of this
connection. -/
def capped (connectionId : Id) (grid : List GridType) (n : NightlyAvailability) :
    NightlyAvailability :=
  match cellOf grid n.roomTypeId n.date with
  | none => n
  | some c =>
    let capped := min n.available c.available
    match (c.channelOverrides.lookup connectionId).bind (·.available) with
    | none => { n with available := capped }
    | some perChannel => { n with available := min capped perChannel }

/-- The ranges of one mapped room type. -/
def rangesOf (channexPropertyId channexRoomTypeId : String) (list : List NightlyAvailability) :
    List ChannexAvailabilityUpdate :=
  match list.insertionSort fun a b => a.date ≤ b.date with
  | [] => []
  | first :: rest =>
    (Claims.Run.collapse (.day first.date first.available)
      (rest.map fun n => (n.date, n.available))).map fun r =>
        { property_id := channexPropertyId
          room_type_id := channexRoomTypeId
          date_from := r.lo
          date_to := r.hi
          availability := r.val }

/-- The id of a type on Channex, when it is mapped. -/
def mapped (cfg : ChannexConnectionConfig) (roomTypeId : Id) : Option String :=
  (cfg.roomTypeMap.lookup roomTypeId).filter fun id => id ≠ ""

/-- The ranges of one type; none when it is not mapped. -/
def typeRanges (cfg : ChannexConnectionConfig) (nights : List NightlyAvailability)
    (roomTypeId : Id) : List ChannexAvailabilityUpdate :=
  match mapped cfg roomTypeId with
  | none => []
  | some id =>
    rangesOf cfg.channexPropertyId id (nights.filter fun n => n.roomTypeId = roomTypeId)

/-- Consecutive nights with the same count become one range; types without a mapping are
reported. -/
def toAvailabilityRanges (cfg : ChannexConnectionConfig) (nights : List NightlyAvailability) :
    ChannexPush :=
  let types := (nights.map (·.roomTypeId)).eraseDups
  { updates := types.flatMap (typeRanges cfg nights)
    unmapped := types.filter fun roomTypeId => (mapped cfg roomTypeId).isNone }

/-- The types of the rooms that are inventory. -/
def inventory (propertyId : Id) (db : HotelDb) : List Id :=
  (db.rooms.rows.filter (Room.sellable propertyId)).map Room.roomTypeId

/-- The committed stays in play for a window. -/
def staysInPlay (propertyId : Id) (start endDate : ℤ) (db : HotelDb) : List Reservation :=
  db.reservations.rows.filter fun r =>
    r.propertyId = propertyId && r.occupies && r.checkIn < endDate && start < r.checkOut

/-- The grid's word on the nights; without the engine the physical count goes out. -/
def withGrid (rates : Bool) (connectionId propertyId : Id) (start endDate : ℤ)
    (nights : List NightlyAvailability) : Op (List NightlyAvailability) :=
  if rates then do
    let grid ← RatesService.grid propertyId start endDate none
    return nights.map (capped connectionId grid)
  else return nights

/-- The nights that go out: rooms of a type minus who is in them, then the grid's word. -/
def publishedNights (rates : Bool) (connectionId propertyId : Id) (start endDate : ℤ) :
    Op (List NightlyAvailability) := do
  let rooms ← select (.rooms propertyId) (inventory propertyId)
  let stays ← select (.stays propertyId) (staysInPlay propertyId start endDate)
  withGrid rates connectionId propertyId start endDate
    (computeAvailability rooms stays start endDate)

/-- Availability for `[start, end)`: the request to Channex, or nothing when a statement
failed. -/
def pushAvailability (rates : Bool) (connectionId propertyId : Id)
    (cfg : ChannexConnectionConfig) (start endDate : ℤ) : Op (Option ChannexPush) :=
  tryCatchThe Err
    (do
      let nights ← publishedNights rates connectionId propertyId start endDate
      return some (toAvailabilityRanges cfg nights))
    fun _ => return none

end ChannexSyncService

end Travelo

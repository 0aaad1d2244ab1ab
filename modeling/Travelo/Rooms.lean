import Travelo.RoomTypes

/-!
# Rooms

`RoomsService`. The status routes (one room, many rooms, or every room of the round) touch the
status column and the note, and ask nothing about the guests. `create`, `bulkCreate` and `remove`
change which rooms there are, and recount them for the property in the same transaction.
-/

namespace Travelo

open ReadCommitted
open ReservationsService (requireRoom requireRoomType)

/-- What `setStatus` answers. -/
structure RoomStatusChange where
  id : Id
  number : String
  previousStatus : RoomStatus
  status : RoomStatus
  updatedAt : ℤ

namespace RoomsService

/-- The patch; an empty note leaves the old one. -/
def patchStatus (status : RoomStatus) (note : Option String) (now : ℤ) (r : Room) : Room :=
  { r with
    status := status
    updatedAt := now
    notes := (note.filter (· ≠ "")).or r.notes }

/-- `UPDATE rooms SET status = … WHERE … RETURNING *`. -/
def updateRooms (p : Room → Bool) (f : Room → Room)
    (hf : ∀ r, (f r).id = r.id := by intro _; rfl) : Op (List Room) :=
  write (fun db => (db.rooms.rows.filter p).map fun r => .room r.id)
    (fun db => { db with rooms := db.rooms.update p f hf })
    fun db => (db.rooms.rows.filter p).map f

variable (propertyId id : Id)

def setStatus (status : RoomStatus) (note : Option String) (now : ℤ) :
    Op RoomStatusChange := do
  let before ← requireRoom propertyId id
  let rows ← updateRooms (fun r => r.id = id) (patchStatus status note now)
  let row ← orThrow rows.head? (.internal "Cannot read properties of undefined")
  return {
    id := row.id
    number := row.number
    previousStatus := before.status
    status := row.status
    updatedAt := row.updatedAt }

/-- One status for many rooms; rooms of another property are left out. -/
def bulkSetStatus (ids : List Id) (status : RoomStatus) (note : Option String) (now : ℤ) :
    Op (List Room) :=
  if ids.isEmpty then return []
  else updateRooms (fun r => r.propertyId = propertyId && ids.contains r.id && r.deletedAt.isNone)
    (patchStatus status note now)

/-- The statuses the end of the round turns into READY. -/
def ROUND_STATUSES : List RoomStatus := [.DIRTY, .CLEANING, .INSPECTED]

def markAllClean (now : ℤ) : Op (List Room) :=
  updateRooms
    (fun r => r.propertyId = propertyId && r.deletedAt.isNone && ROUND_STATUSES.contains r.status)
    fun r => { r with status := .READY, updatedAt := now }

/-! ## Adding and removing rooms -/

/-- The rooms of a property that are not deleted. -/
def liveRooms (db : HotelDb) : List Room :=
  db.rooms.rows.filter fun r => r.propertyId = propertyId && r.deletedAt.isNone

def setRoomCount (count : ℕ) (now : ℤ) (db : HotelDb) : HotelDb :=
  let properties := db.properties.update (fun p => p.id = propertyId) fun p =>
    { p with roomCount := count, updatedAt := now }
  { db with properties }

/-- Recompute `properties.room_count` from the live rooms, in the caller's transaction. -/
def recountRooms (now : ℤ) : Op ℕ := do
  let count ← select (.roomCount propertyId) fun db => (liveRooms propertyId db).length
  let _ ← write (fun _ => [.property propertyId]) (setRoomCount propertyId count now)
    fun _ => ()
  return count

structure CreateRoomDto where
  /-- The type the room shares with others. -/
  roomTypeId : Option Id := none
  /-- The room's own specifications. -/
  specs : Option RoomTypeInputDto := none
  number : String
  numbers : List String := []
  status : Option RoomStatus := none
  notes : Option String := none
  amenityIds : List Id := []

structure BulkCreateRoomsDto where
  roomTypeId : Id
  status : Option RoomStatus := none
  numbers : List String := []
  fromNumber : Option ℕ := none
  toNumber : Option ℕ := none
  numberPrefix : Option String := none
  pad : Option ℕ := none

def MAX_BULK_ROOMS : ℕ := 200

variable (dto : CreateRoomDto)

/-- The numbers a request asks for, each once. -/
def roomNumbersOf : List String :=
  let list := if dto.numbers ≠ [] then dto.numbers else [dto.number]
  ((list.map trim).filter (· ≠ "")).eraseDups

variable (numbers : List String)

/-- The live rooms of a property that have one of the numbers. -/
def withNumbers (db : HotelDb) : List Room :=
  (liveRooms propertyId db).filter fun r => numbers.contains r.number

def assertRoomNumbersFree : Op Unit := do
  let clash ← select (.roomNumbers propertyId numbers) (withNumbers propertyId numbers)
  forSome clash.head? fun r => throw (.roomNumberTaken r.number)

/-- The type of the new rooms: a shared one, or one minted for them, private if it is for a
single room. -/
def resolveTypeForNewRooms (typeId : Id) : Op Id := do
  throwIf (dto.roomTypeId.isSome ∧ dto.specs.isSome) .roomSpecsAmbiguous
  match dto.roomTypeId, dto.specs with
  | some roomTypeId, _ => do
    let _ ← requireRoomType propertyId roomTypeId
    return roomTypeId
  | none, some specs => do
    let shared := 1 < numbers.length
    let first := numbers.headD "undefined"
    let last := numbers.getLastD "undefined"
    let name := if trim specs.name ≠ "" then trim specs.name
      else if shared then s!"Rooms {first}–{last}" else s!"Room {first}"
    let created ← RoomTypesService.create propertyId { specs with name } (!shared) typeId
    return created.id
  | none, none => throw .roomSpecsMissing

/-- A new room; its id is drawn by the database. -/
def newRoom (roomTypeId : Id) (status : Option RoomStatus) (notes : Option String) (number : String)
    (id : Id) : Room where
  id
  propertyId
  roomTypeId
  number
  status := status.getD .AVAILABLE
  notes

/-- The rows of one `INSERT`. -/
def newRooms (room : String → Id → Room) (numbers : List String) (db : HotelDb) : List Room :=
  numbers.zipIdx.map fun (number, i) => room number (freshId (db.rooms.rows.map (·.id)) + i)

/-- `INSERT INTO rooms …`; a number is unique among the live rooms of a property. -/
def insertRooms (room : String → Id → Room) (numbers : List String) (db : HotelDb) :
    Except Err HotelDb :=
  if (withNumbers propertyId numbers db).isEmpty then
    .ok { db with rooms := (newRooms room numbers db).foldl Table.insert db.rooms }
  else .error .uniqueViolation

/-- The per-room extras of the rooms just inserted. -/
def attachExtras (extras : List Amenity) : Op Unit :=
  write (fun _ => [])
    (fun db => { db with
      roomAmenities := db.roomAmenities ++ (withNumbers propertyId numbers db).flatMap
        (fun r => extras.map fun a => (r.id, a.id)) })
    fun _ => ()

def create (typeId : Id) (now : ℤ) :
    Op (List Room × ℕ) := do
  let numbers := roomNumbersOf dto
  throwIf (numbers = []) .roomSpecsMissing
  -- before a type is minted, which would be left an orphan
  assertRoomNumbersFree propertyId numbers
  let roomTypeId ← resolveTypeForNewRooms propertyId dto numbers typeId
  let extras ← AmenitiesService.resolveForScope dto.amenityIds .ROOM
  let room := newRoom propertyId roomTypeId dto.status dto.notes
  transaction do
    let inserted ← tryCatchThe Err
      (writeChecked (fun _ => numbers.map (RowKey.roomNumber propertyId))
        (insertRooms propertyId room numbers) (newRooms room numbers))
      fun e => throw (if e = .uniqueViolation then .roomNumberTaken (numbers.headD "") else e)
    when (extras ≠ []) <| attachExtras propertyId numbers extras
    let count ← recountRooms propertyId now
    return (inserted, count)

/-- `String(i).padStart(pad, '0')`. -/
def padded (pad : Option ℕ) (i : ℕ) : String :=
  let body := toString i
  match pad with
  | some n => "".pushn '0' (n - body.length) ++ body
  | none => body

/-- The list of numbers of a bulk request, each once. -/
def expandNumbers (dto : BulkCreateRoomsDto) : Except Err (List String) := do
  if dto.numbers ≠ [] then
    return ((dto.numbers.map trim).filter (· ≠ "")).eraseDups
  match dto.fromNumber, dto.toNumber with
  | some a, some b =>
    let low := min a b
    let high := max a b
    if MAX_BULK_ROOMS < high - low + 1 then
      throw (.bulkTooLarge (high - low + 1) MAX_BULK_ROOMS)
    let numbers := (List.range (high - low + 1)).map fun i =>
      dto.numberPrefix.getD "" ++ padded dto.pad (low + i)
    return numbers.eraseDups
  | _, _ => return []

/-- Bulk create: the numbers that exist are skipped, the others inserted, or none is. -/
def bulkCreate (dto : BulkCreateRoomsDto) (now : ℤ) :
    Op (List Room × List String × ℕ) := do
  let _ ← requireRoomType propertyId dto.roomTypeId
  let requested ← lift (expandNumbers dto)
  throwIf (requested = []) .nothingToCreate
  transaction do
    let existing ← select (.roomNumbers propertyId requested)
      (withNumbers propertyId requested)
    let taken := existing.map (·.number)
    let toCreate := requested.filter fun n => !taken.contains n
    let room := newRoom propertyId dto.roomTypeId dto.status none
    let created ←
      if toCreate = [] then pure []
      else
        writeChecked (fun _ => toCreate.map (RowKey.roomNumber propertyId))
          (insertRooms propertyId room toCreate) (newRooms room toCreate)
    let count ← recountRooms propertyId now
    return (created, requested.filter (taken.contains ·), count)

def deleteRoomType (now : ℤ) (db : HotelDb) : HotelDb :=
  let roomTypes := db.roomTypes.update (fun t => t.id = id) fun t => { t with deletedAt := some now }
  { db with roomTypes }

/-- Soft delete; a private type goes with its room. -/
def remove (now : ℤ) : Op (Room × ℕ) := do
  let before ← requireRoom propertyId id
  let type ← requireRoomType propertyId before.roomTypeId
  let count ← transaction do
    let _ ← updateRooms (fun r => r.id = id) fun r =>
      { r with deletedAt := some now, updatedAt := now }
    when (type.isPrivate = true) <|
      write (fun _ => []) (deleteRoomType type.id now) fun _ => ()
    recountRooms propertyId now
  return (before, count)

end RoomsService

end Travelo

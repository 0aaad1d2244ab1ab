import Travelo.RoomTypeRecords
import Travelo.Rooms

/-!
# Editing rooms and their types

`RoomsService.update` moves a room to another type or re-specifies the type that is private to it;
`RoomTypesService.update` patches a type and `remove` deletes one that no live room has. The patch of
a type is the one of `RoomTypeRecords`, on the columns that the types have here.
-/

namespace Travelo

open ReadCommitted
open ReservationsService (requireRoomType requireRoom)
open RoomTypeRecords (RoomTypeRecord UpdateRoomTypeDto TypeErr)

namespace RoomTypesService

/-- The columns of a type; the others do not matter to a patch. -/
def recordOf (t : RoomType) : RoomTypeRecord where
  id := t.id
  propertyId := t.propertyId
  isPrivate := t.isPrivate
  name := t.name
  code := t.code
  description := none
  floorLabel := none
  unitKind := t.unitKind
  unitRoomCount := t.unitRoomCount
  privatePool := false
  smokingPolicy := .NON_SMOKING
  accessible := false
  bedType := t.bedType
  bedCount := t.bedCount
  maxOccupancy := t.maxOccupancy
  baseOccupancy := t.baseOccupancy
  maxAdults := t.maxAdults
  maxChildren := t.maxChildren
  maxInfants := t.maxInfants
  extraBedAvailable := false
  extraBedType := none
  extraBedCapacity := t.extraBedCapacity.map (↑)
  extraBedPricePaise := t.extraBedPricePaise
  airConditioned := false
  baseRate := t.baseRate
  currency := t.currency
  dynamicPricingEnabled := false
  pricesIncludeTax := false
  sizeSqft := t.sizeSqft
  sizeValue := t.sizeValue
  sizeUnit := t.sizeUnit
  status := if t.active then .ACTIVE else .ARCHIVED
  updatedAt := 0
  deletedAt := t.deletedAt

/-- The row with the patched columns; the counts that a body may name are not negative. -/
def ofRecord (t : RoomType) (r : RoomTypeRecord) : RoomType :=
  { t with
    name := r.name
    code := r.code
    unitKind := r.unitKind
    unitRoomCount := r.unitRoomCount.toNat
    bedType := r.bedType
    bedCount := r.bedCount.toNat
    maxOccupancy := r.maxOccupancy.toNat
    baseOccupancy := r.baseOccupancy.toNat
    maxAdults := r.maxAdults.toNat
    maxChildren := r.maxChildren.toNat
    maxInfants := r.maxInfants.toNat
    extraBedCapacity := r.extraBedCapacity.map Int.toNat
    extraBedPricePaise := r.extraBedPricePaise
    baseRate := r.baseRate
    currency := r.currency
    sizeSqft := r.sizeSqft
    sizeValue := r.sizeValue
    sizeUnit := r.sizeUnit
    active := r.status = .ACTIVE }

/-- The errors of a patch here. -/
def ofTypeErr : TypeErr → Err
  | .roomTypeNotFound => .roomTypeNotFound
  | .roomTypeNameTaken => .roomTypeNameTaken
  | .roomTypeCodeTaken => .roomTypeCodeTaken
  | .amenityNotFound => .amenityNotFound
  | .amenityScopeMismatch => .amenityScopeMismatch .ROOM
  | .nothingToUpdate => .nothingToUpdate
  | .occupancyInvalid message => .occupancyInvalid message
  | .rateInvalid message => .rateInvalid message
  | .notNullViolation column =>
    .internal s!"null value in column \"{column}\" violates not-null constraint"
  | .internal message => .internal message

/-- The row that the patch, made of the row as it was read, leaves of a row. -/
def patched (dto : UpdateRoomTypeDto) (before t : RoomType) : Except Err RoomType :=
  match RoomTypeRecords.RoomTypesService.patched dto (recordOf before) 0 (recordOf t) with
  | .ok row => .ok (ofRecord t row)
  | .error e => .error (ofTypeErr e)

/-- The partial unique indexes on the name and on the code, for a row that is written. -/
def indexed (row : RoomType) (db : HotelDb) : Except Err Unit :=
  let others := db.roomTypes.rows.filter fun t =>
    t.propertyId = row.propertyId && t.deletedAt.isNone && t.id ≠ row.id
  if row.deletedAt.isSome then .ok ()
  else if others.any fun t => t.name = row.name then .error .roomTypeNameTaken
  else if others.any fun t => t.code.isSome && t.code = row.code then .error .roomTypeCodeTaken
  else .ok ()

/-- `UPDATE room_types SET … WHERE id = …`. -/
def updateRoomType (dto : UpdateRoomTypeDto) (before : RoomType) (db : HotelDb) :
    Except Err HotelDb :=
  match db.roomTypes.find? before.id with
  | none => .ok db
  | some t => do
    let row ← patched dto before t
    indexed row db
    let roomTypes := db.roomTypes.update (fun t => t.id = before.id) fun t =>
      { row with id := t.id }
    return { db with roomTypes }

/-- The arrangement of a type is replaced. -/
def replaceBeds (id : Id) (beds : List RoomTypeRecords.BedInput) (db : HotelDb) : HotelDb :=
  let rows := beds.zipIdx.map fun (b, i) =>
    { roomTypeId := id, bedType := b.bedType, quantity := b.quantity.orElse 1, sortOrder := i }
  { db with roomTypeBeds := (db.roomTypeBeds.filter fun b => b.roomTypeId ≠ id) ++ rows }

def replaceAmenities (id : Id) (attach : List Amenity) (db : HotelDb) : HotelDb :=
  { db with
    roomTypeAmenities :=
      (db.roomTypeAmenities.filter fun a => a.1 ≠ id) ++ attach.map fun a => (id, a.id) }

/-- The amenities of a new set, if the body has one. -/
def amenitiesToSet (amenityIds : RoomTypeRecords.Field (List Id)) : Op (List Amenity) :=
  if amenityIds.present then AmenitiesService.resolveForScope (amenityIds.toOption.getD []) .ROOM
  else return []

/-- The keys a patch can wait for. -/
def patchLocks (dto : UpdateRoomTypeDto) (before : RoomType) : List RowKey :=
  (dto.name.toOption.map (RowKey.roomTypeName before.propertyId)).toList ++
    (dto.code.toOption.map (RowKey.roomTypeCode before.propertyId)).toList

def update (propertyId id : Id) (dto : UpdateRoomTypeDto) : Op Unit := do
  let before ← requireRoomType propertyId id
  -- checked against the merged row, not the patch
  lift (assertOccupancy (RoomTypeRecords.RoomTypesService.merged dto (recordOf before)))
  throwIf (RoomTypeRecords.RoomTypesService.namesNothing dto && !dto.amenityIds.present &&
    !dto.beds.present) .nothingToUpdate
  let attach ← amenitiesToSet dto.amenityIds
  transaction do
    writeChecked (fun _ => patchLocks dto before) (updateRoomType dto before) fun _ => ()
    when (dto.beds.present = true) <|
      write (fun _ => []) (replaceBeds id (dto.beds.toOption.getD [])) fun _ => ()
    when (dto.amenityIds.present = true) <|
      write (fun _ => []) (replaceAmenities id attach) fun _ => ()

/-- The live rooms of a type. -/
def roomsOfType (id : Id) (db : HotelDb) : List Room :=
  db.rooms.rows.filter fun r => r.roomTypeId = id && r.deletedAt.isNone

def archiveRoomType (id : Id) (now : ℤ) (db : HotelDb) : HotelDb :=
  let roomTypes := db.roomTypes.update (fun t => t.id = id) fun t =>
    { t with deletedAt := some now, active := false }
  { db with roomTypes }

/-- Soft delete, refused while rooms have the type. -/
def remove (propertyId id : Id) (now : ℤ) : Op RoomType := do
  let before ← requireRoomType propertyId id
  let count ← select (.typeRooms propertyId id) fun db => (roomsOfType id db).length
  throwIf (0 < count) (.roomTypeInUse count)
  write (fun _ => []) (archiveRoomType id now) fun _ => ()
  return before

end RoomTypesService

namespace RoomsService

structure UpdateRoomDto where
  roomTypeId : RoomTypeRecords.Field Id := .absent
  /-- Of the type that is private to the room. -/
  specs : Option UpdateRoomTypeDto := none
  number : RoomTypeRecords.Field String := .absent
  floor : RoomTypeRecords.Field String := .absent
  notes : RoomTypeRecords.Field String := .absent
  status : RoomTypeRecords.Field RoomStatus := .absent
  amenityIds : RoomTypeRecords.Field (List Id) := .absent

/-- The body names no column of the room. -/
def namesNothing (dto : UpdateRoomDto) : Bool :=
  !(dto.roomTypeId.present || dto.number.present || dto.floor.present || dto.notes.present ||
    dto.status.present)

/-- A patch of a column that cannot be empty. -/
def patchRequired {α : Type} (column : String) (f : RoomTypeRecords.Field α) (current : α) :
    Except Err α :=
  match f with
  | .absent => .ok current
  | .null => .error (.internal s!"null value in column \"{column}\" violates not-null constraint")
  | .given a => .ok a

/-- The row that a patch leaves. -/
def patchedRoom (dto : UpdateRoomDto) (now : ℤ) (r : Room) : Except Err Room := do
  let roomTypeId ← patchRequired "room_type_id" dto.roomTypeId r.roomTypeId
  let number ← patchRequired "number" dto.number r.number
  let status ← patchRequired "status" dto.status r.status
  return { r with
    roomTypeId
    number
    status
    notes := dto.notes.patchNullable r.notes
    updatedAt := now }

/-- `UPDATE rooms SET … WHERE id = …`; a number is unique among the live rooms of a property. -/
def patchRoom (id : Id) (dto : UpdateRoomDto) (now : ℤ) (db : HotelDb) : Except Err HotelDb :=
  match db.rooms.find? id with
  | none => .ok db
  | some r => do
    let row ← patchedRoom dto now r
    if row.deletedAt.isNone && (liveRooms row.propertyId db).any fun q =>
        q.id ≠ row.id && q.number = row.number then
      throw .uniqueViolation
    let rooms := db.rooms.update (fun r => r.id = id) fun r => { row with id := r.id }
    return { db with rooms }

def replaceExtras (id : Id) (extras : List Amenity) (db : HotelDb) : HotelDb :=
  { db with
    roomAmenities := (db.roomAmenities.filter fun a => a.1 ≠ id) ++ extras.map fun a => (id, a.id) }

/-- The room's own specifications go to its private type, and to no other. -/
def respecify (propertyId roomTypeId : Id) (specs : UpdateRoomTypeDto) : Op Unit := do
  let type ← requireRoomType propertyId roomTypeId
  throwIf (type.isPrivate = false) .roomSpecsShared
  RoomTypesService.update propertyId type.id specs

/-- A room may only be moved to a type at the same property. -/
def requireNewType (propertyId : Id) (roomTypeId : RoomTypeRecords.Field Id) : Op Unit :=
  match roomTypeId with
  | .absent => return ()
  | .null => throw .roomTypeNotFound
  | .given id => do
    let _ ← requireRoomType propertyId id

/-- The room's own columns and extras, in one transaction. -/
def writeRoom (propertyId id : Id) (dto : UpdateRoomDto) (before : Room) (now : ℤ) : Op Unit := do
  throwIf (namesNothing dto && !dto.amenityIds.present && dto.specs.isNone) .nothingToUpdate
  let extras ← RoomTypesService.amenitiesToSet dto.amenityIds
  transaction do
    tryCatchThe Err
      (writeChecked (fun _ => .room id ::
          (dto.number.toOption.map (RowKey.roomNumber propertyId)).toList)
        (patchRoom id dto now) fun _ => ())
      fun e => throw
        (if e = .uniqueViolation then .roomNumberTaken (dto.number.orElse before.number) else e)
    when (dto.amenityIds.present = true) <|
      write (fun _ => []) (replaceExtras id extras) fun _ => ()

def update (propertyId id : Id) (dto : UpdateRoomDto) (now : ℤ) : Op Room := do
  let before ← requireRoom propertyId id
  requireNewType propertyId dto.roomTypeId
  forSome dto.specs (respecify propertyId before.roomTypeId)
  writeRoom propertyId id dto before now
  return before

end RoomsService

end Travelo

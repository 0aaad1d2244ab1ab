import Travelo.Claims.Binary64
import Travelo.Reservations.Service

/-!
# Room types

`RoomTypesService`: the occupancy rules and the size of a type, and creating one. A type has
a name, and a code if it has one, that no other live type of the property has.
-/

namespace Travelo

open ReadCommitted

namespace AmenitiesService

/-- The amenities a caller wants to attach, if all exist and have the scope. -/
def resolveForScope (ids : List Id) (scope : AmenityScope) : Op (List Amenity) :=
  let unique := ids.eraseDups
  if unique.isEmpty then return []
  else do
    let rows ← select (.amenities unique) fun db =>
      db.amenities.rows.filter fun a => unique.contains a.id
    throwIf (rows.length ≠ unique.length) .amenityNotFound
    throwIf (rows.any fun r => r.scope ≠ scope) (.amenityScopeMismatch scope)
    return rows

end AmenitiesService

/-- The numbers of a type as they will be after a write. -/
structure OccupancyShape where
  maxOccupancy : ℤ
  baseOccupancy : ℤ
  maxAdults : ℤ
  maxChildren : ℤ
  maxInfants : ℤ
  baseRate : ℤ
  extraBedPricePaise : Option ℤ
  extraBedCapacity : Option ℤ

def assertOccupancy (v : OccupancyShape) : Except Err Unit := do
  if v.baseOccupancy < 1 then
    throw (.occupancyInvalid "Base occupancy must be at least 1 guest")
  if v.maxAdults < 1 then
    throw (.occupancyInvalid "A room type must allow at least 1 adult")
  for (label, n) in [("Maximum children", v.maxChildren), ("Maximum infants", v.maxInfants),
      ("Extra bed capacity", v.extraBedCapacity.getD 0)] do
    if n < 0 then throw (.occupancyInvalid s!"{label} cannot be negative")
  if v.maxOccupancy < v.baseOccupancy then
    throw (.occupancyInvalid (s!"Maximum occupancy ({v.maxOccupancy}) cannot be below " ++
      s!"the base occupancy ({v.baseOccupancy})"))
  if v.maxOccupancy < v.maxAdults then
    throw (.occupancyInvalid (s!"Maximum occupancy ({v.maxOccupancy}) cannot be below " ++
      s!"the maximum adults ({v.maxAdults})"))
  let ceiling := v.maxAdults + v.maxChildren + v.maxInfants
  if ceiling < v.maxOccupancy then
    throw (.occupancyInvalid (s!"Maximum occupancy ({v.maxOccupancy}) exceeds " ++
      s!"the adults, children and infants allowed ({ceiling})"))
  for (label, n) in [("Base rate", v.baseRate),
      ("Extra bed price", v.extraBedPricePaise.getD 0)] do
    if n < 0 then throw (.rateInvalid s!"{label} cannot be negative")

structure RoomTypeBedDto where
  bedType : BedType
  quantity : Option ℕ := none

structure RoomTypeInputDto where
  name : String
  code : Option String := none
  unitKind : Option UnitKind := none
  unitRoomCount : Option ℕ := none
  bedType : BedType := .DOUBLE
  bedCount : ℕ := 1
  maxOccupancy : ℕ
  baseOccupancy : Option ℕ := none
  maxAdults : ℕ
  maxChildren : ℕ := 0
  maxInfants : Option ℕ := none
  extraBedCapacity : Option ℕ := none
  extraBedPricePaise : Option ℤ := none
  baseRate : ℤ
  currency : Option String := none
  sizeSqft : Option ℕ := none
  sizeValue : Option ℕ := none
  sizeUnit : Option SizeUnit := none
  beds : List RoomTypeBedDto := []
  amenityIds : List Id := []

/-- `Math.round(value * 10.7639)` for square metres. -/
def sqftFrom (value : ℕ) : SizeUnit → ℕ
  | .SQM => ((Claims.Binary64.ratio 107639 10000).scale value).round.toNat
  | .SQFT => value

namespace RoomTypesService

/-- The size in both shapes; nothing when the request names none. -/
structure ResolvedSize where
  sizeValue : Option ℕ
  sizeUnit : SizeUnit
  sizeSqft : Option ℕ

def resolveSize (sizeValue : Option ℕ) (sizeUnit : Option SizeUnit) (sizeSqft : Option ℕ)
    (current : ResolvedSize := ⟨none, .SQFT, none⟩) : Option ResolvedSize :=
  if sizeValue.isNone ∧ sizeUnit.isNone ∧ sizeSqft.isNone then none
  else if sizeValue.isSome ∨ sizeUnit.isSome then
    let unit := sizeUnit.getD current.sizeUnit
    match sizeValue.or current.sizeValue with
    | none => some ⟨none, unit, none⟩
    | some value => some ⟨some value, unit, some (sqftFrom value unit)⟩
  -- a caller that knows square feet only
  else some ⟨sizeSqft, .SQFT, sizeSqft⟩

/-- The row `create` inserts; the first bed is the primary one. -/
def newRoomType (propertyId : Id) (dto : RoomTypeInputDto) (isPrivate : Bool) (id : Id) :
    RoomType :=
  let size := resolveSize dto.sizeValue dto.sizeUnit dto.sizeSqft
  let primary := dto.beds.head?
  { id
    propertyId
    isPrivate
    name := dto.name
    code := dto.code
    unitKind := dto.unitKind.getD .ROOM
    -- a plain room is a unit of one room, whatever was sent
    unitRoomCount := if dto.unitKind.getD .ROOM = .ROOM then 1 else dto.unitRoomCount.getD 1
    bedType := (primary.map (·.bedType)).getD dto.bedType
    bedCount := (primary.map fun b => b.quantity.getD 1).getD dto.bedCount
    maxOccupancy := dto.maxOccupancy
    baseOccupancy := dto.baseOccupancy.getD (min 2 dto.maxOccupancy)
    maxAdults := dto.maxAdults
    maxChildren := dto.maxChildren
    maxInfants := dto.maxInfants.getD 0
    extraBedCapacity := dto.extraBedCapacity
    extraBedPricePaise := dto.extraBedPricePaise
    baseRate := dto.baseRate
    currency := dto.currency.getD "INR"
    sizeSqft := size.bind (·.sizeSqft)
    sizeValue := size.bind (·.sizeValue)
    sizeUnit := (size.map (·.sizeUnit)).getD .SQFT }

def RoomType.shape (t : RoomType) : OccupancyShape where
  maxOccupancy := t.maxOccupancy
  baseOccupancy := t.baseOccupancy
  maxAdults := t.maxAdults
  maxChildren := t.maxChildren
  maxInfants := t.maxInfants
  baseRate := t.baseRate
  extraBedPricePaise := t.extraBedPricePaise
  extraBedCapacity := t.extraBedCapacity.map (↑)

def bedRows (roomTypeId : Id) (beds : List RoomTypeBedDto) : List RoomTypeBed :=
  beds.zipIdx.map fun (b, i) =>
    { roomTypeId, bedType := b.bedType, quantity := b.quantity.getD 1, sortOrder := i }

/-- The key, which is answered like the name, and the two partial unique indexes, on the name and on
the code. -/
def insertRoomType (row : RoomType) (db : HotelDb) : Except Err HotelDb :=
  let live := db.roomTypes.rows.filter fun t => t.propertyId = row.propertyId && t.deletedAt.isNone
  if db.roomTypes.hasKey row.id then .error .roomTypeNameTaken
  else if live.any fun t => t.name = row.name then .error .roomTypeNameTaken
  else if live.any fun t => t.code.isSome && t.code = row.code then .error .roomTypeCodeTaken
  else .ok { db with roomTypes := db.roomTypes.insert row }

def create (propertyId : Id) (dto : RoomTypeInputDto) (isPrivate : Bool) (id : Id) :
    Op RoomType := do
  let attach ← AmenitiesService.resolveForScope dto.amenityIds .ROOM
  let row := newRoomType propertyId dto isPrivate id
  lift (assertOccupancy (RoomType.shape row))
  transaction do
    writeChecked
      (fun _ => .roomTypeName propertyId row.name ::
        (row.code.map (RowKey.roomTypeCode propertyId)).toList)
      (insertRoomType row) fun _ => ()
    when (dto.beds ≠ []) <|
      write (fun _ => [])
        (fun db => { db with roomTypeBeds := db.roomTypeBeds ++ bedRows id dto.beds }) fun _ => ()
    when (attach ≠ []) <|
      write (fun _ => [])
        (fun db => { db with
          roomTypeAmenities := db.roomTypeAmenities ++ attach.map (fun a => (id, a.id)) })
        fun _ => ()
    return row

end RoomTypesService

end Travelo

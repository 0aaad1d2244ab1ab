import Mathlib.Data.List.Sort
import Travelo.ReadCommitted.Guarded
import Travelo.RoomTypes

/-!
# Editing room types

`RoomTypesService.create` and `update` with every column of a type and every field of a body. A
field can be left out or be `null`, which are different things for a patch: what is left out stays,
and `null` empties a column that can be empty and fails on the others.
-/

namespace Travelo.RoomTypeRecords

open ReadCommitted

deriving instance DecidableEq for BedType

/-! ## Bodies -/

/-- A field of a body: `undefined`, `null` or a value. -/
inductive Field (α : Type) where
  | absent
  | null
  | given (a : α)
  deriving DecidableEq

namespace Field

variable {α : Type}

/-- `field !== undefined`. -/
def present : Field α → Bool
  | absent => false
  | null => true
  | given _ => true

/-- `field ?? null`. -/
def toOption : Field α → Option α
  | given a => some a
  | _ => none

/-- `field ?? fallback`. -/
def orElse (f : Field α) (fallback : α) : α := f.toOption.getD fallback

/-- A patch of a column that can be empty. -/
def patchNullable (f : Field α) (current : Option α) : Option α :=
  match f with
  | absent => current
  | null => none
  | given a => some a

end Field

inductive SmokingPolicy where
  | NON_SMOKING
  | SMOKING
  | BOTH

inductive TypeStatus where
  | ACTIVE
  | ARCHIVED
  deriving DecidableEq

structure BedInput where
  bedType : BedType
  quantity : Field ℕ := .absent

structure RoomTypeDetailFieldsDto where
  code : Field String := .absent
  floorLabel : Field String := .absent
  smokingPolicy : Field SmokingPolicy := .absent
  accessible : Field Bool := .absent
  sizeValue : Field ℕ := .absent
  sizeUnit : Field SizeUnit := .absent
  baseOccupancy : Field ℤ := .absent
  maxInfants : Field ℤ := .absent
  extraBedAvailable : Field Bool := .absent
  extraBedType : Field BedType := .absent
  extraBedCapacity : Field ℤ := .absent
  extraBedPricePaise : Field ℤ := .absent
  dynamicPricingEnabled : Field Bool := .absent
  pricesIncludeTax : Field Bool := .absent
  /-- Present: the whole arrangement is replaced. -/
  beds : Field (List BedInput) := .absent

structure RoomTypeInputDto extends RoomTypeDetailFieldsDto where
  name : String
  description : Field String := .absent
  unitKind : Field UnitKind := .absent
  unitRoomCount : Field ℤ := .absent
  privatePool : Field Bool := .absent
  bedType : BedType
  bedCount : ℤ
  maxOccupancy : ℤ
  maxAdults : ℤ
  maxChildren : ℤ
  airConditioned : Bool
  baseRate : ℤ
  currency : Field String := .absent
  sizeSqft : Field ℕ := .absent
  amenityIds : Field (List Id) := .absent

structure UpdateRoomTypeDto extends RoomTypeDetailFieldsDto where
  name : Field String := .absent
  description : Field String := .absent
  unitKind : Field UnitKind := .absent
  unitRoomCount : Field ℤ := .absent
  privatePool : Field Bool := .absent
  bedType : Field BedType := .absent
  bedCount : Field ℤ := .absent
  maxOccupancy : Field ℤ := .absent
  maxAdults : Field ℤ := .absent
  maxChildren : Field ℤ := .absent
  airConditioned : Field Bool := .absent
  baseRate : Field ℤ := .absent
  currency : Field String := .absent
  sizeSqft : Field ℕ := .absent
  status : Field TypeStatus := .absent
  amenityIds : Field (List Id) := .absent

/-! ## State -/

structure RoomTypeRecord where
  id : Id
  propertyId : Id
  isPrivate : Bool
  name : String
  code : Option String
  description : Option String
  floorLabel : Option String
  unitKind : UnitKind
  unitRoomCount : ℤ
  privatePool : Bool
  smokingPolicy : SmokingPolicy
  accessible : Bool
  bedType : BedType
  bedCount : ℤ
  maxOccupancy : ℤ
  baseOccupancy : ℤ
  maxAdults : ℤ
  maxChildren : ℤ
  maxInfants : ℤ
  extraBedAvailable : Bool
  extraBedType : Option BedType
  extraBedCapacity : Option ℤ
  extraBedPricePaise : Option ℤ
  airConditioned : Bool
  baseRate : ℤ
  currency : String
  dynamicPricingEnabled : Bool
  pricesIncludeTax : Bool
  sizeSqft : Option ℕ
  sizeValue : Option ℕ
  sizeUnit : SizeUnit
  status : TypeStatus
  updatedAt : ℤ
  deletedAt : Option ℤ

structure BedRow where
  roomTypeId : Id
  bedType : BedType
  quantity : ℕ
  sortOrder : ℕ
  deriving DecidableEq

structure TypesDb where
  types : Table RoomTypeRecord.id := ∅
  beds : List BedRow := []
  amenities : Table Amenity.id := ∅
  typeAmenities : List (Id × Id) := []

instance : Inhabited TypesDb := ⟨{}⟩

inductive TypeLook where
  | roomType (id : Id)
  | amenities (ids : List Id)
  deriving DecidableEq

inductive TypeLock where
  | roomType (id : Id)
  | name (propertyId : Id) (name : String)
  | code (propertyId : Id) (code : String)
  deriving DecidableEq

inductive TypeErr where
  | roomTypeNotFound
  | roomTypeNameTaken
  | roomTypeCodeTaken
  | amenityNotFound
  | amenityScopeMismatch
  | nothingToUpdate
  | occupancyInvalid (message : String)
  | rateInvalid (message : String)
  /-- SQLSTATE 23502. -/
  | notNullViolation (column : String)
  | internal (message : String)
  deriving DecidableEq

instance : Faults TypeErr := ⟨.internal⟩

abbrev TypeOp := Prog TypesDb TypeLock TypeLook TypeErr

abbrev TypeTrace := List (Obs TypesDb TypeLook)

/-- The occupancy rules, with the errors of this module. -/
def assertOccupancy (v : OccupancyShape) : Except TypeErr Unit :=
  match Travelo.assertOccupancy v with
  | .ok _ => .ok ()
  | .error (.rateInvalid message) => .error (.rateInvalid message)
  | .error (.occupancyInvalid message) => .error (.occupancyInvalid message)
  | .error _ => .error (.internal "")

namespace RoomTypesService

/-- The amenities a caller wants to attach, if all exist and have the scope. -/
def resolveForScope (ids : List Id) (scope : AmenityScope) : TypeOp (List Amenity) :=
  let unique := ids.eraseDups
  if unique.isEmpty then return []
  else do
    let rows ← select (.amenities unique) fun db =>
      db.amenities.rows.filter fun a => unique.contains a.id
    throwIf (rows.length ≠ unique.length) .amenityNotFound
    throwIf (rows.any fun r => r.scope ≠ scope) .amenityScopeMismatch
    return rows

/-! ## The pieces -/

structure Size where
  sizeValue : Option ℕ
  sizeUnit : SizeUnit
  sizeSqft : Option ℕ

/-- The size in both shapes; nothing when the body names none. -/
def resolveSize (sizeValue : Field ℕ) (sizeUnit : Field SizeUnit) (sizeSqft : Field ℕ)
    (current : Size) : Option Size :=
  if !sizeValue.present && !sizeUnit.present && !sizeSqft.present then none
  else if sizeValue.present || sizeUnit.present then
    let unit := sizeUnit.orElse current.sizeUnit
    match sizeValue.toOption.or current.sizeValue with
    | none => some ⟨none, unit, none⟩
    | some value => some ⟨some value, unit, some (sqftFrom value unit)⟩
  -- a caller that knows square feet only
  else some ⟨sizeSqft.toOption, .SQFT, sizeSqft.toOption⟩

/-- The pair of a type that follows its first bed row. -/
def primaryBed (first : BedInput) : BedType × ℤ := (first.bedType, first.quantity.orElse 1)

def bedRows (roomTypeId : Id) (beds : List BedInput) : List BedRow :=
  beds.zipIdx.map fun (b, i) =>
    { roomTypeId, bedType := b.bedType, quantity := b.quantity.orElse 1, sortOrder := i }

/-- The numbers the rules are about. -/
def shape (t : RoomTypeRecord) : OccupancyShape where
  maxOccupancy := t.maxOccupancy
  baseOccupancy := t.baseOccupancy
  maxAdults := t.maxAdults
  maxChildren := t.maxChildren
  maxInfants := t.maxInfants
  baseRate := t.baseRate
  extraBedPricePaise := t.extraBedPricePaise
  extraBedCapacity := t.extraBedCapacity

variable (propertyId id : Id)

/-- The live types of a property other than one. -/
def others (db : TypesDb) : List RoomTypeRecord :=
  db.types.rows.filter fun t =>
    t.propertyId = propertyId && t.deletedAt.isNone && t.id ≠ id

variable (row : RoomTypeRecord)

/-- The partial unique indexes on the name and on the code, for a row that is written. -/
def indexed (db : TypesDb) : Except TypeErr Unit :=
  if row.deletedAt.isSome then .ok ()
  else if (others row.propertyId row.id db).any fun t => t.name = row.name then
    .error .roomTypeNameTaken
  else if (others row.propertyId row.id db).any fun t => t.code.isSome && t.code = row.code then
    .error .roomTypeCodeTaken
  else .ok ()

def locksOf : List TypeLock :=
  .roomType row.id :: .name row.propertyId row.name ::
    (row.code.map (TypeLock.code row.propertyId)).toList

/-! ## Creating -/

/-- The beds a body lists. -/
def listedBeds (dto : RoomTypeDetailFieldsDto) : List BedInput := dto.beds.toOption.getD []

/-- The row `create` inserts; the first bed row is the primary bed. -/
def newType (dto : RoomTypeInputDto) (isPrivate : Bool) (id : Id) (now : ℤ) :
    RoomTypeRecord :=
  let size := resolveSize dto.sizeValue dto.sizeUnit dto.sizeSqft ⟨none, .SQFT, none⟩
  let primary := (listedBeds dto.toRoomTypeDetailFieldsDto).head?.map primaryBed
  { id
    propertyId
    isPrivate
    name := dto.name
    code := dto.code.toOption
    description := dto.description.toOption
    floorLabel := dto.floorLabel.toOption
    unitKind := dto.unitKind.orElse .ROOM
    -- a plain room is a unit of one room, whatever was sent
    unitRoomCount := if dto.unitKind.orElse .ROOM = .ROOM then 1 else dto.unitRoomCount.orElse 1
    privatePool := dto.privatePool.orElse false
    smokingPolicy := dto.smokingPolicy.orElse .NON_SMOKING
    accessible := dto.accessible.orElse false
    bedType := (primary.map (·.1)).getD dto.bedType
    bedCount := (primary.map (·.2)).getD dto.bedCount
    maxOccupancy := dto.maxOccupancy
    baseOccupancy := dto.baseOccupancy.orElse (min 2 dto.maxOccupancy)
    maxAdults := dto.maxAdults
    maxChildren := dto.maxChildren
    maxInfants := dto.maxInfants.orElse 0
    extraBedAvailable := dto.extraBedAvailable.orElse false
    extraBedType := dto.extraBedType.toOption
    extraBedCapacity := dto.extraBedCapacity.toOption
    extraBedPricePaise := dto.extraBedPricePaise.toOption
    airConditioned := dto.airConditioned
    baseRate := dto.baseRate
    currency := dto.currency.orElse "INR"
    dynamicPricingEnabled := dto.dynamicPricingEnabled.orElse false
    pricesIncludeTax := dto.pricesIncludeTax.orElse false
    sizeSqft := size.bind (·.sizeSqft)
    sizeValue := size.bind (·.sizeValue)
    sizeUnit := (size.map (·.sizeUnit)).getD .SQFT
    status := .ACTIVE
    updatedAt := now
    deletedAt := none }

/-- A key that is taken is answered like a name that is. -/
def insertType (db : TypesDb) : Except TypeErr TypesDb := do
  if db.types.hasKey row.id then throw .roomTypeNameTaken
  indexed row db
  return { db with types := db.types.insert row }

def addBeds (rows : List BedRow) (db : TypesDb) : TypesDb := { db with beds := db.beds ++ rows }

def attachAmenities (attach : List Amenity) (db : TypesDb) : TypesDb :=
  { db with typeAmenities := db.typeAmenities ++ attach.map fun a => (id, a.id) }

/-- A new type, whose id is drawn by the database. -/
def create (dto : RoomTypeInputDto) (isPrivate : Bool) (id : Id) (now : ℤ) :
    TypeOp RoomTypeRecord := do
  let attach ← resolveForScope (dto.amenityIds.toOption.getD []) .ROOM
  let row := newType propertyId dto isPrivate id now
  lift (assertOccupancy (shape row))
  transaction do
    writeChecked (fun _ => locksOf row) (insertType row) fun _ => ()
    when (listedBeds dto.toRoomTypeDetailFieldsDto ≠ []) <|
      write (fun _ => []) (addBeds (bedRows id (listedBeds dto.toRoomTypeDetailFieldsDto)))
        fun _ => ()
    when (attach ≠ []) <|
      write (fun _ => []) (attachAmenities id attach) fun _ => ()
    return row

/-! ## Updating -/

/-- A patch of a column that cannot be empty. -/
def patchRequired {α : Type} (column : String) (f : Field α) (current : α) : Except TypeErr α :=
  match f with
  | .absent => .ok current
  | .null => .error (.notNullViolation column)
  | .given a => .ok a

variable (dto : UpdateRoomTypeDto)

/-- The body names no column of the type. -/
def namesNothing : Bool :=
  !(dto.name.present || dto.code.present || dto.description.present || dto.floorLabel.present ||
    dto.unitKind.present || dto.unitRoomCount.present || dto.privatePool.present ||
    dto.smokingPolicy.present || dto.accessible.present || dto.bedType.present ||
    dto.bedCount.present || dto.maxOccupancy.present || dto.baseOccupancy.present ||
    dto.maxAdults.present || dto.maxChildren.present || dto.maxInfants.present ||
    dto.extraBedAvailable.present || dto.extraBedType.present || dto.extraBedCapacity.present ||
    dto.extraBedPricePaise.present || dto.airConditioned.present || dto.baseRate.present ||
    dto.currency.present || dto.dynamicPricingEnabled.present || dto.pricesIncludeTax.present ||
    dto.status.present || dto.sizeValue.present || dto.sizeUnit.present || dto.sizeSqft.present)

variable (before : RoomTypeRecord)

/-- The numbers as they will be: the patch over the row as it was read. -/
def merged : OccupancyShape where
  maxOccupancy := dto.maxOccupancy.orElse before.maxOccupancy
  baseOccupancy := dto.baseOccupancy.orElse before.baseOccupancy
  maxAdults := dto.maxAdults.orElse before.maxAdults
  maxChildren := dto.maxChildren.orElse before.maxChildren
  maxInfants := dto.maxInfants.orElse before.maxInfants
  baseRate := dto.baseRate.orElse before.baseRate
  extraBedPricePaise := dto.extraBedPricePaise.toOption.or before.extraBedPricePaise
  extraBedCapacity := dto.extraBedCapacity.toOption.or before.extraBedCapacity

/-- The count of rooms in the patch: one for a plain room, when the kind or the count is named. -/
def patchUnitRoomCount (current : ℤ) :
    Except TypeErr ℤ :=
  if (dto.unitKind.present || dto.unitRoomCount.present) &&
      dto.unitKind.orElse before.unitKind = .ROOM then .ok 1
  else patchRequired "unit_room_count" dto.unitRoomCount current

/-- The pair of the primary bed in the patch: the first bed of a new list wins over the fields. -/
def patchBed (current : BedType × ℤ) : Except TypeErr (BedType × ℤ) :=
  match listedBeds dto.toRoomTypeDetailFieldsDto with
  | first :: _ => .ok (primaryBed first)
  | [] => do
    let bedType ← patchRequired "bed_type" dto.bedType current.1
    let bedCount ← patchRequired "bed_count" dto.bedCount current.2
    return (bedType, bedCount)

/-- The row that the patch, made of the row as it was read, leaves of a row. -/
def patched (now : ℤ) (t : RoomTypeRecord) :
    Except TypeErr RoomTypeRecord := do
  let size := (resolveSize dto.sizeValue dto.sizeUnit dto.sizeSqft
    ⟨before.sizeValue, before.sizeUnit, before.sizeSqft⟩).getD
      ⟨t.sizeValue, t.sizeUnit, t.sizeSqft⟩
  let name ← patchRequired "name" dto.name t.name
  let unitKind ← patchRequired "unit_kind" dto.unitKind t.unitKind
  let unitRoomCount ← patchUnitRoomCount dto before t.unitRoomCount
  let privatePool ← patchRequired "private_pool" dto.privatePool t.privatePool
  let smokingPolicy ← patchRequired "smoking_policy" dto.smokingPolicy t.smokingPolicy
  let accessible ← patchRequired "accessible" dto.accessible t.accessible
  let bed ← patchBed dto (t.bedType, t.bedCount)
  let maxOccupancy ← patchRequired "max_occupancy" dto.maxOccupancy t.maxOccupancy
  let baseOccupancy ← patchRequired "base_occupancy" dto.baseOccupancy t.baseOccupancy
  let maxAdults ← patchRequired "max_adults" dto.maxAdults t.maxAdults
  let maxChildren ← patchRequired "max_children" dto.maxChildren t.maxChildren
  let maxInfants ← patchRequired "max_infants" dto.maxInfants t.maxInfants
  let extraBedAvailable ← patchRequired "extra_bed_available" dto.extraBedAvailable
    t.extraBedAvailable
  let airConditioned ← patchRequired "air_conditioned" dto.airConditioned t.airConditioned
  let baseRate ← patchRequired "base_rate" dto.baseRate t.baseRate
  let currency ← patchRequired "currency" dto.currency t.currency
  let dynamicPricingEnabled ← patchRequired "dynamic_pricing_enabled" dto.dynamicPricingEnabled
    t.dynamicPricingEnabled
  let pricesIncludeTax ← patchRequired "prices_include_tax" dto.pricesIncludeTax
    t.pricesIncludeTax
  let status ← patchRequired "status" dto.status t.status
  return { t with
    name
    code := dto.code.patchNullable t.code
    description := dto.description.patchNullable t.description
    floorLabel := dto.floorLabel.patchNullable t.floorLabel
    unitKind
    unitRoomCount
    privatePool
    smokingPolicy
    accessible
    bedType := bed.1
    bedCount := bed.2
    maxOccupancy
    baseOccupancy
    maxAdults
    maxChildren
    maxInfants
    extraBedAvailable
    extraBedType := dto.extraBedType.patchNullable t.extraBedType
    extraBedCapacity := dto.extraBedCapacity.patchNullable t.extraBedCapacity
    extraBedPricePaise := dto.extraBedPricePaise.patchNullable t.extraBedPricePaise
    airConditioned
    baseRate
    currency
    dynamicPricingEnabled
    pricesIncludeTax
    sizeSqft := size.sizeSqft
    sizeValue := size.sizeValue
    sizeUnit := size.sizeUnit
    status
    updatedAt := now }

/-- The row by its key, if it is a live type of the property. -/
def typeOf (db : TypesDb) : Option RoomTypeRecord :=
  (db.types.find? id).filter fun t => t.propertyId = propertyId && t.deletedAt.isNone

def requireRoomType : TypeOp RoomTypeRecord := do
  let row ← select (.roomType id) (typeOf propertyId id)
  orThrow row .roomTypeNotFound

/-- Put a row in the place of the one with its key. -/
def putType (db : TypesDb) : TypesDb :=
  { db with types := db.types.update (fun t => t.id = row.id) (fun t => { row with id := t.id }) }

/-- `UPDATE room_types SET … WHERE id = …`. -/
def updateType (now : ℤ) (db : TypesDb) :
    Except TypeErr TypesDb :=
  match db.types.find? before.id with
  | none => .ok db
  | some t => do
    let row ← patched dto before now t
    indexed row db
    return putType row db

/-- The arrangement of a type is replaced. -/
def replaceBeds (rows : List BedRow) (db : TypesDb) : TypesDb :=
  { db with beds := (db.beds.filter fun b => b.roomTypeId ≠ id) ++ rows }

def replaceAmenities (attach : List Amenity) (db : TypesDb) : TypesDb :=
  { db with
    typeAmenities := (db.typeAmenities.filter fun a => a.1 ≠ id) ++ attach.map fun a => (id, a.id) }

/-- The keys a patch can wait for. -/
def patchLocks : List TypeLock :=
  .roomType before.id ::
    ((dto.name.toOption.map (TypeLock.name before.propertyId)).toList ++
      (dto.code.toOption.map (TypeLock.code before.propertyId)).toList)

/-- The amenities of a new set, if the body has one. -/
def amenitiesToSet (amenityIds : Field (List Id)) : TypeOp (List Amenity) :=
  if amenityIds.present then resolveForScope (amenityIds.toOption.getD []) .ROOM else return []

/-- The row as it was read, and as the patch leaves it. -/
def update (now : ℤ) :
    TypeOp (RoomTypeRecord × Option RoomTypeRecord) := do
  let before ← requireRoomType propertyId id
  -- Checked against the MERGED row, not the patch
  lift (assertOccupancy (merged dto before))
  throwIf (namesNothing dto && !dto.amenityIds.present && !dto.beds.present) .nothingToUpdate
  let attach ← amenitiesToSet dto.amenityIds
  transaction do
    let row ← writeChecked (fun _ => patchLocks dto before) (updateType dto before now)
      fun db => (db.types.find? id).bind fun t => (patched dto before now t).toOption
    when (dto.beds.present = true) <|
      write (fun _ => [])
        (replaceBeds id (bedRows id (listedBeds dto.toRoomTypeDetailFieldsDto))) fun _ => ()
    when (dto.amenityIds.present = true) <|
      write (fun _ => []) (replaceAmenities id attach) fun _ => ()
    return (before, row)

end RoomTypesService

end Travelo.RoomTypeRecords

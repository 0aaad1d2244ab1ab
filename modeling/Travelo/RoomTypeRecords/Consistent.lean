import Travelo.Claims.Narrowing
import Travelo.ReadCommitted.Solo
import Travelo.RoomTypeRecords

/-!
# A room type describes itself consistently

Four groups of columns repeat what others say: the numbers of guests, the size, the rooms of a
plain room and the primary bed. A patch is checked over the row as it was read, and the first bed
of a list is copied to the primary bed only when the list is in the patch. `types_consistent`: one
call after another keeps the first three, and the fourth while no patch names another primary bed
than the list that stays; among other calls the first is kept while the numbers that a patch leaves
out are still those it was checked with.
-/

namespace Travelo.RoomTypeRecords

open ReadCommitted RoomTypeRecords.RoomTypesService

/-! ## Calls -/

/-- A call that writes a type, with the clock and the id that is drawn for a new row. -/
inductive TypeCall where
  | create (propertyId : Id) (dto : RoomTypeInputDto) (isPrivate : Bool) (id : Id) (now : ℤ)
  | update (propertyId id : Id) (dto : UpdateRoomTypeDto) (now : ℤ)

def TypeCall.prog : TypeCall → TypeOp Unit
  | .create propertyId dto isPrivate id now => do
    let _ ← RoomTypesService.create propertyId dto isPrivate id now
  | .update propertyId id dto now => do
    let _ ← RoomTypesService.update propertyId id dto now

abbrev TypeConfig := Config TypesDb TypeLock TypeLook TypeErr Unit

/-! ## The rules -/

/-- The numbers of guests are possible. -/
def Occupies (t : RoomTypeRecord) : Prop := assertOccupancy (shape t) = .ok ()

/-- The canonical size is the one that was typed. -/
def Sized (t : RoomTypeRecord) : Prop := t.sizeSqft = t.sizeValue.map (sqftFrom · t.sizeUnit)

/-- A plain room is a unit of one room. -/
def PlainUnit (t : RoomTypeRecord) : Prop := t.unitKind = .ROOM → t.unitRoomCount = 1

/-- The first bed row of a type. -/
def FirstBed (db : TypesDb) (id : Id) (b : BedRow) : Prop :=
  b ∈ db.beds ∧ b.roomTypeId = id ∧
    ∀ b' ∈ db.beds, b'.roomTypeId = id → b.sortOrder ≤ b'.sortOrder

/-- The primary bed is the first bed row. -/
def Bedded (db : TypesDb) (t : RoomTypeRecord) : Prop :=
  ∀ b ∈ db.beds, FirstBed db t.id b → t.bedType = b.bedType ∧ t.bedCount = b.quantity

/-- A rule for every live type. -/
def EachLive (rule : RoomTypeRecord → Prop) (db : TypesDb) : Prop :=
  ∀ t ∈ db.types.rows, t.deletedAt = none → rule t

/-- The foreign key of the bed rows. -/
def BedsPlaced (db : TypesDb) : Prop := ∀ b ∈ db.beds, ∃ t ∈ db.types.rows, t.id = b.roomTypeId

instance (t : RoomTypeRecord) : Decidable (Occupies t) := inferInstanceAs (Decidable (_ = _))

instance (t : RoomTypeRecord) : Decidable (Sized t) := inferInstanceAs (Decidable (_ = _))

instance (t : RoomTypeRecord) : Decidable (PlainUnit t) := inferInstanceAs (Decidable (_ → _))

instance (db : TypesDb) (id : Id) (b : BedRow) : Decidable (FirstBed db id b) :=
  inferInstanceAs (Decidable (_ ∧ _))

instance (db : TypesDb) (t : RoomTypeRecord) : Decidable (Bedded db t) :=
  inferInstanceAs (Decidable (∀ b ∈ db.beds, _))

instance (rule : RoomTypeRecord → Prop) [DecidablePred rule] (db : TypesDb) :
    Decidable (EachLive rule db) := inferInstanceAs (Decidable (∀ t ∈ db.types.rows, _))

instance (db : TypesDb) : Decidable (BedsPlaced db) :=
  inferInstanceAs (Decidable (∀ b ∈ db.beds, _))

/-! ## What a patch leaves -/

/-- The count of rooms that a patch leaves. -/
def unitRooms (dto : UpdateRoomTypeDto) (before : RoomTypeRecord) (current : ℤ) : ℤ :=
  if (dto.unitKind.present || dto.unitRoomCount.present) &&
      dto.unitKind.orElse before.unitKind = .ROOM then 1
  else dto.unitRoomCount.orElse current

/-- The primary bed that a patch leaves. -/
def primaryPair (dto : UpdateRoomTypeDto) (current : BedType × ℤ) : BedType × ℤ :=
  match listedBeds dto.toRoomTypeDetailFieldsDto with
  | first :: _ => primaryBed first
  | [] => (dto.bedType.orElse current.1, dto.bedCount.orElse current.2)

/-- The size that a patch leaves. -/
def patchedSize (dto : UpdateRoomTypeDto) (before t : RoomTypeRecord) : Size :=
  (resolveSize dto.sizeValue dto.sizeUnit dto.sizeSqft
    ⟨before.sizeValue, before.sizeUnit, before.sizeSqft⟩).getD
      ⟨t.sizeValue, t.sizeUnit, t.sizeSqft⟩

/-- A patch of a column that cannot be empty gives this. -/
def Required {α : Type} (f : Field α) (current a : α) : Prop :=
  (f = .absent ∧ a = current) ∨ f = .given a

/-- The columns of the rules in a row that a patch leaves. -/
structure PatchOf (dto : UpdateRoomTypeDto) (before t row : RoomTypeRecord) : Prop where
  id : row.id = t.id
  deletedAt : row.deletedAt = t.deletedAt
  maxOccupancy : Required dto.maxOccupancy t.maxOccupancy row.maxOccupancy
  baseOccupancy : Required dto.baseOccupancy t.baseOccupancy row.baseOccupancy
  maxAdults : Required dto.maxAdults t.maxAdults row.maxAdults
  maxChildren : Required dto.maxChildren t.maxChildren row.maxChildren
  maxInfants : Required dto.maxInfants t.maxInfants row.maxInfants
  baseRate : Required dto.baseRate t.baseRate row.baseRate
  extraBedPricePaise :
    row.extraBedPricePaise = dto.extraBedPricePaise.patchNullable t.extraBedPricePaise
  extraBedCapacity : row.extraBedCapacity = dto.extraBedCapacity.patchNullable t.extraBedCapacity
  size : (⟨row.sizeValue, row.sizeUnit, row.sizeSqft⟩ : Size) = patchedSize dto before t
  unitKind : row.unitKind = dto.unitKind.orElse t.unitKind
  unitRoomCount : row.unitRoomCount = unitRooms dto before t.unitRoomCount
  bed : (row.bedType, row.bedCount) = primaryPair dto (t.bedType, t.bedCount)

section Patching

variable {α β : Type} {dto : UpdateRoomTypeDto} {before t row : RoomTypeRecord} {now : ℤ}

theorem only_patchRequired (column : String) (f : Field α) (current : α) :
    Claims.Only (patchRequired column f current) (f.orElse current) := by
  intro a h
  cases f with
  | absent =>
    cases h
    rfl
  | null => cases h
  | given b =>
    cases h
    rfl

theorem required_of_ok {column : String} {f : Field α} {current : α}
    (h : patchRequired column f current = .ok (f.orElse current)) :
    Required f current (f.orElse current) := by
  cases f with
  | absent => exact .inl ⟨rfl, rfl⟩
  | null => cases h
  | given a => exact .inr rfl

theorem patchRequired_bind {column : String} {f : Field α} {current : α} {b : β}
    {k : α → Except TypeErr β} :
    (patchRequired column f current >>= k) = .ok b ↔
      patchRequired column f current = .ok (f.orElse current) ∧ k (f.orElse current) = .ok b :=
  (only_patchRequired column f current).bind_ok_iff

theorem only_patchUnitRoomCount (dto : UpdateRoomTypeDto) (before : RoomTypeRecord)
    (current : ℤ) :
    Claims.Only (patchUnitRoomCount dto before current) (unitRooms dto before current) := by
  unfold patchUnitRoomCount unitRooms
  split
  · exact Claims.only_ok 1
  · exact only_patchRequired _ _ _

theorem only_patchBed (dto : UpdateRoomTypeDto) (current : BedType × ℤ) :
    Claims.Only (patchBed dto current) (primaryPair dto current) := by
  rcases hlisted : listedBeds dto.toRoomTypeDetailFieldsDto with _ | ⟨first, rest⟩
  · simp only [patchBed, primaryPair, hlisted]
    refine (only_patchRequired _ _ _).bind ?_
    exact (only_patchRequired _ _ _).bind (Claims.only_ok _)
  · simp only [patchBed, primaryPair, hlisted]
    exact Claims.only_ok _

theorem patched_ok (h : patched dto before now t = .ok row) : PatchOf dto before t row := by
  simp only [patched, patchRequired_bind, (only_patchUnitRoomCount dto before _).bind_ok_iff,
    (only_patchBed dto _).bind_ok_iff] at h
  obtain ⟨-, -, -, -, -, -, -, hmax, hbase, hadults, hchildren, hinfants, -, -, hrate, -, -, -, -,
    hrow⟩ := h
  cases hrow
  exact ⟨rfl, rfl, required_of_ok hmax, required_of_ok hbase, required_of_ok hadults,
    required_of_ok hchildren, required_of_ok hinfants, required_of_ok hrate,
    rfl, rfl, rfl, rfl, rfl, rfl⟩

end Patching

/-! ## What a call leaves, alone -/

/-- What a call that nothing interrupts makes of the types and of their beds. -/
inductive Leaves (db : TypesDb) : TypeCall → TypesDb → Prop where
  | unchanged {call} : Leaves db call db
  | created {propertyId dto isPrivate id now s}
      (hok : Occupies (newType propertyId dto isPrivate id now))
      (hnew : db.types.hasKey id = false)
      (htypes : s.types = db.types.insert (newType propertyId dto isPrivate id now))
      (hbeds : s.beds = db.beds ++ bedRows id (listedBeds dto.toRoomTypeDetailFieldsDto)) :
      Leaves db (.create propertyId dto isPrivate id now) s
  | updated {propertyId id dto now before row s}
      (hbefore : typeOf propertyId id db = some before)
      (hok : assertOccupancy (merged dto before) = .ok ())
      (hrow : patched dto before now before = .ok row)
      (htypes : s.types = (putType row db).types)
      (hbeds : s.beds = if dto.beds.present then
        (replaceBeds id (bedRows id (listedBeds dto.toRoomTypeDetailFieldsDto)) db).beds
          else db.beds) :
      Leaves db (.update propertyId id dto now) s

theorem readOnly_resolveForScope (ids : List Id) (scope : AmenityScope) :
    (resolveForScope ids scope).ReadOnly := by
  unfold resolveForScope
  dsimp only
  split
  · exact .ret _
  · refine .bind (.select _ _) fun rows => ?_
    refine .bind (.ite _ (.throw _) (.pure ())) fun _ => ?_
    exact .bind (.ite _ (.throw _) (.pure ())) fun _ => .ret _

theorem readOnly_amenitiesToSet (amenityIds : Field (List Id)) :
    (amenitiesToSet amenityIds).ReadOnly :=
  .ite _ (readOnly_resolveForScope _ _) (.pure [])

variable {db : TypesDb}

variable {t : RoomTypeRecord}

theorem typeOf_eq_some {propertyId id : Id} (h : typeOf propertyId id db = some t) :
    db.types.find? id = some t ∧ t ∈ db.types.rows ∧ t.id = id ∧ t.deletedAt = none := by
  unfold typeOf at h
  rw [Option.filter_eq_some_iff] at h
  obtain ⟨hfind, hlive⟩ := h
  have hmem := Table.find?_eq_some.mp hfind
  simp only [and_decide_eq, Option.isNone_iff_eq_none] at hlive
  exact ⟨hfind, hmem.1, hmem.2, hlive.2⟩

variable {row : RoomTypeRecord}

theorem insertType_ok {db db' : TypesDb} (h : insertType row db = .ok db') :
    db.types.hasKey row.id = false ∧ db' = { db with types := db.types.insert row } := by
  unfold insertType at h
  cases hkey : db.types.hasKey row.id with
  | true =>
    rw [hkey] at h
    cases h
  | false =>
    rw [hkey] at h
    cases hindexed : indexed row db with
    | error e =>
      rw [hindexed] at h
      cases h
    | ok _ =>
      rw [hindexed] at h
      cases h
      exact ⟨rfl, rfl⟩

variable {dto : UpdateRoomTypeDto}

theorem updateType_ok {before t : RoomTypeRecord} {now : ℤ} {db db' : TypesDb}
    (hfind : db.types.find? before.id = some t) (h : updateType dto before now db = .ok db') :
    ∃ row, patched dto before now t = .ok row ∧ db' = putType row db := by
  unfold updateType at h
  rw [hfind] at h
  dsimp only at h
  cases hrow : patched dto before now t with
  | error e =>
    rw [hrow] at h
    cases h
  | ok row =>
    rw [hrow] at h
    cases hindexed : indexed row db with
    | error e =>
      simp only [bind, Except.bind, hindexed] at h
      cases h
    | ok _ =>
      simp only [bind, Except.bind, hindexed] at h
      cases h
      exact ⟨row, rfl, rfl⟩

theorem leaves_create (propertyId : Id) (dto : RoomTypeInputDto) (isPrivate : Bool) (id : Id)
    (now : ℤ) (db : TypesDb) :
    (TypeCall.prog (.create propertyId dto isPrivate id now)).ends
      (fun _ _ s => Leaves db (.create propertyId dto isPrivate id now) s)
      (fun _ _ s => Leaves db (.create propertyId dto isPrivate id now) s) .idle db := by
  have hsame : Leaves db (.create propertyId dto isPrivate id now) db := .unchanged
  simp only [TypeCall.prog, create, ends_bind]
  refine (readOnly_resolveForScope _ _).ends_idle (fun attach => ?_) fun e => hsame
  simp only [ends_simps, ends_when, hsame]
  intro _ hok db' hinsert
  have hnew := (insertType_ok hinsert).1
  have hdb : applied (insertType (newType propertyId dto isPrivate id now)) db =
      { db with types := db.types.insert (newType propertyId dto isPrivate id now) } := by
    rw [applied, show insertType _ db = _ from hinsert]
    exact (insertType_ok hinsert).2
  have htypes := congrArg TypesDb.types hdb
  have hbeds := congrArg TypesDb.beds hdb
  have hlist : ∀ l, (applied (insertType (newType propertyId dto isPrivate id now)) db).beds ++ l =
      db.beds ++ l := fun l => congrArg (· ++ l) hbeds
  refine ⟨fun _ => ⟨fun _ => ?_, fun _ => ?_⟩, fun hnone => ⟨fun _ => ?_, fun _ => ?_⟩⟩
  · exact .created hok hnew htypes (hlist _)
  · exact .created hok hnew htypes (hlist _)
  · rw [not_not] at hnone
    refine .created hok hnew htypes (hbeds.trans ?_)
    rw [hnone, bedRows, List.zipIdx_nil, List.map_nil, List.append_nil]
  · rw [not_not] at hnone
    refine .created hok hnew htypes (hbeds.trans ?_)
    rw [hnone, bedRows, List.zipIdx_nil, List.map_nil, List.append_nil]

theorem leaves_update (propertyId id : Id) (dto : UpdateRoomTypeDto) (now : ℤ) (db : TypesDb) :
    (TypeCall.prog (.update propertyId id dto now)).ends
      (fun _ _ s => Leaves db (.update propertyId id dto now) s)
      (fun _ _ s => Leaves db (.update propertyId id dto now) s) .idle db := by
  have hsame : Leaves db (.update propertyId id dto now) db := .unchanged
  simp only [TypeCall.prog, update, requireRoomType, ends_simps, hsame]
  intro before hbefore _ hok _
  refine (readOnly_amenitiesToSet _).ends_idle (fun attach => ?_) fun e => hsame
  simp only [ends_simps, ends_when, hsame]
  intro db' hupdate
  obtain ⟨hfind, -, hid, -⟩ := typeOf_eq_some hbefore
  obtain ⟨row, hrow, hdb'⟩ := updateType_ok (hid ▸ hfind) hupdate
  have hdb : applied (updateType dto before now) db = putType row db := by
    rw [applied, show updateType dto before now db = _ from hupdate]
    exact hdb'
  have htypes := congrArg TypesDb.types hdb
  have hkept : (applied (updateType dto before now) db).beds = db.beds := by
    rw [hdb]
    rfl
  have hreplaced : (replaceBeds id (bedRows id (listedBeds dto.toRoomTypeDetailFieldsDto))
      (applied (updateType dto before now) db)).beds =
      (replaceBeds id (bedRows id (listedBeds dto.toRoomTypeDetailFieldsDto)) db).beds := by
    rw [replaceBeds, replaceBeds, hkept]
  refine ⟨fun hbeds => ⟨fun _ => ?_, fun _ => ?_⟩, fun hbeds => ⟨fun _ => ?_, fun _ => ?_⟩⟩
  · exact .updated hbefore hok hrow htypes (hreplaced.trans (if_pos hbeds).symm)
  · exact .updated hbefore hok hrow htypes (hreplaced.trans (if_pos hbeds).symm)
  · exact .updated hbefore hok hrow htypes (hkept.trans (if_neg hbeds).symm)
  · exact .updated hbefore hok hrow htypes (hkept.trans (if_neg hbeds).symm)

theorem TypeCall.leaves (call : TypeCall) (φ : ℕ → Option String) (db : TypesDb) :
    Leaves db call (call.prog.runWith φ db).db := by
  refine ends_runWith ?_ φ
  cases call with
  | create propertyId dto isPrivate id now => exact leaves_create _ _ _ _ _ _
  | update propertyId id dto now => exact leaves_update _ _ _ _ _

/-! ## The rules are kept -/

/-- The rules that the numbers of guests must meet. -/
structure Possible (v : OccupancyShape) : Prop where
  base : 1 ≤ v.baseOccupancy
  adults : 1 ≤ v.maxAdults
  children : 0 ≤ v.maxChildren
  infants : 0 ≤ v.maxInfants
  extraBed : 0 ≤ v.extraBedCapacity.getD 0
  base_le : v.baseOccupancy ≤ v.maxOccupancy
  adults_le : v.maxAdults ≤ v.maxOccupancy
  le_ceiling : v.maxOccupancy ≤ v.maxAdults + v.maxChildren + v.maxInfants
  rate : 0 ≤ v.baseRate
  extraBedPrice : 0 ≤ v.extraBedPricePaise.getD 0

theorem assertOccupancy_ok_iff {v : OccupancyShape} : assertOccupancy v = .ok () ↔ Possible v := by
  have hpassed : assertOccupancy v = .ok () ↔ Travelo.assertOccupancy v = .ok () := by
    unfold assertOccupancy
    split <;> simp_all
  rw [hpassed, Travelo.assertOccupancy]
  simp only [List.forIn_cons, List.forIn_nil, pure_bind, bind_assoc, Claims.ite_throw_ok_iff,
    Claims.ite_throw_bind_ok_iff]
  constructor
  · rintro ⟨hbase, hadults, hchildren, hinfants, hextra, hble, hale, hceiling, hrate, hprice, -⟩
    constructor <;> omega
  · rintro ⟨hbase, hadults, hchildren, hinfants, hextra, hble, hale, hceiling, hrate, hprice⟩
    refine ⟨?_, ?_, ?_, ?_, ?_, ?_, ?_, ?_, ?_, ?_, rfl⟩ <;> omega

/-- What a patch leaves out of a column is still as it was read. -/
def Still {α β : Type} (f : Field α) (read current : β) : Prop := f = .absent → current = read

instance {α β : Type} [DecidableEq α] [DecidableEq β] (f : Field α) (read current : β) :
    Decidable (Still f read current) := inferInstanceAs (Decidable (_ → _))

/-- What a patch leaves out of the numbers of guests is still as it was read. -/
@[mk_iff]
structure StillAsRead (dto : UpdateRoomTypeDto) (before t : RoomTypeRecord) : Prop where
  maxOccupancy : Still dto.maxOccupancy before.maxOccupancy t.maxOccupancy
  baseOccupancy : Still dto.baseOccupancy before.baseOccupancy t.baseOccupancy
  maxAdults : Still dto.maxAdults before.maxAdults t.maxAdults
  maxChildren : Still dto.maxChildren before.maxChildren t.maxChildren
  maxInfants : Still dto.maxInfants before.maxInfants t.maxInfants
  baseRate : Still dto.baseRate before.baseRate t.baseRate
  extraBedPricePaise : Still dto.extraBedPricePaise before.extraBedPricePaise t.extraBedPricePaise
  extraBedCapacity : Still dto.extraBedCapacity before.extraBedCapacity t.extraBedCapacity

instance (dto : UpdateRoomTypeDto) (before t : RoomTypeRecord) :
    Decidable (StillAsRead dto before t) := decidable_of_iff _ (stillAsRead_iff dto before t).symm

/-- A patch names none of the numbers of guests. -/
@[mk_iff]
structure NamesNoNumber (dto : UpdateRoomTypeDto) : Prop where
  maxOccupancy : dto.maxOccupancy = .absent
  baseOccupancy : dto.baseOccupancy = .absent
  maxAdults : dto.maxAdults = .absent
  maxChildren : dto.maxChildren = .absent
  maxInfants : dto.maxInfants = .absent
  baseRate : dto.baseRate = .absent
  extraBedPricePaise : dto.extraBedPricePaise = .absent
  extraBedCapacity : dto.extraBedCapacity = .absent

instance (dto : UpdateRoomTypeDto) : Decidable (NamesNoNumber dto) :=
  decidable_of_iff _ (namesNoNumber_iff dto).symm

theorem StillAsRead.refl (dto : UpdateRoomTypeDto) (t : RoomTypeRecord) : StillAsRead dto t t := by
  constructor <;> exact fun _ => rfl

section Rules

variable {dto : UpdateRoomTypeDto} {before t row : RoomTypeRecord}

theorem Required.eq_merged {f : Field ℤ} {read current a : ℤ} (h : Required f current a)
    (hstill : Still f read current) : a = f.orElse read := by
  rcases h with ⟨habsent, ha⟩ | hgiven
  · rw [ha, hstill habsent, habsent]
    rfl
  · rw [hgiven]
    rfl

theorem Required.eq_current {α : Type} {f : Field α} {current a : α} (h : Required f current a)
    (habsent : f = .absent) : a = current := by
  rcases h with ⟨-, ha⟩ | hgiven
  · exact ha
  · rw [habsent] at hgiven
    cases hgiven

theorem patchNullable_nonneg {f : Field ℤ} {read current : Option ℤ} (hstill : Still f read current)
    (h : 0 ≤ (f.toOption.or read).getD 0) : 0 ≤ (f.patchNullable current).getD 0 := by
  cases f with
  | absent =>
    have hsame : current = read := hstill rfl
    rw [← hsame] at h
    exact h
  | null => exact le_rfl
  | given a => exact h

theorem PatchOf.occupies (hpatch : PatchOf dto before t row) (hstill : StillAsRead dto before t)
    (hok : assertOccupancy (merged dto before) = .ok ()) : Occupies row := by
  have hchecked := assertOccupancy_ok_iff.mp hok
  have hmax := hpatch.maxOccupancy.eq_merged hstill.maxOccupancy
  have hbase := hpatch.baseOccupancy.eq_merged hstill.baseOccupancy
  have hadults := hpatch.maxAdults.eq_merged hstill.maxAdults
  have hchildren := hpatch.maxChildren.eq_merged hstill.maxChildren
  have hinfants := hpatch.maxInfants.eq_merged hstill.maxInfants
  have hrate := hpatch.baseRate.eq_merged hstill.baseRate
  rw [Occupies, assertOccupancy_ok_iff]
  constructor <;> dsimp only [shape]
  · rw [hbase]
    exact hchecked.base
  · rw [hadults]
    exact hchecked.adults
  · rw [hchildren]
    exact hchecked.children
  · rw [hinfants]
    exact hchecked.infants
  · rw [hpatch.extraBedCapacity]
    exact patchNullable_nonneg hstill.extraBedCapacity hchecked.extraBed
  · rw [hbase, hmax]
    exact hchecked.base_le
  · rw [hadults, hmax]
    exact hchecked.adults_le
  · rw [hmax, hadults, hchildren, hinfants]
    exact hchecked.le_ceiling
  · rw [hrate]
    exact hchecked.rate
  · rw [hpatch.extraBedPricePaise]
    exact patchNullable_nonneg hstill.extraBedPricePaise hchecked.extraBedPrice

theorem PatchOf.shape_eq (hpatch : PatchOf dto before t row) (hnone : NamesNoNumber dto) :
    shape row = shape t := by
  have hprice := hpatch.extraBedPricePaise
  have hcapacity := hpatch.extraBedCapacity
  rw [hnone.extraBedPricePaise] at hprice
  rw [hnone.extraBedCapacity] at hcapacity
  unfold shape
  rw [hpatch.maxOccupancy.eq_current hnone.maxOccupancy,
    hpatch.baseOccupancy.eq_current hnone.baseOccupancy,
    hpatch.maxAdults.eq_current hnone.maxAdults,
    hpatch.maxChildren.eq_current hnone.maxChildren,
    hpatch.maxInfants.eq_current hnone.maxInfants, hpatch.baseRate.eq_current hnone.baseRate,
    hprice, hcapacity]
  rfl

/-- The two shapes of a size say the same. -/
def Size.Agrees (z : Size) : Prop := z.sizeSqft = z.sizeValue.map (sqftFrom · z.sizeUnit)

theorem agrees_resolveSize {sizeValue sizeSqft : Field ℕ} {sizeUnit : Field SizeUnit}
    {current z : Size} (h : resolveSize sizeValue sizeUnit sizeSqft current = some z) :
    Size.Agrees z := by
  unfold resolveSize at h
  split at h
  · cases h
  · split at h
    · dsimp only at h
      split at h
      · cases h
        rfl
      · cases h
        rfl
    · cases h
      cases sizeSqft with
      | absent => rfl
      | null => rfl
      | given value => rfl

theorem PatchOf.sized (hpatch : PatchOf dto t t row) (ht : Sized t) : Sized row := by
  have hagrees : Size.Agrees (patchedSize dto t t) := by
    unfold patchedSize
    cases hsize : resolveSize dto.sizeValue dto.sizeUnit dto.sizeSqft
        ⟨t.sizeValue, t.sizeUnit, t.sizeSqft⟩ with
    | none => exact ht
    | some z => exact agrees_resolveSize hsize
  rw [← hpatch.size] at hagrees
  exact hagrees

theorem PatchOf.plainUnit (hpatch : PatchOf dto t t row) (ht : PlainUnit t) : PlainUnit row := by
  intro hroom
  rw [hpatch.unitKind] at hroom
  rw [hpatch.unitRoomCount, unitRooms]
  split
  · rfl
  · rename_i huntouched
    -- neither the kind nor the count is in the patch
    simp only [hroom, decide_true, Bool.and_true, Bool.or_eq_true, not_or] at huntouched
    obtain ⟨hkind, hcount⟩ := huntouched
    cases hk : dto.unitKind with
    | absent =>
      cases hc : dto.unitRoomCount with
      | absent =>
        rw [hk] at hroom
        exact ht hroom
      | null => exact absurd (by rw [hc]; rfl) hcount
      | given n => exact absurd (by rw [hc]; rfl) hcount
    | null => exact absurd (by rw [hk]; rfl) hkind
    | given k => exact absurd (by rw [hk]; rfl) hkind

end Rules

section NewTypes

variable {propertyId id : Id} {dto : RoomTypeInputDto} {isPrivate : Bool} {now : ℤ}

theorem sized_newType : Sized (newType propertyId dto isPrivate id now) := by
  unfold Sized newType
  dsimp only
  cases hsize : resolveSize dto.sizeValue dto.sizeUnit dto.sizeSqft ⟨none, .SQFT, none⟩ with
  | none => rfl
  | some z => exact agrees_resolveSize hsize

theorem plainUnit_newType : PlainUnit (newType propertyId dto isPrivate id now) := by
  intro hroom
  exact if_pos hroom

end NewTypes

/-! ## Beds -/

variable {b : BedRow} {beds : List BedInput}

variable {id : Id}

theorem mem_bedRows :
    b ∈ bedRows id beds ↔
      ∃ x i, beds[i]? = some x ∧ b = ⟨id, x.bedType, x.quantity.orElse 1, i⟩ := by
  simp only [bedRows, List.mem_map, Prod.exists, List.mem_zipIdx_iff_getElem?]
  constructor
  · rintro ⟨x, i, hx, rfl⟩
    exact ⟨x, i, hx, rfl⟩
  · rintro ⟨x, i, hx, rfl⟩
    exact ⟨x, i, hx, rfl⟩

theorem roomTypeId_bedRows (h : b ∈ bedRows id beds) : b.roomTypeId = id := by
  obtain ⟨x, i, -, rfl⟩ := mem_bedRows.mp h
  rfl

/-- When the rows of a type are those of a list, the first is the first of the list. -/
theorem firstBed_listed (hrows : ∀ b, b.roomTypeId = id → (b ∈ db.beds ↔ b ∈ bedRows id beds))
    (hb : FirstBed db id b) :
    ∃ first rest, beds = first :: rest ∧ (b.bedType, (b.quantity : ℤ)) = primaryBed first := by
  obtain ⟨hmem, hid, hleast⟩ := hb
  obtain ⟨x, i, hx, rfl⟩ := mem_bedRows.mp ((hrows _ hid).mp hmem)
  cases beds with
  | nil => cases hx
  | cons first rest =>
    have hfirst : (⟨id, first.bedType, first.quantity.orElse 1, 0⟩ : BedRow) ∈
        bedRows id (first :: rest) := mem_bedRows.mpr ⟨first, 0, rfl, rfl⟩
    have hle : i ≤ 0 := hleast _ ((hrows _ rfl).mpr hfirst) rfl
    obtain rfl := Nat.le_zero.mp hle
    have hx' : first = x := Option.some.inj hx
    subst hx'
    exact ⟨first, rest, rfl, rfl⟩

theorem firstBed_congr {db db' : TypesDb}
    (hrows : ∀ b, b.roomTypeId = id → (b ∈ db'.beds ↔ b ∈ db.beds)) (hb : FirstBed db' id b) :
    FirstBed db id b := by
  obtain ⟨hmem, hid, hleast⟩ := hb
  exact ⟨(hrows b hid).mp hmem, hid, fun b' hb' hid' => hleast b' ((hrows b' hid').mpr hb') hid'⟩

theorem Bedded.congr {db db' : TypesDb} (h : Bedded db t)
    (hrows : ∀ b, b.roomTypeId = t.id → (b ∈ db'.beds ↔ b ∈ db.beds)) : Bedded db' t := by
  intro b _ hb
  have hfirst := firstBed_congr hrows hb
  exact h b hfirst.1 hfirst

/-- A type whose rows are those of a list, with the first of the list as its primary bed. -/
theorem bedded_listed (beds : List BedInput)
    (hrows : ∀ b, b.roomTypeId = t.id → (b ∈ db.beds ↔ b ∈ bedRows t.id beds))
    (hpair : ∀ first rest, beds = first :: rest → (t.bedType, t.bedCount) = primaryBed first) :
    Bedded db t := by
  intro b _ hb
  obtain ⟨first, rest, hbeds, hb'⟩ := firstBed_listed hrows hb
  have heq := (hpair first rest hbeds).trans hb'.symm
  exact Prod.mk.inj heq

/-- A patch without a list of beds names no other primary bed than the list that stays. -/
def KeepsPrimary (db : TypesDb) : TypeCall → Prop
  | .create .. => True
  | .update _ id dto _ => dto.beds.present = true ∨ ∀ b ∈ db.beds, FirstBed db id b →
      dto.bedType.orElse b.bedType = b.bedType ∧ dto.bedCount.orElse b.quantity = b.quantity

instance (db : TypesDb) : (call : TypeCall) → Decidable (KeepsPrimary db call)
  | .create .. => .isTrue trivial
  | .update _ _ _ _ => inferInstanceAs (Decidable (_ ∨ _))

/-! ## Steps and runs -/

theorem mem_putType {row t : RoomTypeRecord} (h : t ∈ (putType row db).types.rows) :
    t = row ∨ t ∈ db.types.rows ∧ t.id ≠ row.id := by
  have hmem : t ∈ Table.update db.types (fun t => t.id = row.id)
    (fun t => { row with id := t.id }) (fun _ => rfl) := h
  rw [mem_update] at hmem
  obtain ⟨a, ha, heq⟩ := hmem
  by_cases hid : a.id = row.id
  · left
    rw [heq, if_pos (by simpa using hid), hid]
  · right
    rw [if_neg (by simpa using hid)] at heq
    exact ⟨heq ▸ ha, heq ▸ hid⟩

theorem putType_keeps_id (row : RoomTypeRecord) (h : t ∈ db.types.rows) :
    ∃ t' ∈ (putType row db).types.rows, t'.id = t.id := by
  refine ⟨if t.id = row.id then { row with id := t.id } else t, ?_, ?_⟩
  · refine List.mem_map.mpr ⟨t, h, ?_⟩
    simp only [decide_eq_true_eq]
  · split <;> rfl

variable {rule : RoomTypeRecord → Prop}

theorem EachLive.put {db db' : TypesDb} (h : EachLive rule db)
    (htypes : db'.types = (putType row db).types) (hrow : row.deletedAt = none → rule row) :
    EachLive rule db' := by
  intro t ht hlive
  rw [htypes] at ht
  rcases mem_putType ht with rfl | ⟨hmem, -⟩
  · exact hrow hlive
  · exact h t hmem hlive

theorem EachLive.insert {db db' : TypesDb} (h : EachLive rule db)
    (htypes : db'.types = db.types.insert row) (hrow : rule row) :
    EachLive rule db' := by
  intro t ht hlive
  rw [htypes] at ht
  rcases mem_or_eq_of_mem_insert ht with hmem | rfl
  · exact h t hmem hlive
  · exact hrow

/-- What holds whatever the patches name. -/
structure Described (db : TypesDb) : Prop where
  occupied : EachLive Occupies db
  sized : EachLive Sized db
  plainUnits : EachLive PlainUnit db
  bedsPlaced : BedsPlaced db

variable {call : TypeCall}

theorem Leaves.described {db s : TypesDb} (h : Leaves db call s) (hdb : Described db) :
    Described s := by
  cases h with
  | unchanged => exact hdb
  | created hok hnew htypes hbeds =>
    refine ⟨hdb.occupied.insert htypes hok, hdb.sized.insert htypes sized_newType,
      hdb.plainUnits.insert htypes plainUnit_newType, ?_⟩
    intro b hb
    rw [hbeds, List.mem_append] at hb
    rw [htypes]
    rcases hb with hb | hb
    · obtain ⟨t, ht, hid⟩ := hdb.bedsPlaced b hb
      exact ⟨t, mem_insert_of_mem ht, hid⟩
    · exact ⟨_, (mem_insert hnew).mpr (.inr rfl), (roomTypeId_bedRows hb).symm⟩
  | @updated propertyId id dto now before row s hbefore hok hrow htypes hbeds =>
    obtain ⟨-, hmem, hid, hlive⟩ := typeOf_eq_some hbefore
    have hpatch := patched_ok hrow
    refine ⟨hdb.occupied.put htypes fun _ => hpatch.occupies (.refl dto before) hok,
      hdb.sized.put htypes fun _ => hpatch.sized (hdb.sized before hmem hlive),
      hdb.plainUnits.put htypes fun _ => hpatch.plainUnit (hdb.plainUnits before hmem hlive), ?_⟩
    intro b hb
    -- the rows of a new list are those of the type that is updated
    have hplaced : ∃ t ∈ db.types.rows, t.id = b.roomTypeId := by
      rw [hbeds] at hb
      split at hb
      · rcases List.mem_append.mp hb with hb | hb
        · exact hdb.bedsPlaced b (List.mem_filter.mp hb).1
        · exact ⟨before, hmem, hid.trans (roomTypeId_bedRows hb).symm⟩
      · exact hdb.bedsPlaced b hb
    obtain ⟨t, ht, htid⟩ := hplaced
    obtain ⟨t', ht', hid'⟩ := putType_keeps_id row ht
    exact ⟨t', htypes ▸ ht', hid'.trans htid⟩

theorem listedBeds_of_absent {dto : RoomTypeDetailFieldsDto} (h : ¬dto.beds.present = true) :
    listedBeds dto = [] := by
  cases hbeds : dto.beds with
  | absent => simp only [listedBeds, hbeds, Field.toOption, Option.getD_none]
  | null => exact absurd (by rw [hbeds]; rfl) h
  | given l => exact absurd (by rw [hbeds]; rfl) h

theorem bedded_created {db s : TypesDb} {propertyId id : Id} {dto : RoomTypeInputDto}
    {isPrivate : Bool} {now : ℤ} (hplaced : BedsPlaced db) (hdb : EachLive (Bedded db) db)
    (hnew : db.types.hasKey id = false)
    (htypes : s.types = db.types.insert (newType propertyId dto isPrivate id now))
    (hbeds : s.beds = db.beds ++ bedRows id (listedBeds dto.toRoomTypeDetailFieldsDto)) :
    EachLive (Bedded s) s := by
  have hfresh : ∀ b ∈ db.beds, b.roomTypeId ≠ id := by
    intro b hb heq
    obtain ⟨t, ht, hid⟩ := hplaced b hb
    exact Table.hasKey_eq_false.mp hnew t ht (hid.trans heq)
  intro t ht hlive
  rw [htypes] at ht
  rcases (mem_insert hnew).mp ht with ht | rfl
  · refine (hdb t ht hlive).congr fun b hb => ?_
    rw [hbeds, List.mem_append, or_iff_left]
    intro hrow
    exact Table.hasKey_eq_false.mp hnew t ht (hb.symm.trans (roomTypeId_bedRows hrow))
  · refine bedded_listed (listedBeds dto.toRoomTypeDetailFieldsDto) (fun b hb => ?_) ?_
    · rw [hbeds, List.mem_append]
      exact or_iff_right fun hold => hfresh b hold hb
    · intro first rest hlisted
      simp only [newType, hlisted]
      rfl

theorem bedded_patched {db s : TypesDb} {before row : RoomTypeRecord} (hid : row.id = id)
    (hbefore : before.id = id) (hdb : Bedded db before) (hpatch : PatchOf dto before before row)
    (hbeds : s.beds = if dto.beds.present then
      (replaceBeds id (bedRows id (listedBeds dto.toRoomTypeDetailFieldsDto)) db).beds else db.beds)
    (hkeeps : dto.beds.present = true ∨ ∀ b ∈ db.beds, FirstBed db id b →
      dto.bedType.orElse b.bedType = b.bedType ∧ dto.bedCount.orElse b.quantity = b.quantity) :
    Bedded s row := by
  by_cases hpresent : dto.beds.present = true
  · refine bedded_listed (listedBeds dto.toRoomTypeDetailFieldsDto) (fun b hb => ?_) ?_
    · rw [hbeds, if_pos hpresent, replaceBeds, List.mem_append, List.mem_filter, hid, or_iff_right]
      rw [hid] at hb
      simp [hb]
    · intro first rest hlisted
      rw [hpatch.bed, primaryPair, hlisted]
  · rw [if_neg hpresent] at hbeds
    intro b _ hfirst
    have hfirst' : FirstBed db id b := firstBed_congr (fun b _ => by rw [hbeds]) (hid ▸ hfirst)
    obtain ⟨htype, hcount⟩ := hkeeps.resolve_left hpresent b hfirst'.1 hfirst'
    obtain ⟨htype', hcount'⟩ := hdb b hfirst'.1 (hbefore.symm ▸ hfirst')
    have hbed := hpatch.bed
    rw [primaryPair, listedBeds_of_absent hpresent, htype', hcount', htype, hcount] at hbed
    exact Prod.mk.inj hbed

theorem beds_elsewhere {db s : TypesDb} (hbeds : s.beds = if dto.beds.present then
      (replaceBeds id (bedRows id (listedBeds dto.toRoomTypeDetailFieldsDto)) db).beds else db.beds)
    (hb : b.roomTypeId ≠ id) : b ∈ s.beds ↔ b ∈ db.beds := by
  rw [hbeds]
  split
  · rw [replaceBeds, List.mem_append, List.mem_filter, or_iff_left, and_iff_left]
    · simpa using hb
    · exact fun hrow => hb (roomTypeId_bedRows hrow)
  · rfl

theorem Leaves.bedded {db s : TypesDb} (h : Leaves db call s) (hplaced : BedsPlaced db)
    (hdb : EachLive (Bedded db) db) (hkeeps : KeepsPrimary db call) :
    EachLive (Bedded s) s := by
  cases h with
  | unchanged => exact hdb
  | created _ hnew htypes hbeds => exact bedded_created hplaced hdb hnew htypes hbeds
  | updated hbefore _ hrow htypes hbeds =>
    obtain ⟨-, hmem, hid, hlive⟩ := typeOf_eq_some hbefore
    have hpatch := patched_ok hrow
    have hrowid := hpatch.id.trans hid
    intro t ht hlive'
    rw [htypes] at ht
    rcases mem_putType ht with rfl | ⟨hold, hne⟩
    · exact bedded_patched hrowid hid (hdb _ hmem hlive) hpatch hbeds hkeeps
    · refine (hdb t hold hlive').congr fun b hb => beds_elsewhere hbeds ?_
      rw [hb, ← hrowid]
      exact hne

/-- The run lemma: the rules that no patch breaks, in every state that is reached. -/
theorem described_run (hdb : Described db) (steps : List (TypeCall × (ℕ → Option String))) :
    Described (runAll TypeCall.prog steps db) := by
  have hsteps : EachStep TypeCall.prog (fun _ s s' => Described s → Described s') steps db :=
    EachStep.mono (I := fun _ => True)
      (fun call s φ _ _ => ⟨fun hs => (call.leaves φ s).described hs, trivial⟩) steps db
      (eachStep_true steps db) trivial
  exact hsteps.invariant (fun _ _ _ hstep hs => hstep hs) steps db hdb

theorem bedded_run (hdb : Described db) (hbedded : EachLive (Bedded db) db)
    {steps : List (TypeCall × (ℕ → Option String))}
    (hkeeps : EachStep TypeCall.prog (fun call s _ => KeepsPrimary s call) steps db) :
    EachLive (Bedded (runAll TypeCall.prog steps db)) (runAll TypeCall.prog steps db) := by
  have hsteps : EachStep TypeCall.prog (fun _ _ s' => Described s' ∧ EachLive (Bedded s') s') steps
      db := by
    refine EachStep.mono (I := fun s => Described s ∧ EachLive (Bedded s) s)
      (fun call s φ hs hkeep => ?_) steps db hkeeps ⟨hdb, hbedded⟩
    have hleaves := call.leaves φ s
    have hdescribed := hleaves.described hs.1
    have hbeds := hleaves.bedded hs.1.bedsPlaced hs.2 hkeep
    exact ⟨⟨hdescribed, hbeds⟩, hdescribed, hbeds⟩
  exact (EachStep.invariant (I := fun s => Described s ∧ EachLive (Bedded s) s)
    (fun _ _ _ hnext _ => hnext) steps db hsteps ⟨hdb, hbedded⟩).2

/-! ## Among other calls -/

/-- What a call publishes of the types. -/
inductive TypeWrite : TypeCall → TypeTrace → (TypesDb → TypesDb) → Prop where
  | created {propertyId dto isPrivate id now h w}
      (hok : Occupies (newType propertyId dto isPrivate id now))
      (hw : ∀ db, (w db).types =
        (applied (insertType (newType propertyId dto isPrivate id now)) db).types) :
      TypeWrite (.create propertyId dto isPrivate id now) h w
  | updated {propertyId id dto now before b h w} (hread : (.roomType id, b) ∈ reads h)
      (hbefore : typeOf propertyId id b = some before)
      (hok : assertOccupancy (merged dto before) = .ok ())
      (hw : ∀ db, (w db).types = (applied (updateType dto before now) db).types) :
      TypeWrite (.update propertyId id dto now) h w

theorem wp_create (propertyId : Id) (dto : RoomTypeInputDto) (isPrivate : Bool) (id : Id)
    (now : ℤ) :
    (TypeCall.prog (.create propertyId dto isPrivate id now)).wp
      (TypeWrite (.create propertyId dto isPrivate id now)) (fun _ _ _ => True)
      (fun _ _ _ => True) [] .idle := by
  simp only [TypeCall.prog, create, wp_bind]
  refine (readOnly_resolveForScope _ _).wp_idle [] (fun attach o _ => ?_) fun _ _ _ => trivial
  simp only [wp_simps, wp_when]
  intro _ hok _ _ _
  exact ⟨fun _ _ => ⟨fun _ _ => .created hok fun _ => rfl, fun _ => .created hok fun _ => rfl⟩,
    fun _ => ⟨fun _ _ => .created hok fun _ => rfl, fun _ => .created hok fun _ => rfl⟩⟩

theorem wp_update (propertyId id : Id) (dto : UpdateRoomTypeDto) (now : ℤ) :
    (TypeCall.prog (.update propertyId id dto now)).wp
      (TypeWrite (.update propertyId id dto now)) (fun _ _ _ => True) (fun _ _ _ => True)
      [] .idle := by
  simp only [TypeCall.prog, update, requireRoomType, wp_simps]
  intro db before hbefore _ hok _
  refine (readOnly_amenitiesToSet _).wp_idle _ (fun attach o _ => ?_) fun _ _ _ => trivial
  simp only [wp_simps, wp_when]
  intro _ _ _
  have hread : (.roomType id, db) ∈ reads (o ++ [.saw (.roomType id) db]) :=
    mem_reads.mpr (List.mem_append_right o List.mem_cons_self)
  have hwrite : ∀ w, (∀ db, (w db).types = (applied (updateType dto before now) db).types) →
      TypeWrite (.update propertyId id dto now) (o ++ [.saw (.roomType id) db]) w :=
    fun w hw => .updated hread hbefore hok hw
  exact ⟨fun _ _ => ⟨fun _ _ => hwrite _ fun _ => rfl, fun _ => hwrite _ fun _ => rfl⟩,
    fun _ => ⟨fun _ _ => hwrite _ fun _ => rfl, fun _ => hwrite _ fun _ => rfl⟩⟩

theorem TypeCall.wp_prog (call : TypeCall) :
    call.prog.wp (TypeWrite call) (fun _ _ _ => True) (fun _ _ _ => True) [] .idle := by
  cases call with
  | create propertyId dto isPrivate id now => exact wp_create _ _ _ _ _
  | update propertyId id dto now => exact wp_update _ _ _ _

/-- A patch that names one of the numbers finds those it leaves out as they were checked. -/
def MergedAsRead (h : TypeTrace) (now : TypesDb) : TypeCall → Prop
  | .create .. => True
  | .update propertyId id dto _ => NamesNoNumber dto ∨ ∀ r ∈ reads h, r.1 = .roomType id →
      ∀ before ∈ typeOf propertyId id r.2, ∀ t ∈ now.types.find? id, StillAsRead dto before t

instance (h : TypeTrace) (now : TypesDb) : (call : TypeCall) → Decidable (MergedAsRead h now call)
  | .create .. => .isTrue trivial
  | .update propertyId id dto _ => inferInstanceAs (Decidable (NamesNoNumber dto ∨ ∀ r ∈ reads h,
      r.1 = _ → ∀ before ∈ typeOf propertyId id r.2, ∀ t ∈ now.types.find? id,
        StillAsRead dto before t))

theorem TypeWrite.occupied {h : TypeTrace} {w : TypesDb → TypesDb} {now : TypesDb}
    (hwrite : TypeWrite call h w) (hstill : MergedAsRead h now call)
    (hnow : EachLive Occupies now) : EachLive Occupies (w now) := by
  cases hwrite with
  | @created propertyId dto isPrivate id created h w hok hw =>
    specialize hw now
    unfold applied at hw
    split at hw
    · rename_i db' hinsert
      rw [(insertType_ok hinsert).2] at hw
      exact hnow.insert hw hok
    · intro t ht
      rw [hw] at ht
      exact hnow t ht
  | @updated propertyId id dto updated before b h w hread hbefore hok hw =>
    specialize hw now
    obtain ⟨-, -, hid, -⟩ := typeOf_eq_some hbefore
    unfold applied at hw
    split at hw
    · rename_i db' hupdate
      cases hfind : now.types.find? before.id with
      | none =>
        simp only [updateType, hfind] at hupdate
        cases hupdate
        intro t ht
        rw [hw] at ht
        exact hnow t ht
      | some t =>
        obtain ⟨row, hrow, rfl⟩ := updateType_ok hfind hupdate
        have hpatch := patched_ok hrow
        refine hnow.put hw fun hlive => ?_
        rcases hstill with hnone | hsame
        · rw [Occupies, hpatch.shape_eq hnone]
          exact hnow t (mem_of_find? hfind) (hpatch.deletedAt ▸ hlive)
        · rw [hid] at hfind
          exact hpatch.occupies (hsame _ hread rfl before hbefore t hfind) hok
    · intro t ht
      rw [hw] at ht
      exact hnow t ht

theorem occupied_run (hdb : EachLive Occupies db) {calls : List TypeCall} {evs : List Event}
    {c : TypeConfig} (hstill : (Config.start db (calls.map TypeCall.prog)).Throughout
      (GuardedCalls calls fun call _ h now => MergedAsRead h now call) evs)
    (hrun : (Config.start db (calls.map TypeCall.prog)).run evs = some c) :
    EachLive Occupies c.db :=
  Config.calls_invariant (R := fun _ _ => True) TypeCall.wp_prog (fun _ => trivial)
    (fun _ _ _ _ _ => trivial)
    (fun _ _ _ _ hwrite _ hguard hnow => ⟨hwrite.occupied hguard hnow, trivial⟩) hdb evs hstill hrun

/-! ## The law -/

/-- All four rules, in every state that calls one after another reach. -/
def ConsistentInTurn : Prop :=
  ∀ db, Described db → EachLive (Bedded db) db → ∀ steps,
    Described (runAll TypeCall.prog steps db) ∧
      EachLive (Bedded (runAll TypeCall.prog steps db)) (runAll TypeCall.prog steps db)

/-- The first, when two patches of one type are interleaved. -/
def OccupiedAtOnce : Prop :=
  ∀ db, Described db → EachLive (Bedded db) db → ∀ propertyId id dto dto' now now' evs c,
    (Config.start db [TypeCall.prog (.update propertyId id dto now),
      TypeCall.prog (.update propertyId id dto' now')]).run evs = some c → EachLive Occupies c.db

/-- Three rules hold in every state of a run of calls, the primary bed too while no patch without a
list of beds names another one, and the first rule among other calls while a patch of the numbers
of guests finds those it leaves out as they were checked. -/
theorem types_consistent {db : TypesDb} (hdb : Described db) (hbedded : EachLive (Bedded db) db) :
    (∀ steps, Described (runAll TypeCall.prog steps db) ∧
      (EachStep TypeCall.prog (fun call s _ => KeepsPrimary s call) steps db →
        EachLive (Bedded (runAll TypeCall.prog steps db)) (runAll TypeCall.prog steps db))) ∧
    ∀ calls evs c, (Config.start db (calls.map TypeCall.prog)).Throughout
        (GuardedCalls calls fun call _ h now => MergedAsRead h now call) evs →
      (Config.start db (calls.map TypeCall.prog)).run evs = some c → EachLive Occupies c.db := by
  refine ⟨fun steps => ⟨described_run hdb steps, fun hkeeps => ?_⟩, fun calls evs c => ?_⟩
  · exact bedded_run hdb hbedded hkeeps
  · exact fun hstill hrun => occupied_run hdb.occupied hstill hrun

def deluxe : RoomTypeInputDto where
  name := "Deluxe"
  bedType := .DOUBLE
  bedCount := 1
  maxOccupancy := 4
  baseOccupancy := .given 2
  maxAdults := 2
  maxChildren := 2
  airConditioned := true
  baseRate := 500000
  beds := .given [{ bedType := .DOUBLE }]

def deluxeHotel : TypesDb :=
  runAll TypeCall.prog [(.create 1 deluxe false 7 0, fun _ => none)] {}

theorem described_deluxe : Described deluxeHotel :=
  ⟨by decide +kernel, by decide +kernel, by decide +kernel, by decide +kernel⟩

/-- A patch of the bed type alone leaves the list of beds as it was. -/
def toTwin : UpdateRoomTypeDto := { bedType := .given .TWIN }

/-- The second patch is checked and written between the check and the commit of the first. -/
def bothChecked : List Event :=
  [.step 0, .step 1, .step 1, .step 1, .step 1, .step 0, .step 0, .step 0]

theorem deluxe_inconsistent : ¬ConsistentInTurn ∧ ¬OccupiedAtOnce := by
  have hbedded : EachLive (Bedded deluxeHotel) deluxeHotel := by decide +kernel
  constructor
  · intro hlaw
    have h := (hlaw deluxeHotel described_deluxe hbedded
      [(.update 1 7 toTwin 1, fun _ => none)]).2
    revert h
    decide +kernel
  · intro hlaw
    have hsome : ((Config.start deluxeHotel
      [TypeCall.prog (.update 1 7 { baseOccupancy := .given 4 } 1),
        TypeCall.prog (.update 1 7 { maxOccupancy := .given 2 } 1)]).run bothChecked).any
          (fun c => !decide (EachLive Occupies c.db)) = true := by decide +kernel
    rw [Option.any_eq_true] at hsome
    obtain ⟨c, hrun, hno⟩ := hsome
    have h := hlaw deluxeHotel described_deluxe hbedded 1 7 _ _ 1 1 bothChecked c hrun
    simp [h] at hno

/-- A patch with its list of beds, and two patches of which the first is committed when the second
is checked. -/
theorem deluxe_consistent :
    EachLive (Bedded (runAll TypeCall.prog
      [(.update 1 7 { beds := .given [{ bedType := .TWIN, quantity := .given 2 }] } 1,
        fun _ => none)] deluxeHotel))
      (runAll TypeCall.prog [(.update 1 7
        { beds := .given [{ bedType := .TWIN, quantity := .given 2 }] } 1, fun _ => none)]
          deluxeHotel) ∧
    ∀ c, (Config.start deluxeHotel
      ([.update 1 7 { baseOccupancy := .given 4 } 1, .update 1 7 { maxOccupancy := .given 4 } 1].map
        TypeCall.prog)).run (List.replicate 4 (.step 0) ++ List.replicate 4 (.step 1)) = some c →
      EachLive Occupies c.db :=
  ⟨((types_consistent described_deluxe (by decide +kernel)).1 _).2 (by decide +kernel),
    fun c => (types_consistent described_deluxe (by decide +kernel)).2 _ _ c (by decide +kernel)⟩

end Travelo.RoomTypeRecords

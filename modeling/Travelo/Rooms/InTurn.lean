import Travelo.Rooms.Links

/-!
# Rooms and their types, one call after another

A call that finds the registry in order, each live room with a live type of its property and each
private type with one room, leaves it in order, if it is `Careful`: it files no room under a type that
is private to another, and where it mints a private type nothing fails between the type and its room.
-/

namespace Travelo

open ReadCommitted Claims
open AmenitiesService (resolveForScope)
open RoomsService (create patchRoom update remove)
open ReservationsService (roomOf requireRoomType requireRoom roomTypeOf)

namespace RoomLinks

open RoomsService

/-- Each live room has a live type of its property, and each private type one room. -/
structure Tidy (db : HotelDb) : Prop where
  linked : (registry db).Linked
  sole : (registry db).Sole

/-- The type is not private, if it is there. -/
def SharedType (db : HotelDb) (k : Id) : Prop :=
  ∀ t ∈ db.roomTypes.find? k, t.isPrivate = false

instance (db : HotelDb) (k : Id) : Decidable (SharedType db k) :=
  inferInstanceAs (Decidable (∀ _ ∈ _, _))

/-- The amenities are there, and for rooms. -/
def Resolves (db : HotelDb) (ids : List Id) : Prop :=
  ((resolveForScope ids .ROOM).eval .idle db).1.toOption.isSome = true

instance (db : HotelDb) (ids : List Id) : Decidable (Resolves db ids) :=
  inferInstanceAs (Decidable (_ = true))

/-- What `create` does up to the type of the new rooms. -/
def minting (propertyId : Id) (dto : CreateRoomDto) (typeId : Id) : Op Id := do
  throwIf (roomNumbersOf dto = []) .roomSpecsMissing
  assertRoomNumbersFree propertyId (roomNumbersOf dto)
  resolveTypeForNewRooms propertyId dto (roomNumbersOf dto) typeId

/-- No statement fails after the type of the new rooms. -/
def LateFaultless (propertyId : Id) (dto : CreateRoomDto) (typeId : Id) (φ : ℕ → Option String)
    (db : HotelDb) : Prop :=
  ∀ n, (minting propertyId dto typeId).statements φ .idle db ≤ n → φ n = none

/-- The call files no room under the private type of another, and what it mints it fills. -/
def Careful (φ : ℕ → Option String) (db : HotelDb) : LinkCall → Prop
  | .createRoom propertyId dto typeId _ =>
    (∀ k ∈ dto.roomTypeId, SharedType db k) ∧
      (dto.roomTypeId = none → (roomNumbersOf dto).length ≤ 1 →
        Resolves db dto.amenityIds ∧ LateFaultless propertyId dto typeId φ db)
  | .bulkCreate _ dto _ => SharedType db dto.roomTypeId
  | .updateRoom propertyId id dto _ => ∀ k ∈ dto.roomTypeId.toOption,
    ∀ r ∈ roomOf propertyId id db,
      r.roomTypeId = k ∨ (SharedType db r.roomTypeId ∧ SharedType db k)
  | .removeRoom .. | .createType .. | .updateType .. | .removeType .. => True

section Alone

variable {db s : HotelDb} {propertyId k id typeId : Id} {now : ℤ} {p : Id} {b : Bool}

/-! ## What the registry says -/

theorem Tidy.of_registry (h : Tidy db) (heq : registry s = registry db) : Tidy s :=
  ⟨heq ▸ h.linked, heq ▸ h.sole⟩

theorem SharedType.shared (h : SharedType db k) : (registry db).Shared k := by
  rintro p ⟨t, ht, -, heq⟩
  simp only [Prod.mk.injEq] at heq
  obtain ⟨hid, -, hprivate⟩ := heq
  have hfind : db.roomTypes.find? k = some t := Table.find?_eq_some.mpr ⟨ht, hid.symm⟩
  rw [h t hfind] at hprivate
  cases hprivate

theorem hasKey_of_group (h : (k, p, b) ∈ (registry db).groups) :
    db.roomTypes.hasKey k = true := by
  obtain ⟨t, ht, -, heq⟩ := h
  simp only [Prod.mk.injEq] at heq
  by_contra hno
  rw [Bool.not_eq_true, hasKey_eq_false] at hno
  exact hno t ht heq.1.symm

theorem Tidy.new (h : Tidy db) (hnew : db.roomTypes.hasKey k = false) (i : Id) :
    ¬(registry db).In i k := by
  rintro ⟨q, hi⟩
  obtain ⟨b, hb⟩ := h.linked i q k hi
  rw [hasKey_of_group hb] at hnew
  cases hnew

/-- A type that was just minted. -/
structure Minted (propertyId k : Id) (isPrivate : Bool) (db s : HotelDb) : Prop where
  new : db.roomTypes.hasKey k = false
  rooms : s.rooms = db.rooms
  amenities : s.amenities = db.amenities
  groups : registry s = (registry db).found k propertyId isPrivate

theorem Minted.tidy (h : Minted propertyId k false db s) (hdb : Tidy db) : Tidy s := by
  constructor
  · rw [h.groups]
    exact hdb.linked.found
  · rw [h.groups]
    exact hdb.sole.found_shared

theorem Minted.shared (h : Minted propertyId k false db s) : (registry s).Shared k := by
  rw [h.groups]
  rintro q (heq | hold)
  · cases heq
  · have hkey := hasKey_of_group hold
    rw [h.new] at hkey
    cases hkey

theorem Minted.group (h : Minted propertyId k b db s) :
    (k, propertyId, b) ∈ (registry s).groups := by
  rw [h.groups]
  exact Set.mem_insert _ _

/-! ## The calls alone -/

theorem ends_createType {dto : RoomTypeInputDto} {isPrivate : Bool} :
    (RoomTypesService.create propertyId dto isPrivate id).ends
      (fun row t s => row.id = id ∧ t = .idle ∧ Minted propertyId id isPrivate db s)
      (fun _ _ s => s = db) .idle db := by
  rw [RoomTypesService.create, ends_bind]
  refine (resolveForScope_readOnly _ _).ends_idle (fun attach => ?_) fun _ => rfl
  have hminted : ∀ db' s, RoomTypesService.insertRoomType
      (RoomTypesService.newRoomType propertyId dto isPrivate id) db = .ok db' →
      s.rooms = (applied (RoomTypesService.insertRoomType
        (RoomTypesService.newRoomType propertyId dto isPrivate id)) db).rooms →
      s.amenities = (applied (RoomTypesService.insertRoomType
        (RoomTypesService.newRoomType propertyId dto isPrivate id)) db).amenities →
      s.roomTypes = (applied (RoomTypesService.insertRoomType
        (RoomTypesService.newRoomType propertyId dto isPrivate id)) db).roomTypes →
      Minted propertyId id isPrivate db s := by
    intro db' s hinsert hrooms hamenities htypes
    obtain ⟨hnew, rfl⟩ := insertRoomType_ok hinsert
    rw [applied, hinsert] at hrooms hamenities htypes
    exact ⟨hnew, hrooms, hamenities, registry_insertRoomType rfl hnew htypes hrooms⟩
  simp only [ends_simps, ends_when]
  intro _ _ db' hinsert
  exact ⟨fun _ => ⟨fun _ => ⟨rfl, hminted _ _ hinsert rfl rfl rfl⟩,
      fun _ => ⟨rfl, hminted _ _ hinsert rfl rfl rfl⟩⟩,
    fun _ => ⟨fun _ => ⟨rfl, hminted _ _ hinsert rfl rfl rfl⟩,
      fun _ => ⟨rfl, hminted _ _ hinsert rfl rfl rfl⟩⟩⟩

variable {dto : CreateRoomDto} {numbers : List String}

theorem ends_resolveType :
    (resolveTypeForNewRooms propertyId dto numbers typeId).ends
      (fun k t s => t = .idle ∧
        ((dto.roomTypeId = some k ∧ s = db ∧ HasType db propertyId k) ∨
          dto.roomTypeId = none ∧ k = typeId ∧
            Minted propertyId k (!decide (1 < numbers.length)) db s))
      (fun _ _ s => s = db) .idle db := by
  rw [resolveTypeForNewRooms, ends_bind, ends_throwIf]
  refine ⟨fun _ => rfl, fun _ => ?_⟩
  cases htype : dto.roomTypeId with
  | some k =>
    simp only [requireRoomType, ends_simps]
    intro t ht
    exact .inl (Option.isSome_iff_exists.mpr ⟨t, ht⟩)
  | none =>
    cases hspecs : dto.specs with
    | none => simp only [Prog.ends_throw]
    | some specs =>
      dsimp only
      rw [ends_bind]
      refine ends_mono ?_ (fun _ _ _ he => he) _ _ _ ends_createType
      rintro row t s ⟨hid, ht, hminted⟩
      obtain rfl := hid
      exact ⟨ht, .inr ⟨rfl, rfl, hminted⟩⟩

theorem ends_minting :
    (minting propertyId dto typeId).ends
      (fun k t s => t = .idle ∧ roomNumbersOf dto ≠ [] ∧
        (withNumbers propertyId (roomNumbersOf dto) db).isEmpty = true ∧
        ((dto.roomTypeId = some k ∧ s = db ∧ HasType db propertyId k) ∨
          dto.roomTypeId = none ∧ k = typeId ∧
            Minted propertyId k (!decide (1 < (roomNumbersOf dto).length)) db s))
      (fun _ _ s => s = db) .idle db := by
  rw [minting, ends_bind, ends_throwIf]
  refine ⟨fun _ => rfl, fun hsome => ?_⟩
  rw [ends_bind, assertRoomNumbersFree, ends_bind, ends_select_idle]
  refine ⟨?_, fun _ => rfl⟩
  rw [ends_forSome]
  refine ⟨fun _ _ => rfl, fun hnone => ?_⟩
  have hfree : (withNumbers propertyId (roomNumbersOf dto) db).isEmpty = true := by
    rw [List.isEmpty_iff]
    exact List.head?_eq_none_iff.mp hnone
  refine ends_mono ?_ (fun _ _ _ he => he) _ _ _ ends_resolveType
  rintro k t s ⟨ht, hk⟩
  exact ⟨ht, hsome, hfree, hk⟩

theorem Tidy.insertRooms {status : Option RoomStatus} {notes : Option String} (h : Tidy db)
    (hgroup : (k, propertyId, b) ∈ (registry db).groups) (hshared : (registry db).Shared k) :
    Tidy (applied (insertRooms propertyId (newRoom propertyId k status notes) numbers) db) := by
  rcases joins_insertRooms db with hsame | ⟨is, hjoin⟩
  · exact h.of_registry hsame
  · constructor
    · rw [hjoin]
      exact h.linked.join hgroup
    · rw [hjoin]
      exact h.sole.join hshared

theorem ends_fileRooms (htidy : Tidy db) (hgroup : (k, propertyId, b) ∈ (registry db).groups)
    (hshared : (registry db).Shared k) :
    (fileRooms propertyId dto numbers now k).ends (fun _ _ s => Tidy s) (fun _ _ s => Tidy s)
      .idle db := by
  rw [fileRooms, ends_bind]
  refine (resolveForScope_readOnly _ _).ends_idle (fun extras => ?_) fun _ => htidy
  refine ends_transaction_of htidy ?_
  rw [ends_bind, ends_tryCatch, ends_writeChecked_active]
  refine ⟨⟨fun db' _ => ?_, fun _ _ => rfl⟩, fun _ => rfl⟩
  have hrest : ∀ inserted : List Room, (do
      when (extras ≠ []) <| attachExtras propertyId numbers extras
      let count ← recountRooms propertyId now
      return (inserted, count) : Op (List Room × ℕ)).Keeps SameRegistry := fun inserted =>
    .bind (.when _ keeps_attachExtras) fun _ => .bind keeps_recountRooms fun _ => .pure _
  refine (hrest _).ends_rest SameRegistry.refl SameRegistry.trans htidy fun w' hw' => ?_
  exact (htidy.insertRooms hgroup hshared).of_registry (hw' db)

theorem eval_resolveForScope {ids : List Id} (hamenities : s.amenities = db.amenities)
    (hresolves : Resolves db ids) :
    ∃ rows, (resolveForScope ids .ROOM).eval .idle s = (.ok rows, .idle, s) := by
  have hfst : ((resolveForScope ids .ROOM).eval .idle s).1 =
      ((resolveForScope ids .ROOM).eval .idle db).1 := by
    simp only [resolveForScope, eval_ite, eval_simps, hamenities]
    split_ifs <;> rfl
  have hsnd := (resolveForScope_readOnly ids .ROOM).eval_idle s
  unfold Resolves at hresolves
  rw [← hfst] at hresolves
  cases hres : (resolveForScope ids .ROOM).eval .idle s with
  | mk res rest =>
    rw [hres] at hsnd hresolves
    obtain rfl : rest = (.idle, s) := hsnd
    cases res with
    | error e => cases hresolves
    | ok rows => exact ⟨rows, rfl⟩

theorem eval_fileRooms (hdb : Tidy db) (hminted : Minted propertyId k true db s)
    (hresolves : Resolves db dto.amenityIds)
    (hfree : (withNumbers propertyId (roomNumbersOf dto) db).isEmpty = true)
    (hone : (roomNumbersOf dto).length = 1) :
    Tidy ((fileRooms propertyId dto (roomNumbersOf dto) now k).eval .idle s).2.2 := by
  obtain ⟨extras, hextras⟩ := eval_resolveForScope hminted.amenities hresolves
  have hfree' : (withNumbers propertyId (roomNumbersOf dto) s).isEmpty = true := by
    rw [← hfree, withNumbers, liveRooms, hminted.rooms]
    rfl
  have hjoin := @registry_insertRooms s propertyId k dto.status dto.notes _ hfree'
  set room := newRoom propertyId k dto.status dto.notes with hroom
  have hinsert : insertRooms propertyId room (roomNumbersOf dto) s =
      .ok (applied (insertRooms propertyId room (roomNumbersOf dto)) s) := by
    simp only [applied, insertRooms, hfree', if_true]
  have hregistry : registry ((fileRooms propertyId dto (roomNumbersOf dto) now k).eval .idle s).2.2 =
      registry (applied (insertRooms propertyId room (roomNumbersOf dto)) s) := by
    rw [fileRooms, eval_bind, hextras]
    dsimp only
    rw [← hroom]
    simp only [recountRooms, attachExtras, eval_simps, eval_tryCatch, Prog.eval_writeChecked_active,
      id_eq, hinsert, eval_when]
    split_ifs <;> rfl
  -- the room has the one number of the request
  obtain ⟨n, hn⟩ := List.length_eq_one_iff.mp hone
  have hset : {i | ∃ r ∈ newRooms room (roomNumbersOf dto) s, r.id = i} =
      {freshId (s.rooms.rows.map (·.id))} := by
    rw [hn]
    ext i
    simp [newRooms, hroom, newRoom, eq_comm]
  rw [hset, hminted.groups] at hjoin
  constructor
  · rw [hregistry, hjoin]
    exact hdb.linked.found.join (Set.mem_insert _ _)
  · rw [hregistry, hjoin]
    exact hdb.sole.found_join (hdb.new hminted.new)

/-! ## What a careful call leaves -/

theorem create_eq_minting (dto : CreateRoomDto) :
    create propertyId dto typeId now =
      minting propertyId dto typeId >>= fileRooms propertyId dto (roomNumbersOf dto) now := by
  rw [create_eq]
  simp only [minting, Prog.bind_assoc]

variable {φ : ℕ → Option String}

theorem tidy_createRoom (hdb : Tidy db)
    (hcareful : Careful φ db (.createRoom propertyId dto typeId now)) :
    Tidy (((LinkCall.createRoom propertyId dto typeId now).prog).runWith φ db).db := by
  obtain ⟨hshared, hmints⟩ := hcareful
  have hprog : (LinkCall.createRoom propertyId dto typeId now).prog =
      minting propertyId dto typeId >>= fun k =>
        fileRooms propertyId dto (roomNumbersOf dto) now k >>= fun _ => pure () := by
    rw [LinkCall.prog, create_eq_minting, Prog.bind_assoc]
  by_cases hprivate : dto.roomTypeId = none ∧ (roomNumbersOf dto).length ≤ 1
  · obtain ⟨hnone, hone⟩ := hprivate
    obtain ⟨hresolves, hlate⟩ := hmints hnone hone
    rw [hprog]
    refine Prog.runFrom_then (Q := Tidy) _ _ ?_ ?_ φ .idle db [] ends_minting hlate
    · rintro k t s ⟨rfl, hsome, hfree, ⟨hk, -, -⟩ | ⟨-, -, hminted⟩⟩
      · rw [hnone] at hk
        cases hk
      · rw [decide_eq_false (Nat.not_lt.mpr hone)] at hminted
        have hlength : (roomNumbersOf dto).length = 1 :=
          Nat.le_antisymm hone (List.length_pos_iff.mpr hsome)
        rw [eval_discard]
        exact eval_fileRooms hdb hminted hresolves hfree hlength
    · rintro e t s rfl
      exact hdb
  · refine ends_runWith (Q := Tidy) ?_ φ
    rw [hprog, ends_bind]
    refine ends_mono ?_ (fun e t s he => by rw [he]; exact hdb) _ _ _ ends_minting
    rintro k t s ⟨rfl, -, -, ⟨hk, rfl, htype⟩ | ⟨hnone, -, hminted⟩⟩
    · obtain ⟨b, hb⟩ := htype.group
      rw [ends_bind]
      exact ends_fileRooms hdb hb (hshared k hk).shared
    · have hmany : 1 < (roomNumbersOf dto).length := by
        by_contra hfew
        exact hprivate ⟨hnone, Nat.not_lt.mp hfew⟩
      rw [decide_eq_true hmany] at hminted
      rw [ends_bind]
      exact ends_fileRooms (hminted.tidy hdb) hminted.group hminted.shared

theorem ends_bulkCreate {dto : BulkCreateRoomsDto} (hdb : Tidy db)
    (hshared : SharedType db dto.roomTypeId) :
    (RoomsService.bulkCreate propertyId dto now).ends (fun _ _ s => Tidy s) (fun _ _ s => Tidy s)
      .idle db := by
  simp only [RoomsService.bulkCreate, requireRoomType, ends_bind,
    ends_select_idle, ends_orThrow, ends_lift, ends_throwIf]
  refine ⟨⟨fun _ => hdb, fun type htype => ⟨fun _ _ => hdb, fun requested _ => ⟨fun _ => hdb,
    fun _ => ?_⟩⟩⟩, fun _ => hdb⟩
  refine ends_transaction_of hdb ?_
  rw [ends_bind, ends_select_active]
  refine ⟨?_, fun _ => rfl⟩
  have hrecount : ∀ created : List Room, ∀ skipped : List String, (do
      let count ← recountRooms propertyId now
      return (created, skipped, count) : Op (List Room × List String × ℕ)).Keeps SameRegistry :=
    fun _ _ => .bind keeps_recountRooms fun _ => .pure _
  split
  · refine (hrecount _ _).ends_rest SameRegistry.refl SameRegistry.trans hdb fun w' hw' => ?_
    exact hdb.of_registry (hw' db)
  · rw [ends_bind, ends_writeChecked_active]
    refine ⟨⟨fun db' _ => ?_, fun _ _ => rfl⟩, fun _ => rfl⟩
    refine (hrecount _ _).ends_rest SameRegistry.refl SameRegistry.trans hdb fun w' hw' => ?_
    obtain ⟨-, hgroup⟩ := group_of_roomTypeOf htype
    exact (hdb.insertRooms hgroup hshared.shared).of_registry (hw' db)

theorem rooms_updateRoomType {dto : RoomTypeRecords.UpdateRoomTypeDto} {before : RoomType}
    (h : RoomTypesService.updateRoomType dto before db = .ok s) : s.rooms = db.rooms := by
  cases hfind : db.roomTypes.find? before.id with
  | none =>
    rw [RoomTypesService.updateRoomType, hfind] at h
    cases h
    rfl
  | some t =>
    obtain ⟨-, -, hrooms, -⟩ := updateRoomType_ok hfind h
    exact hrooms

theorem ends_updateType {dto : RoomTypeRecords.UpdateRoomTypeDto} :
    (RoomTypesService.update propertyId id dto).ends
      (fun _ t s => t = .idle ∧ registry s = registry db ∧ s.rooms = db.rooms)
      (fun _ _ s => s = db) .idle db := by
  simp only [RoomTypesService.update, requireRoomType, ends_simps]
  intro before _ _ _ _
  refine (readOnly_amenitiesToSet _).ends_idle (fun attach => ?_) fun _ => rfl
  simp only [ends_simps, ends_when]
  intro db' hupdate
  have happlied : applied (RoomTypesService.updateRoomType dto before) db = db' := by
    have hok : RoomTypesService.updateRoomType dto before db = .ok db' := hupdate
    rw [applied, hok]
  have hboth : ∀ s, registry s = registry (applied (RoomTypesService.updateRoomType dto before) db) →
      s.rooms = (applied (RoomTypesService.updateRoomType dto before) db).rooms →
      registry s = registry db ∧ s.rooms = db.rooms := by
    intro s hregistry hrooms
    rw [happlied] at hregistry hrooms
    exact ⟨hregistry.trans (registry_updateRoomType hupdate),
      hrooms.trans (rooms_updateRoomType hupdate)⟩
  exact ⟨fun _ => ⟨fun _ => hboth _ rfl rfl, fun _ => hboth _ rfl rfl⟩,
    fun _ => ⟨fun _ => hboth _ rfl rfl, fun _ => hboth _ rfl rfl⟩⟩

/-- A room that is moved stays in its type, or goes from a shared type to another. -/
def MovesWell (db : HotelDb) (id : Id) (dto : UpdateRoomDto) : Prop :=
  ∀ r, db.rooms.find? id = some r → r.deletedAt = none →
    let k := dto.roomTypeId.orElse r.roomTypeId
    (∃ b, (k, r.propertyId, b) ∈ (registry db).groups) ∧
      (r.roomTypeId = k ∨ (registry db).Shared r.roomTypeId ∧ (registry db).Shared k)

theorem Tidy.patchRoom {dto : UpdateRoomDto} (h : Tidy db) (hmoves : MovesWell db id dto)
    (hpatch : patchRoom id dto now db = .ok s) : Tidy s := by
  rcases registry_patchRoom hpatch with hsame | ⟨r, hfind, hmove⟩
  · exact h.of_registry hsame
  have hroom : ∀ p k, (id, p, k) ∈ (registry db).members →
      r.deletedAt = none ∧ r.propertyId = p ∧ r.roomTypeId = k := fun p k => member_eq hfind
  constructor
  · rw [hmove]
    refine h.linked.move fun p k hmem => ?_
    obtain ⟨hlive, rfl, rfl⟩ := hroom p k hmem
    exact (hmoves r hfind hlive).1
  · rw [hmove]
    by_cases hin : ∃ p k, (id, p, k) ∈ (registry db).members
    · obtain ⟨p, k, hmem⟩ := hin
      obtain ⟨hlive, rfl, rfl⟩ := hroom p k hmem
      rcases (hmoves r hfind hlive).2 with hstays | ⟨hold, hnew⟩
      · rw [Registry.move_eq fun q l hql => ?_]
        · exact h.sole
        · obtain ⟨-, -, rfl⟩ := hroom q l hql
          exact hstays
      · refine h.sole.move (fun l hl => ?_) hnew
        obtain ⟨q, hql⟩ := hl
        obtain ⟨-, -, rfl⟩ := hroom q l hql
        exact hold
    · rw [Registry.move_eq fun q l hql => absurd ⟨q, l, hql⟩ hin]
      exact h.sole

theorem ends_writeRoom {dto : UpdateRoomDto} {before : Room} (hdb : Tidy db)
    (hmoves : MovesWell db id dto) :
    (writeRoom propertyId id dto before now).ends (fun _ _ s => Tidy s) (fun _ _ s => Tidy s)
      .idle db := by
  rw [writeRoom, ends_bind, ends_throwIf]
  refine ⟨fun _ => hdb, fun _ => ?_⟩
  rw [ends_bind]
  refine (readOnly_amenitiesToSet _).ends_idle (fun extras => ?_) fun _ => hdb
  refine ends_transaction_of hdb ?_
  rw [ends_bind, ends_tryCatch, ends_writeChecked_active]
  refine ⟨⟨fun db' hpatch => ?_, fun _ _ => rfl⟩, fun _ => rfl⟩
  have hextras : (when (dto.amenityIds.present = true) <|
      write (fun _ => []) (replaceExtras id extras) fun _ => () : Op Unit).Keeps
        SameRegistry := .when _ (.write _ _ fun _ => rfl)
  refine hextras.ends_rest SameRegistry.refl SameRegistry.trans hdb fun w' hw' => ?_
  have hsame : registry (w' db) = registry (applied (patchRoom id dto now) db) := hw' db
  have hok : patchRoom id dto now db = .ok db' := hpatch
  rw [applied, hok] at hsame
  exact (hdb.patchRoom hmoves hok).of_registry hsame

theorem ends_requireNewType {roomTypeId : RoomTypeRecords.Field Id} :
    (requireNewType propertyId roomTypeId).ends
      (fun _ t s => t = .idle ∧ s = db ∧ ∀ k ∈ roomTypeId.toOption, HasType db propertyId k)
      (fun _ _ s => s = db) .idle db := by
  cases roomTypeId with
  | absent => exact ⟨rfl, rfl, fun _ hk => by cases hk⟩
  | null => exact rfl
  | given k =>
    simp only [requireNewType, requireRoomType, ends_simps]
    rintro t ht _ hk
    cases hk
    exact Option.isSome_iff_exists.mpr ⟨t, ht⟩

theorem movesWell_of {dto : UpdateRoomDto} {before : Room} (hdb : Tidy db)
    (hcareful : Careful φ db (.updateRoom propertyId id dto now))
    (hbefore : roomOf propertyId id db = some before)
    (hnew : ∀ k ∈ dto.roomTypeId.toOption, HasType db propertyId k)
    (hregistry : registry s = registry db) (hrooms : s.rooms = db.rooms) : MovesWell s id dto := by
  intro r hfind hlive
  obtain ⟨hfind', hid, -, hplace⟩ := member_of_roomOf hbefore
  rw [hrooms, hfind'] at hfind
  obtain rfl : before = r := Option.some.inj hfind
  obtain ⟨hmem, -⟩ := Table.find?_eq_some.mp hfind'
  rw [hregistry]
  have hstays : ∃ b, (before.roomTypeId, before.propertyId, b) ∈ (registry db).groups :=
    hdb.linked before.id before.propertyId before.roomTypeId ⟨before, hmem, hlive, rfl⟩
  cases hgiven : dto.roomTypeId with
  | absent => exact ⟨hstays, .inl rfl⟩
  | null => exact ⟨hstays, .inl rfl⟩
  | given k =>
    have hk : k ∈ dto.roomTypeId.toOption := by
      rw [hgiven]
      rfl
    refine ⟨?_, ?_⟩
    · rw [hplace]
      exact (hnew k hk).group
    · rcases hcareful k hk before hbefore with hsame | ⟨hold, hshared⟩
      · exact .inl hsame
      · exact .inr ⟨hold.shared, hshared.shared⟩

theorem ends_updateRoom {dto : UpdateRoomDto} (hdb : Tidy db)
    (hcareful : Careful φ db (.updateRoom propertyId id dto now)) :
    (update propertyId id dto now).ends (fun _ _ s => Tidy s) (fun _ _ s => Tidy s)
      .idle db := by
  simp only [update, requireRoom, ends_simps]
  refine ⟨⟨fun _ => hdb, fun before hbefore => ?_⟩, fun _ => hdb⟩
  refine ends_mono ?_ (fun e t s he => by rw [he]; exact hdb) _ _ _ ends_requireNewType
  rintro _ t s ⟨rfl, rfl, hnew⟩
  have hwrite : ∀ s', registry s' = registry s → s'.rooms = s.rooms →
      (writeRoom propertyId id dto before now >>= fun _ => pure before).ends
        (fun _ _ s => Tidy s) (fun _ _ s => Tidy s) .idle s' := by
    intro s' hregistry hrooms
    rw [ends_bind]
    exact ends_writeRoom (hdb.of_registry hregistry)
      (movesWell_of hdb hcareful hbefore hnew hregistry hrooms)
  rw [ends_forSome]
  constructor
  · intro specs _
    simp only [respecify, requireRoomType, ends_simps]
    refine ⟨⟨fun _ => hdb, fun type _ => ⟨fun _ => hdb, fun _ => ?_⟩⟩, fun _ => hdb⟩
    refine ends_mono ?_ (fun e t s' he => by rw [he]; exact hdb) _ _ _ ends_updateType
    rintro _ t s' ⟨rfl, hregistry, hrooms⟩
    have hends := hwrite s' hregistry hrooms
    rwa [ends_bind] at hends
  · intro _
    have hends := hwrite s rfl rfl
    rwa [ends_bind] at hends

theorem roomTypeOf_find {t : RoomType}
    (h : roomTypeOf propertyId k db = some t) :
    db.roomTypes.find? k = some t := by
  unfold roomTypeOf at h
  exact (Option.filter_eq_some_iff.mp h).1

theorem ends_removeRoom (hdb : Tidy db) :
    (remove propertyId id now).ends (fun _ _ s => Tidy s) (fun _ _ s => Tidy s)
      .idle db := by
  simp only [remove, requireRoom,
    requireRoomType, ends_bind, ends_select_idle, ends_orThrow]
  refine ⟨⟨fun _ => hdb, fun before hbefore => ⟨⟨fun _ => hdb, fun type htype => ?_⟩,
    fun _ => hdb⟩⟩, fun _ => hdb⟩
  obtain ⟨hfind, hid, hlive, hplace⟩ := member_of_roomOf hbefore
  obtain ⟨hmem, -⟩ := Table.find?_eq_some.mp hfind
  obtain ⟨htypeid, hgroup⟩ := group_of_roomTypeOf htype
  have hin : ∀ k', (registry db).In id k' → k' = type.id := by
    rintro k' ⟨p, hp⟩
    obtain ⟨-, -, rfl⟩ := member_eq hfind hp
    exact htypeid.symm
  have hends : Prog.ends (fun _ _ s => Tidy s) (fun _ _ s => Tidy s) (transaction do
      let _ ← updateRooms (fun r => r.id = id) fun r =>
        { r with deletedAt := some now, updatedAt := now }
      when (type.isPrivate = true) <|
        write (fun _ => []) (deleteRoomType type.id now) fun _ => ()
      recountRooms propertyId now : Op ℕ) .idle db := by
    refine ends_transaction_of hdb ?_
    rw [ends_bind, updateRooms, ends_write_active]
    refine ⟨?_, fun _ => rfl⟩
    rw [ends_bind]
    by_cases hprivate : type.isPrivate = true
    · rw [when, if_pos hprivate, ends_write_active]
      refine ⟨?_, fun _ => rfl⟩
      refine keeps_recountRooms.ends_rest SameRegistry.refl SameRegistry.trans hdb fun w' hw' => ?_
      have hregistry : registry (w' db) = ((registry db).leave id).dissolve type.id := by
        rw [hw' db, ← registry_deletedRoom]
        exact registry_deleteRoomType
      rw [hprivate] at hgroup
      obtain ⟨r, -, honly⟩ := hdb.sole _ _ hgroup
      constructor
      · rw [hregistry]
        refine hdb.linked.leave.dissolve ?_
        -- the one room of the type is the one that goes
        rintro j ⟨q, hj, hne⟩
        rw [htypeid] at hj
        have hroom : r = id := (honly id ⟨_, before, hmem, hlive, by rw [hid]⟩).symm
        exact hne ((honly j ⟨q, hj⟩).trans hroom)
      · rw [hregistry]
        exact hdb.sole.leave_dissolve hin
    · rw [when, if_neg hprivate, ends_ret]
      refine keeps_recountRooms.ends_rest SameRegistry.refl SameRegistry.trans hdb fun w' hw' => ?_
      have hregistry : registry (w' db) = (registry db).leave id := by
        rw [hw' db, ← registry_deletedRoom]
        rfl
      obtain ⟨htypemem, -⟩ := Table.find?_eq_some.mp (roomTypeOf_find htype)
      constructor
      · rw [hregistry]
        exact hdb.linked.leave
      · rw [hregistry]
        refine hdb.sole.leave fun k' hk' => ?_
        obtain rfl := hin k' hk'
        rw [htypeid]
        refine SharedType.shared fun t ht => ?_
        rw [roomTypeOf_find htype] at ht
        cases ht
        exact Bool.not_eq_true _ ▸ hprivate
  exact hends

theorem ends_removeType (hdb : Tidy db) :
    (RoomTypesService.remove propertyId id now).ends (fun _ _ s => Tidy s) (fun _ _ s => Tidy s)
      .idle db := by
  simp only [RoomTypesService.remove, requireRoomType, ends_simps]
  refine ⟨⟨fun _ => hdb, fun before _ => ⟨⟨fun _ => hdb, fun hnone => ⟨?_, fun _ => hdb⟩⟩,
    fun _ => hdb⟩⟩, fun _ => hdb⟩
  have hempty : RoomTypesService.roomsOfType id db = [] := by
    rw [← List.length_eq_zero_iff]
    omega
  constructor
  · rw [registry_archiveRoomType]
    refine hdb.linked.dissolve fun j hj => ?_
    obtain ⟨r, hr, hlive, -, hk⟩ := in_registry.mp hj
    have hmem : r ∈ RoomTypesService.roomsOfType id db := by
      rw [RoomTypesService.roomsOfType, List.mem_filter]
      exact ⟨hr, by simp [hlive, hk]⟩
    rw [hempty] at hmem
    cases hmem
  · rw [registry_archiveRoomType]
    exact hdb.sole.dissolve

theorem Tidy.prog (hdb : Tidy db) (call : LinkCall) (hcareful : Careful φ db call) :
    Tidy (call.prog.runWith φ db).db := by
  cases call with
  | createRoom propertyId dto typeId now => exact tidy_createRoom hdb hcareful
  | bulkCreate propertyId dto now =>
    refine ends_runWith ?_ φ
    rw [LinkCall.prog, ends_bind]
    exact ends_bulkCreate hdb hcareful
  | updateRoom propertyId id dto now =>
    refine ends_runWith ?_ φ
    rw [LinkCall.prog, ends_bind]
    exact ends_updateRoom hdb hcareful
  | removeRoom propertyId id now =>
    refine ends_runWith ?_ φ
    rw [LinkCall.prog, ends_bind]
    exact ends_removeRoom hdb
  | createType propertyId dto typeId =>
    refine ends_runWith ?_ φ
    rw [LinkCall.prog, ends_bind]
    refine ends_mono ?_ (fun e t s he => by rw [he]; exact hdb) _ _ _ ends_createType
    rintro row t s ⟨-, -, hminted⟩
    exact hminted.tidy hdb
  | updateType propertyId id dto =>
    refine ends_runWith ?_ φ
    refine ends_mono ?_ (fun e t s he => by rw [he]; exact hdb) _ _ _ ends_updateType
    rintro _ t s ⟨-, hregistry, -⟩
    exact hdb.of_registry hregistry
  | removeType propertyId id now =>
    refine ends_runWith ?_ φ
    rw [LinkCall.prog, ends_bind]
    exact ends_removeType hdb

end Alone

/-- Calls one after another that are careful keep the registry in order, whichever statements fail;
among other calls each live room keeps a live type of its property, while a commit finds the type of
the rooms it writes and no other room of the type that goes. -/
theorem rooms_linked (db : HotelDb) :
    (∀ steps : List (LinkCall × (ℕ → Option String)), Tidy db →
      EachBefore LinkCall.prog (fun call φ s => Careful φ s call) steps db →
        Tidy (runAll LinkCall.prog steps db)) ∧
      ∀ (calls : List LinkCall) (evs : List Event) (c : Config HotelDb RowKey Look Err Unit),
        (registry db).Linked →
        (Config.start db (calls.map LinkCall.prog)).Throughout
          (GuardedCalls calls fun call _ h now => StillLinked h now call) evs →
        (Config.start db (calls.map LinkCall.prog)).run evs = some c → (registry c.db).Linked := by
  constructor
  · intro steps htidy hcareful
    exact hcareful.invariant (fun call φ s hcall hs => hs.prog call hcall) steps db htidy
  · exact fun calls evs c hdb hstill hrun => linked_run hdb hstill hrun

/-! ## Where the links break -/

/-- A property without rooms. -/
def emptyProperty : HotelDb where
  properties := (∅ : Table Property.id).insert { id := 1 }

theorem tidy_emptyProperty : Tidy emptyProperty := by
  constructor
  · rintro i p k ⟨r, hr, -⟩
    exact absurd hr (notMem_empty r)
  · rintro k p ⟨t, ht, -⟩
    exact absurd ht (notMem_empty t)

/-- The live rooms without a live type. -/
def orphans (db : HotelDb) : List Room :=
  db.rooms.rows.filter fun r => r.deletedAt.isNone && !db.roomTypes.rows.any fun t =>
    t.deletedAt.isNone && decide (t.id = r.roomTypeId)

theorem not_linked {db : HotelDb} (h : orphans db ≠ []) : ¬(registry db).Linked := by
  intro hlinked
  obtain ⟨r, hr⟩ := List.exists_mem_of_ne_nil _ h
  simp only [orphans, List.mem_filter, and_decide_eq, Option.isNone_iff_eq_none, Bool.not_eq_true',
    List.any_eq_false, not_and] at hr
  obtain ⟨hmem, hlive, hnone⟩ := hr
  obtain ⟨b, t, ht, htlive, heq⟩ := hlinked _ _ _ ⟨r, hmem, hlive, rfl⟩
  simp only [Prod.mk.injEq] at heq
  exact hnone t ht htlive heq.1.symm

/-- The specifications of a room. -/
def suiteSpecs : RoomTypeInputDto where
  name := "Suite"
  maxOccupancy := 2
  maxAdults := 2
  baseRate := 500000

/-- Room 101 is created with a private type, room 102 under the same type, and 101 removed. -/
def sharedPrivate : List (LinkCall × (ℕ → Option String)) :=
  [(.createRoom 1 { specs := some suiteSpecs, number := "101" } 7 10, noFaults),
    (.createRoom 1 { roomTypeId := some 7, number := "102" } 8 11, noFaults),
    (.removeRoom 1 1 12, noFaults)]

/-- A shared type that has no rooms yet. -/
def unusedType : HotelDb :=
  { emptyProperty with
    roomTypes := (∅ : Table RoomType.id).insert
      { id := 7, propertyId := 1, name := "Deluxe", baseRate := 100000 } }

theorem linked_unusedType : (registry unusedType).Linked := by
  rintro i p k ⟨r, hr, -⟩
  exact absurd hr (notMem_empty r)

/-- The type is removed while its first room is created. -/
def typeGoes : List LinkCall :=
  [.removeType 1 7 10, .createRoom 1 { roomTypeId := some 7, number := "101" } 8 11]

/-- The rooms are counted before the room is there, the type deleted after. -/
def countedEarly : List Event :=
  List.replicate 2 (.step 0) ++ List.replicate 7 (.step 1) ++ [.step 0]

/-- Room 102 is left without a type; so is the room that came between. -/
theorem rooms_unlinked :
    ¬((∀ (db : HotelDb) (steps : List (LinkCall × (ℕ → Option String))), Tidy db →
        Tidy (runAll LinkCall.prog steps db)) ∧
      ∀ (db : HotelDb) (calls : List LinkCall) (evs : List Event)
        (c : Config HotelDb RowKey Look Err Unit), (registry db).Linked →
        (Config.start db (calls.map LinkCall.prog)).run evs = some c → (registry c.db).Linked) ∧
      orphans (runAll LinkCall.prog sharedPrivate emptyProperty) ≠ [] ∧
      ((Config.start unusedType (typeGoes.map LinkCall.prog)).run countedEarly).any
        (fun c => decide (orphans c.db ≠ [])) = true := by
  have hroom : orphans (runAll LinkCall.prog sharedPrivate emptyProperty) ≠ [] := by
    decide +kernel
  refine ⟨fun hlaw => ?_, hroom, by decide +kernel⟩
  exact not_linked hroom (hlaw.1 emptyProperty sharedPrivate tidy_emptyProperty).linked

/-- A room with its own type and one of a shared type, and the first is removed. -/
def carefulSteps : List (LinkCall × (ℕ → Option String)) :=
  [(.createRoom 1 { specs := some suiteSpecs, number := "101" } 7 10, noFaults),
    (.createType 1 { suiteSpecs with name := "Deluxe" } 8, noFaults),
    (.createRoom 1 { roomTypeId := some 8, number := "102" } 9 11, noFaults),
    (.removeRoom 1 1 12, noFaults)]

/-- The room is there before its type is asked for. -/
def typeStays : List Event := List.replicate 7 (.step 1) ++ List.replicate 2 (.step 0)

theorem rooms_linked_in_turn :
    Tidy (runAll LinkCall.prog carefulSteps emptyProperty) ∧
      ∃ c, (Config.start unusedType (typeGoes.map LinkCall.prog)).run typeStays = some c ∧
        (registry c.db).Linked := by
  have hruns : ((Config.start unusedType (typeGoes.map LinkCall.prog)).run
      typeStays).isSome = true := by
    decide +kernel
  obtain ⟨c, hrun⟩ := Option.isSome_iff_exists.mp hruns
  refine ⟨(rooms_linked emptyProperty).1 carefulSteps tidy_emptyProperty ?_, c, hrun,
    (rooms_linked unusedType).2 typeGoes typeStays c linked_unusedType (by decide +kernel) hrun⟩
  refine ⟨⟨(fun k hk => by cases hk), fun _ _ => ⟨by decide +kernel, fun _ _ => rfl⟩⟩, trivial,
    ⟨?_, (fun hnone => by cases hnone)⟩, trivial, trivial⟩
  decide +kernel

end RoomLinks

end Travelo

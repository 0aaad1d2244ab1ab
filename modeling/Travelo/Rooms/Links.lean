import Travelo.Claims.Narrowing
import Travelo.Claims.References
import Travelo.ReadCommitted.Guarded
import Travelo.ReadCommitted.Solo
import Travelo.Rooms.Count
import Travelo.Rooms.Editing

/-!
# Rooms and their types

Which live room has which live type, as a registry of members and groups, and what each write of
`RoomsService` and `RoomTypesService` does to it. `linked_run`: among other calls each live room keeps
a live type of its property while the type that a room gets is there at the commit, and a type that
goes has no other room.
-/

namespace Travelo

open ReadCommitted Claims
open RoomTypesService (archiveRoomType insertRoomType patched updateRoomType indexed newRoomType
  amenitiesToSet)
open ReservationsService (roomTypeOf roomOf requireRoomType requireRoom)
open Registry (ext leave found move)

namespace RoomLinks

open RoomsService

/-! ## Calls -/

/-- A call on the rooms and the types, with the clock and the id that is drawn for a new type. -/
inductive LinkCall where
  | createRoom (propertyId : Id) (dto : CreateRoomDto) (typeId : Id) (now : ℤ)
  | bulkCreate (propertyId : Id) (dto : BulkCreateRoomsDto) (now : ℤ)
  | updateRoom (propertyId id : Id) (dto : UpdateRoomDto) (now : ℤ)
  | removeRoom (propertyId id : Id) (now : ℤ)
  | createType (propertyId : Id) (dto : RoomTypeInputDto) (typeId : Id)
  | updateType (propertyId id : Id) (dto : RoomTypeRecords.UpdateRoomTypeDto)
  | removeType (propertyId id : Id) (now : ℤ)

def LinkCall.prog : LinkCall → Op Unit
  | .createRoom propertyId dto typeId now => do
    let _ ← RoomsService.create propertyId dto typeId now
  | .bulkCreate propertyId dto now => do
    let _ ← RoomsService.bulkCreate propertyId dto now
  | .updateRoom propertyId id dto now => do
    let _ ← RoomsService.update propertyId id dto now
  | .removeRoom propertyId id now => do
    let _ ← RoomsService.remove propertyId id now
  | .createType propertyId dto typeId => do
    let _ ← RoomTypesService.create propertyId dto false typeId
  | .updateType propertyId id dto => RoomTypesService.update propertyId id dto
  | .removeType propertyId id now => do
    let _ ← RoomTypesService.remove propertyId id now

/-! ## The registry -/

/-- The live rooms with their properties and types, and the live types. -/
def registry (db : HotelDb) : Registry Id Id Id where
  members := {m | ∃ r ∈ db.rooms, r.deletedAt = none ∧ m = (r.id, r.propertyId, r.roomTypeId)}
  groups := {g | ∃ t ∈ db.roomTypes, t.deletedAt = none ∧ g = (t.id, t.propertyId, t.isPrivate)}

section Registry

variable {db db' : HotelDb} {propertyId id : Id} {now : ℤ}

theorem in_registry {i k : Id} :
    (registry db).In i k ↔ ∃ r ∈ db.rooms, r.deletedAt = none ∧ r.id = i ∧ r.roomTypeId = k := by
  constructor
  · rintro ⟨p, r, hr, hlive, heq⟩
    cases heq
    exact ⟨r, hr, hlive, rfl, rfl⟩
  · rintro ⟨r, hr, hlive, rfl, rfl⟩
    exact ⟨r.propertyId, r, hr, hlive, rfl⟩

theorem group_of_roomTypeOf {t : RoomType}
    (h : roomTypeOf propertyId id db = some t) :
    t.id = id ∧ (id, propertyId, t.isPrivate) ∈ (registry db).groups := by
  unfold roomTypeOf at h
  rw [Option.filter_eq_some_iff] at h
  obtain ⟨hfind, hlive⟩ := h
  obtain ⟨hmem, hid⟩ := Table.find?_eq_some.mp hfind
  simp only [and_decide_eq, Option.isNone_iff_eq_none] at hlive
  exact ⟨hid, t, hmem, hlive.2, by rw [hid, hlive.1]⟩

theorem member_of_roomOf {r : Room} (h : roomOf propertyId id db = some r) :
    db.rooms.find? id = some r ∧ r.id = id ∧ r.deletedAt = none ∧ r.propertyId = propertyId := by
  unfold roomOf at h
  rw [Option.filter_eq_some_iff] at h
  obtain ⟨hfind, hlive⟩ := h
  simp only [and_decide_eq, Option.isNone_iff_eq_none] at hlive
  exact ⟨hfind, key_of_find? hfind, hlive.2, hlive.1⟩

/-! ## What a write does to the registry -/

theorem registry_insertRooms {k : Id} {status : Option RoomStatus} {notes : Option String}
    {numbers : List String} (hfree : (withNumbers propertyId numbers db).isEmpty = true) :
    registry (applied (insertRooms propertyId (newRoom propertyId k status notes) numbers) db) =
      (registry db).join
        {i | ∃ r ∈ newRooms (newRoom propertyId k status notes) numbers db, r.id = i}
        propertyId k := by
  have hfresh := @newRooms_fresh (newRoom propertyId k status notes) numbers db fun _ _ => rfl
  have hrows : ∀ r, r ∈ (applied (insertRooms propertyId (newRoom propertyId k status notes)
      numbers) db).rooms ↔ r ∈ db.rooms ∨
        r ∈ newRooms (newRoom propertyId k status notes) numbers db := by
    intro r
    simp only [applied, insertRooms, hfree, if_true, ← mem_rows]
    rw [rows_foldl_insert hfresh.1 hfresh.2, List.mem_append]
  have hnew : ∀ r ∈ newRooms (newRoom propertyId k status notes) numbers db,
      r.deletedAt = none ∧ r.propertyId = propertyId ∧ r.roomTypeId = k := by
    intro r hr
    simp only [newRooms, List.mem_map] at hr
    obtain ⟨n, -, rfl⟩ := hr
    exact ⟨rfl, rfl, rfl⟩
  refine ext (Set.ext fun m => ⟨?_, ?_⟩) ?_
  · rintro ⟨r, hr, hlive, rfl⟩
    rcases (hrows r).mp hr with hr | hr
    · exact .inl ⟨r, hr, hlive, rfl⟩
    · obtain ⟨-, hp, hk⟩ := hnew r hr
      exact .inr ⟨⟨r, hr, rfl⟩, by rw [hp, hk]⟩
  · rintro (⟨r, hr, hlive, rfl⟩ | ⟨⟨r, hr, hid⟩, heq⟩)
    · exact ⟨r, (hrows r).mpr (.inl hr), hlive, rfl⟩
    · obtain ⟨hlive, hp, hk⟩ := hnew r hr
      refine ⟨r, (hrows r).mpr (.inr hr), hlive, ?_⟩
      rw [hp, hk, ← heq, hid]
  · simp only [applied, insertRooms, hfree, if_true]
    rfl

theorem registry_deleteRoom (hrooms : db'.rooms = db.rooms.update (fun r => r.id = id)
      fun r => { r with deletedAt := some now, updatedAt := now })
    (htypes : db'.roomTypes = db.roomTypes) : registry db' = (registry db).leave id := by
  unfold registry leave
  rw [hrooms, htypes]
  refine ext (Set.ext fun m => ⟨?_, ?_⟩) rfl
  · rintro ⟨r, hr, hlive, rfl⟩
    obtain ⟨a, ha, rfl⟩ := Table.mem_update.mp hr
    by_cases hid : a.id = id
    · simp [hid] at hlive
    · simp only [hid, decide_false, Bool.false_eq_true, if_false] at hlive ⊢
      exact ⟨⟨a, ha, hlive, rfl⟩, hid⟩
  · rintro ⟨⟨r, hr, hlive, rfl⟩, hid⟩
    refine ⟨r, Table.mem_update.mpr ⟨r, hr, ?_⟩, hlive, rfl⟩
    rw [if_neg (by simpa using hid)]

theorem deleted_id (now : ℤ) (r : Room) :
    { r with deletedAt := some now, updatedAt := now }.id = r.id := rfl

/-- What `remove` writes to the room. -/
def deletedRoom (id : Id) (now : ℤ) (db : HotelDb) : HotelDb :=
  let rooms := db.rooms.update (fun r => r.id = id)
    (fun r => { r with deletedAt := some now, updatedAt := now }) (deleted_id now)
  { db with rooms }

theorem registry_deletedRoom : registry (deletedRoom id now db) = (registry db).leave id :=
  registry_deleteRoom rfl rfl

theorem registry_deleteType (f : RoomType → RoomType) (hf : ∀ t, (f t).id = t.id)
    (hdeleted : ∀ t, (f t).deletedAt ≠ none)
    (htypes : db'.roomTypes = db.roomTypes.update (fun t => t.id = id) f hf)
    (hrooms : db'.rooms = db.rooms) : registry db' = (registry db).dissolve id := by
  unfold registry Registry.dissolve
  rw [hrooms, htypes]
  refine ext rfl (Set.ext fun g => ⟨?_, ?_⟩)
  · rintro ⟨t, ht, hlive, rfl⟩
    obtain ⟨a, ha, rfl⟩ := Table.mem_update.mp ht
    by_cases hid : a.id = id
    · simp only [hid, decide_true, if_true] at hlive
      exact absurd hlive (hdeleted a)
    · simp only [hid, decide_false, Bool.false_eq_true, if_false] at hlive ⊢
      exact ⟨⟨a, ha, hlive, rfl⟩, hid⟩
  · rintro ⟨⟨t, ht, hlive, rfl⟩, hid⟩
    refine ⟨t, Table.mem_update.mpr ⟨t, ht, ?_⟩, hlive, rfl⟩
    rw [if_neg (by simpa using hid)]

theorem registry_deleteRoomType :
    registry (deleteRoomType id now db) = (registry db).dissolve id :=
  registry_deleteType (fun t => { t with deletedAt := some now }) (fun _ => rfl)
    (fun _ => Option.some_ne_none now) rfl rfl

theorem registry_archiveRoomType :
    registry (archiveRoomType id now db) = (registry db).dissolve id :=
  registry_deleteType (fun t => { t with deletedAt := some now, active := false }) (fun _ => rfl)
    (fun _ => Option.some_ne_none now) rfl rfl

theorem registry_insertRoomType {row : RoomType} (hlive : row.deletedAt = none)
    (hnew : db.roomTypes.hasKey row.id = false)
    (htypes : db'.roomTypes = db.roomTypes.insert row) (hrooms : db'.rooms = db.rooms) :
    registry db' = (registry db).found row.id row.propertyId row.isPrivate := by
  unfold registry found
  rw [hrooms, htypes]
  refine ext rfl (Set.ext fun g => ⟨?_, ?_⟩)
  · rintro ⟨t, ht, htlive, rfl⟩
    rcases (mem_insert hnew).mp ht with ht | rfl
    · exact .inr ⟨t, ht, htlive, rfl⟩
    · exact .inl rfl
  · rintro (rfl | ⟨t, ht, htlive, rfl⟩)
    · exact ⟨row, (mem_insert hnew).mpr (.inr rfl), hlive, rfl⟩
    · exact ⟨t, (mem_insert hnew).mpr (.inl ht), htlive, rfl⟩

theorem insertRoomType_ok {row : RoomType} (h : insertRoomType row db = .ok db') :
    db.roomTypes.hasKey row.id = false ∧
      db' = { db with roomTypes := db.roomTypes.insert row } := by
  unfold insertRoomType at h
  dsimp only at h
  split_ifs at h with hkey _ _
  cases h
  exact ⟨by simpa using hkey, rfl⟩

theorem only_patchRequired {α : Type} (column : String) (f : RoomTypeRecords.Field α)
    (current : α) : Only (RoomsService.patchRequired column f current) (f.orElse current) := by
  intro a h
  cases f with
  | absent =>
    cases h
    rfl
  | null => cases h
  | given b =>
    cases h
    rfl

theorem patchedRoom_ok {dto : UpdateRoomDto} {r row : Room} (h : patchedRoom dto now r = .ok row) :
    row.id = r.id ∧ row.propertyId = r.propertyId ∧ row.deletedAt = r.deletedAt ∧
      row.roomTypeId = dto.roomTypeId.orElse r.roomTypeId := by
  unfold patchedRoom at h
  rw [(only_patchRequired _ _ _).bind_ok_iff] at h
  obtain ⟨-, h⟩ := h
  rw [(only_patchRequired _ _ _).bind_ok_iff] at h
  obtain ⟨-, h⟩ := h
  rw [(only_patchRequired _ _ _).bind_ok_iff] at h
  obtain ⟨-, h⟩ := h
  cases h
  exact ⟨rfl, rfl, rfl, rfl⟩

theorem patchRoom_ok {dto : UpdateRoomDto} {r : Room} (hfind : db.rooms.find? id = some r)
    (h : patchRoom id dto now db = .ok db') :
    ∃ row, patchedRoom dto now r = .ok row ∧ db'.roomTypes = db.roomTypes ∧
      db'.rooms = db.rooms.update (fun r => r.id = id) fun r => { row with id := r.id } := by
  unfold patchRoom at h
  rw [hfind] at h
  dsimp only at h
  cases hrow : patchedRoom dto now r with
  | error e =>
    rw [hrow] at h
    cases h
  | ok row =>
    rw [hrow] at h
    dsimp only [bind, Except.bind] at h
    split_ifs at h
    cases h
    exact ⟨row, rfl, rfl, rfl⟩

theorem registry_patchRoom {dto : UpdateRoomDto} (h : patchRoom id dto now db = .ok db') :
    registry db' = registry db ∨ ∃ r, db.rooms.find? id = some r ∧
      registry db' = (registry db).move id (dto.roomTypeId.orElse r.roomTypeId) := by
  cases hfind : db.rooms.find? id with
  | none =>
    rw [patchRoom, hfind] at h
    cases h
    exact .inl rfl
  | some r =>
    right
    obtain ⟨row, hrow, htypes, hrooms⟩ := patchRoom_ok hfind h
    obtain ⟨hrowid, hplace, hdeleted, htype⟩ := patchedRoom_ok hrow
    obtain ⟨hmem, hid⟩ := Table.find?_eq_some.mp hfind
    refine ⟨r, rfl, ?_⟩
    unfold registry move
    rw [hrooms, htypes]
    refine ext (Set.ext fun m => ⟨?_, ?_⟩) rfl
    · rintro ⟨q, hq, hlive, rfl⟩
      obtain ⟨a, ha, rfl⟩ := Table.mem_update.mp hq
      by_cases haid : a.id = id
      · obtain rfl : a = r := eq_of_key_eq ha hmem (haid.trans hid.symm)
        simp only [haid, decide_true, if_true] at hlive ⊢
        exact .inr ⟨rfl, htype, a.roomTypeId, a, ha, hdeleted ▸ hlive, by rw [hplace, hid]⟩
      · simp only [haid, decide_false, Bool.false_eq_true, if_false] at hlive ⊢
        exact .inl ⟨⟨a, ha, hlive, rfl⟩, haid⟩
    · rintro (⟨⟨a, ha, hlive, rfl⟩, haid⟩ | ⟨hmid, hmk, k, a, ha, hlive, heq⟩)
      · refine ⟨a, Table.mem_update.mpr ⟨a, ha, ?_⟩, hlive, rfl⟩
        rw [if_neg (by simpa using haid)]
      · obtain ⟨j, q, l⟩ := m
        obtain rfl : j = id := hmid
        obtain rfl : l = _ := hmk
        simp only [Prod.mk.injEq] at heq
        obtain ⟨haid, rfl, -⟩ := heq
        obtain rfl : a = r := eq_of_key_eq ha hmem (haid.symm.trans hid.symm)
        refine ⟨{ row with id := a.id }, Table.mem_update.mpr ⟨a, ha, ?_⟩, ?_, ?_⟩
        · rw [if_pos (by simpa using hid)]
        · exact hdeleted.trans hlive
        · rw [hid, hplace, htype]

variable {dto : RoomTypeRecords.UpdateRoomTypeDto}

theorem patched_ok {before t row : RoomType} (h : patched dto before t = .ok row) :
    row.id = t.id ∧ row.propertyId = t.propertyId ∧ row.isPrivate = t.isPrivate ∧
      row.deletedAt = t.deletedAt := by
  unfold patched at h
  split at h
  · cases h
    exact ⟨rfl, rfl, rfl, rfl⟩
  · cases h

theorem updateRoomType_ok {before t : RoomType} (hfind : db.roomTypes.find? before.id = some t)
    (h : updateRoomType dto before db = .ok db') :
    ∃ row, patched dto before t = .ok row ∧ db'.rooms = db.rooms ∧
      db'.roomTypes = db.roomTypes.update (fun t => t.id = before.id) fun t =>
        { row with id := t.id } := by
  unfold updateRoomType at h
  rw [hfind] at h
  dsimp only at h
  cases hrow : patched dto before t with
  | error e =>
    rw [hrow] at h
    cases h
  | ok row =>
    rw [hrow] at h
    cases hindexed : indexed row db with
    | error e =>
      simp only [bind, Except.bind, hindexed] at h
      cases h
    | ok _ =>
      simp only [bind, Except.bind, hindexed] at h
      cases h
      exact ⟨row, rfl, rfl, rfl⟩

theorem registry_updateRoomType {before : RoomType}
    (h : updateRoomType dto before db = .ok db') : registry db' = registry db := by
  cases hfind : db.roomTypes.find? before.id with
  | none =>
    rw [updateRoomType, hfind] at h
    cases h
    rfl
  | some t =>
    obtain ⟨row, hrow, hrooms, htypes⟩ := updateRoomType_ok hfind h
    obtain ⟨-, hplace, hprivate, hdeleted⟩ := patched_ok hrow
    obtain ⟨hmem, hid⟩ := Table.find?_eq_some.mp hfind
    unfold registry
    rw [hrooms, htypes]
    refine ext rfl (Set.ext fun g => ⟨?_, ?_⟩)
    · rintro ⟨q, hq, hlive, rfl⟩
      obtain ⟨a, ha, rfl⟩ := Table.mem_update.mp hq
      by_cases haid : a.id = before.id
      · obtain rfl : a = t := eq_of_key_eq ha hmem (haid.trans hid.symm)
        simp only [haid, decide_true, if_true] at hlive ⊢
        exact ⟨a, ha, hdeleted ▸ hlive, by rw [hplace, hprivate, hid]⟩
      · simp only [haid, decide_false, Bool.false_eq_true, if_false] at hlive ⊢
        exact ⟨a, ha, hlive, rfl⟩
    · rintro ⟨a, ha, hlive, rfl⟩
      by_cases haid : a.id = before.id
      · obtain rfl : a = t := eq_of_key_eq ha hmem (haid.trans hid.symm)
        refine ⟨{ row with id := a.id }, Table.mem_update.mpr ⟨a, ha, ?_⟩, ?_, ?_⟩
        · rw [if_pos (by simpa using hid)]
        · exact hdeleted.trans hlive
        · rw [hplace, hprivate]
      · refine ⟨a, Table.mem_update.mpr ⟨a, ha, ?_⟩, hlive, rfl⟩
        rw [if_neg (by simpa using haid)]

end Registry

/-! ## What a call publishes -/

/-- The numbers of a request that no live room has. -/
def newNumbers (propertyId : Id) (requested : List String) (db : HotelDb) : List String :=
  let taken := (withNumbers propertyId requested db).map (·.number)
  requested.filter fun n => !taken.contains n

/-- The rooms join a group, or there are none. -/
def Joins (propertyId k : Id) (w : HotelDb → HotelDb) : Prop :=
  ∀ db, registry (w db) = registry db ∨
    ∃ is, registry (w db) = (registry db).join is propertyId k

/-- What a call publishes of the registry. -/
inductive LinkWrite : LinkCall → Trace → (HotelDb → HotelDb) → Prop where
  | quiet {call h w} (hw : ∀ db, registry (w db) = registry db) : LinkWrite call h w
  | founded {call h w} (hw : ∀ db, registry (w db) = registry db ∨
      ∃ k p b, registry (w db) = (registry db).found k p b) : LinkWrite call h w
  /-- The rooms of a request, after the type if it is minted for them. -/
  | joined {propertyId dto typeId now h w} (hlate : dto.roomTypeId = none → writes h ≠ 0)
      (hw : Joins propertyId (dto.roomTypeId.getD typeId) w) :
      LinkWrite (.createRoom propertyId dto typeId now) h w
  | filled {propertyId dto now requested b h w} (hrequested : expandNumbers dto = .ok requested)
      (hread : (.roomNumbers propertyId requested, b) ∈ reads h)
      (hsome : newNumbers propertyId requested b ≠ []) (hw : Joins propertyId dto.roomTypeId w) :
      LinkWrite (.bulkCreate propertyId dto now) h w
  /-- The room, after the specifications of its type. -/
  | moved {propertyId id dto now h w} (hlate : dto.specs.isSome → writes h ≠ 0)
      (hw : ∀ db, registry (w db) = registry db ∨ ∃ r, db.rooms.find? id = some r ∧
        registry (w db) = (registry db).move id (dto.roomTypeId.orElse r.roomTypeId)) :
      LinkWrite (.updateRoom propertyId id dto now) h w
  /-- A room, and the type that was private to it. -/
  | removed {propertyId id now before type b b' h w} (hread : (.room id, b) ∈ reads h)
      (hbefore : roomOf propertyId id b = some before)
      (hread' : (.roomType before.roomTypeId, b') ∈ reads h)
      (htype : roomTypeOf propertyId before.roomTypeId b' = some type)
      (hw : ∀ db, registry (w db) = if type.isPrivate = true then
        ((registry db).leave id).dissolve type.id else (registry db).leave id) :
      LinkWrite (.removeRoom propertyId id now) h w
  | retired {propertyId id now h w} (hw : ∀ db, registry (w db) = (registry db).dissolve id) :
      LinkWrite (.removeType propertyId id now) h w

/-- The registry stays as it is. -/
def SameRegistry (s s' : HotelDb) : Prop := registry s' = registry s

theorem SameRegistry.refl (s : HotelDb) : SameRegistry s s := rfl

theorem SameRegistry.trans (s s' s'' : HotelDb) (h : SameRegistry s s') (h' : SameRegistry s' s'') :
    SameRegistry s s'' := Eq.trans h' h

section Writes

variable {propertyId : Id} {call : LinkCall} {h : Trace} {now : ℤ}

theorem keeps_recountRooms : (recountRooms propertyId now).Keeps SameRegistry :=
  .bind (.select _ _) fun _ => .bind (.write _ _ fun _ => rfl) fun _ => .pure _

variable {numbers : List String}

theorem keeps_attachExtras {extras : List Amenity} :
    (attachExtras propertyId numbers extras).Keeps SameRegistry := .write _ _ fun _ => rfl

theorem joins_insertRooms {k : Id} {status : Option RoomStatus} {notes : Option String} :
    Joins propertyId k
      (applied (insertRooms propertyId (newRoom propertyId k status notes) numbers)) := by
  intro db
  by_cases hfree : (withNumbers propertyId numbers db).isEmpty = true
  · exact .inr ⟨_, registry_insertRooms hfree⟩
  · left
    simp only [applied, insertRooms, hfree]
    rfl

theorem founded_insertRoomType {row : RoomType} (hlive : row.deletedAt = none) (db : HotelDb) :
    registry (applied (insertRoomType row) db) = registry db ∨
      ∃ k p b, registry (applied (insertRoomType row) db) =
        (registry db).found k p b := by
  unfold applied
  split
  · rename_i db' hinsert
    obtain ⟨hnew, rfl⟩ := insertRoomType_ok hinsert
    exact .inr ⟨_, _, _, registry_insertRoomType hlive hnew rfl rfl⟩
  · exact .inl rfl

theorem wp_createType {dto : RoomTypeInputDto} {isPrivate : Bool} {id : Id} :
    (RoomTypesService.create propertyId dto isPrivate id).wp (LinkWrite call)
      (fun row h' t => row.id = id ∧ t = .idle ∧ writes h' ≠ 0) (fun _ _ _ => True) h .idle := by
  simp only [RoomTypesService.create, wp_bind]
  refine (resolveForScope_readOnly _ _).wp_idle _ (fun attach o _ => ?_) fun _ _ _ => trivial
  simp only [wp_simps, wp_when, writes_wrote]
  intro _ _ _ _ _
  have hfounded : ∀ w, (∀ db, registry (w db) = registry (applied (insertRoomType
      (newRoomType propertyId dto isPrivate id)) db)) →
      LinkWrite call (o ++ h) w := by
    intro w hw
    refine .founded fun db => ?_
    rw [hw]
    exact founded_insertRoomType rfl db
  have hwrites : writes (o ++ h) + 1 ≠ 0 := Nat.succ_ne_zero _
  exact ⟨fun _ _ => ⟨fun _ _ => ⟨hfounded _ fun _ => rfl, rfl, hwrites⟩,
      fun _ => ⟨hfounded _ fun _ => rfl, rfl, hwrites⟩⟩,
    fun _ => ⟨fun _ _ => ⟨hfounded _ fun _ => rfl, rfl, hwrites⟩,
      fun _ => ⟨hfounded _ fun _ => rfl, rfl, hwrites⟩⟩⟩

theorem readOnly_amenitiesToSet (amenityIds : RoomTypeRecords.Field (List Id)) :
    (amenitiesToSet amenityIds).ReadOnly :=
  .ite _ (resolveForScope_readOnly _ _) (.pure [])

theorem wp_updateType {id : Id} {dto : RoomTypeRecords.UpdateRoomTypeDto} :
    (RoomTypesService.update propertyId id dto).wp (LinkWrite call)
      (fun _ h' t => t = .idle ∧ writes h' ≠ 0) (fun _ _ _ => True) h .idle := by
  simp only [RoomTypesService.update, requireRoomType, wp_simps]
  intro db before _ _ _ _
  refine (readOnly_amenitiesToSet _).wp_idle _ (fun attach o _ => ?_) fun _ _ _ => trivial
  simp only [wp_simps, wp_when, writes_wrote]
  intro _ _ _
  have hsame : ∀ db, registry (applied (updateRoomType dto before) db) =
      registry db := by
    intro db
    unfold applied
    split
    · exact registry_updateRoomType ‹_›
    · rfl
  have hquiet : ∀ h' w, (∀ db, registry (w db) = registry (applied
      (updateRoomType dto before) db)) → LinkWrite call h' w :=
    fun h' w hw => .quiet fun db => (hw db).trans (hsame db)
  have hwrites : ∀ h' : Trace, writes h' + 1 ≠ 0 := fun _ => Nat.succ_ne_zero _
  exact ⟨fun _ _ => ⟨fun _ _ => ⟨hquiet _ _ fun _ => rfl, hwrites _⟩,
      fun _ => ⟨hquiet _ _ fun _ => rfl, hwrites _⟩⟩,
    fun _ => ⟨fun _ _ => ⟨hquiet _ _ fun _ => rfl, hwrites _⟩,
      fun _ => ⟨hquiet _ _ fun _ => rfl, hwrites _⟩⟩⟩

/-- What `create` does once the type is known. -/
def fileRooms (propertyId : Id) (dto : CreateRoomDto) (numbers : List String) (now : ℤ)
    (roomTypeId : Id) : Op (List Room × ℕ) := do
  let extras ← AmenitiesService.resolveForScope dto.amenityIds .ROOM
  let room := newRoom propertyId roomTypeId dto.status dto.notes
  transaction do
    let inserted ← tryCatchThe Err
      (writeChecked (fun _ => numbers.map (RowKey.roomNumber propertyId))
        (insertRooms propertyId room numbers) (newRooms room numbers))
      fun e => throw (if e = .uniqueViolation then .roomNumberTaken (numbers.headD "") else e)
    when (extras ≠ []) <| attachExtras propertyId numbers extras
    let count ← recountRooms propertyId now
    return (inserted, count)

theorem create_eq (dto : CreateRoomDto) (typeId : Id) :
    RoomsService.create propertyId dto typeId now = (do
      throwIf (roomNumbersOf dto = []) .roomSpecsMissing
      assertRoomNumbersFree propertyId (roomNumbersOf dto)
      let roomTypeId ← resolveTypeForNewRooms propertyId dto (roomNumbersOf dto) typeId
      fileRooms propertyId dto (roomNumbersOf dto) now roomTypeId) := rfl

variable {dto : CreateRoomDto} {typeId : Id}

theorem wp_fileRooms (hlate : dto.roomTypeId = none → writes h ≠ 0) :
    (fileRooms propertyId dto numbers now (dto.roomTypeId.getD typeId)).wp
      (LinkWrite (.createRoom propertyId dto typeId now)) (fun _ _ _ => True) (fun _ _ _ => True)
      h .idle := by
  simp only [fileRooms, wp_bind]
  refine (resolveForScope_readOnly _ _).wp_idle _ (fun extras o ho => ?_) fun _ _ _ => trivial
  refine wp_mono (fun _ _ hw => hw) (fun _ _ _ _ => trivial) (fun _ _ _ _ => trivial) _ _ _
    (Prog.Publishes.transaction ?_)
  rw [wp_bind, wp_tryCatch, wp_writeChecked_active]
  refine ⟨fun s s' _ => ?_, fun _ _ _ => trivial, fun _ => trivial⟩
  have hrest : ∀ inserted : List Room, (do
      when (extras ≠ []) <| attachExtras propertyId numbers extras
      let count ← recountRooms propertyId now
      return (inserted, count) : Op (List Room × ℕ)).Keeps SameRegistry := fun inserted =>
    .bind (.when _ keeps_attachExtras) fun _ => .bind keeps_recountRooms fun _ => .pure _
  refine (hrest _).wp_rest SameRegistry.refl SameRegistry.trans fun o' w' ho' hw' => ?_
  refine .joined (fun hnone => ?_) fun db => ?_
  · rw [writes_append ho', writes_append ho]
    exact hlate hnone
  · rw [hw' db]
    exact joins_insertRooms db

theorem wp_resolveType :
    (resolveTypeForNewRooms propertyId dto numbers typeId).wp (LinkWrite call)
      (fun k h' t => k = dto.roomTypeId.getD typeId ∧ t = .idle ∧
        (dto.roomTypeId = none → writes h' ≠ 0)) (fun _ _ _ => True) h .idle := by
  unfold resolveTypeForNewRooms
  rw [wp_bind, wp_throwIf]
  refine ⟨fun _ => trivial, fun _ => ?_⟩
  cases htype : dto.roomTypeId with
  | some k =>
    simp only [requireRoomType, wp_simps, Option.getD_some]
    intro _ _ _ hnone
    cases hnone
  | none =>
    cases dto.specs with
    | none => trivial
    | some specs =>
      dsimp only
      rw [wp_bind]
      refine wp_mono (fun _ _ hw => hw) ?_ (fun _ _ _ he => he) _ _ _ wp_createType
      rintro row h' t ⟨hid, ht, hlate⟩
      exact ⟨hid, ht, fun _ => hlate⟩

theorem wp_createRoom :
    (RoomsService.create propertyId dto typeId now).wp
      (LinkWrite (.createRoom propertyId dto typeId now)) (fun _ _ _ => True) (fun _ _ _ => True)
      h .idle := by
  rw [create_eq, wp_bind, wp_throwIf]
  refine ⟨fun _ => trivial, fun _ => ?_⟩
  rw [wp_bind]
  refine (assertRoomNumbersFree_readOnly _).wp_idle _ (fun _ o _ => ?_) fun _ _ _ => trivial
  rw [wp_bind]
  refine wp_mono (fun _ _ hw => hw) ?_ (fun _ _ _ he => he) _ _ _ wp_resolveType
  rintro k h' t ⟨rfl, rfl, hlate⟩
  exact wp_fileRooms hlate

theorem wp_bulkCreate {dto : BulkCreateRoomsDto} :
    (RoomsService.bulkCreate propertyId dto now).wp (LinkWrite (.bulkCreate propertyId dto now))
      (fun _ _ _ => True) (fun _ _ _ => True) h .idle := by
  simp only [RoomsService.bulkCreate, requireRoomType, wp_bind, wp_select_idle, wp_orThrow, wp_lift,
    wp_throwIf, trivially]
  intro _ _ _ requested hrequested _
  refine wp_mono (fun _ _ hw => hw) (fun _ _ _ _ => trivial) (fun _ _ _ _ => trivial) _ _ _
    (Prog.Publishes.transaction ?_)
  rw [wp_bind, wp_select_active]
  refine ⟨fun db => ?_, fun _ => trivial⟩
  have hrecount : ∀ created : List Room, ∀ skipped : List String, (do
      let count ← recountRooms propertyId now
      return (created, skipped, count) : Op (List Room × List String × ℕ)).Keeps SameRegistry :=
    fun _ _ => .bind keeps_recountRooms fun _ => .pure _
  split
  · refine (hrecount _ _).wp_rest SameRegistry.refl SameRegistry.trans fun o w' _ hw' => ?_
    exact .quiet hw'
  · rename_i hsome
    rw [wp_bind, wp_writeChecked_active]
    refine ⟨fun s s' _ => ?_, fun _ _ _ => trivial, fun _ => trivial⟩
    refine (hrecount _ _).wp_rest SameRegistry.refl SameRegistry.trans fun o w' _ hw' => ?_
    refine .filled hrequested ?_ hsome fun s => ?_
    · exact mem_reads.mpr (List.mem_append_right o List.mem_cons_self)
    · rw [hw' s]
      exact joins_insertRooms s

theorem wp_writeRoom {id : Id} {dto : UpdateRoomDto} {before : Room}
    (hlate : dto.specs.isSome → writes h ≠ 0) :
    (writeRoom propertyId id dto before now).wp (LinkWrite (.updateRoom propertyId id dto now))
      (fun _ _ _ => True) (fun _ _ _ => True) h .idle := by
  rw [writeRoom, wp_bind, wp_throwIf]
  refine ⟨fun _ => trivial, fun _ => ?_⟩
  rw [wp_bind]
  refine (readOnly_amenitiesToSet _).wp_idle _ (fun extras o ho => ?_) fun _ _ _ => trivial
  refine wp_mono (fun _ _ hw => hw) (fun _ _ _ _ => trivial) (fun _ _ _ _ => trivial) _ _ _
    (Prog.Publishes.transaction ?_)
  rw [wp_bind, wp_tryCatch, wp_writeChecked_active]
  refine ⟨fun s s' _ => ?_, fun _ _ _ => trivial, fun _ => trivial⟩
  have hextras : (when (dto.amenityIds.present = true) <|
      write (fun _ => []) (replaceExtras id extras) fun _ => () : Op Unit).Keeps
        SameRegistry := .when _ (.write _ _ fun _ => rfl)
  refine hextras.wp_rest SameRegistry.refl SameRegistry.trans fun o' w' ho' hw' => ?_
  refine .moved (fun hsome => ?_) fun db => ?_
  · rw [writes_append ho', writes_append ho]
    exact hlate hsome
  · rw [hw' db]
    unfold Function.comp applied
    split
    · exact registry_patchRoom ‹_›
    · exact .inl rfl

theorem readOnly_requireNewType (roomTypeId : RoomTypeRecords.Field Id) :
    (requireNewType propertyId roomTypeId).ReadOnly := by
  cases roomTypeId with
  | absent => exact .pure ()
  | null => exact .throw _
  | given id => exact .bind (.bind (.select _ _) fun _ => .orThrow _ _) fun _ => .pure ()

theorem wp_updateRoom {id : Id} {dto : UpdateRoomDto} :
    (RoomsService.update propertyId id dto now).wp (LinkWrite (.updateRoom propertyId id dto now))
      (fun _ _ _ => True) (fun _ _ _ => True) h .idle := by
  simp only [RoomsService.update, requireRoom, wp_simps]
  intro db before _
  refine (readOnly_requireNewType _).wp_idle _ (fun _ o _ => ?_) fun _ _ _ => trivial
  rw [wp_forSome]
  constructor
  · intro specs _
    simp only [respecify, requireRoomType, wp_simps]
    intro db' type _ _
    refine wp_mono (fun _ _ hw => hw) ?_ (fun _ _ _ he => he) _ _ _ wp_updateType
    rintro _ h' t ⟨rfl, hlate⟩
    exact wp_mono (fun _ _ hw => hw) (fun _ _ _ _ => trivial) (fun _ _ _ he => he) _ _ _
      (wp_writeRoom fun _ => hlate)
  · intro hnone
    refine wp_mono (fun _ _ hw => hw) (fun _ _ _ _ => trivial) (fun _ _ _ he => he) _ _ _
      (wp_writeRoom fun hsome => ?_)
    rw [hnone] at hsome
    cases hsome

theorem wp_removeRoom {id : Id} :
    (RoomsService.remove propertyId id now).wp (LinkWrite (.removeRoom propertyId id now))
      (fun _ _ _ => True) (fun _ _ _ => True) h .idle := by
  simp only [RoomsService.remove, requireRoom, requireRoomType, wp_bind, wp_select_idle, wp_orThrow,
    trivially]
  intro db before hbefore db' type htype
  refine wp_mono (fun _ _ hw => hw) (fun _ _ _ _ => trivial) (fun _ _ _ _ => trivial) _ _ _
    (Prog.Publishes.transaction ?_)
  rw [wp_bind, updateRooms, wp_write_active]
  refine ⟨fun s => ?_, fun _ => trivial⟩
  have hread : ∀ o, (.room id, db) ∈ reads (o ++
      .saw (.roomType before.roomTypeId) db' :: .saw (.room id) db :: h) := fun o =>
    mem_reads.mpr (List.mem_append_right o (List.mem_cons_of_mem _ List.mem_cons_self))
  have hread' : ∀ o, (.roomType before.roomTypeId, db') ∈ reads (o ++
      .saw (.roomType before.roomTypeId) db' :: .saw (.room id) db :: h) := fun o =>
    mem_reads.mpr (List.mem_append_right o List.mem_cons_self)
  rw [wp_bind]
  by_cases hprivate : type.isPrivate = true
  · rw [when, if_pos hprivate, wp_write_active]
    refine ⟨fun _ => ?_, fun _ => trivial⟩
    refine keeps_recountRooms.wp_rest SameRegistry.refl SameRegistry.trans fun o w' _ hw' => ?_
    refine .removed (hread o) hbefore (hread' o) htype fun s => ?_
    rw [if_pos hprivate, hw' s, ← registry_deletedRoom]
    exact registry_deleteRoomType
  · rw [when, if_neg hprivate]
    show (recountRooms propertyId now).wp _ _ _ _ _
    refine keeps_recountRooms.wp_rest SameRegistry.refl SameRegistry.trans fun o w' _ hw' => ?_
    refine .removed (hread o) hbefore (hread' o) htype fun s => ?_
    rw [if_neg hprivate, hw' s, ← registry_deletedRoom]
    rfl

theorem wp_removeType {id : Id} :
    (RoomTypesService.remove propertyId id now).wp (LinkWrite (.removeType propertyId id now))
      (fun _ _ _ => True) (fun _ _ _ => True) h .idle := by
  simp only [RoomTypesService.remove, requireRoomType, wp_simps]
  intro _ _ _ _ _
  exact .retired fun s => registry_archiveRoomType

theorem LinkCall.wp_prog (call : LinkCall) :
    call.prog.wp (LinkWrite call) (fun _ _ _ => True) (fun _ _ _ => True) [] .idle := by
  cases call with
  | createRoom propertyId dto typeId now => exact (wp_bind _ _).mpr wp_createRoom
  | bulkCreate propertyId dto now => exact (wp_bind _ _).mpr wp_bulkCreate
  | updateRoom propertyId id dto now => exact (wp_bind _ _).mpr wp_updateRoom
  | removeRoom propertyId id now => exact (wp_bind _ _).mpr wp_removeRoom
  | createType propertyId dto typeId =>
    refine (wp_bind _ _).mpr ?_
    exact wp_mono (fun _ _ hw => hw) (fun _ _ _ _ => trivial) (fun _ _ _ he => he) _ _ _
      wp_createType
  | updateType propertyId id dto =>
    exact wp_mono (fun _ _ hw => hw) (fun _ _ _ _ => trivial) (fun _ _ _ he => he) _ _ _
      wp_updateType
  | removeType propertyId id now => exact (wp_bind _ _).mpr wp_removeType

end Writes

/-! ## Among other calls -/

/-- The property has the type, and it is live. -/
def HasType (db : HotelDb) (propertyId id : Id) : Prop :=
  (roomTypeOf propertyId id db).isSome = true

instance (db : HotelDb) (propertyId id : Id) : Decidable (HasType db propertyId id) :=
  inferInstanceAs (Decidable (_ = true))

/-- No live room but one has the type. -/
def OnlyRoom (db : HotelDb) (typeId roomId : Id) : Prop :=
  ∀ q ∈ db.rooms.rows, q.deletedAt = none → q.roomTypeId = typeId → q.id = roomId

instance (db : HotelDb) (typeId roomId : Id) : Decidable (OnlyRoom db typeId roomId) :=
  inferInstanceAs (Decidable (∀ q ∈ db.rooms.rows, _))

/-- What the commit of a call must find. -/
def StillLinked (h : Trace) (now : HotelDb) : LinkCall → Prop
  -- the type of the new rooms, unless it is the one that is committed here
  | .createRoom propertyId dto typeId _ =>
    (dto.roomTypeId = none ∧ writes h = 0) ∨ HasType now propertyId (dto.roomTypeId.getD typeId)
  | .bulkCreate propertyId dto _ =>
    (∀ requested ∈ (expandNumbers dto).toOption, ∀ r ∈ reads h,
      r.1 = .roomNumbers propertyId requested → newNumbers propertyId requested r.2 = []) ∨
      HasType now propertyId dto.roomTypeId
  -- the type that a live room gets, unless only the specifications are committed here
  | .updateRoom _ id dto _ => (dto.specs.isSome = true ∧ writes h = 0) ∨
    ∀ k ∈ dto.roomTypeId.toOption, ∀ r ∈ now.rooms.find? id, r.deletedAt = none →
      HasType now r.propertyId k
  -- no other room of the type that goes
  | .removeRoom propertyId id _ => ∀ r ∈ reads h, ∀ r' ∈ reads h, r.1 = .room id →
    ∀ before ∈ roomOf propertyId id r.2, r'.1 = .roomType before.roomTypeId →
      ∀ type ∈ roomTypeOf propertyId before.roomTypeId r'.2,
        type.isPrivate = true → OnlyRoom now type.id id
  | .removeType _ id _ => ∀ q ∈ now.rooms.rows, q.deletedAt = none → q.roomTypeId ≠ id
  | .createType .. | .updateType .. => True

instance (h : Trace) (now : HotelDb) : (call : LinkCall) → Decidable (StillLinked h now call)
  | .createRoom .. => inferInstanceAs (Decidable (_ ∨ _))
  | .bulkCreate .. => inferInstanceAs (Decidable (_ ∨ _))
  | .updateRoom .. => inferInstanceAs (Decidable (_ ∨ _))
  | .removeRoom _ _ _ => inferInstanceAs (Decidable (∀ _ ∈ _, _))
  | .removeType _ _ _ => inferInstanceAs (Decidable (∀ q ∈ now.rooms.rows, _))
  | .createType .. => .isTrue trivial
  | .updateType .. => .isTrue trivial

section Linked

variable {propertyId k id : Id} {now : HotelDb} {w : HotelDb → HotelDb}

theorem HasType.group (h : HasType now propertyId k) :
    ∃ b, (k, propertyId, b) ∈ (registry now).groups := by
  obtain ⟨t, ht⟩ := Option.isSome_iff_exists.mp h
  exact ⟨t.isPrivate, (group_of_roomTypeOf ht).2⟩

theorem Joins.linked (hw : Joins propertyId k w) (htype : HasType now propertyId k)
    (hnow : (registry now).Linked) : (registry (w now)).Linked := by
  obtain ⟨b, hb⟩ := htype.group
  rcases hw now with hsame | ⟨is, hjoin⟩
  · rw [hsame]
    exact hnow
  · rw [hjoin]
    exact hnow.join hb

theorem member_eq {r : Room} {p : Id} (hfind : now.rooms.find? id = some r)
    (hmem : (id, p, k) ∈ (registry now).members) :
    r.deletedAt = none ∧ r.propertyId = p ∧ r.roomTypeId = k := by
  obtain ⟨a, ha, hlive, heq⟩ := hmem
  obtain ⟨hr, hid⟩ := Table.find?_eq_some.mp hfind
  simp only [Prod.mk.injEq] at heq
  obtain ⟨haid, rfl, rfl⟩ := heq
  obtain rfl : a = r := eq_of_key_eq ha hr (haid.symm.trans hid.symm)
  exact ⟨hlive, rfl, rfl⟩

theorem LinkWrite.linked {call : LinkCall} {h : Trace} (hwrite : LinkWrite call h w)
    (hstill : StillLinked h now call) (hnow : (registry now).Linked) :
    (registry (w now)).Linked := by
  cases hwrite with
  | quiet hw =>
    rw [hw]
    exact hnow
  | founded hw =>
    rcases hw now with hsame | ⟨k, p, b, hfound⟩
    · rw [hsame]
      exact hnow
    · rw [hfound]
      exact hnow.found
  | joined hlate hw =>
    rcases hstill with ⟨hnone, hfirst⟩ | htype
    · exact absurd hfirst (hlate hnone)
    · exact hw.linked htype hnow
  | filled hrequested hread hsome hw =>
    rcases hstill with hnothing | htype
    · refine absurd (hnothing _ ?_ _ hread rfl) hsome
      rw [hrequested]
      rfl
    · exact hw.linked htype hnow
  | @moved propertyId id dto time h w hlate hw =>
    rcases hw now with hsame | ⟨r, hfind, hmove⟩
    · rw [hsame]
      exact hnow
    · rw [hmove]
      refine hnow.move fun p k hmem => ?_
      obtain ⟨hlive, rfl, rfl⟩ := member_eq hfind hmem
      rcases hstill with ⟨hsome, hfirst⟩ | htype
      · exact absurd hfirst (hlate hsome)
      · cases hgiven : dto.roomTypeId with
        | given k =>
          refine (htype k ?_ r hfind hlive).group
          rw [hgiven]
          rfl
        | absent => exact hnow _ _ _ hmem
        | null => exact hnow _ _ _ hmem
  | @removed propertyId id time before type b b' h w hread hbefore hread' htype hw =>
    rw [hw]
    split
    · rename_i hprivate
      refine hnow.leave.dissolve fun j hj => ?_
      obtain ⟨p, ⟨q, hq, hlive, heq⟩, hne⟩ := hj
      simp only [Prod.mk.injEq] at heq
      obtain ⟨rfl, -, hk⟩ := heq
      exact hne (hstill _ hread _ hread' rfl before hbefore rfl type htype hprivate q hq hlive
        hk.symm)
    · exact hnow.leave
  | retired hw =>
    rw [hw]
    refine hnow.dissolve fun j hj => ?_
    obtain ⟨r, hr, hlive, -, hk⟩ := in_registry.mp hj
    exact hstill r hr hlive hk

theorem linked_run {db : HotelDb} (hdb : (registry db).Linked) {calls : List LinkCall}
    {evs : List Event} {c : Config HotelDb RowKey Look Err Unit}
    (hstill : (Config.start db (calls.map LinkCall.prog)).Throughout
      (GuardedCalls calls fun call _ h now => StillLinked h now call) evs)
    (hrun : (Config.start db (calls.map LinkCall.prog)).run evs = some c) :
    (registry c.db).Linked :=
  Config.calls_invariant (I := fun s => (registry s).Linked) (R := fun _ _ => True)
    LinkCall.wp_prog (fun _ => trivial) (fun _ _ _ _ _ => trivial)
    (fun _ _ _ _ hwrite _ hguard hnow => ⟨hwrite.linked hguard hnow, trivial⟩) hdb evs hstill hrun

end Linked

end RoomLinks

end Travelo

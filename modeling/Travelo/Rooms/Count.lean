import Travelo.ReadCommitted.Fragments
import Travelo.ReadCommitted.Guarded
import Travelo.Rooms

/-!
# The number of rooms of a property

Each call counts the live rooms in its own transaction, where the rooms of another open
transaction do not show, and writes the number it found. Two calls at once both write a number
that leaves out the other's rooms: `rooms_lost_count`.

`room_count_right`: when between the count of a call and its commit no other call adds or
removes a room of the property, the stored number is right in every committed state.
-/

namespace Travelo

open ReadCommitted
open RoomTypesService (insertRoomType newRoomType)

namespace RoomsService

/-- A call on the rooms of a property. -/
inductive RoomCall where
  | create (dto : CreateRoomDto) (typeId : Id) (now : ℤ)
  | bulkCreate (dto : BulkCreateRoomsDto) (now : ℤ)
  | remove (id : Id) (now : ℤ)

def RoomCall.prog (propertyId : Id) : RoomCall → Op Unit
  | .create dto typeId now => do
    let _ ← RoomsService.create propertyId dto typeId now
  | .bulkCreate dto now => do
    let _ ← RoomsService.bulkCreate propertyId dto now
  | .remove id now => do
    let _ ← RoomsService.remove propertyId id now

/-- The live rooms, by id and number. -/
def roomsOf (propertyId : Id) (db : HotelDb) : List (Id × String) :=
  (liveRooms propertyId db).map fun r => (r.id, r.number)

/-- The stored count is the number of live rooms. -/
def CountRight (propertyId : Id) (db : HotelDb) : Prop :=
  ∀ p ∈ db.properties.find? propertyId, p.roomCount = (liveRooms propertyId db).length

instance (propertyId : Id) (db : HotelDb) : Decidable (CountRight propertyId db) :=
  inferInstanceAs (Decidable (∀ _ ∈ _, _))

/-- The states in which a call counted the rooms. -/
def countedIn (propertyId : Id) (h : Trace) : List HotelDb :=
  h.filterMap fun
    | .saw (.roomCount p) s => if p = propertyId then some s else none
    | _ => none

theorem mem_countedIn {propertyId : Id} {h : Trace} {s : HotelDb} :
    s ∈ countedIn propertyId h ↔ .saw (.roomCount propertyId) s ∈ h := by
  simp only [countedIn, List.mem_filterMap]
  constructor
  · rintro ⟨o, ho, heq⟩
    split at heq
    · rcases Option.ite_none_right_eq_some.mp heq with ⟨rfl, hstate⟩
      exact Option.some.inj hstate ▸ ho
    · cases heq
  · exact fun hsaw => ⟨_, hsaw, by simp⟩

/-- What a call counted are the rooms of the property now. -/
def CountHolds (propertyId : Id) (_ : RoomCall) (_ : HotelDb → HotelDb) (h : Trace)
    (now : HotelDb) : Prop :=
  ∀ s ∈ countedIn propertyId h, roomsOf propertyId s = roomsOf propertyId now

instance (propertyId : Id) (call : RoomCall) (w : HotelDb → HotelDb) (h : Trace)
    (now : HotelDb) : Decidable (CountHolds propertyId call w h now) :=
  inferInstanceAs (Decidable (∀ _ ∈ _, _))

/-! ## What a call publishes -/

/-- How many live rooms `f` leaves depends on the live rooms it finds, by id and number. -/
structure Counts (propertyId : Id) (f : HotelDb → HotelDb) : Prop where
  properties : ∀ db, (f db).properties = db.properties
  rooms : ∀ s s', roomsOf propertyId s = roomsOf propertyId s' →
    (liveRooms propertyId (f s)).length = (liveRooms propertyId (f s')).length

/-- A change of the rooms together with the count of what it leaves, or neither. -/
inductive CountWrite (propertyId : Id) (h : Trace) (w : HotelDb → HotelDb) : Prop where
  | other (hw : ∀ db, (w db).rooms = db.rooms ∧ (w db).properties = db.properties)
  | counted {f : HotelDb → HotelDb} {s : HotelDb} {now : ℤ}
      (hsaw : .saw (.roomCount propertyId) s ∈ h)
      (hw : w = setRoomCount propertyId (liveRooms propertyId (f s)).length now ∘ f)
      (hf : Counts propertyId f)

theorem CountWrite.keeps {propertyId : Id} {call : RoomCall} {h : Trace} {w : HotelDb → HotelDb}
    {now : HotelDb} (hw : CountWrite propertyId h w) (hguard : CountHolds propertyId call w h now)
    (hnow : CountRight propertyId now) : CountRight propertyId (w now) := by
  cases hw with
  | other hw =>
    rcases hw now with ⟨hrooms, hproperties⟩
    have hlive : liveRooms propertyId (w now) = liveRooms propertyId now := by
      rw [liveRooms, hrooms]
      rfl
    intro p hp
    rw [hproperties] at hp
    rw [hlive]
    exact hnow p hp
  | @counted f s time hsaw hw hf =>
    have hcount := hf.rooms s now (hguard s (mem_countedIn.mpr hsaw))
    intro p hp
    have hstored : p.roomCount = (liveRooms propertyId (f s)).length := by
      simp only [hw, Function.comp, setRoomCount, find?_update, Option.mem_def,
        Option.map_eq_some_iff] at hp
      rcases hp with ⟨p', hp', rfl⟩
      have hid : p'.id = propertyId := key_of_find? hp'
      simp [hid]
    have hlive : liveRooms propertyId (w now) = liveRooms propertyId (f now) := by
      rw [hw]
      rfl
    rw [hstored, hlive, hcount]

/-! ## The changes of the rooms -/

section Changes

variable {propertyId : Id} {room : String → Id → Room} {numbers : List String} {s s' : HotelDb}

theorem withNumbers_isEmpty :
    (withNumbers propertyId numbers s).isEmpty =
      ((roomsOf propertyId s).filter fun r => numbers.contains r.2).isEmpty := by
  rw [withNumbers, roomsOf, List.filter_map, List.isEmpty_map]
  rfl

theorem newRooms_fresh (hid : ∀ n i, (room n i).id = i) :
    ((newRooms room numbers s).map Room.id).Nodup ∧
      ∀ r ∈ newRooms room numbers s, s.rooms.hasKey r.id = false := by
  constructor
  · have hids : (newRooms room numbers s).map Room.id =
        (numbers.zipIdx.map (·.2)).map fun i => freshId (s.rooms.rows.map (·.id)) + i := by
      simp only [newRooms, List.map_map]
      exact List.map_congr_left fun n _ => hid _ _
    rw [hids, List.zipIdx_map_snd]
    exact List.Nodup.map (fun _ _ h => Nat.add_left_cancel h) List.nodup_range'
  · intro r hr
    simp only [newRooms, List.mem_map] at hr
    rcases hr with ⟨n, _, rfl⟩
    rw [hasKey_eq_false]
    intro r hr heq
    have hlt : r.id < freshId (s.rooms.rows.map (·.id)) := lt_freshId (List.mem_map_of_mem hr)
    rw [heq, hid] at hlt
    exact absurd hlt (Nat.not_lt.mpr (Nat.le_add_right _ _))

/-- An insert adds as many live rooms as it has numbers, or none if one is taken. -/
theorem length_liveRooms_insert (hid : ∀ n i, (room n i).id = i)
    (hroom : ∀ n i, (room n i).propertyId = propertyId ∧ (room n i).deletedAt = none) :
    (liveRooms propertyId (applied (insertRooms propertyId room numbers) s)).length =
      (liveRooms propertyId s).length +
        if (withNumbers propertyId numbers s).isEmpty then numbers.length else 0 := by
  by_cases hfree : (withNumbers propertyId numbers s).isEmpty = true
  · have hrows : (applied (insertRooms propertyId room numbers) s).rooms.rows =
        s.rooms.rows ++ newRooms room numbers s := by
      rcases @newRooms_fresh room numbers s hid with ⟨hnodup, hfresh⟩
      simp only [applied, insertRooms, hfree, if_true]
      exact rows_foldl_insert hnodup hfresh
    have hall : (newRooms room numbers s).filter
        (fun r => r.propertyId = propertyId && r.deletedAt.isNone) = newRooms room numbers s := by
      rw [List.filter_eq_self]
      intro r hr
      simp only [newRooms, List.mem_map] at hr
      rcases hr with ⟨n, _, rfl⟩
      simp [hroom]
    rw [liveRooms, hrows, List.filter_append, hall, List.length_append, if_pos hfree]
    simp [liveRooms, newRooms]
  · simp [applied, insertRooms, hfree]

theorem length_liveRooms_remove {id : Id} {now : ℤ} {db : HotelDb}
    (hdb : db.rooms = s.rooms.update (fun r => r.id = id)
      fun r => { r with deletedAt := some now, updatedAt := now }) :
    (liveRooms propertyId db).length =
      ((roomsOf propertyId s).filter fun r => r.1 ≠ id).length := by
  rw [liveRooms, hdb, Table.update, List.filter_map, List.length_map, roomsOf, List.filter_map,
    List.length_map, liveRooms, List.filter_filter]
  congr 1
  refine List.filter_congr fun r _ => ?_
  by_cases hid : r.id = id <;> simp [hid]

theorem counts_insert (hid : ∀ n i, (room n i).id = i)
    (hroom : ∀ n i, (room n i).propertyId = propertyId ∧ (room n i).deletedAt = none) :
    Counts propertyId (applied (insertRooms propertyId room numbers)) := by
  constructor
  · intro db
    simp only [applied, insertRooms]
    split_ifs <;> rfl
  · intro s s' heq
    have hlength : (liveRooms propertyId s).length = (liveRooms propertyId s').length := by
      simpa [roomsOf] using congrArg List.length heq
    rw [length_liveRooms_insert hid hroom, length_liveRooms_insert hid hroom,
      withNumbers_isEmpty, withNumbers_isEmpty, heq, hlength]

theorem Counts.andThen {f g : HotelDb → HotelDb} (hf : Counts propertyId f)
    (hg : ∀ db, (g db).rooms = db.rooms ∧ (g db).properties = db.properties) :
    Counts propertyId (g ∘ f) := by
  have hlive : ∀ db, liveRooms propertyId (g db) = liveRooms propertyId db := by
    intro db
    rw [liveRooms, (hg db).1]
    rfl
  constructor
  · exact fun db => (hg _).2.trans (hf.properties db)
  · intro s s' heq
    simpa only [Function.comp, hlive] using hf.rooms s s' heq

theorem counts_id : Counts propertyId id := by
  constructor
  · exact fun _ => rfl
  · intro s s' heq
    simpa [roomsOf] using congrArg List.length heq

end Changes

/-! ## The calls -/

section Calls

variable {propertyId : Id} {h : Trace} {α : Type}

theorem wp_recountRooms {f : HotelDb → HotelDb} {now : ℤ} (hf : Counts propertyId f) :
    (recountRooms propertyId now).wp (CountWrite propertyId)
      (fun _ h t => ∀ w, t = .active w → CountWrite propertyId h w) (fun _ _ _ => True) h
      (.active f) := by
  simp only [recountRooms, wp_simps]
  rintro s db w hw
  cases hw
  exact .counted List.mem_cons_self rfl hf

theorem resolveForScope_readOnly (ids : List Id) (scope : AmenityScope) :
    (AmenitiesService.resolveForScope ids scope).ReadOnly := by
  unfold AmenitiesService.resolveForScope
  exact .ite _ (.pure _) (.bind (.select _ _) fun _ => .bind (.ite _ (.throw _) (.ret _)) fun _ =>
    .bind (.ite _ (.throw _) (.ret _)) fun _ => .pure _)

theorem publishes_createType {dto : RoomTypeInputDto} {isPrivate : Bool} {id : Id} :
    (RoomTypesService.create propertyId dto isPrivate id).Publishes (CountWrite propertyId) h := by
  refine .after (resolveForScope_readOnly _ _) fun attach h => ?_
  refine .after (.lift _) fun _ h => .transaction ?_
  have hinsert : ∀ db, (applied (insertRoomType
      (newRoomType propertyId dto isPrivate id)) db).rooms = db.rooms ∧
      (applied (insertRoomType
        (newRoomType propertyId dto isPrivate id)) db).properties =
          db.properties := by
    intro db
    simp only [applied, insertRoomType]
    split_ifs <;> exact ⟨rfl, rfl⟩
  simp only [wp_simps, wp_when]
  intro db db' _
  refine ⟨fun _ _ => ⟨fun _ _ w hw => ?_, fun _ w hw => ?_⟩, fun _ => ⟨fun _ _ w hw => ?_,
    fun _ w hw => ?_⟩⟩ <;> cases hw <;> exact .other hinsert

theorem assertRoomNumbersFree_readOnly (numbers : List String) :
    (assertRoomNumbersFree propertyId numbers).ReadOnly := by
  refine .bind (.select _ _) fun clash => ?_
  cases clash.head? with
  | none => exact .ret ()
  | some r => exact .throw _

theorem publishes_resolveType {dto : CreateRoomDto} {numbers : List String} {typeId : Id} :
    (resolveTypeForNewRooms propertyId dto numbers typeId).Publishes (CountWrite propertyId) h := by
  refine .after (.ite _ (.throw _) (.ret _)) fun _ h => ?_
  cases hid : dto.roomTypeId with
  | some roomTypeId =>
    exact .of_readOnly (.bind (.bind (.select _ _) fun _ => .orThrow _ _) fun _ => .pure _)
  | none =>
    cases hspecs : dto.specs with
    | none => exact .of_readOnly (.throw _)
    | some specs =>
      exact .bind publishes_createType fun _ _ => .of_readOnly (.pure _)

theorem publishes_create {dto : CreateRoomDto} {typeId : Id} {now : ℤ} :
    (create propertyId dto typeId now).Publishes (CountWrite propertyId) h := by
  refine .after (.ite _ (.throw _) (.ret _)) fun _ h => ?_
  refine .after (assertRoomNumbersFree_readOnly _) fun _ h => ?_
  refine .bind publishes_resolveType fun roomTypeId h => ?_
  refine .after (resolveForScope_readOnly _ _) fun extras h => ?_
  refine .transaction ?_
  have hinsert := @counts_insert propertyId (newRoom propertyId roomTypeId dto.status dto.notes)
    (roomNumbersOf dto) (fun _ _ => rfl) fun _ _ => ⟨rfl, rfl⟩
  simp only [wp_simps, wp_tryCatch, wp_throw, wp_when]
  intro db db' _
  constructor
  · intro _
    simp only [attachExtras, wp_write_active, trivially]
    exact fun _ => wp_recountRooms (hinsert.andThen fun _ => ⟨rfl, rfl⟩)
  · exact fun _ => wp_recountRooms hinsert

theorem publishes_bulkCreate {dto : BulkCreateRoomsDto} {now : ℤ} :
    (bulkCreate propertyId dto now).Publishes (CountWrite propertyId) h := by
  refine .after (.bind (.select _ _) fun _ => .orThrow _ _) fun _ h => ?_
  refine .after (.lift _) fun requested h => ?_
  refine .after (.ite _ (.throw _) (.ret _)) fun _ h => ?_
  refine .transaction ?_
  simp only [wp_simps, wp_ite]
  intro db
  constructor
  · exact fun _ => wp_recountRooms counts_id
  · exact fun _ _ _ _ => wp_recountRooms (counts_insert (fun _ _ => rfl) fun _ _ => ⟨rfl, rfl⟩)

theorem publishes_remove {id : Id} {now : ℤ} :
    (remove propertyId id now).Publishes (CountWrite propertyId) h := by
  refine .after (.bind (.select _ _) fun _ => .orThrow _ _) fun before h => ?_
  refine .after (.bind (.select _ _) fun _ => .orThrow _ _) fun type h => ?_
  refine .bind (.transaction ?_) fun _ _ => .of_readOnly (.pure _)
  have hremove : Counts propertyId fun db => { db with
      rooms := db.rooms.update (fun r => r.id = id) fun r =>
        { r with deletedAt := some now, updatedAt := now } } := by
    constructor
    · exact fun _ => rfl
    · intro s s' heq
      rw [length_liveRooms_remove rfl, length_liveRooms_remove rfl, heq]
  simp only [wp_simps, updateRooms, wp_when]
  intro db
  constructor
  · exact fun _ _ => wp_recountRooms (hremove.andThen fun _ => ⟨rfl, rfl⟩)
  · exact fun _ => wp_recountRooms hremove

theorem RoomCall.wp_prog (call : RoomCall) :
    (call.prog propertyId).WritesUnder (CountWrite propertyId) := by
  refine Prog.Publishes.writesUnder ?_
  cases call with
  | create dto typeId now => exact publishes_create.discard
  | bulkCreate dto now => exact publishes_bulkCreate.discard
  | remove id now => exact publishes_remove.discard

end Calls

/-- However the calls are interleaved and wherever they fail: while the rooms a call has counted
are still those of the property when it commits, the stored count is right. -/
theorem room_count_right (propertyId : Id) (calls : List RoomCall) (db : HotelDb)
    (hright : CountRight propertyId db) (evs : List Event)
    (c : Config HotelDb RowKey Look Err Unit)
    (hholds : (Config.start db (calls.map (RoomCall.prog propertyId))).Throughout
      (GuardedCalls calls (CountHolds propertyId)) evs)
    (hrun : (Config.start db (calls.map (RoomCall.prog propertyId))).run evs = some c) :
    CountRight propertyId c.db :=
  Config.calls_invariant (R := fun _ _ => True) RoomCall.wp_prog (fun _ => trivial)
    (fun _ _ _ _ _ => trivial) (fun _ _ _ _ hw _ hg hnow => ⟨hw.keeps hg hnow, trivial⟩) hright evs
    hholds hrun

/-! ## Two rooms at once -/

/-- A property with one room. -/
def oneRoomProperty : HotelDb where
  properties := (∅ : Table Property.id).insert { id := 1, roomCount := 1 }
  roomTypes := (∅ : Table RoomType.id).insert
    { id := 7, propertyId := 1, name := "Deluxe", baseRate := 100000 }
  rooms := (∅ : Table Room.id).insert
    { id := 1, propertyId := 1, roomTypeId := 7, number := "101", status := .AVAILABLE }

/-- Rooms 102 and 103 are added. -/
def twoMore : List RoomCall :=
  [.create { roomTypeId := some 7, number := "102" } 0 5,
    .create { roomTypeId := some 7, number := "103" } 0 6]

/-- Both have counted before either commits. -/
def bothCount : List Event :=
  List.replicate 5 (.step 0) ++ List.replicate 5 (.step 1) ++ List.replicate 2 (.step 0) ++
    List.replicate 2 (.step 1)

/-- The second starts when the first is done. -/
def countInTurn : List Event := List.replicate 7 (.step 0) ++ List.replicate 7 (.step 1)

/-- The property has three rooms and a count of two, and no call is left. -/
theorem rooms_lost_count : CountRight 1 oneRoomProperty ∧
    ∃ c, (Config.start oneRoomProperty (twoMore.map (RoomCall.prog 1))).run bothCount = some c ∧
      (c.sessions.all Session.finished) ∧ (liveRooms 1 c.db).length = 3 ∧
      (c.db.properties.find? 1).map Property.roomCount = some 2 ∧ ¬CountRight 1 c.db := by
  have hrace : ((Config.start oneRoomProperty (twoMore.map (RoomCall.prog 1))).run bothCount).any
      (fun c => decide ((c.sessions.all Session.finished) ∧ (liveRooms 1 c.db).length = 3 ∧
        (c.db.properties.find? 1).map Property.roomCount = some 2 ∧ ¬CountRight 1 c.db)) = true := by
    decide +kernel
  rcases (Option.any_eq_true _ _).mp hrace with ⟨c, hrun, hc⟩
  exact ⟨by decide, c, hrun, of_decide_eq_true hc⟩

theorem rooms_counted_in_turn : ∃ c,
    (Config.start oneRoomProperty (twoMore.map (RoomCall.prog 1))).run countInTurn = some c ∧
      CountRight 1 c.db := by
  have hruns : ((Config.start oneRoomProperty (twoMore.map (RoomCall.prog 1))).run
      countInTurn).isSome = true := by
    decide +kernel
  rcases Option.isSome_iff_exists.mp hruns with ⟨c, hrun⟩
  exact ⟨c, hrun, room_count_right 1 twoMore oneRoomProperty (by decide) countInTurn c
    (by decide +kernel) hrun⟩

end RoomsService

end Travelo

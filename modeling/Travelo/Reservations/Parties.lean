import Travelo.Reservations.Occupied
import Travelo.Housekeeping
import Travelo.Rooms

/-!
# One party in a room

What keeps a second party out of a room is its status at check-in: the dates of the two
stays do not meet when the first guest overstays. Three services write that status. A room
is *taken* while its status refuses an arriving guest, and `one_party` says that nobody
shares a room as long as no step makes the room of a guest in house assignable.
-/

namespace Travelo

open ReadCommitted Claims
open HousekeepingService (hydrate setRoomStatus updateTask insertRedo)

/-- Whoever changes the reservations or the status of a room. -/
inductive HouseActor where
  | call (c : Call)
  | start (propertyId id : Id) (actor : TaskActor) (now : ℤ)
  | complete (propertyId id : Id) (dto : CompleteTaskDto) (actor : TaskActor) (now : ℤ)
  | inspect (propertyId id : Id) (dto : InspectTaskDto) (actor : TaskActor) (now : ℤ)
  | setStatus (propertyId id : Id) (status : RoomStatus) (note : Option String) (now : ℤ)
  | bulkSetStatus (propertyId : Id) (ids : List Id) (status : RoomStatus) (note : Option String)
      (now : ℤ)
  | markAllClean (propertyId : Id) (now : ℤ)

namespace HouseActor

def prog : HouseActor → Op Unit
  | .call c => c.prog
  | .start propertyId id actor now => do
    let _ ← HousekeepingService.start propertyId id actor now
  | .complete propertyId id dto actor now => do
    let _ ← HousekeepingService.complete propertyId id dto actor now
  | .inspect propertyId id dto actor now => do
    let _ ← HousekeepingService.inspect propertyId id dto actor now
  | .setStatus propertyId id status note now => do
    let _ ← RoomsService.setStatus propertyId id status note now
  | .bulkSetStatus propertyId ids status note now => do
    let _ ← RoomsService.bulkSetStatus propertyId ids status note now
  | .markAllClean propertyId now => do
    let _ ← RoomsService.markAllClean propertyId now

/-- The status the step gives to the rooms it touches; the calls of the reservation service
touch no other room than those of their guests. -/
def sets : HouseActor → Option RoomStatus
  | .call _ => none
  | .start .. => some .CLEANING
  | .complete .. => some .INSPECTED
  | .inspect _ _ dto _ _ => some (if dto.pass then .READY else .DIRTY)
  | .setStatus _ _ status _ _ => some status
  | .bulkSetStatus _ _ status _ _ => some status
  | .markAllClean _ _ => some .READY

/-- The rooms the step touches. -/
def touches (db : HotelDb) (room : Room) : HouseActor → Bool
  | .call _ => false
  | .start _ id _ _ | .complete _ id _ _ _ | .inspect _ id _ _ _ =>
    (db.housekeepingTasks.find? id).any fun t => t.roomId = some room.id
  | .setStatus _ id _ _ _ => room.id = id
  | .bulkSetStatus propertyId ids _ _ _ =>
    room.propertyId = propertyId && ids.contains room.id && room.deletedAt.isNone
  | .markAllClean propertyId _ =>
    room.propertyId = propertyId && room.deletedAt.isNone &&
      RoomsService.ROUND_STATUSES.contains room.status

end HouseActor

/-! ## What the other services do to the board -/

/-- The reservations stay, and some of the rooms that are touched get the status. -/
def Sets (touched : Room → Bool) (status : RoomStatus) (b b' : Board) : Prop :=
  b'.reservations = b.reservations ∧
    ∀ room' ∈ b'.rooms, ∃ room ∈ b.rooms, room'.id = room.id ∧
      (room'.status = room.status ∨ touched room = true ∧ room'.status = status)

theorem Sets.refl (touched : Room → Bool) (status : RoomStatus) (b : Board) :
    Sets touched status b b :=
  ⟨rfl, fun room hr => ⟨room, hr, rfl, .inl rfl⟩⟩

theorem Sets.update {touched p : Room → Bool} {status : RoomStatus} {b b' : Board} {f : Room → Room}
    (hf : ∀ r, (f r).id = r.id) (hp : ∀ room, p room = true → touched room = true)
    (hs : ∀ room, (f room).status = status) (hres : b'.reservations = b.reservations)
    (hrooms : b'.rooms = b.rooms.update p f hf) : Sets touched status b b' := by
  refine ⟨hres, fun room' hr' => ?_⟩
  rw [hrooms, mem_update] at hr'
  obtain ⟨room, hr, rfl⟩ := hr'
  refine ⟨room, hr, ?_⟩
  by_cases hroom : p room = true
  · rw [if_pos hroom]
    exact ⟨hf room, .inr ⟨hp room hroom, hs room⟩⟩
  · rw [if_neg hroom]
    exact ⟨rfl, .inl rfl⟩

section Services

variable {touched : Room → Bool} {status : RoomStatus} {db : HotelDb}

/-- The program, alone on `db`, sets the status of rooms that are touched. -/
def EndsSetting {α : Type} (p : Op α) (touched : Room → Bool) (status : RoomStatus) (db : HotelDb) :
    Prop :=
  p.ends (fun _ _ s => Sets touched status db.board s.board)
    (fun _ _ s => Sets touched status db.board s.board) .idle db

variable {E : Err → Tx HotelDb → HotelDb → Prop}

variable (propertyId id : Id)

open HousekeepingService in
@[simp] theorem ends_requireTask {P : HousekeepingTask → Tx HotelDb → HotelDb → Prop} :
    (requireTask propertyId id).ends P E .idle db ↔
      ((taskOf propertyId id db = none → E .taskNotFound .idle db) ∧
        ∀ t, taskOf propertyId id db = some t → P t .idle db) ∧ ∀ m, E (lost m) .idle db := by
  simp [requireTask]

open HousekeepingService in
theorem hydrateTask_readOnly (row : Option HousekeepingTask) :
    (hydrate row).ReadOnly := by
  refine .bind (.orThrow _ _) fun t => .bind ?_ fun _ => .pure _
  cases t.roomId with
  | some roomId => exact .select _ _
  | none => exact .pure _

theorem ends_driveRoom {P : Unit → Tx HotelDb → HotelDb → Prop} {w : HotelDb → HotelDb}
    {roomId : Option Id} {now : ℤ}
    (htouched : ∀ room : Room, roomId = some room.id → touched room = true)
    (hw : (w db).board = db.board) (hE : ∀ e t, E e t db)
    (hP : ∀ v, Sets touched status db.board (v db).board → P () (.active v) db) :
    (forSome roomId fun k => setRoomStatus k status now).ends P E
      (.active w) db := by
  cases roomId with
  | none =>
    refine hP w ?_
    rw [hw]
    exact .refl _ _ _
  | some k =>
    simp only [forSome, setRoomStatus, ends_write_active, hE, trivially]
    refine hP _ ?_
    simp only [Function.comp_apply, board_setRoomStatus, hw]
    refine .update ?_ (fun room hr => htouched room ?_) (fun _ => ?_) rfl rfl
    · exact fun _ => rfl
    · rw [of_decide_eq_true hr]
    · rfl

theorem touched_of_taskOf {propertyId id : Id} {before : HousekeepingTask}
    (hf : HousekeepingService.taskOf propertyId id db = some before) (room : Room)
    (hr : before.roomId = some room.id) :
    ((db.housekeepingTasks.find? id).any fun t => t.roomId = some room.id) = true := by
  rw [Option.eq_some_of_filter_eq_some hf]
  simpa using hr

theorem start_sets (actor : TaskActor) (now : ℤ) :
    EndsSetting (HousekeepingService.start propertyId id actor now)
      (HouseActor.touches db · (.start propertyId id actor now)) .CLEANING db := by
  have hstay := Sets.refl (HouseActor.touches db · (.start propertyId id actor now)) .CLEANING
    db.board
  simp only [EndsSetting, HousekeepingService.start, updateTask, ends_simps, ends_requireTask,
    hstay]
  intro before hf _ _ _ _
  refine ends_driveRoom (touched_of_taskOf hf) rfl (fun _ _ => hstay) fun v hv => ?_
  exact ⟨(hydrateTask_readOnly _).ends_idle (fun _ => hv) fun _ => hv, fun _ => hstay⟩

theorem complete_sets (dto : CompleteTaskDto) (actor : TaskActor) (now : ℤ) :
    EndsSetting (HousekeepingService.complete propertyId id dto actor now)
      (HouseActor.touches db · (.complete propertyId id dto actor now)) .INSPECTED db := by
  have hstay := Sets.refl (HouseActor.touches db · (.complete propertyId id dto actor now))
    .INSPECTED db.board
  simp only [EndsSetting, HousekeepingService.complete, updateTask, ends_simps, ends_requireTask,
    hstay]
  intro before hf _ _ _ _
  refine ends_driveRoom (touched_of_taskOf hf) rfl (fun _ _ => hstay) fun v hv => ?_
  exact ⟨(hydrateTask_readOnly _).ends_idle (fun _ => hv) fun _ => hv, fun _ => hstay⟩

theorem inspect_sets (dto : InspectTaskDto) (actor : TaskActor) (now : ℤ) :
    EndsSetting (HousekeepingService.inspect propertyId id dto actor now)
      (HouseActor.touches db · (.inspect propertyId id dto actor now))
      (if dto.pass then .READY else .DIRTY) db := by
  have hstay := Sets.refl (HouseActor.touches db · (.inspect propertyId id dto actor now))
    (if dto.pass then .READY else .DIRTY) db.board
  simp only [EndsSetting, HousekeepingService.inspect, updateTask, ends_bind, ends_requireTask,
    ends_lift, ends_transaction, ends_write_active, ends_ite, hstay, trivially]
  intro before hf _ _
  refine ⟨fun hpass => ?_, fun hfail => ?_⟩
  · simp only [hpass, if_true] at hstay ⊢
    refine ends_driveRoom (touched_of_taskOf hf) rfl (fun _ _ => hstay) fun v hv => ?_
    exact ⟨(hydrateTask_readOnly _).ends_idle (fun _ => hv) fun _ => hv, fun _ => hstay⟩
  · simp only [hfail] at hstay ⊢
    refine ends_driveRoom (touched_of_taskOf hf) rfl (fun _ _ => hstay) fun v hv => ?_
    simp only [insertRedo, ends_write_active, ends_pure, hstay, trivially]
    refine (hydrateTask_readOnly _).ends_idle (fun _ => ?_) fun _ => hv
    exact ends_bind _ _ |>.mpr
      ((hydrateTask_readOnly _).ends_idle (fun _ => hv) fun _ => hv)

theorem ends_updateRooms {P : List Room → Tx HotelDb → HotelDb → Prop} {p : Room → Bool}
    {f : Room → Room} {hf : ∀ r, (f r).id = r.id} (hp : ∀ room, p room = true → touched room = true)
    (hs : ∀ room, (f room).status = status)
    (hP : ∀ rows s, Sets touched status db.board s.board → P rows .idle s)
    (hE : ∀ e, E e .idle db) : (RoomsService.updateRooms p f hf).ends P E .idle db := by
  simp only [RoomsService.updateRooms, ends_write_idle, hE, trivially]
  exact hP _ _ (.update hf hp hs rfl rfl)

theorem setStatus_sets (st : RoomStatus) (note : Option String) (now : ℤ) :
    EndsSetting (RoomsService.setStatus propertyId id st note now)
      (HouseActor.touches db · (.setStatus propertyId id st note now)) st db := by
  have hstay := Sets.refl (HouseActor.touches db · (.setStatus propertyId id st note now)) st
    db.board
  simp only [EndsSetting, RoomsService.setStatus, ends_bind, ReservationsService.ends_requireRoom,
    hstay, trivially]
  intro before _
  refine ends_updateRooms (fun _ hr => hr) (fun _ => rfl) (fun rows s hs => ?_) fun _ => hstay
  simp only [ends_simps]
  exact ⟨fun _ => hs, fun _ _ => hs⟩

theorem bulkSetStatus_sets (ids : List Id) (st : RoomStatus) (note : Option String) (now : ℤ) :
    EndsSetting (RoomsService.bulkSetStatus propertyId ids st note now)
      (HouseActor.touches db · (.bulkSetStatus propertyId ids st note now)) st db := by
  have hstay := Sets.refl (HouseActor.touches db · (.bulkSetStatus propertyId ids st note now)) st
    db.board
  simp only [EndsSetting, RoomsService.bulkSetStatus, ends_ite, ends_pure, hstay,
    implies_true, true_and]
  intro _
  exact ends_updateRooms (fun _ hr => hr) (fun _ => rfl) (fun _ _ hs => hs) fun _ => hstay

theorem markAllClean_sets (now : ℤ) :
    EndsSetting (RoomsService.markAllClean propertyId now)
      (HouseActor.touches db · (.markAllClean propertyId now)) .READY db :=
  ends_updateRooms (fun _ hr => hr) (fun _ => rfl) (fun _ _ hs => hs) fun _ => .refl _ _ _

theorem HouseActor.sets_runWith {a : HouseActor} {st : RoomStatus} (ha : a.sets = some st)
    (φ : ℕ → Option String) :
    Sets (HouseActor.touches db · a) st db.board (a.prog.runWith φ db).db.board := by
  refine ends_runWith
    (Q := fun s : HotelDb => Sets (HouseActor.touches db · a) st db.board s.board) ?_ φ
  cases a with
  | call c => cases ha
  | start propertyId id actor now =>
    cases ha
    exact ends_bind _ _ |>.mpr (start_sets propertyId id actor now)
  | complete propertyId id dto actor now =>
    cases ha
    exact ends_bind _ _ |>.mpr (complete_sets propertyId id dto actor now)
  | inspect propertyId id dto actor now =>
    cases ha
    exact ends_bind _ _ |>.mpr (inspect_sets propertyId id dto actor now)
  | setStatus propertyId id st note now =>
    cases ha
    exact ends_bind _ _ |>.mpr (setStatus_sets propertyId id st note now)
  | bulkSetStatus propertyId ids st note now =>
    cases ha
    exact ends_bind _ _ |>.mpr (bulkSetStatus_sets propertyId ids st note now)
  | markAllClean propertyId now =>
    cases ha
    exact ends_bind _ _ |>.mpr (markAllClean_sets propertyId now)

end Services

/-! ## The invariant -/

/-- A status that refuses an arriving guest; a room that does not exist refuses too. -/
def Taken (o : Option RoomStatus) : Prop := ∀ s, o = some s → s ∉ ASSIGNABLE_ROOM_STATUSES

/-- No two live guests in house have the same room. -/
def OneParty (b : Board) : Prop :=
  ∀ r ∈ b.reservations, ∀ r' ∈ b.reservations, r.deletedAt = none → r.status = .CHECKED_IN →
    r'.deletedAt = none → r'.status = .CHECKED_IN → r.roomId ≠ none → r.roomId = r'.roomId →
      r.id = r'.id

instance (b : Board) : Decidable (OneParty b) := by
  unfold OneParty
  infer_instance

/-- Nobody in house has the room. -/
def Vacant (db : HotelDb) (roomId : Id) : Prop := ∀ r ∈ db.reservations, r.lodged ≠ some roomId

/-- A guest in house that is swapped with a booking gets a room that takes nobody and that
nobody has. -/
def CarefulSwap (c : Call) (db : HotelDb) : Prop :=
  match c.action with
  | .swapRooms id otherId =>
    ∀ guest ∈ db.reservations, ∀ other ∈ db.reservations,
      guest.id = id ∧ other.id = otherId ∨ guest.id = otherId ∧ other.id = id →
      guest.lodged.isSome → other.lodged = none →
        (∀ room ∈ db.rooms, other.roomId = some room.id →
          room.status ∉ ASSIGNABLE_ROOM_STATUSES) ∧
        ∀ r ∈ db.reservations, r.lodged.isSome → r.lodged ≠ other.roomId
  | _ => True

/-- A step that does not make the room of a guest in house assignable. -/
def HouseActor.Careful (a : HouseActor) (db : HotelDb) : Prop :=
  match a with
  | .call c => CarefulSwap c db
  | _ => ∀ status ∈ a.sets, status ∈ ASSIGNABLE_ROOM_STATUSES →
      ∀ room ∈ db.rooms, a.touches db room = true → Vacant db room.id

instance (db : HotelDb) (roomId : Id) : Decidable (Vacant db roomId) := by
  unfold Vacant
  infer_instance

instance (c : Call) (db : HotelDb) : Decidable (CarefulSwap c db) := by
  obtain ⟨env, propertyId, actorStaffId, action⟩ := c
  apply Action.casesOn (motive := fun action =>
    Decidable (CarefulSwap ⟨env, propertyId, actorStaffId, action⟩ db)) action
  all_goals intros; unfold CarefulSwap; infer_instance

instance (a : HouseActor) (db : HotelDb) : Decidable (a.Careful db) := by
  cases a <;> unfold HouseActor.Careful <;> infer_instance

theorem CarefulSwap.safe {c : Call} {db : HotelDb} (h : CarefulSwap c db) :
    SafeSwap Taken c db.board := by
  intro guest hg other ho hk hin hout k hroom
  have hcareful : (∀ room ∈ db.rooms, other.roomId = some room.id →
      room.status ∉ ASSIGNABLE_ROOM_STATUSES) ∧
      ∀ r ∈ db.reservations, r.lodged.isSome → r.lodged ≠ other.roomId := by
    rcases hk with hk | hk
    · simp only [CarefulSwap, hk] at h
      exact h guest hg other ho (.inl ⟨rfl, rfl⟩) hin hout
    · simp only [CarefulSwap, hk] at h
      exact h guest hg other ho (.inr ⟨rfl, rfl⟩) hin hout
  refine ⟨fun s hs => ?_, fun r hr hlodged => ?_⟩
  · obtain ⟨room, hfind, rfl⟩ := Option.map_eq_some_iff.mp hs
    obtain ⟨hmem, rfl⟩ := Table.find?_eq_some.mp hfind
    exact hcareful.1 room hmem hroom
  · exact hcareful.2 r hr (by simp [hlodged]) (by rw [hlodged, hroom])

theorem Vacant.lodging {db : HotelDb} {k : Id} (h : Vacant db k) (g : Id) :
    db.board.lodging g ≠ some k := by
  intro hg
  obtain ⟨r, hr, -, hlodged⟩ := Board.lodging_eq_some.mp hg
  exact h r hr hlodged

theorem Sets.lodged {touched : Room → Bool} {status : RoomStatus} {b b' : Board}
    (hs : Sets touched status b b')
    (hcareful : status ∈ ASSIGNABLE_ROOM_STATUSES → ∀ room ∈ b.rooms, touched room = true →
      ∀ g, b.lodging g ≠ some room.id)
    (hb : Lodged b.lodging (b.marked Taken)) : Lodged b'.lodging (b'.marked Taken) := by
  obtain ⟨hres, hrooms⟩ := hs
  have hlodging : b'.lodging = b.lodging := by
    funext g
    simp only [Board.lodging, hres]
  rw [hlodging]
  refine ⟨fun g k hg s hk hready => ?_, hb.alone⟩
  obtain ⟨room', hfind, rfl⟩ := Option.map_eq_some_iff.mp hk
  obtain ⟨hmem', rfl⟩ := Table.find?_eq_some.mp hfind
  obtain ⟨room, hmem, hid, hkept | ⟨htouched, hset⟩⟩ := hrooms room' hmem'
  · -- the status is as it was
    refine hb.held g _ hg room.status ?_ (hkept ▸ hready)
    rw [hid, Board.roomStatus_of_mem hmem]
  · exact hcareful (hset ▸ hready) room hmem htouched g (hid ▸ hg)

theorem OneParty.of_lodged {b : Board} (h : Lodged b.lodging (b.marked Taken)) : OneParty b := by
  intro r hr r' hr' hl hs hl' hs' hroom hsame
  obtain ⟨k, hk⟩ := Option.ne_none_iff_exists'.mp hroom
  refine h.alone _ _ k ?_ ?_
  · rw [Board.lodging_of_mem hr, lodged_of_inHouse hl hs, hk]
  · rw [Board.lodging_of_mem hr', lodged_of_inHouse hl' hs', ← hsame, hk]

theorem HouseActor.lodged {a : HouseActor} {db : HotelDb} (ha : a.Careful db)
    (φ : ℕ → Option String) (hdb : Lodged db.board.lodging (db.board.marked Taken)) :
    Lodged (a.prog.runWith φ db).db.board.lodging
      ((a.prog.runWith φ db).db.board.marked Taken) := by
  by_cases hcall : ∃ c, a = .call c
  · obtain ⟨c, rfl⟩ := hcall
    refine (c.does_runWith φ db).invariant (I := fun b => Lodged b.lodging (b.marked Taken))
      (fun b b' hstep hb => hstep.lodged ?_ ?_ ha.safe hb) hdb
    · simp [Taken, ASSIGNABLE_ROOM_STATUSES]
    · exact fun s hs htaken => htaken s rfl hs
  · have hcareful : ∀ status ∈ a.sets, status ∈ ASSIGNABLE_ROOM_STATUSES →
        ∀ room ∈ db.rooms, a.touches db room = true → Vacant db room.id := by
      cases a with
      | call c => exact absurd ⟨c, rfl⟩ hcall
      | _ => exact ha
    obtain ⟨status, hsets⟩ : ∃ status, a.sets = some status := by
      cases a with
      | call c => exact absurd ⟨c, rfl⟩ hcall
      | _ => exact ⟨_, rfl⟩
    refine (HouseActor.sets_runWith hsets φ).lodged (fun hready room hmem htouched => ?_) hdb
    exact (hcareful status hsets hready room hmem htouched).lodging

/-- Nobody shares a room after any step of a careful run that starts with the guests in rooms
of their own that take nobody. -/
theorem one_party {db : HotelDb} (hstart : OneParty db.board)
    (htaken : ∀ r ∈ db.reservations, ∀ room ∈ db.rooms, r.lodged = some room.id →
      room.status ∉ ASSIGNABLE_ROOM_STATUSES)
    (steps : List (HouseActor × (ℕ → Option String)))
    (hcareful : EachStep HouseActor.prog (fun a s _ => a.Careful s) steps db) :
    EachStep HouseActor.prog (fun _ _ s => OneParty s.board) steps db := by
  have hdb : Lodged db.board.lodging (db.board.marked Taken) := by
    constructor
    · intro g k hg s hs
      obtain ⟨r, hr, -, hlodged⟩ := Board.lodging_eq_some.mp hg
      obtain ⟨room, hfind, rfl⟩ := Option.map_eq_some_iff.mp hs
      obtain ⟨hmem, rfl⟩ := Table.find?_eq_some.mp hfind
      exact htaken r hr room hmem hlodged
    · intro g g' k hg hg'
      obtain ⟨r, hr, rfl, hlodged⟩ := Board.lodging_eq_some.mp hg
      obtain ⟨r', hr', rfl, hlodged'⟩ := Board.lodging_eq_some.mp hg'
      obtain ⟨hin, hroom⟩ := Reservation.lodged_eq_some.mp hlodged
      obtain ⟨hin', hroom'⟩ := Reservation.lodged_eq_some.mp hlodged'
      exact hstart r hr r' hr' hin.1 hin.2 hin'.1 hin'.2 (by simp [hroom]) (by rw [hroom, hroom'])
  refine EachStep.mono (I := fun s => Lodged s.board.lodging (s.board.marked Taken))
    (fun a s φ hs ha => ?_) steps db hcareful hdb
  have hkept := HouseActor.lodged ha φ hs
  exact ⟨.of_lodged hkept, hkept⟩

/-! ### A guest who stays on -/

/-- A room with a stay-over clean to be done. -/
def stayOnDb : HotelDb where
  rooms := (∅ : Table Room.id).insert
    { id := 101, propertyId := 1, roomTypeId := 7, number := "101", status := .AVAILABLE }
  roomTypes := (∅ : Table RoomType.id).insert
    { id := 7, propertyId := 1, name := "Deluxe", baseRate := 100000 }
  housekeepingTasks := (∅ : Table HousekeepingTask.id).insert
    { id := 5, propertyId := 1, roomId := some 101, located := by decide, type := "STAYOVER_CLEAN"
      status := .PENDING, priority := "NORMAL", notes := none, createdBy := none, createdAt := 0 }

/-- A confirmed booking of room 101 for two nights. -/
def bookTwoNights (id : Id) (checkIn : ℤ) : HouseActor :=
  .call {
    env := { now := 0, uuid := fun n => id + n, rates := false }
    propertyId := 1
    action := .create {
      roomTypeId := 7, roomId := some 101
      guest := { guestName := "Guest", guestPhone := "0" }
      checkIn, checkOut := checkIn + 2, ratePaise := some 100000, status := some .CONFIRMED } }

/-- A call on a day. -/
def onDay (day : ℤ) (action : Action) : HouseActor :=
  .call { env := { now := day * 86400000 }, propertyId := 1, action }

def attendant : TaskActor := { id := 3, isSupervisor := false }

/-- Two stays back to back; the first guest arrives and their room is cleaned. -/
def cleanedWhileIn : List (HouseActor × (ℕ → Option String)) :=
  [bookTwoNights 10 10, bookTwoNights 20 12, onDay 10 (.checkIn 10 {}),
    .start 1 5 attendant 0, .complete 1 5 {} attendant 0].map (·, noFaults)

/-- The clean leaves the room INSPECTED, so on the day the first guest should have left the
second is checked in to it. -/
theorem overstay_shares :
    (runAll HouseActor.prog (cleanedWhileIn ++ [(onDay 12 (.checkIn 20 {}), noFaults)])
        stayOnDb).reservations.rows.map (fun r => (r.id, r.status, r.roomId)) =
        [(10, .CHECKED_IN, some 101), (20, .CHECKED_IN, some 101)] ∧
      ¬ OneParty (runAll HouseActor.prog
        (cleanedWhileIn ++ [(onDay 12 (.checkIn 20 {}), noFaults)]) stayOnDb).board := by
  refine ⟨by decide, by decide⟩

/-- The same two stays with the first guest checked out before the clean. -/
theorem departure_frees :
    EachStep HouseActor.prog (fun _ _ s => OneParty s.board)
      ([bookTwoNights 10 10, bookTwoNights 20 12, onDay 10 (.checkIn 10 {}),
        onDay 12 (.checkOut 10 { allowOutstanding := true }), .start 1 5 attendant 0,
        .complete 1 5 {} attendant 0, onDay 12 (.checkIn 20 {})].map (·, noFaults))
      stayOnDb :=
  one_party (fun _ hr => absurd hr (notMem_empty _))
    (fun _ hr => absurd hr (notMem_empty _)) _ (by decide)

end Travelo

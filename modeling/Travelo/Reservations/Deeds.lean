import Mathlib.Logic.Relation
import Travelo.ReadCommitted.Straight
import Travelo.Reservations.Calls

/-!
# What a call does with nobody else around

The *board* is the reservations, the rooms and the trail. `Shuffle` lists the changes of the
board that leave every status alone, `Turn` those that change one; `Call.does` says that a
call that runs alone, whatever statements fail, shuffles and then makes one turn at most.
What is proved about calls one after another is proved by cases on these two.
-/

namespace Travelo

open ReadCommitted Relation
open FolioService (recordPayment paymentOf insertPayment winnerOf netPaid)
open Reservation (rescheduled withDates)

/-- The status a row of the trail puts a reservation in. -/
def ReservationEvent.status? (e : ReservationEvent) : Option ReservationStatus :=
  if e.type = "created" then
    match e.payload with
    | .created status _ _ => some status
    | _ => none
  else if e.type = "confirmed" then some .CONFIRMED
  else if e.type = "checked_in" then some .CHECKED_IN
  else if e.type = "checked_out" then some .CHECKED_OUT
  else if e.type = "cancelled" then some .CANCELLED
  else if e.type = "no_show" then some .NO_SHOW
  else none

/-- The row of the trail that says a reservation has moved to a status. -/
structure ReservationEvent.Tells (e : ReservationEvent) (id : Id) (status : ReservationStatus) :
    Prop where
  reservation : e.reservationId = id
  type : e.type ≠ "created"
  status : e.status? = some status

/-- The tables a call shares with the rooms board and the trail. -/
structure Board where
  reservations : Table Reservation.id
  rooms : Table Room.id
  events : List ReservationEvent

def HotelDb.board (db : HotelDb) : Board := ⟨db.reservations, db.rooms, db.reservationEvents⟩

namespace Board

/-- The row `id` is changed. -/
def update (b : Board) (id : Id) (f : Reservation → Reservation)
    (hf : ∀ r, (f r).id = r.id := by intro _; rfl) : Board :=
  { b with reservations := b.reservations.update (fun r => r.id = id) f hf }

def insert (b : Board) (row : Reservation) : Board :=
  { b with reservations := b.reservations.insert row }

variable (b : Board)

theorem setStatus_id (status : RoomStatus) (now : ℤ) (r : Room) :
    { r with status := status, updatedAt := now }.id = r.id := rfl

def setStatus (roomId : Id) (status : RoomStatus) (now : ℤ) : Board :=
  { b with
    rooms := b.rooms.update (fun r => r.id = roomId)
      (fun r => { r with status := status, updatedAt := now }) (setStatus_id status now) }

/-- The room a guest leaves is dirty. -/
def vacate (roomId : Option Id) (now : ℤ) : Board :=
  match roomId with
  | some left => b.setStatus left .DIRTY now
  | none => b

def record (e : ReservationEvent) : Board := { b with events := b.events ++ [e] }

end Board

section Boards

variable (db : HotelDb) (id : Id)

@[simp] theorem board_updateReservation (f : Reservation → Reservation)
    (hf : ∀ r, (f r).id = r.id) :
    (db.updateReservation id f hf).board = db.board.update id f hf := rfl

@[simp] theorem board_setRoomStatus (status : RoomStatus) (now : ℤ) :
    (db.setRoomStatus id status now).board = db.board.setStatus id status now := rfl

@[simp] theorem board_recordEvent (e : ReservationEvent) :
    (db.recordEvent e).board = db.board.record e := rfl

end Boards

/-- A change that leaves every status as it is; `start` is the board the call found. -/
inductive Shuffle (c : Call) (start : Board) : Board → Board → Prop where
  | edited {b id f e} (hid : ∀ r, (f r).id = r.id)
      (hkeep : ∀ r, (f r).status = r.status ∧ (f r).roomId = r.roomId ∧
        (f r).deletedAt = r.deletedAt)
      (he : e.status? = none) : Shuffle c start b ((b.update id f hid).record e)
  | paid {b id net now} :
      Shuffle c start b (b.update id fun r => { r with paidPaise := net, updatedAt := now })
  | housed {b before roomId now e} (hb : before ∈ b.reservations)
      (hs : before.status = .PENDING ∨ before.status = .CONFIRMED) (he : e.status? = none) :
      Shuffle c start b
        ((b.update before.id fun r => { r with roomId := some roomId, updatedAt := now }).record e)
  | swapped {guest other ra rb now e₁ e₂} (hk : c.action = .swapRooms guest.id other.id)
      (ha : guest ∈ start.reservations) (hb : other ∈ start.reservations)
      (hla : guest.deletedAt = none) (hlb : other.deletedAt = none) (hne : guest.id ≠ other.id)
      (hra : guest.roomId = some ra) (hrb : other.roomId = some rb)
      (he₁ : e₁.status? = none) (he₂ : e₂.status? = none) :
      Shuffle c start start
        ((((start.update guest.id fun r => { r with roomId := some rb, updatedAt := now }).update
          other.id fun r => { r with roomId := some ra, updatedAt := now }).record e₁).record e₂)
  | moved {b before room ratePaise totalPaise now e} (hb : before ∈ b.reservations)
      (hl : before.deletedAt = none) (hs : before.status = .CHECKED_IN) (hroom : room ∈ b.rooms)
      (hready : room.status ∈ ASSIGNABLE_ROOM_STATUSES) (hne : before.roomId ≠ some room.id)
      (he : e.status? = none) :
      Shuffle c start b
        ((((b.update before.id fun r =>
            { r with roomId := some room.id, roomTypeId := room.roomTypeId, ratePaise, totalPaise,
                     updatedAt := now }).vacate before.roomId now).setStatus room.id .OCCUPIED
          now).record e)

/-- A change of one status, with its row of the trail. -/
inductive Turn (b : Board) : Board → Prop where
  | created {row actorStaffId} (hfree : ∀ r ∈ b.reservations, r.id ≠ row.id)
      (hs : row.status = .PENDING ∨ row.status = .CONFIRMED) (hl : row.deletedAt = none) :
      Turn b ((b.insert row).record ⟨row.id, "created", actorStaffId,
        .created row.status row.checkIn row.checkOut⟩)
  | turned {before status f e} (hid : ∀ r, (f r).id = r.id) (hb : before ∈ b.reservations)
      (hl : before.deletedAt = none) (ht : canTransition before.status status = true)
      (hnot : status ≠ .CHECKED_IN) (hin : before.status ≠ .CHECKED_IN)
      (hf : ∀ r, (f r).status = status ∧ (f r).roomId = r.roomId ∧
        (f r).deletedAt = r.deletedAt)
      (he : e.Tells before.id status) :
      Turn b ((b.update before.id f hid).record e)
  | checkedIn {before room now e} {guest : Reservation → GuestDetails}
      (hb : before ∈ b.reservations) (hl : before.deletedAt = none)
      (ht : canTransition before.status .CHECKED_IN = true) (hroom : room ∈ b.rooms)
      (hready : room.status ∈ ASSIGNABLE_ROOM_STATUSES)
      (he : e.Tells before.id .CHECKED_IN) :
      Turn b (((b.update before.id fun r =>
        { r with status := .CHECKED_IN, roomId := some room.id, checkedInAt := some now,
                 updatedAt := now, guest := guest r }).setStatus room.id .OCCUPIED now).record e)
  | checkedOut {before now e} (hb : before ∈ b.reservations) (hl : before.deletedAt = none)
      (ht : canTransition before.status .CHECKED_OUT = true)
      (he : e.Tells before.id .CHECKED_OUT) :
      Turn b (((b.update before.id fun r =>
        { r with status := .CHECKED_OUT, checkedOutAt := some now, updatedAt := now }).vacate
          before.roomId now).record e)

variable (c : Call)

/-- The board after some shuffles and one turn at most. -/
def Does (start : Board) (s : HotelDb) : Prop :=
  ∃ mid, ReflTransGen (Shuffle c start) start mid ∧ (s.board = mid ∨ Turn mid s.board)

theorem Does.refl (c : Call) (s : HotelDb) : Does c s.board s := ⟨s.board, .refl, .inl rfl⟩

variable {start : Board}

theorem Does.shuffles {c : Call} {s : HotelDb} (h : ReflTransGen (Shuffle c start) start s.board) :
    Does c start s := ⟨_, h, .inl rfl⟩

theorem Does.shuffle {c : Call} {s : HotelDb} (h : Shuffle c start start s.board) :
    Does c start s :=
  .shuffles (.single h)

theorem Does.turn {c : Call} {s : HotelDb} (h : Turn start s.board) :
    Does c start s :=
  ⟨start, .refl, .inr h⟩

namespace ReservationsService

/-! ## The checks -/

section Checks

variable {α : Type} {P : Unit → Tx HotelDb → HotelDb → Prop}
  {E : Err → Tx HotelDb → HotelDb → Prop} {w : HotelDb → HotelDb} {db : HotelDb}

@[simp] theorem ends_assertRoomFree (q : RoomProbe) :
    (assertRoomFree q).ends P E (.active w) db ↔
      ((¬q.Clear (w db) → E .roomUnavailable (.active w) db) ∧
        (q.Clear (w db) → P () (.active w) db)) ∧ ∀ m, E (lost m) .aborted db := by
  simp [assertRoomFree, clear_iff, Nat.pos_iff_ne_zero]

variable {rules : Option (List DayRules)}

theorem ends_assertTypeCapacity {propertyId roomTypeId : Id} {checkIn checkOut : ℤ}
    {excludeId : Option Id} (hE : ∀ e t, E e t db) (hP : P () (.active w) db) :
    (assertTypeCapacity propertyId roomTypeId checkIn checkOut excludeId rules).ends P E
      (.active w) db := by
  simp [assertTypeCapacity, ends_forSome, hE, hP]

theorem ends_checkMovedBooking {propertyId id : Id} {before : Reservation} {checkIn checkOut : ℤ}
    (hE : ∀ e t, E e t db) (hP : P () (.active w) db) :
    (checkMovedBooking propertyId id before checkIn checkOut rules).ends P E (.active w) db := by
  simp only [checkMovedBooking, ends_bind, ends_forSome, ends_assertRoomFree, hE, trivially]
  exact ⟨fun _ _ _ => ends_assertTypeCapacity hE hP, fun _ => ends_assertTypeCapacity hE hP⟩

@[simp] theorem ends_requireReservation (propertyId id : Id)
    {P : Reservation → Tx HotelDb → HotelDb → Prop} :
    (requireReservation propertyId id).ends P E .idle db ↔
      ((reservationOf propertyId id db = none → E .notFound .idle db) ∧
        ∀ r, reservationOf propertyId id db = some r → P r .idle db) ∧ ∀ m, E (lost m) .idle db := by
  simp [requireReservation]

@[simp] theorem ends_requireRoom (propertyId id : Id) {P : Room → Tx HotelDb → HotelDb → Prop} :
    (requireRoom propertyId id).ends P E .idle db ↔
      ((roomOf propertyId id db = none → E .roomNotFound .idle db) ∧
        ∀ r, roomOf propertyId id db = some r → P r .idle db) ∧ ∀ m, E (lost m) .idle db := by
  simp [requireRoom]

end Checks

theorem ends_hydrate {P : HotelDb → Prop} {s : HotelDb} (row : Option Reservation) (h : P s) :
    (hydrate row).ends (fun _ _ s => P s) (fun _ _ s => P s) .idle s :=
  (hydrate_readOnly row).ends_idle (fun _ => h) fun _ => h

/-- The program, alone on `db`, does what the call may do. -/
def EndsDoing {α : Type} (p : Op α) (c : Call) (db : HotelDb) : Prop :=
  p.ends (fun _ _ => Does c db.board) (fun _ _ => Does c db.board) .idle db

section Methods

variable (env : Env) (propertyId id : Id) (actorStaffId : Option Id) (db : HotelDb)

/-! ## The transitions -/

theorem notInHouse_of_canTransition {s s' : ReservationStatus} (h : canTransition s s' = true)
    (hout : s' ≠ .CHECKED_OUT) : s ≠ .CHECKED_IN := by
  rintro rfl
  cases s' <;> simp_all [canTransition, RESERVATION_TRANSITIONS]

theorem cancel_does (reason : String) :
    EndsDoing (cancel env propertyId id reason actorStaffId)
      ⟨env, propertyId, actorStaffId, .cancel id reason⟩ db := by
  have hstay := Does.refl ⟨env, propertyId, actorStaffId, .cancel id reason⟩ db
  simp only [EndsDoing, cancel, updateReservation, recordEvent, ends_simps, ends_requireReservation,
    assertTransition_ok, hstay]
  intro before hf _ ht
  obtain ⟨hb, rfl, -, hl⟩ := reservationOf_eq_some.mp hf
  refine ends_hydrate _ (.turn ?_)
  simp only [Tx.view_active, Function.comp_apply, id_eq, board_recordEvent, board_updateReservation]
  refine .turned ?_ hb hl ht (by decide) (notInHouse_of_canTransition ht (by decide)) ?_ ?_
  · exact fun _ => ⟨rfl, rfl, rfl⟩
  · exact ⟨rfl, by simp, rfl⟩

theorem noShow_does :
    EndsDoing (noShow env propertyId id actorStaffId) ⟨env, propertyId, actorStaffId, .noShow id⟩
      db := by
  have hstay := Does.refl ⟨env, propertyId, actorStaffId, .noShow id⟩ db
  simp only [EndsDoing, noShow, updateReservation, recordEvent, ends_simps, ends_requireReservation,
    assertTransition_ok, hstay]
  intro before hf _ ht _
  obtain ⟨hb, rfl, -, hl⟩ := reservationOf_eq_some.mp hf
  refine ends_hydrate _ (.turn ?_)
  simp only [Tx.view_active, Function.comp_apply, id_eq, board_recordEvent, board_updateReservation]
  refine .turned ?_ hb hl ht (by decide) (notInHouse_of_canTransition ht (by decide)) ?_ ?_
  · exact fun _ => ⟨rfl, rfl, rfl⟩
  · exact ⟨rfl, by simp, rfl⟩

theorem confirm_does :
    EndsDoing (confirm env propertyId id actorStaffId) ⟨env, propertyId, actorStaffId, .confirm id⟩
      db := by
  have hstay := Does.refl ⟨env, propertyId, actorStaffId, .confirm id⟩ db
  simp only [EndsDoing, confirm, ends_simps, ends_requireReservation, assertTransition_ok, hstay]
  intro before hf _ ht
  obtain ⟨hb, rfl, -, hl⟩ := reservationOf_eq_some.mp hf
  refine ends_checkMovedBooking (fun _ _ => hstay) ?_
  simp only [updateReservation, recordEvent, ends_write_active, hstay, trivially]
  refine ends_hydrate _ (.turn ?_)
  simp only [Tx.view_active, Function.comp_apply, id_eq, board_recordEvent, board_updateReservation]
  refine .turned ?_ hb hl ht (by decide) (notInHouse_of_canTransition ht (by decide)) ?_ ?_
  · exact fun _ => ⟨rfl, rfl, rfl⟩
  · exact ⟨rfl, by simp, rfl⟩

theorem checkIn_does (dto : CheckInDto) :
    EndsDoing (checkIn env propertyId id dto actorStaffId)
      ⟨env, propertyId, actorStaffId, .checkIn id dto⟩ db := by
  have hstay := Does.refl ⟨env, propertyId, actorStaffId, .checkIn id dto⟩ db
  simp only [EndsDoing, checkIn, updateReservation, setRoomStatus, recordEvent, ends_simps,
    ends_requireReservation, ends_requireRoom, ends_assertRoomFree, assertTransition_ok, hstay]
  intro before hf _ ht _ roomId _ room hroom _ hready _
  obtain ⟨hb, rfl, -, hl⟩ := reservationOf_eq_some.mp hf
  obtain ⟨hr, rfl, -, -⟩ := roomOf_eq_some.mp hroom
  refine ends_hydrate _ (.turn ?_)
  simp only [Tx.view_active, Function.comp_apply, id_eq, board_recordEvent,
    board_updateReservation, board_setRoomStatus]
  refine .checkedIn hb hl ht hr ?_ ⟨rfl, by simp, rfl⟩
  simpa using hready

/-! ## Moving a stay -/

variable {dates : Reservation → ℤ × ℤ} {f : Reservation → Reservation}

theorem rescheduled_keeps (hkeep : ∀ r, (f r).status = r.status ∧ (f r).roomId = r.roomId ∧
      (f r).deletedAt = r.deletedAt) (r : Reservation) :
    (rescheduled dates f r).status = r.status ∧
      (rescheduled dates f r).roomId = r.roomId ∧
      (rescheduled dates f r).deletedAt = r.deletedAt := by
  unfold rescheduled withDates
  split
  · exact hkeep r
  · exact hkeep r

theorem rulesFor_readOnly (roomTypeId : Id) (checkIn checkOut : ℤ) :
    (rulesFor env propertyId roomTypeId checkIn checkOut).ReadOnly :=
  .ite _ (.map (.select _ _) _) (.pure _)

/-- An edit of one row under the date check: the row is changed, or the commit refused. -/
theorem ends_reschedule {c : Call} (hf : ∀ r, (f r).id = r.id)
    (hkeep : ∀ r, (f r).status = r.status ∧ (f r).roomId = r.roomId ∧
      (f r).deletedAt = r.deletedAt) (type : String) (payload : EventPayload)
    (he : (⟨id, type, actorStaffId, payload⟩ : ReservationEvent).status? = none) :
    (rescheduleReservation id dates f hf).ends
      (fun row t db' => (recordEvent id type actorStaffId payload).ends
        (fun _ t db' => (hydrate row).ends (fun _ _ => Does c db.board)
          (fun _ _ => Does c db.board) .idle (t.view db') ∧ ∀ _ : String, Does c db.board db')
        (fun _ _ => Does c db.board) t db')
      (fun _ _ => Does c db.board) (.active fun s => s) db := by
  have hstay := Does.refl c db
  simp only [rescheduleReservation, recordEvent, ends_simps, hstay]
  intro db' hok
  refine ends_hydrate _ (.shuffle ?_)
  have hedit : db' = db.updateReservation id (rescheduled dates f)
      (rescheduled_id hf) := by
    unfold HotelDb.rescheduleReservation at hok
    split at hok
    · exact (Except.ok.inj hok).symm
    · cases hok
  have happlied : applied (fun db => HotelDb.rescheduleReservation db id dates f hf) db = db' := by
    simp only [applied, hok]
  simp only [Tx.view_active, Function.comp_apply, board_recordEvent, happlied, hedit,
    board_updateReservation]
  exact .edited _ (rescheduled_keeps hkeep) he

theorem extendStay_does (dto : ExtendStayDto) :
    EndsDoing (extendStay env propertyId id dto actorStaffId)
      ⟨env, propertyId, actorStaffId, .extendStay id dto⟩ db := by
  have hstay := Does.refl ⟨env, propertyId, actorStaffId, .extendStay id dto⟩ db
  simp only [EndsDoing, extendStay, ends_simps, ends_requireReservation, hstay]
  intro before hf hs hlater horder _
  have hcheck : ∀ {P : Unit → Tx HotelDb → HotelDb → Prop} {E : Err → Tx HotelDb → HotelDb → Prop},
      (∀ e t, E e t db) → P () (.active fun s => s) db →
      (checkExtension propertyId id before dto.checkOut).ends P E (.active fun s => s) db := by
    intro P E hE hP
    unfold checkExtension
    cases before.roomId with
    | some roomId => simp [hE, hP]
    | none => exact ends_assertTypeCapacity hE hP
  refine hcheck (fun _ _ => hstay) ?_
  refine ends_reschedule id actorStaffId db ?_ ?_ "stay_extended" _ ?_
  · exact fun _ => ⟨rfl, rfl, rfl⟩
  · rfl

theorem update_does (dto : UpdateReservationDto) :
    EndsDoing (update env propertyId id dto actorStaffId)
      ⟨env, propertyId, actorStaffId, .update id dto⟩ db := by
  have hstay := Does.refl ⟨env, propertyId, actorStaffId, .update id dto⟩ db
  have hrules : ∀ roomTypeId checkIn checkOut moving,
      (rulesIfMoving env propertyId roomTypeId checkIn checkOut moving).ReadOnly := by
    intro roomTypeId checkIn checkOut moving
    exact .ite _ (rulesFor_readOnly env propertyId _ _ _) (.pure _)
  simp only [EndsDoing, update, ends_simps, ends_requireReservation, ends_when, hstay]
  intro before hf hs
  have hedit : ∀ rules total fields, (transaction do
      when ((dto.checkIn.isSome || dto.checkOut.isSome) = true ∧ before.status = .CONFIRMED) <|
        checkMovedBooking propertyId id before (dto.checkIn.getD before.checkIn)
          (dto.checkOut.getD before.checkOut) rules
      let updated ← rescheduleReservation id
        (fun r => (dto.checkIn.getD r.checkIn, dto.checkOut.getD r.checkOut))
        (applyPatch dto total env.now)
      recordEvent id "updated" actorStaffId (.updated fields)
      return updated).ends
        (fun row t db' => (hydrate row).ends
          (fun _ _ => Does ⟨env, propertyId, actorStaffId, .update id dto⟩ db.board)
          (fun _ _ => Does ⟨env, propertyId, actorStaffId, .update id dto⟩ db.board) t db')
        (fun _ _ => Does ⟨env, propertyId, actorStaffId, .update id dto⟩ db.board) .idle db := by
    intro rules total fields
    simp only [ends_simps, ends_when, hstay]
    refine ⟨fun _ => ends_checkMovedBooking (fun _ _ => hstay) ?_, fun _ => ?_⟩
    · refine ends_reschedule id actorStaffId db ?_ ?_ "updated" (.updated fields) rfl
      exact fun _ => ⟨rfl, rfl, rfl⟩
    · refine ends_reschedule id actorStaffId db ?_ ?_ "updated" (.updated fields) rfl
      exact fun _ => ⟨rfl, rfl, rfl⟩
  refine ⟨fun hmoving ordered _ _ => ?_, fun hstill _ => ?_⟩
  · exact (hrules _ _ _ _).ends_idle (fun _ => hedit _ _ _) fun _ => hstay
  · exact (hrules _ _ _ _).ends_idle (fun _ => hedit _ _ _) fun _ => hstay

theorem movedRate_readOnly (before : Reservation) (room : Room) (ratePaise : Option ℤ) :
    (movedRate propertyId before room ratePaise).ReadOnly := by
  refine .ite _ (.bind (.bind (.select _ _) fun _ => .orThrow _ _) fun _ => ?_) (.pure _)
  exact .pure _

theorem moveRoom_does (dto : MoveRoomDto) :
    EndsDoing (moveRoom env propertyId id dto actorStaffId)
      ⟨env, propertyId, actorStaffId, .moveRoom id dto⟩ db := by
  have hstay := Does.refl ⟨env, propertyId, actorStaffId, .moveRoom id dto⟩ db
  simp only [EndsDoing, moveRoom, ends_simps, ends_requireReservation, ends_requireRoom, hstay]
  intro before hf hs hne room hroom hready
  obtain ⟨hb, rfl, -, hl⟩ := reservationOf_eq_some.mp hf
  obtain ⟨hr, hid, -, -⟩ := roomOf_eq_some.mp hroom
  refine (movedRate_readOnly propertyId before room dto.ratePaise).ends_idle (fun rate => ?_)
    fun _ => hstay
  have hmoved : ∀ total, Shuffle ⟨env, propertyId, actorStaffId, .moveRoom before.id dto⟩ db.board
      db.board ((((db.board.update before.id fun r =>
        { r with roomId := some room.id, roomTypeId := room.roomTypeId, ratePaise := rate,
                 totalPaise := total, updatedAt := env.now }).vacate before.roomId
          env.now).setStatus room.id .OCCUPIED env.now).record ⟨before.id, "room_moved",
            actorStaffId, .roomMoved before.roomId room.id room.number⟩) := by
    intro total
    refine .moved hb hl (not_not.mp hs) hr (by simpa using hready) ?_ rfl
    exact hid ▸ hne
  simp only [updateReservation, setRoomStatus, recordEvent, ends_simps, ends_assertRoomFree, hstay]
  intro _
  cases hroomId : before.roomId with
  | some left =>
    simp only [forSome, ends_write_active, hstay, trivially]
    refine ends_hydrate _ (.shuffle ?_)
    have hleft := hmoved (totalPaise rate before.checkIn before.checkOut)
    simp only [Board.vacate, hroomId] at hleft
    exact hleft
  | none =>
    simp only [forSome, ends_ret, ends_write_active, hstay, trivially]
    refine ends_hydrate _ (.shuffle ?_)
    have hleft := hmoved (totalPaise rate before.checkIn before.checkOut)
    simp only [Board.vacate, hroomId] at hleft
    exact hleft

/-! ## Rooms -/

theorem assignRoom_does (roomId : Id) :
    EndsDoing (assignRoom env propertyId id roomId actorStaffId)
      ⟨env, propertyId, actorStaffId, .assignRoom id roomId⟩ db := by
  have hstay := Does.refl ⟨env, propertyId, actorStaffId, .assignRoom id roomId⟩ db
  simp only [EndsDoing, assignRoom, updateReservation, recordEvent, ends_simps,
    ends_requireReservation, ends_requireRoom, ends_assertRoomFree, hstay]
  intro before hf hs room hroom _ _
  obtain ⟨hb, rfl, -, hl⟩ := reservationOf_eq_some.mp hf
  refine ends_hydrate _ (.shuffle (.housed hb ?_ rfl))
  cases hbs : before.status <;> simp_all

theorem lockRoom_does (locked : Bool) :
    EndsDoing (lockRoom env propertyId id locked actorStaffId)
      ⟨env, propertyId, actorStaffId, .lockRoom id locked⟩ db := by
  have hstay := Does.refl ⟨env, propertyId, actorStaffId, .lockRoom id locked⟩ db
  simp only [EndsDoing, lockRoom, updateReservation, recordEvent, ends_simps,
    ends_requireReservation, hstay]
  intro before hf _
  refine ends_hydrate _ (.shuffle (.edited ?_ ?_ ?_))
  · exact fun _ => rfl
  · exact fun _ => ⟨rfl, rfl, rfl⟩
  · cases locked <;> rfl

theorem swapRooms_does (otherId : Id) :
    EndsDoing (swapRooms env propertyId id otherId actorStaffId)
      ⟨env, propertyId, actorStaffId, .swapRooms id otherId⟩ db := by
  have hstay := Does.refl ⟨env, propertyId, actorStaffId, .swapRooms id otherId⟩ db
  simp only [EndsDoing, swapRooms, updateReservation, recordEvent, ends_simps,
    ends_requireReservation, ends_assertRoomFree, hstay]
  intro hne guest hf other hf' rooms hrooms _ _ _ _ _
  obtain ⟨ha, rfl, -, hla⟩ := reservationOf_eq_some.mp hf
  obtain ⟨hb, rfl, -, hlb⟩ := reservationOf_eq_some.mp hf'
  obtain ⟨ra, hra, hrb'⟩ := Option.bind_eq_some_iff.mp hrooms
  obtain ⟨rb, hrb, rfl⟩ := Option.map_eq_some_iff.mp hrb'
  refine (hydrate_readOnly _).ends_idle (fun _ => ?_) fun _ => ?_
  · refine ends_hydrate _ (.shuffle ?_)
    exact .swapped rfl ha hb hla hlb hne hra hrb rfl rfl
  · refine .shuffle ?_
    exact .swapped rfl ha hb hla hlb hne hra hrb rfl rfl

/-! ## Check-out -/

/-- The rows of a board, one of them with a new paid amount at most. -/
def Paid (id : Id) (now : ℤ) (b b' : Board) : Prop :=
  b' = b ∨ ∃ net, b' = b.update id fun r => { r with paidPaise := net, updatedAt := now }

variable {E : Err → Tx HotelDb → HotelDb → Prop}

theorem ends_recordPayment {P : FolioPayment × ℤ → Tx HotelDb → HotelDb → Prop}
    (input : RecordPaymentInput) (now : ℤ)
    (hE : ∀ e s, Paid input.reservationId now db.board s.board → E e .idle s)
    (hP : ∀ a s, Paid input.reservationId now db.board s.board → P a .idle s) :
    (recordPayment input now).ends P E .idle db := by
  have hstay : Paid input.reservationId now db.board db.board := .inl rfl
  simp only [recordPayment, ends_simps]
  refine ⟨?_, fun _ => hE _ _ hstay⟩
  cases paymentOf input db with
  | some payment =>
    simp only [ends_simps]
    exact ⟨hP _ _ hstay, fun _ => hE _ _ hstay⟩
  | none =>
    have hinsert : (insertPayment input db).1.board = db.board := by
      unfold insertPayment
      cases input.idempotencyKey.bind fun k =>
        FolioService.findPaymentByKey input.reservationId k db <;> rfl
    have hkept : Paid input.reservationId now db.board
        (insertPayment input db).1.board := .inl hinsert
    simp only [ends_simps]
    refine ⟨?_, fun _ => hE _ _ hstay⟩
    have hwinner :
        (winnerOf input (insertPayment input db).2).ReadOnly := by
      cases (insertPayment input db).2 with
      | some p => exact .pure _
      | none => exact .select _ _
    refine hwinner.ends_idle (fun winner => ?_) fun _ => hE _ _ hkept
    simp only [ends_simps]
    refine ⟨fun _ => hE _ _ hkept, fun payment _ => ⟨⟨hP _ _ ?_, ?_⟩, ?_⟩⟩
    · exact .inr ⟨netPaid input.reservationId (insertPayment input db).1,
        by rw [← hinsert]; rfl⟩
    · exact fun _ => hE _ _ hkept
    · exact fun _ => hE _ _ hkept

variable {P : Unit → Tx HotelDb → HotelDb → Prop}

theorem ends_createCheckoutClean {w : HotelDb → HotelDb} (roomId : Id) (now : ℤ)
    (hE : ∀ e t, E e t db) (hP : ∀ v, (∀ s, (v s).board = s.board) → P () (.active (v ∘ w)) db) :
    (createCheckoutCleanForRoom propertyId roomId actorStaffId now).ends P E (.active w) db := by
  simp only [createCheckoutCleanForRoom, ends_simps, ends_when]
  refine ⟨⟨fun _ => ⟨hP _ fun _ => rfl, fun _ => hE _ _⟩, fun _ => ?_⟩, fun _ => hE _ _⟩
  exact hP (fun s => s) fun _ => rfl

theorem ends_collect {collected : ℤ} {input : RecordPaymentInput} {now : ℤ}
    (hE : ∀ e s, Paid input.reservationId now db.board s.board → E e .idle s)
    (hP : ∀ s, Paid input.reservationId now db.board s.board → P () .idle s) :
    (when (0 < collected) do
      let _ ← recordPayment input now).ends P E .idle db := by
  simp only [ends_when, ends_simps]
  exact ⟨fun _ => ends_recordPayment db input now hE fun _ => hP, fun _ => hP db (.inl rfl)⟩

theorem Paid.shuffles {c : Call} {start b b' : Board} {id : Id} {now : ℤ} (h : Paid id now b b') :
    ReflTransGen (Shuffle c start) b b' := by
  obtain rfl | ⟨net, rfl⟩ := h
  · exact .refl
  · exact .single .paid

theorem Paid.row {b b' : Board} {before : Reservation} {id : Id} {now : ℤ} (h : Paid id now b b')
    (hb : before ∈ b.reservations) :
    ∃ r ∈ b'.reservations, r.id = before.id ∧ r.roomId = before.roomId ∧
      r.status = before.status ∧ r.deletedAt = before.deletedAt := by
  obtain rfl | ⟨net, rfl⟩ := h
  · exact ⟨before, hb, rfl, rfl, rfl, rfl⟩
  · simp only [Board.update, mem_update]
    refine ⟨_, ⟨before, hb, rfl⟩, ?_⟩
    split <;> exact ⟨rfl, rfl, rfl, rfl⟩

theorem checkOut_does (dto : CheckOutDto) :
    EndsDoing (checkOut env propertyId id dto actorStaffId)
      ⟨env, propertyId, actorStaffId, .checkOut id dto⟩ db := by
  have hstay := Does.refl ⟨env, propertyId, actorStaffId, .checkOut id dto⟩ db
  simp only [EndsDoing, checkOut, ends_simps, ends_requireReservation, assertTransition_ok, hstay]
  intro before hf _ ht
  obtain ⟨hb, rfl, -, hl⟩ := reservationOf_eq_some.mp hf
  refine ends_collect db (fun _ s hs => .shuffles hs.shuffles) fun s hs => ?_
  -- from here on the call stands on `s`
  have hpaid : Does ⟨env, propertyId, actorStaffId, .checkOut before.id dto⟩ db.board s :=
    .shuffles hs.shuffles
  obtain ⟨r, hr, hid, hroomId, hstatus, hdeleted⟩ := hs.row hb
  refine (balancePaise_readOnly before.id).ends_idle (fun balance => ?_) fun _ => hpaid
  simp only [updateReservation, setRoomStatus, recordEvent, ends_simps, ends_forSome, hpaid]
  intro _
  have hturn : ∀ e : ReservationEvent, e.Tells r.id .CHECKED_OUT →
      Turn s.board (((s.board.update r.id fun r =>
        { r with status := .CHECKED_OUT, checkedOutAt := some env.now, updatedAt := env.now }).vacate
          r.roomId env.now).record e) :=
    fun e he => .checkedOut hr (hdeleted.trans hl) (hstatus ▸ ht) he
  rw [hid, hroomId] at hturn
  refine ⟨fun roomId hroom => ?_, fun hroom => ?_⟩
  · refine ends_createCheckoutClean propertyId actorStaffId s roomId env.now (fun _ _ => hpaid)
      fun v hv => ?_
    simp only [ends_write_active, hpaid, trivially]
    refine ends_hydrate _ ⟨s.board, hs.shuffles, .inr ?_⟩
    simp only [Tx.view_active, Function.comp_apply, id_eq, board_recordEvent, hv,
      board_setRoomStatus, board_updateReservation]
    simpa only [Board.vacate, hroom] using hturn _ ⟨rfl, by simp, rfl⟩
  · refine ends_hydrate _ ⟨s.board, hs.shuffles, .inr ?_⟩
    simp only [Tx.view_active, Function.comp_apply, id_eq, board_recordEvent,
      board_updateReservation]
    simpa only [Board.vacate, hroom] using hturn _ ⟨rfl, by simp, rfl⟩

theorem collectPayment_does (input : CollectPaymentInput) :
    EndsDoing (collectPayment env propertyId id input actorStaffId)
      ⟨env, propertyId, actorStaffId, .collectPayment id input⟩ db := by
  have hstay := Does.refl ⟨env, propertyId, actorStaffId, .collectPayment id input⟩ db
  simp only [EndsDoing, collectPayment, folioAncillary, ends_simps, ends_requireReservation, hstay]
  intro before hf
  refine ends_recordPayment db _ _ (fun _ s hs => .shuffles hs.shuffles) fun _ s hs => ?_
  exact (summary_readOnly id).ends_idle (fun _ => .shuffles hs.shuffles)
    fun _ => .shuffles hs.shuffles

/-! ## Create -/

/-- An attempt that found its number taken has left no trace. -/
def Retriable (db : HotelDb) (e : Err) (t : Tx HotelDb) (s : HotelDb) : Prop :=
  e = .uniqueViolation → t = .idle ∧ s = db

theorem ends_createAttempts {Q : HotelDb → Prop} {body : ℕ → Op ReservationDto} (hstay : Q db)
    (hbody : ∀ attempt < NUMBER_ATTEMPTS, (body attempt).ends (fun _ _ => Q)
      (fun e t s => Q s ∧ Retriable db e t s) .idle db) :
    ∀ left attempt, attempt + left = NUMBER_ATTEMPTS →
      (createAttempts body left attempt).ends (fun _ _ => Q) (fun _ _ => Q) .idle db := by
  intro left
  induction left with
  | zero => exact fun _ _ => hstay
  | succ left ih =>
    intro attempt hsum
    rw [createAttempts, ends_tryCatch]
    refine ends_mono (fun _ _ _ hP => hP) (fun e t s he => ?_) _ _ _
      (hbody attempt (by omega))
    rw [ends_ite]
    refine ⟨fun hretry => ?_, fun _ => he.1⟩
    obtain ⟨rfl, rfl⟩ := he.2 hretry.1
    exact ih (attempt + 1) (by omega)

theorem assertRoomFree_straight (q : RoomProbe) :
    (assertRoomFree q).Straight fun _ _ => False :=
  .bind (.selectForUpdate _ _ _) fun _ => .throwIf _ _

theorem assertTypeCapacity_straight (propertyId roomTypeId : Id) (checkIn checkOut : ℤ)
    (excludeId : Option Id) (rules : Option (List DayRules)) :
    (assertTypeCapacity propertyId roomTypeId checkIn checkOut excludeId rules).Straight
      fun _ _ => False :=
  .bind (.forSome fun _ => .lift _) fun _ => .bind (.select _ _) fun _ =>
    .bind (.selectForUpdate _ _ _) fun _ => .forSome fun _ => .throw _

variable (dto : CreateReservationDto)

theorem checkNewBooking_straight (status : BookingStatus) (rules : Option (List DayRules)) :
    (checkNewBooking propertyId dto status rules).Straight fun _ _ => False := by
  cases status with
  | PENDING => exact .pure _
  | CONFIRMED =>
    exact .bind (.forSome fun _ => assertRoomFree_straight _) fun _ =>
      assertTypeCapacity_straight _ _ _ _ _ _

/-- An attempt that does not throw has passed its checks and stores the row of its count. -/
theorem ends_createTx {P : Reservation → Tx HotelDb → HotelDb → Prop} {dto : CreateReservationDto}
    {status : BookingStatus} {rules : Option (List DayRules)} {row : ℕ → Reservation}
    (hE : ∀ e, E e .idle db)
    (hP : ∀ s, (checkNewBooking propertyId dto status rules).eval (.active fun s => s) db =
        (.ok (), .active fun s => s, db) →
      let created := row (db.reservations.rows.countP fun r => r.propertyId = propertyId)
      db.reservationTaken created = false →
      s.board = (db.board.insert created).record ⟨created.id, "created", actorStaffId,
        .created status.toStatus dto.checkIn dto.checkOut⟩ → P created .idle s) :
    (createTx propertyId dto status rules actorStaffId row).ends P E .idle db := by
  simp only [createTx, recordEvent, ends_simps, hE]
  refine (checkNewBooking_straight propertyId dto status rules).ends_active (fun _ hpass => ?_)
    fun e _ => hE e
  simp only [ends_simps, hE, id_eq]
  intro db' hok
  simp only [HotelDb.insertReservation] at hok
  split at hok
  · cases hok
  next hfree =>
    refine hP _ hpass (by simpa using hfree) ?_
    simp only [Tx.view_active, Function.comp_apply, id_eq, board_recordEvent, applied,
      HotelDb.insertReservation, if_neg hfree]
    rfl

theorem requestedRoom_straight :
    (forSome dto.roomId fun roomId => do
      let room ← requireRoom propertyId roomId
      throwIf (room.roomTypeId ≠ dto.roomTypeId) .roomTypeMismatch : Op Unit).Straight
        fun _ _ => False :=
  .forSome fun _ => .bind (.bind (.select _ _) fun _ => .orThrow _ _) fun _ => .throwIf _ _

theorem ends_answer {Q : HotelDb → Prop} {s : HotelDb} (row : Reservation) (h : Q s) :
    (hydrate (some row)).ends (fun _ _ => Q) (fun e t s => Q s ∧ Retriable db e t s) .idle s := by
  have hread : ∀ m : String, Retriable db (lost m) .idle s := fun m h => by cases h
  simp only [hydrate, ends_simps, h, hread, reduceCtorEq, false_implies]
  intro r _
  cases r.roomId <;> simp [hydrateRoom, h, hread]

theorem create_does :
    EndsDoing (create env propertyId dto actorStaffId) ⟨env, propertyId, actorStaffId, .create dto⟩
      db := by
  have hstay := Does.refl ⟨env, propertyId, actorStaffId, .create dto⟩ db
  simp only [EndsDoing, create, requireRoomType, ends_simps, hstay]
  intro ordered _ type _
  refine (requestedRoom_straight propertyId dto).ends_idle (fun _ _ => ?_) fun _ => hstay
  refine (quoteUnlessGiven_readOnly env propertyId dto type).ends_idle (fun nightly => ?_)
    fun _ => hstay
  refine (rulesFor_readOnly env propertyId type.id _ _).ends_idle (fun rules => ?_) fun _ => hstay
  refine (deadlineIfPending_readOnly env propertyId _ _).ends_idle (fun hold => ?_) fun _ => hstay
  refine ends_createAttempts db hstay (fun attempt _ => ?_) NUMBER_ATTEMPTS 0 rfl
  rw [ends_bind]
  refine ends_createTx propertyId actorStaffId db (fun e => ⟨hstay, fun _ => ⟨rfl, rfl⟩⟩)
    fun s _ hfree hs => ?_
  have hmade : Does ⟨env, propertyId, actorStaffId, .create dto⟩ db.board s := by
    refine .turn (hs ▸ .created ?_ ?_ rfl)
    · simp only [HotelDb.reservationTaken, Bool.or_eq_false_iff] at hfree
      exact Table.hasKey_eq_false.mp hfree.1
    · cases hstatus : dto.status.getD .PENDING with
      | PENDING => exact .inl rfl
      | CONFIRMED => exact .inr rfl
  exact ends_answer db _ hmade

/-! ## Auto-allocation -/

section Allocation

variable {pending : List Reservation} {offerable : List Room} {assigned : List (Id × Id)}
  {res : Reservation}

/-- The search writes nothing; a statement that fails aborts the transaction, and the search
goes on. -/
theorem ends_firstFreeRoom {P : Option Room → Tx HotelDb → HotelDb → Prop}
    {E : Err → Tx HotelDb → HotelDb → Prop} {w : HotelDb → HotelDb} (hE : ∀ e t, E e t db)
    (hP : ∀ chosen, P chosen (.active w) db) (hA : ∀ chosen, P chosen .aborted db)
    (rooms : List Room) :
    (firstFreeRoom propertyId pending assigned res rooms).ends P E (.active w) db := by
  induction rooms with
  | nil => exact hP none
  | cons room rest ih =>
    have haborted : (firstFreeRoom propertyId pending assigned res rest).ends P E .aborted db :=
      (firstFreeRoom_body propertyId rest).ends_aborted hA fun e => hE e .aborted
    rw [firstFreeRoom, ends_ite]
    refine ⟨fun _ => ih, fun _ => ?_⟩
    simp only [ends_simps, ends_tryCatch, ends_assertRoomFree, ends_ite, reduceCtorEq,
      false_implies, not_false_eq_true, forall_const, not_true_eq_false]
    exact ⟨⟨fun _ => ih, fun _ => hP _⟩, haborted⟩

theorem ends_placeArrivals (c : Call) {P : List PlanLine → Tx HotelDb → HotelDb → Prop}
    {E : Err → Tx HotelDb → HotelDb → Prop} (dryRun : Bool) (hE : ∀ e t, E e t db)
    (hA : ∀ plan, P plan .aborted db)
    (hP : ∀ plan w, ReflTransGen (Shuffle c db.board) db.board (w db).board →
      P plan (.active w) db) :
    ∀ todo assigned plan w, ReflTransGen (Shuffle c db.board) db.board (w db).board →
      (∀ res ∈ todo, ∃ r ∈ (w db).reservations, r.id = res.id ∧ r.status = .CONFIRMED) →
      (placeArrivals env propertyId dryRun actorStaffId pending offerable todo assigned plan).ends
        P E (.active w) db := by
  intro todo
  induction todo with
  | nil => exact fun _ plan w hw _ => hP plan w hw
  | cons res rest ih =>
    intro assigned plan w hw htodo
    have hrest : ∀ r ∈ rest, ∃ r' ∈ (w db).reservations, r'.id = r.id ∧ r'.status = .CONFIRMED :=
      fun r hr => htodo r (List.mem_cons_of_mem _ hr)
    have haborted : ∀ assigned plan, (placeArrivals env propertyId dryRun actorStaffId pending
        offerable rest assigned plan).ends P E .aborted db := fun assigned plan =>
      (placeArrivals_body env propertyId actorStaffId dryRun rest assigned plan).ends_aborted hA
        fun e => hE e .aborted
    rw [placeArrivals, ends_bind]
    refine ends_firstFreeRoom propertyId db hE (fun chosen => ?_) (fun chosen => ?_) _
    · cases chosen with
      | none => exact ih _ _ w hw hrest
      | some room =>
        obtain ⟨r, hr, hid, hstatus⟩ := htodo res (List.mem_cons_self ..)
        simp only [updateReservation, recordEvent, ends_simps, ends_when, hE]
        refine ⟨fun _ => ih _ _ _ (hw.tail ?_) fun res' hres' => ?_, fun _ => ih _ _ w hw hrest⟩
        · simp only [Function.comp_apply, board_recordEvent, board_updateReservation]
          rw [← hid]
          exact .housed hr (.inr hstatus) rfl
        · obtain ⟨r', hr', hid', hstatus'⟩ := hrest res' hres'
          simp only [Function.comp_apply, HotelDb.recordEvent, HotelDb.updateReservation,
            mem_update]
          refine ⟨_, ⟨r', hr', rfl⟩, ?_⟩
          split <;> exact ⟨hid', hstatus'⟩
    · cases chosen with
      | none => exact haborted _ _
      | some room =>
        simp only [ends_bind, ends_when]
        refine ⟨fun _ => ?_, fun _ => haborted _ _⟩
        exact ⟨hE _ _, fun _ => hE _ _⟩

end Allocation

theorem autoAllocate_does (input : AutoAllocateDto) :
    EndsDoing (autoAllocate env propertyId input actorStaffId)
      ⟨env, propertyId, actorStaffId, .autoAllocate input⟩ db := by
  have hstay := Does.refl ⟨env, propertyId, actorStaffId, .autoAllocate input⟩ db
  simp only [EndsDoing, autoAllocate, ends_simps, ends_ite, Prog.ends_rolledBack, hstay]
  intro _
  have harrivals : ∀ res ∈ arrivalsOf propertyId input.fromDate input.toDate db,
      ∃ r ∈ db.reservations, r.id = res.id ∧ r.status = .CONFIRMED := by
    intro res hres
    simp only [arrivalsOf, List.mem_insertionSort, List.mem_filter, and_decide_eq] at hres
    exact ⟨res, hres.1, rfl, hres.2.1.1.1.1.2⟩
  refine ⟨fun _ => ?_, fun _ => ?_⟩
  · exact ends_placeArrivals env propertyId actorStaffId db
      ⟨env, propertyId, actorStaffId, .autoAllocate input⟩ input.dryRun (fun _ _ => hstay)
      (fun _ => ⟨hstay, fun _ => hstay⟩) (fun _ _ _ => ⟨hstay, fun _ => hstay⟩) _ _ _ _ .refl
      harrivals
  · refine ends_placeArrivals env propertyId actorStaffId db
      ⟨env, propertyId, actorStaffId, .autoAllocate input⟩ input.dryRun (fun _ _ => hstay)
      (fun _ => ⟨hstay, fun _ => hstay⟩) (fun _ w hw => ⟨?_, fun _ => hstay⟩) _ _ _ _ .refl
      harrivals
    exact .shuffles hw

end Methods

end ReservationsService

open ReservationsService in
theorem Call.does (db : HotelDb) : EndsDoing c.prog c db := by
  obtain ⟨env, propertyId, actorStaffId, action⟩ := c
  simp only [EndsDoing, Call.prog]
  cases action with
  | create dto => exact ends_bind _ _ |>.mpr (create_does env propertyId actorStaffId db dto)
  | update id dto =>
    exact ends_bind _ _ |>.mpr (update_does env propertyId id actorStaffId db dto)
  | extendStay id dto =>
    exact ends_bind _ _ |>.mpr (extendStay_does env propertyId id actorStaffId db dto)
  | moveRoom id dto =>
    exact ends_bind _ _ |>.mpr (moveRoom_does env propertyId id actorStaffId db dto)
  | assignRoom id roomId =>
    exact ends_bind _ _ |>.mpr (assignRoom_does env propertyId id actorStaffId db roomId)
  | lockRoom id locked =>
    exact ends_bind _ _ |>.mpr (lockRoom_does env propertyId id actorStaffId db locked)
  | swapRooms id otherId =>
    exact ends_bind _ _ |>.mpr (swapRooms_does env propertyId id actorStaffId db otherId)
  | autoAllocate input =>
    exact ends_bind _ _ |>.mpr (autoAllocate_does env propertyId actorStaffId db input)
  | confirm id => exact ends_bind _ _ |>.mpr (confirm_does env propertyId id actorStaffId db)
  | checkIn id dto =>
    exact ends_bind _ _ |>.mpr (checkIn_does env propertyId id actorStaffId db dto)
  | checkOut id dto =>
    exact ends_bind _ _ |>.mpr (checkOut_does env propertyId id actorStaffId db dto)
  | collectPayment id input =>
    exact ends_bind _ _ |>.mpr (collectPayment_does env propertyId id actorStaffId db input)
  | cancel id reason =>
    exact ends_bind _ _ |>.mpr (cancel_does env propertyId id actorStaffId db reason)
  | noShow id => exact ends_bind _ _ |>.mpr (noShow_does env propertyId id actorStaffId db)

theorem Call.does_runWith (φ : ℕ → Option String) (db : HotelDb) :
    Does c db.board (c.prog.runWith φ db).db :=
  ends_runWith (c.does db) φ

end Travelo

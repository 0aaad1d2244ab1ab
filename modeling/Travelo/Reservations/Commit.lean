import Travelo.Reservations.Call
import Travelo.Reservations.Checks

/-!
# What the reservation service writes

`Commit c h w`: the call `c`, whose history is `h`, publishes the write `w`. There is one
constructor, or one constructor of `RowCommit`, for each thing a method can write, and it
carries all that the method had checked by then; a call that does not take a room has only
the writes that give no stay a room or a night. The `*_writes` theorems say that the
methods write nothing else; everything proved about the book starts from `Commit`, never
from the text of a method.
-/

namespace Travelo

open ReadCommitted
open ReservationsService (roomTypeOf assertRules firstFullNight typeRooms typeStays applyPatch
  overlapsPool)
open Reservation (rescheduled)

/-! ## What a history says -/

section Facts

variable (h : Trace)

/-- The call read the reservation. -/
def Found (propertyId id : Id) (r : Reservation) : Prop :=
  ∃ b, .saw (.reservation id) b ∈ h ∧ ReservationsService.reservationOf propertyId id b = some r

/-- The call read the room. -/
def RoomFound (propertyId id : Id) (room : Room) : Prop :=
  ∃ b, .saw (.room id) b ∈ h ∧ ReservationsService.roomOf propertyId id b = some room

/-- The call read the room type. -/
def TypeFound (propertyId id : Id) : Prop :=
  ∃ b t, .saw (.roomType id) b ∈ h ∧ roomTypeOf propertyId id b = some t

/-- The call probed the room and saw no clash. -/
def Cleared (q : RoomProbe) : Prop := ∃ b, .saw (.roomStays q) b ∈ h ∧ q.Clear b

/-- The stay passed the rules it was checked against, and the call counted rooms and stays of
the type and found no night of the window full. -/
def HasRoom (propertyId roomTypeId : Id) (checkIn checkOut : ℤ) (excludeId : Option Id)
    (rules : Option (List DayRules)) : Prop :=
  (∀ rs, rules = some rs → assertRules rs checkIn checkOut = .ok ()) ∧
  ∃ b b', .saw (.typeRooms propertyId roomTypeId) b ∈ h ∧
    .saw (.typeStays propertyId roomTypeId checkIn checkOut excludeId) b' ∈ h ∧
    firstFullNight
      (typeRooms propertyId roomTypeId b).length
      (typeStays propertyId roomTypeId checkIn checkOut excludeId b')
      rules checkIn checkOut = none

/-- The rules a check was given are those the call read, if the rates engine is wired. -/
def RulesRead (env : Env) (propertyId roomTypeId : Id) (checkIn checkOut : ℤ)
    (rules : Option (List DayRules)) : Prop :=
  env.rates = true → ∃ b, .saw (.rates propertyId roomTypeId) b ∈ h ∧
    rules = some (RatesService.dayRulesOf propertyId roomTypeId checkIn (addDays checkOut 1) b)

variable {h} {o : Trace} (hs : o ⊆ h)

include hs

theorem RoomFound.mono {propertyId id : Id} {room : Room} (hf : RoomFound o propertyId id room) :
    RoomFound h propertyId id room := by
  obtain ⟨b, hb, hr⟩ := hf
  exact ⟨b, hs hb, hr⟩

theorem TypeFound.mono {propertyId id : Id} (hf : TypeFound o propertyId id) :
    TypeFound h propertyId id := by
  obtain ⟨b, t, hb, hr⟩ := hf
  exact ⟨b, t, hs hb, hr⟩

theorem Cleared.mono {q : RoomProbe} (hc : Cleared o q) : Cleared h q := by
  obtain ⟨b, hb, hq⟩ := hc
  exact ⟨b, hs hb, hq⟩

variable {rules : Option (List DayRules)} {propertyId roomTypeId : Id}

theorem HasRoom.mono {checkIn checkOut : ℤ} {excludeId : Option Id}
    (hc : HasRoom o propertyId roomTypeId checkIn checkOut excludeId rules) :
    HasRoom h propertyId roomTypeId checkIn checkOut excludeId rules := by
  obtain ⟨hrules, b, b', hb, hb', hn⟩ := hc
  exact ⟨hrules, b, b', hs hb, hs hb', hn⟩

theorem RulesRead.mono {env : Env} {checkIn checkOut : ℤ}
    (hr : RulesRead o env propertyId roomTypeId checkIn checkOut rules) :
    RulesRead h env propertyId roomTypeId checkIn checkOut rules := by
  intro hwired
  obtain ⟨b, hb, heq⟩ := hr hwired
  exact ⟨b, hs hb, heq⟩

end Facts

/-! ## What the queries find -/

section Queries

open ReservationsService

variable {r : Reservation} {db : HotelDb}

theorem reservationOf_eq_some {propertyId id : Id} :
    reservationOf propertyId id db = some r ↔
      r ∈ db.reservations ∧ r.id = id ∧ r.propertyId = propertyId ∧ r.deletedAt = none := by
  simp [reservationOf, find?_eq_some, and_assoc]

theorem roomOf_eq_some {propertyId id : Id} {r : Room} :
    roomOf propertyId id db = some r ↔
      r ∈ db.rooms ∧ r.id = id ∧ r.propertyId = propertyId ∧ r.deletedAt = none := by
  simp [roomOf, find?_eq_some, and_assoc]

theorem RoomProbe.clashes_iff {q : RoomProbe} :
    q.clashes r = true ↔ r.propertyId = q.propertyId ∧ r.roomId = some q.roomId ∧
      r.occupies = true ∧ r.checkIn < q.checkOut ∧ q.checkIn < r.checkOut ∧
      q.excludeId ≠ some r.id ∧ q.excludeId2 ≠ some r.id := by
  simp [RoomProbe.clashes, occupyingOverlap, and_assoc]

theorem mem_arrivalsOf {propertyId : Id} {fromDate toDate : ℤ} :
    r ∈ arrivalsOf propertyId fromDate toDate db ↔
      r ∈ db.reservations ∧ r.propertyId = propertyId ∧ r.status = .CONFIRMED ∧ r.roomId = none ∧
        r.deletedAt = none ∧ fromDate ≤ r.checkIn ∧ r.checkIn ≤ toDate := by
  simp [arrivalsOf, List.mem_insertionSort, mem_rows, and_assoc]

end Queries

/-! ## What a write leaves alone -/

/-- A write changes room rows in their status only, and puts none out of order; the room
types stay. -/
structure Frame (db db' : HotelDb) : Prop where
  rooms : ∃ g : Room → Room,
    (∀ r, (g r).id = r.id ∧ (g r).propertyId = r.propertyId ∧ (g r).roomTypeId = r.roomTypeId ∧
      (g r).deletedAt = r.deletedAt ∧ ((g r).status = .OUT_OF_ORDER → r.status = .OUT_OF_ORDER)) ∧
    db'.rooms.rows = db.rooms.rows.map g
  roomTypes : db'.roomTypes = db.roomTypes

theorem Frame.refl (db : HotelDb) : Frame db db :=
  ⟨⟨id, by simp, by simp⟩, rfl⟩

theorem Frame.of_eq {db db' : HotelDb} (hr : db'.rooms = db.rooms)
    (ht : db'.roomTypes = db.roomTypes) : Frame db db' :=
  ⟨⟨id, by simp, by simp [hr]⟩, ht⟩

theorem Frame.trans {a b c : HotelDb} (hab : Frame a b) (hbc : Frame b c) : Frame a c := by
  obtain ⟨g, hg, hgr⟩ := hab.rooms
  obtain ⟨k, hk, hkr⟩ := hbc.rooms
  refine ⟨⟨k ∘ g, fun r => ?_, by rw [hkr, hgr, List.map_map]⟩, hbc.roomTypes.trans hab.roomTypes⟩
  obtain ⟨h1, h2, h3, h4, h5⟩ := hg r
  obtain ⟨k1, k2, k3, k4, k5⟩ := hk (g r)
  exact ⟨k1.trans h1, k2.trans h2, k3.trans h3, k4.trans h4, fun ho => h5 (k5 ho)⟩

theorem Frame.setRoomStatus {db db' : HotelDb} {id : Id} {status : RoomStatus} {now : ℤ}
    (hs : status ≠ .OUT_OF_ORDER) (hr : db'.rooms = (db.setRoomStatus id status now).rooms)
    (ht : db'.roomTypes = db.roomTypes) : Frame db db' := by
  refine ⟨⟨fun r => if r.id = id then { r with status := status, updatedAt := now } else r,
    fun r => ?_, by simp [hr, HotelDb.setRoomStatus, Table.update]⟩, ht⟩
  by_cases hr : r.id = id <;> simp [hr, hs]

variable {dates : Reservation → ℤ × ℤ} {f : Reservation → Reservation}

theorem reschedule_effect {id : Id} {hf : ∀ r, (f r).id = r.id}
    {hid : ∀ r, (rescheduled dates f r).id = r.id} (e : ReservationEvent)
    (db : HotelDb) :
    let db' := (applied (fun db : HotelDb => db.rescheduleReservation id dates f hf) db).recordEvent e
    Frame db db' ∧ (db'.reservations = db.reservations ∨ db'.reservations =
      db.reservations.update (fun r => r.id = id) (rescheduled dates f) hid) := by
  by_cases hok : ((db.reservations.find? id).all fun r => decide ((dates r).1 < (dates r).2)) = true
  · simp only [applied, HotelDb.rescheduleReservation, hok, if_true]
    exact ⟨.of_eq rfl rfl, .inr rfl⟩
  · simp only [applied, HotelDb.rescheduleReservation, hok]
    exact ⟨.of_eq rfl rfl, .inl rfl⟩

theorem rescheduled_id (hf : ∀ r, (f r).id = r.id) (r : Reservation) :
    (rescheduled dates f r).id = r.id := by
  rw [rescheduled, Reservation.withDates_id, hf]

/-! ## The writes -/

/-- The changes of the reservation row `id`, each with what had been checked. -/
inductive RowCommit (c : Call) (h : Trace) (id : Id) : (Reservation → Reservation) → Prop where
  | confirmed {before now} (hk : c.action = .confirm id) (hq : Quiet h)
      (hf : Found h c.propertyId id before)
      (ht : canTransition before.status .CONFIRMED = true)
      (hr : ∀ roomId, before.roomId = some roomId →
        Cleared h ⟨c.propertyId, roomId, before.checkIn, before.checkOut, some id, none⟩)
      (hc : HasRoom h c.propertyId before.roomTypeId before.checkIn before.checkOut (some id) none) :
      RowCommit c h id fun r => { r with status := .CONFIRMED, updatedAt := now }
  | updated {before now dto total} (rules : Option (List DayRules)) (hq : Quiet h)
      (hf : Found h c.propertyId id before)
      (hm : (dto.checkIn.isSome || dto.checkOut.isSome) = true →
        c.takesRoom = true ∧ (before.status = .PENDING ∨ before.status = .CONFIRMED) ∧
          dto.checkIn.getD before.checkIn < dto.checkOut.getD before.checkOut ∧
          (before.status = .CONFIRMED →
            (∀ roomId, before.roomId = some roomId →
              Cleared h ⟨c.propertyId, roomId, dto.checkIn.getD before.checkIn,
                dto.checkOut.getD before.checkOut, some id, none⟩) ∧
            HasRoom h c.propertyId before.roomTypeId (dto.checkIn.getD before.checkIn)
              (dto.checkOut.getD before.checkOut) (some id) rules ∧
            RulesRead h c.env c.propertyId before.roomTypeId (dto.checkIn.getD before.checkIn)
              (dto.checkOut.getD before.checkOut) rules)) :
      RowCommit c h id (rescheduled
        (fun r => (dto.checkIn.getD r.checkIn, dto.checkOut.getD r.checkOut))
        (applyPatch dto total now))
  | extended {dto before ratePaise totalPaise now} (hk : c.action = .extendStay id dto)
      (hq : Quiet h)
      (hf : Found h c.propertyId id before)
      (hs : before.status = .CHECKED_IN ∨ before.status = .CONFIRMED)
      (hlater : before.checkOut < dto.checkOut)
      (hr : ∀ roomId, before.roomId = some roomId →
        Cleared h ⟨c.propertyId, roomId, before.checkIn, dto.checkOut, some id, none⟩)
      (hc : before.roomId = none →
        HasRoom h c.propertyId before.roomTypeId before.checkIn dto.checkOut (some id) none) :
      RowCommit c h id (rescheduled (fun r => (r.checkIn, dto.checkOut)) fun r =>
        { r with ratePaise, totalPaise, updatedAt := now })
  | moved {dto before room ratePaise totalPaise now} (hk : c.action = .moveRoom id dto)
      (hroomId : room.id = dto.roomId) (hq : Quiet h)
      (hf : Found h c.propertyId id before) (hs : before.status = .CHECKED_IN)
      (hroom : RoomFound h c.propertyId room.id room)
      (hready : ASSIGNABLE_ROOM_STATUSES.contains room.status = true)
      (htype : room.roomTypeId ≠ before.roomTypeId → TypeFound h c.propertyId room.roomTypeId)
      (hr : Cleared h ⟨c.propertyId, room.id, before.checkIn, before.checkOut, some id, none⟩) :
      RowCommit c h id fun r =>
        { r with roomId := some room.id, roomTypeId := room.roomTypeId, ratePaise, totalPaise,
                 updatedAt := now }
  | assigned {before roomId room now} (hk : c.takesRoom = true) (hq : Quiet h)
      (hf : Found h c.propertyId id before)
      (hroom : RoomFound h c.propertyId roomId room) (htype : room.roomTypeId = before.roomTypeId)
      (hr : Cleared h ⟨c.propertyId, roomId, before.checkIn, before.checkOut, some id, none⟩) :
      RowCommit c h id fun r => { r with roomId := some roomId, updatedAt := now }
  | locked {locked now} :
      RowCommit c h id fun r => { r with roomLocked := locked, updatedAt := now }
  | checkedIn {before roomId room now} {guest : Reservation → GuestDetails}
      (hk : c.takesRoom = true) (hq : Quiet h)
      (hf : Found h c.propertyId id before)
      (ht : canTransition before.status .CHECKED_IN = true)
      (hroom : RoomFound h c.propertyId roomId room) (htype : room.roomTypeId = before.roomTypeId)
      (hr : Cleared h ⟨c.propertyId, roomId, before.checkIn, before.checkOut, some id, none⟩) :
      RowCommit c h id fun r =>
        { r with status := .CHECKED_IN, roomId := some roomId, checkedInAt := some now,
                 updatedAt := now, guest := guest r }
  | checkedOut {before now} (hf : Found h c.propertyId id before)
      (ht : canTransition before.status .CHECKED_OUT = true) :
      RowCommit c h id fun r =>
        { r with status := .CHECKED_OUT, checkedOutAt := some now, updatedAt := now }
  | cancelled {before now} (hq : Quiet h) (hf : Found h c.propertyId id before)
      (ht : canTransition before.status .CANCELLED = true) :
      RowCommit c h id fun r =>
        { r with status := .CANCELLED, cancelledAt := some now, updatedAt := now }
  | noShow {before now} (hq : Quiet h) (hf : Found h c.propertyId id before)
      (ht : canTransition before.status .NO_SHOW = true) :
      RowCommit c h id fun r => { r with status := .NO_SHOW, updatedAt := now }
  | paid {net now} : RowCommit c h id fun r => { r with paidPaise := net, updatedAt := now }

/-- The placements of one run of the auto-allocation, oldest first in `assigned`. -/
inductive Placed (h : Trace) (propertyId : Id) (pending : List Reservation)
    (offerable : List Room) : List (Id × Id) → (HotelDb → HotelDb) → Prop where
  | nil : Placed h propertyId pending offerable [] id
  | snoc {assigned w res room now e} (hp : Placed h propertyId pending offerable assigned w)
      (hres : res ∈ pending) (hroom : room ∈ offerable)
      (htype : room.roomTypeId = res.roomTypeId)
      (hclaimed : ∀ a ∈ assigned, a.2 = room.id →
        overlapsPool pending a.1 res = false)
      (hclear : ∃ b, .saw (.roomStays ⟨propertyId, room.id, res.checkIn, res.checkOut,
          some res.id, none⟩) b ∈ h ∧
        RoomProbe.Clear ⟨propertyId, room.id, res.checkIn, res.checkOut, some res.id, none⟩
          (w b)) :
      Placed h propertyId pending offerable (assigned ++ [(res.id, room.id)]) fun db =>
        ((w db).updateReservation res.id fun r =>
          { r with roomId := some room.id, updatedAt := now }).recordEvent e

theorem Placed.mono {h h' : Trace} {propertyId : Id} {pending : List Reservation}
    {offerable : List Room} {assigned : List (Id × Id)} {w : HotelDb → HotelDb} (hs : h ⊆ h')
    (hp : Placed h propertyId pending offerable assigned w) :
    Placed h' propertyId pending offerable assigned w := by
  induction hp with
  | nil => exact .nil
  | snoc _ hres hroom htype hclaimed hclear ih =>
    obtain ⟨b, hb, hc⟩ := hclear
    exact .snoc ih hres hroom htype hclaimed ⟨b, hs hb, hc⟩

/-- What the methods publish. -/
inductive Commit (c : Call) (h : Trace) : (HotelDb → HotelDb) → Prop where
  | row {id f w} (hc : RowCommit c h id f) (hid : ∀ r, (f r).id = r.id)
      (hw : ∀ db, Frame db (w db) ∧ ((w db).reservations = db.reservations ∨
        (w db).reservations = db.reservations.update (fun r => r.id = id) f hid)) :
      Commit c h w
  | other {w} (hw : ∀ db, Frame db (w db) ∧ (w db).reservations = db.reservations) :
      Commit c h w
  | created {row w rules} (hk : c.takesRoom = true) (hq : Quiet h)
      (hw : ∀ db, Frame db (w db) ∧ ((w db).reservations = db.reservations ∨
        (w db).reservations = db.reservations.insert row))
      (htype : TypeFound h row.propertyId row.roomTypeId)
      (hroom : ∀ roomId, row.roomId = some roomId →
        ∃ room, RoomFound h row.propertyId roomId room ∧ room.roomTypeId = row.roomTypeId)
      (hs : row.status = .PENDING ∨ row.status = .CONFIRMED ∧
        (∀ roomId, row.roomId = some roomId →
          Cleared h ⟨row.propertyId, roomId, row.checkIn, row.checkOut, none, none⟩) ∧
        HasRoom h row.propertyId row.roomTypeId row.checkIn row.checkOut none rules ∧
        RulesRead h c.env row.propertyId row.roomTypeId row.checkIn row.checkOut rules) :
      Commit c h w
  | swapped {id otherId a b ra rb w} (now : ℤ) (hk : c.takesRoom = true) (hq : Quiet h)
      (hne : id ≠ otherId)
      (hfa : Found h c.propertyId id a) (hfb : Found h c.propertyId otherId b)
      (hra : a.roomId = some ra) (hrb : b.roomId = some rb)
      (htype : a.roomTypeId = b.roomTypeId)
      (hca : Cleared h ⟨c.propertyId, rb, a.checkIn, a.checkOut, some id, some otherId⟩)
      (hcb : Cleared h ⟨c.propertyId, ra, b.checkIn, b.checkOut, some otherId, some id⟩)
      (hw : ∀ db, Frame db (w db) ∧ (w db).reservations =
        (db.reservations.update (fun r => r.id = id) fun r =>
          { r with roomId := some rb, updatedAt := now }).update (fun r => r.id = otherId) fun r =>
            { r with roomId := some ra, updatedAt := now }) : Commit c h w
  | allocated {fromDate toDate pending offerable assigned w} (hk : c.takesRoom = true)
      (hq : Quiet h)
      (hpend : ∃ b, .saw (.arrivals c.propertyId fromDate toDate) b ∈ h ∧
        pending = ReservationsService.arrivalsOf c.propertyId fromDate toDate b)
      (hoff : ∃ b, .saw (.rooms c.propertyId) b ∈ h ∧
        ∀ room ∈ offerable, room ∈ b.rooms ∧ room.propertyId = c.propertyId)
      (hp : Placed h c.propertyId pending offerable assigned w) : Commit c h w

end Travelo

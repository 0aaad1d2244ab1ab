import Travelo.Claims.Load
import Travelo.Reservations.Calls

/-!
# As many stays as rooms

A live CONFIRMED or CHECKED_IN reservation uses one room of its type on each of its nights;
`WithinCapacity` bounds, for every type and night, the number of these reservations by the
number of sellable rooms of the type.

`assertTypeCapacity` is what keeps the bound. Two branches do without it: an extension of a
stay that has a room, and a move to a room of another type. `Call.leavesRoom` says when they
do no harm, and `runCalls_withinCapacity` that there is nothing else to fear.
-/

namespace Travelo

open ReadCommitted ReservationsService Claims
open Reservation (rescheduled withDates_eq occupies)

/-- The reservation uses a room of the type on the night. -/
def Reservation.usesRoom (propertyId roomTypeId : Id) (night : ℤ) (r : Reservation) : Bool :=
  r.propertyId = propertyId && r.roomTypeId = roomTypeId && r.occupies &&
    coversDate r.checkIn r.checkOut night

/-- The live CONFIRMED and CHECKED_IN reservations of a type that cover a night. -/
def occupancy (db : HotelDb) (propertyId roomTypeId : Id) (night : ℤ) : ℕ :=
  load (Reservation.usesRoom propertyId roomTypeId night) db.reservations

/-- The live rooms of a type that are not out of order. -/
def roomCount (db : HotelDb) (propertyId roomTypeId : Id) : ℕ :=
  (typeRooms propertyId roomTypeId db).length

/-- No type has more stays on a night than it has rooms. -/
def WithinCapacity (db : HotelDb) : Prop :=
  ∀ propertyId roomTypeId night,
    occupancy db propertyId roomTypeId night ≤ roomCount db propertyId roomTypeId

variable {propertyId roomTypeId : Id} {night : ℤ}

theorem Reservation.usesRoom_iff {r : Reservation} :
    r.usesRoom propertyId roomTypeId night = true ↔ r.propertyId = propertyId ∧
      r.roomTypeId = roomTypeId ∧ r.occupies = true ∧ r.checkIn ≤ night ∧ night < r.checkOut := by
  simp [usesRoom, coversDate, and_assoc]

/-! ## What the capacity check counts -/

variable {checkIn checkOut : ℤ}

variable {db : HotelDb}

/-- The stays the check counts on a night of the window are those that use a room then, the
excluded one apart. -/
theorem soldOn_typeStays {excludeId : Option Id} (hin : checkIn ≤ night) (hout : night < checkOut) :
    soldOn (typeStays propertyId roomTypeId checkIn checkOut excludeId db) night =
      db.reservations.rows.countP fun r =>
        r.usesRoom propertyId roomTypeId night && excludeId ≠ some r.id := by
  rw [soldOn, typeStays, List.countP_filter]
  apply List.countP_congr
  intro r _
  simp only [Reservation.usesRoom, occupyingOverlap, coversDate, and_decide_eq]
  constructor
  · rintro ⟨⟨hlo, hhi⟩, ⟨hp, ht⟩, ⟨⟨ho, -⟩, -⟩, hne⟩
    exact ⟨⟨⟨⟨hp, ht⟩, ho⟩, hlo, hhi⟩, hne⟩
  · rintro ⟨⟨⟨⟨hp, ht⟩, ho⟩, hlo, hhi⟩, hne⟩
    exact ⟨⟨hlo, hhi⟩, ⟨hp, ht⟩, ⟨⟨ho, by omega⟩, by omega⟩, hne⟩

theorem soldOn_all (hin : checkIn ≤ night) (hout : night < checkOut) :
    soldOn (typeStays propertyId roomTypeId checkIn checkOut none db) night =
      occupancy db propertyId roomTypeId night := by
  rw [soldOn_typeStays hin hout, occupancy, load]
  simp

theorem soldOn_but {propertyId roomTypeId id : Id} (hin : checkIn ≤ night)
    (hout : night < checkOut) :
    soldOn (typeStays propertyId roomTypeId checkIn checkOut (some id) db) night =
      loadBut (Reservation.usesRoom propertyId roomTypeId night) db.reservations id := by
  rw [soldOn_typeStays hin hout, loadBut]
  simp [eq_comm]

theorem sellableOn_le (rooms : ℕ) (rules : Option (List DayRules)) (night : ℤ) :
    sellableOn rooms rules night ≤ rooms := by
  unfold sellableOn
  split
  · exact le_refl rooms
  · exact min_le_left _ _

@[simp] theorem sellableOn_none (rooms : ℕ) (night : ℤ) : sellableOn rooms none night = rooms := rfl

theorem sold_lt_of_notFull {rooms : ℕ} {stays : List Reservation}
    {rules : Option (List DayRules)} {checkIn checkOut night : ℤ}
    (h : firstFullNight rooms stays rules checkIn checkOut = none)
    (hin : checkIn ≤ night) (hout : night < checkOut) :
    soldOn stays night < sellableOn rooms rules night :=
  (firstFullNight_eq_none (lt_of_le_of_lt hin hout)).mp h night hin hout

/-! ## The two branches that do not count -/

/-- The capacity check, without daily rules, would let the stay `id` have these nights. -/
def RoomLeft (db : HotelDb) (propertyId roomTypeId id : Id) (checkIn checkOut : ℤ) : Prop :=
  firstFullNight (typeRooms propertyId roomTypeId db).length
    (typeStays propertyId roomTypeId checkIn checkOut (some id) db) none checkIn checkOut = none

instance (db : HotelDb) (propertyId roomTypeId id : Id) (checkIn checkOut : ℤ) :
    Decidable (RoomLeft db propertyId roomTypeId id checkIn checkOut) := by
  unfold RoomLeft
  infer_instance

/-- An extension of a stay that has a room, and a move to another type, find a room left for
all nights of the stay. The premises are the checks the call makes itself. -/
def Call.LeavesRoom (c : Call) (db : HotelDb) : Prop :=
  match c.action with
  | .extendStay id dto =>
    ∀ before ∈ (reservationOf c.propertyId id db).toList, ∀ roomId ∈ before.roomId.toList,
      before.status = .CHECKED_IN ∨ before.status = .CONFIRMED → before.checkOut < dto.checkOut →
        RoomProbe.Clear ⟨c.propertyId, roomId, before.checkIn, dto.checkOut, some id, none⟩ db →
          RoomLeft db c.propertyId before.roomTypeId id before.checkIn dto.checkOut
  | .moveRoom id dto =>
    ∀ before ∈ (reservationOf c.propertyId id db).toList,
      ∀ room ∈ (roomOf c.propertyId dto.roomId db).toList,
        before.status = .CHECKED_IN → room.roomTypeId ≠ before.roomTypeId →
          ASSIGNABLE_ROOM_STATUSES.contains room.status = true →
          RoomProbe.Clear ⟨c.propertyId, room.id, before.checkIn, before.checkOut, some id, none⟩
            db →
          RoomLeft db c.propertyId room.roomTypeId id before.checkIn before.checkOut
  | _ => True

instance (c : Call) (db : HotelDb) : Decidable (c.LeavesRoom db) := by
  obtain ⟨env, propertyId, actorStaffId, action⟩ := c
  cases action <;> unfold Call.LeavesRoom <;> infer_instance

/-! ## One row -/

/-- On every night on which the row comes to use a room, the other stays leave one. -/
def RowFits (db : HotelDb) (id : Id) (r r' : Reservation) : Prop :=
  ∀ propertyId roomTypeId night, r'.usesRoom propertyId roomTypeId night = true →
    r.usesRoom propertyId roomTypeId night = true ∨
      loadBut (Reservation.usesRoom propertyId roomTypeId night) db.reservations id <
        roomCount db propertyId roomTypeId

section Row

variable {db : HotelDb} {id : Id} {r r' : Reservation}

theorem RowFits.of_same (hp : r'.propertyId = r.propertyId) (ht : r'.roomTypeId = r.roomTypeId)
    (hin : r'.checkIn = r.checkIn) (hout : r'.checkOut = r.checkOut)
    (hocc : r'.occupies = true → r.occupies = true) : RowFits db id r r' := by
  intro propertyId roomTypeId night hu
  rw [Reservation.usesRoom_iff, hp, ht, hin, hout] at hu
  obtain ⟨h1, h2, ho, h3⟩ := hu
  exact .inl (Reservation.usesRoom_iff.mpr ⟨h1, h2, hocc ho, h3⟩)

theorem RowFits.of_free (h : r'.occupies = false) : RowFits db id r r' := by
  intro propertyId roomTypeId night hu
  obtain ⟨-, -, ho, -⟩ := Reservation.usesRoom_iff.mp hu
  rw [h] at ho
  exact absurd ho Bool.false_ne_true

theorem RowFits.of_notFull {rules : Option (List DayRules)}
    (h : firstFullNight (typeRooms r'.propertyId r'.roomTypeId db).length
      (typeStays r'.propertyId r'.roomTypeId r'.checkIn r'.checkOut (some id) db) rules
      r'.checkIn r'.checkOut = none) : RowFits db id r r' := by
  intro propertyId roomTypeId night hu
  obtain ⟨rfl, rfl, -, hin, hout⟩ := Reservation.usesRoom_iff.mp hu
  have hlt := sold_lt_of_notFull h hin hout
  rw [soldOn_but hin hout] at hlt
  exact .inr (lt_of_lt_of_le hlt (sellableOn_le _ _ _))

end Row

section Reads

variable {h : Trace} {now : HotelDb} (hv : ∀ l b, .saw l b ∈ h → b = now)

include hv

theorem HasRoom.notFull {propertyId roomTypeId : Id} {checkIn checkOut : ℤ}
    {excludeId : Option Id} {rules : Option (List DayRules)}
    (hc : HasRoom h propertyId roomTypeId checkIn checkOut excludeId rules) :
    firstFullNight (typeRooms propertyId roomTypeId now).length
      (typeStays propertyId roomTypeId checkIn checkOut excludeId now) rules checkIn checkOut
        = none := by
  obtain ⟨-, b, b', hb, hb', hnone⟩ := hc
  rwa [hv _ _ hb, hv _ _ hb'] at hnone

theorem Found.current {propertyId id : Id} {before : Reservation}
    (hf : Found h propertyId id before) : reservationOf propertyId id now = some before := by
  obtain ⟨b, hb, hread⟩ := hf
  rwa [hv _ _ hb] at hread

theorem RoomFound.current {propertyId id : Id} {room : Room} (hf : RoomFound h propertyId id room) :
    roomOf propertyId id now = some room := by
  obtain ⟨b, hb, hread⟩ := hf
  rwa [hv _ _ hb] at hread

theorem Cleared.current {q : RoomProbe} (hc : Cleared h q) : q.Clear now := by
  obtain ⟨b, hb, hclear⟩ := hc
  rwa [hv _ _ hb] at hclear

end Reads

theorem eq_of_reservationOf {propertyId id : Id} {before r : Reservation}
    (hf : reservationOf propertyId id db = some before) (hr : r ∈ db.reservations)
    (hid : r.id = id) : r = before ∧ r.propertyId = propertyId ∧ r.deletedAt = none := by
  obtain ⟨hmem, hbid, hprop, hlive⟩ := reservationOf_eq_some.mp hf
  obtain rfl := eq_of_key_eq hr hmem (hid.trans hbid.symm)
  exact ⟨rfl, hprop, hlive⟩

variable {h : Trace}

theorem RowCommit.fits {c : Call} {now : HotelDb} {id : Id} {f : Reservation → Reservation}
    (hc : RowCommit c h id f) (hv : Quiet h → c.LeavesRoom now ∧ ∀ l b, .saw l b ∈ h → b = now)
    {r : Reservation} (hr : r ∈ now.reservations) (hid : r.id = id) : RowFits now id r (f r) := by
  cases hc with
  | confirmed hk hq hf ht hroom hcap =>
    obtain ⟨-, hreads⟩ := hv hq
    obtain ⟨rfl, hprop, -⟩ := eq_of_reservationOf (hf.current hreads) hr hid
    have hfull := hcap.notFull hreads
    rw [← hprop] at hfull
    exact .of_notFull hfull
  | @updated before t dto total rules hq hf hm =>
    obtain ⟨-, hreads⟩ := hv hq
    obtain ⟨rfl, hprop, -⟩ := eq_of_reservationOf (hf.current hreads) hr hid
    simp only [rescheduled]
    cases hmoving : dto.checkIn.isSome || dto.checkOut.isSome with
    | false =>
      -- the dates stay
      simp only [Bool.or_eq_false_iff, Option.isSome_eq_false_iff, Option.isNone_iff_eq_none]
        at hmoving
      rw [withDates_eq (by simpa [hmoving] using r.ordered)]
      exact .of_same rfl rfl (by simp [hmoving]) (by simp [hmoving]) fun ho => ho
    | true =>
      obtain ⟨-, hstatus, hordered, hchecked⟩ := hm hmoving
      rw [withDates_eq hordered]
      rcases hstatus with hpending | hconfirmed
      · refine .of_free ?_
        simp [occupies, OCCUPYING_STATUSES, applyPatch, hpending]
      · have hfull := (hchecked hconfirmed).2.1.notFull hreads
        rw [← hprop] at hfull
        exact .of_notFull hfull
  | @extended dto before ratePaise total t hact hq hf hs hlater hroom hcap =>
    obtain ⟨hleaves, hreads⟩ := hv hq
    have hread := hf.current hreads
    obtain ⟨rfl, hprop, -⟩ := eq_of_reservationOf hread hr hid
    simp only [rescheduled]
    rw [withDates_eq (r.ordered.trans hlater)]
    cases hroomId : r.roomId with
    | none =>
      have hfull := (hcap hroomId).notFull hreads
      rw [← hprop] at hfull
      exact .of_notFull hfull
    | some roomId =>
      -- only the room was probed: the count is the condition on the call
      have hclear := (hroom roomId hroomId).current hreads
      simp only [Call.LeavesRoom, hact, Option.mem_toList] at hleaves
      have hleft := hleaves r hread roomId hroomId hs hlater hclear
      rw [← hprop] at hleft
      exact .of_notFull hleft
  | @moved dto before room ratePaise total t hact hroomId hq hf hs hroom hready htype hr' =>
    obtain ⟨hleaves, hreads⟩ := hv hq
    have hread := hf.current hreads
    obtain ⟨rfl, hprop, -⟩ := eq_of_reservationOf hread hr hid
    by_cases hsame : room.roomTypeId = r.roomTypeId
    · exact .of_same rfl hsame rfl rfl fun ho => ho
    · have hclear := hr'.current hreads
      have hroomRead := hroom.current hreads
      simp only [Call.LeavesRoom, hact, Option.mem_toList] at hleaves
      rw [hroomId] at hroomRead
      have hleft := hleaves r hread room hroomRead hs hsame hready hclear
      rw [← hprop] at hleft
      exact .of_notFull hleft
  | assigned hk hq hf hroom htype hclear => exact .of_same rfl rfl rfl rfl fun ho => ho
  | locked => exact .of_same rfl rfl rfl rfl fun ho => ho
  | paid => exact .of_same rfl rfl rfl rfl fun ho => ho
  | checkedIn hk hq hf ht hroom htype hclear =>
    obtain ⟨-, hreads⟩ := hv hq
    obtain ⟨rfl, -, hlive⟩ := eq_of_reservationOf (hf.current hreads) hr hid
    refine .of_same rfl rfl rfl rfl fun _ => ?_
    -- only a confirmed stay can be checked in
    cases hs : r.status <;>
      simp_all [canTransition, RESERVATION_TRANSITIONS, occupies, OCCUPYING_STATUSES]
  | checkedOut hf ht => exact .of_free (by simp [occupies, OCCUPYING_STATUSES])
  | cancelled hq hf ht => exact .of_free (by simp [occupies, OCCUPYING_STATUSES])
  | noShow hq hf ht => exact .of_free (by simp [occupies, OCCUPYING_STATUSES])

/-! ## One write -/

/-- No write takes a room away: rooms keep their type, and none goes out of order. -/
theorem Frame.roomCount_le {db db' : HotelDb} (hf : Frame db db') (propertyId roomTypeId : Id) :
    roomCount db propertyId roomTypeId ≤ roomCount db' propertyId roomTypeId := by
  obtain ⟨g, hg, hrows⟩ := hf.rooms
  simp only [roomCount, typeRooms, hrows, ← List.countP_eq_length_filter, List.countP_map]
  refine List.countP_mono_left ?_
  intro room _ hroom
  obtain ⟨-, hprop, htype, hdel, hstatus⟩ := hg room
  simp only [Function.comp_apply, Room.sellable, and_decide_eq, ne_eq, Bool.not_eq_true',
    decide_not, decide_eq_false_iff_not, hprop, htype, hdel] at hroom ⊢
  exact ⟨⟨hroom.1.1, fun ho => hroom.1.2 (hstatus ho)⟩, hroom.2⟩

/-- A bound on every night is kept when the rooms stay and each night's load does. -/
theorem WithinCapacity.of_le {db db' : HotelDb} (hw : WithinCapacity db) (hf : Frame db db')
    (h : ∀ propertyId roomTypeId night,
      occupancy db propertyId roomTypeId night ≤ roomCount db propertyId roomTypeId →
        occupancy db' propertyId roomTypeId night ≤ roomCount db propertyId roomTypeId) :
    WithinCapacity db' := by
  intro propertyId roomTypeId night
  have hkept := h propertyId roomTypeId night (hw propertyId roomTypeId night)
  exact hkept.trans (hf.roomCount_le propertyId roomTypeId)

variable {w : HotelDb → HotelDb}

variable {pending : List Reservation} {assigned : List (Id × Id)}

theorem Placed.occupancy_le {property : Id} {offerable : List Room}
    (hp : Placed h property pending offerable assigned w) (db : HotelDb)
    (propertyId roomTypeId : Id) (night : ℤ) :
    occupancy (w db) propertyId roomTypeId night ≤ occupancy db propertyId roomTypeId night := by
  induction hp with
  | nil => exact le_refl _
  | snoc _ _ _ _ _ _ ih =>
    refine le_trans ?_ ih
    refine load_update_le ?_ fun _ _ _ hu => hu
    exact fun _ => rfl

theorem Placed.frame {property : Id} {offerable : List Room}
    (hp : Placed h property pending offerable assigned w) (db : HotelDb) : Frame db (w db) := by
  induction hp with
  | nil => exact .refl db
  | snoc _ _ _ _ _ _ ih => exact ih.trans (.of_eq rfl rfl)

theorem Commit.withinCapacity {c : Call} {now : HotelDb} (hc : Commit c h w)
    (hv : Quiet h → c.LeavesRoom now ∧ ∀ l b, .saw l b ∈ h → b = now) (hw : WithinCapacity now) :
    WithinCapacity (w now) := by
  cases hc with
  | row hc hid hdb =>
    obtain ⟨hframe, hsame | hrows⟩ := hdb now
    · refine hw.of_le hframe fun propertyId roomTypeId night hle => ?_
      rwa [occupancy, hsame]
    · refine hw.of_le hframe fun propertyId roomTypeId night hle => ?_
      rw [occupancy, hrows]
      exact load_update_key_bound
        (fun r hr hrid hu => hc.fits hv hr hrid propertyId roomTypeId night hu) hle
  | other hdb =>
    refine hw.of_le (hdb now).1 fun propertyId roomTypeId night hle => ?_
    rwa [occupancy, (hdb now).2]
  | @created row w rules hk hq hdb htype hroom hs =>
    obtain ⟨-, hreads⟩ := hv hq
    obtain ⟨hframe, hsame | hrows⟩ := hdb now
    · refine hw.of_le hframe fun propertyId roomTypeId night hle => ?_
      rwa [occupancy, hsame]
    · refine hw.of_le hframe fun propertyId roomTypeId night hle => ?_
      rw [occupancy, hrows]
      refine load_insert_bound (fun hu => ?_) hle
      obtain ⟨rfl, rfl, ho, hin, hout⟩ := Reservation.usesRoom_iff.mp hu
      rcases hs with hpending | ⟨-, -, hcap, -⟩
      · simp [occupies, OCCUPYING_STATUSES, hpending] at ho
      · have hlt := sold_lt_of_notFull (hcap.notFull hreads) hin hout
        rw [soldOn_all hin hout] at hlt
        exact lt_of_lt_of_le hlt (sellableOn_le _ _ _)
  | swapped t hk hq hne hfa hfb hra hrb htype hca hcb hdb =>
    refine hw.of_le (hdb now).1 fun propertyId roomTypeId night hle => ?_
    rw [occupancy, (hdb now).2]
    refine le_trans ?_ hle
    refine le_trans (load_update_le ?_ fun _ _ _ hu => hu) (load_update_le ?_ fun _ _ _ hu => hu)
    · exact fun _ => rfl
    · exact fun _ => rfl
  | allocated hk hq hpend hoff hp =>
    exact hw.of_le (hp.frame now) fun propertyId roomTypeId night hle =>
      (hp.occupancy_le now propertyId roomTypeId night).trans hle

/-! ## Runs -/

/-- From an empty book, calls that run one after another keep every type within its rooms on
every night, if the calls that do not count leave room. -/
theorem runCalls_withinCapacity {db : HotelDb} {calls : List (Call × (ℕ → Option String))}
    (h : EachCall Call.LeavesRoom calls { db with reservations := ∅ }) :
    WithinCapacity (runCalls calls { db with reservations := ∅ }) := by
  have hstart : WithinCapacity { db with reservations := ∅ } :=
    fun propertyId roomTypeId night => Nat.zero_le _
  exact runCalls_invariant (fun c h w now hw hv hnow => hw.withinCapacity hv hnow) calls _ h hstart

/-- One room of the type, and nothing booked. -/
def oneRoomDb : HotelDb where
  rooms := (∅ : Table Room.id).insert
    { id := 101, propertyId := 1, roomTypeId := 7, number := "101", status := .AVAILABLE }
  roomTypes := (∅ : Table RoomType.id).insert
    { id := 7, propertyId := 1, name := "Deluxe", baseRate := 100000 }

/-- Book a stay under the id `id`, committed at once. -/
def bookCall (id : Id) (roomId : Option Id) (checkIn checkOut : ℤ) : Call where
  env := { now := 0, uuid := fun n => id + n }
  propertyId := 1
  action := .create
    { roomTypeId := 7, roomId, guest := { guestName := "Guest", guestPhone := "0" }, checkIn,
      checkOut, ratePaise := some 100000, status := some .CONFIRMED }

def extendCall (id : Id) (checkOut : ℤ) : Call where
  env := { now := 0 }
  propertyId := 1
  action := .extendStay id { checkOut }

/-- Night 10 in room 101, night 11 without a room, and the first stay extended over night 11. -/
def overbookCalls : List (Call × (ℕ → Option String)) :=
  [(bookCall 1 (some 101) 10 11, noFaults), (bookCall 2 none 11 12, noFaults),
   (extendCall 1 12, noFaults)]

/-- The extension probes room 101, which is free, and two stays share the only room. -/
theorem extension_overbooks :
    occupancy (runCalls overbookCalls { oneRoomDb with reservations := ∅ }) 1 7 11 = 2 ∧
      roomCount (runCalls overbookCalls { oneRoomDb with reservations := ∅ }) 1 7 = 1 ∧
      ¬WithinCapacity (runCalls overbookCalls { oneRoomDb with reservations := ∅ }) := by
  refine ⟨by decide, by decide, fun hw => ?_⟩
  exact absurd (hw 1 7 11) (by decide)

/-- With the second night still free, the same extension leaves room. -/
theorem extension_withinCapacity :
    WithinCapacity (runCalls
        [(bookCall 1 (some 101) 10 11, noFaults), (extendCall 1 12, noFaults)]
        { oneRoomDb with reservations := ∅ }) ∧
      occupancy (runCalls
        [(bookCall 1 (some 101) 10 11, noFaults), (extendCall 1 12, noFaults)]
        { oneRoomDb with reservations := ∅ }) 1 7 11 = 1 :=
  ⟨runCalls_withinCapacity (by decide), by decide⟩

end Travelo

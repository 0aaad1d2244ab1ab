import Travelo.Folio
import Travelo.Rates
import Travelo.Reservations.Dto

/-!
# The reservation service

`ReservationsService`, one definition for each method. The checks read inside the
transaction of the write they guard; what a method reads before its transaction it reads
in statements of their own.

Notifications and realtime events are sent after the commit and read nothing back, so
they are left out.
-/

namespace Travelo

open ReadCommitted

/-- Reservation numbers are derived from a count; a concurrent create can race. -/
def NUMBER_ATTEMPTS : ℕ := 5

/-- What a call gets from outside the database: the clock, fresh uuids, and whether the
rates engine is wired in. -/
structure Env where
  now : ℤ
  uuid : ℕ → Id := fun n => n
  rates : Bool := true

/-! ## Writes -/

namespace HotelDb

variable (db : HotelDb)

/-- `UPDATE reservations SET … WHERE id = …`. -/
def updateReservation (id : Id) (f : Reservation → Reservation)
    (hf : ∀ r, (f r).id = r.id := by intro _; rfl) : HotelDb :=
  { db with reservations := db.reservations.update (fun r => r.id = id) f hf }

/-- `UPDATE rooms SET status = … WHERE id = …`. -/
def setRoomStatus (id : Id) (status : RoomStatus) (now : ℤ) : HotelDb :=
  { db with
    rooms := db.rooms.update (fun r => r.id = id) fun r =>
      { r with status := status, updatedAt := now } }

/-- The unique indexes on a new reservation. -/
def reservationTaken (row : Reservation) : Bool :=
  db.reservations.hasKey row.id ||
    db.reservations.rows.any fun r =>
      r.propertyId = row.propertyId && r.reservationNumber = row.reservationNumber

/-- `INSERT INTO reservations`. -/
def insertReservation (row : Reservation) : Except Err HotelDb :=
  if db.reservationTaken row then .error .uniqueViolation
  else .ok { db with reservations := db.reservations.insert row }

def recordEvent (e : ReservationEvent) : HotelDb :=
  { db with reservationEvents := db.reservationEvents ++ [e] }

end HotelDb

variable (r : Reservation)

/-- Both dates of a row; the check constraint refuses a pair that is not ordered. -/
def Reservation.withDates (checkIn checkOut : ℤ) : Reservation :=
  if h : checkIn < checkOut then { r with checkIn, checkOut, ordered := h } else r

@[simp] theorem Reservation.withDates_id (checkIn checkOut : ℤ) :
    (r.withDates checkIn checkOut).id = r.id := by
  unfold withDates
  split <;> rfl

theorem Reservation.withDates_status (checkIn checkOut : ℤ) :
    (r.withDates checkIn checkOut).status = r.status := by
  unfold withDates
  split <;> rfl

theorem Reservation.withDates_eq {r : Reservation} {checkIn checkOut : ℤ} (h : checkIn < checkOut) :
    r.withDates checkIn checkOut = { r with checkIn, checkOut, ordered := h } := by
  simp [withDates, h]

/-- An update of a row that also moves its dates. -/
def Reservation.rescheduled (dates : Reservation → ℤ × ℤ) (f : Reservation → Reservation)
    (r : Reservation) : Reservation :=
  (f r).withDates (dates r).1 (dates r).2

/-- `UPDATE reservations SET check_in = …, check_out = … WHERE id = …`. -/
def HotelDb.rescheduleReservation (db : HotelDb) (id : Id) (dates : Reservation → ℤ × ℤ)
    (f : Reservation → Reservation) (hf : ∀ r, (f r).id = r.id := by intro _; rfl) :
    Except Err HotelDb :=
  if (db.reservations.find? id).all fun r => decide ((dates r).1 < (dates r).2) then
    .ok (db.updateReservation id (Reservation.rescheduled dates f)
      fun r => by rw [Reservation.rescheduled, Reservation.withDates_id, hf])
  else .error .checkViolation

/-- `gen_random_uuid()`: an id no row has yet. -/
def freshId (ids : List Id) : Id := ids.foldr max 0 + 1

theorem lt_freshId {ids : List Id} {id : Id} (h : id ∈ ids) : id < freshId ids := by
  induction ids with
  | nil => cases h
  | cons i ids ih =>
    have hmax : i ≤ (i :: ids).foldr max 0 ∧ ids.foldr max 0 ≤ (i :: ids).foldr max 0 :=
      ⟨Nat.le_max_left _ _, Nat.le_max_right _ _⟩
    unfold freshId at *
    rcases List.mem_cons.mp h with rfl | h
    · exact Nat.lt_succ_of_le hmax.1
    · exact (ih h).trans_le (Nat.succ_le_succ hmax.2)

theorem hasKey_freshId {α : Type} {key : α → Id} (t : Table key) :
    t.hasKey (freshId (t.rows.map key)) = false := by
  rw [hasKey_eq_false]
  intro a ha heq
  exact absurd heq (lt_freshId (List.mem_map_of_mem ha)).ne

/-- The statuses of a task that is not finished. -/
def OPEN_TASK_STATUSES : List HousekeepingTaskStatus := [.PENDING, .IN_PROGRESS, .COMPLETED]

/-- `HousekeepingService.createCheckoutCleanForRoom`: raise the turnover clean of a room,
unless one is open. -/
def createCheckoutCleanForRoom (propertyId roomId : Id) (actorStaffId : Option Id) (now : ℤ) :
    Op Unit := do
  let existing ← select (.tasks roomId) fun db =>
    (db.housekeepingTasks.rows.filter fun t =>
      t.propertyId = propertyId && t.roomId = some roomId && t.deletedAt.isNone &&
        OPEN_TASK_STATUSES.contains t.status).take 1
  when (existing.length = 0) <|
    write (fun _ => [])
      (fun db =>
        { db with
          housekeepingTasks := db.housekeepingTasks.insert
            { id := freshId (db.housekeepingTasks.rows.map (·.id))
              propertyId
              roomId := some roomId
              located := by simp
              type := "CHECKOUT_CLEAN"
              status := .PENDING
              priority := "NORMAL"
              notes := some "Auto-created on guest check-out"
              createdBy := actorStaffId
              createdAt := now
              updatedAt := now } })
      fun _ => ()

/-- The reservations that occupy a room and overlap `[checkIn, checkOut)`. -/
def occupyingOverlap (checkIn checkOut : ℤ) (excludeId : Option Id) (r : Reservation) : Bool :=
  r.occupies && r.checkIn < checkOut && checkIn < r.checkOut && excludeId ≠ some r.id

/-- The `WHERE` clause of `assertRoomFree`. -/
def RoomProbe.clashes (q : RoomProbe) (r : Reservation) : Bool :=
  r.propertyId = q.propertyId && r.roomId = some q.roomId &&
    occupyingOverlap q.checkIn q.checkOut q.excludeId r && q.excludeId2 ≠ some r.id

namespace ReservationsService

/-! ## Shared predicates -/

/-- Refuse if the room already holds an overlapping committed reservation. Locks the row
it finds. -/
def assertRoomFree (q : RoomProbe) : Op Unit := do
  let clashes ← selectForUpdate (.roomStays q)
    (fun db => ((db.reservations.rows.filter q.clashes).take 1).map fun r => .reservation r.id)
    (fun db => (db.reservations.rows.filter q.clashes).take 1)
  throwIf (0 < clashes.length) .roomUnavailable

/-- The rule of a date, if there is one. -/
def ruleOn (rules : List DayRules) (d : ℤ) : Option DayRules := rules.find? fun r => r.date = d

/-- Stop-sell, closed to arrival or departure, minimum and maximum stay. -/
def assertRules (rules : List DayRules) (checkIn checkOut : ℤ) : Except Err Unit :=
  let nights := nightsBetween checkIn checkOut
  let arrival := ruleOn rules checkIn
  let minLos := (arrival.bind (·.minLos)).getD 0
  let maxLos := (arrival.bind (·.maxLos)).getD 0
  let departure := ruleOn rules checkOut
  if (arrival.map (·.closedToArrival)).getD false then
    .error (.restricted checkIn "Arrivals are closed")
  else if minLos ≠ 0 ∧ nights < minLos then
    .error (.restricted checkIn s!"Minimum stay is {minLos} night(s)")
  else if maxLos ≠ 0 ∧ maxLos < nights then
    .error (.restricted checkIn s!"Maximum stay is {maxLos} night(s)")
  else if (departure.map (·.closedToDeparture)).getD false then
    .error (.restricted checkOut "Departures are closed")
  else
    match (datesFrom checkIn checkOut).find? fun d =>
      ((ruleOn rules d).map (·.stopSell)).getD false with
    | some d => .error (.restricted d "Closed for sale")
    | none => .ok ()

/-- The stays that cover a night. -/
def soldOn (stays : List Reservation) (night : ℤ) : ℕ :=
  stays.countP fun s => coversDate s.checkIn s.checkOut night

/-- A cap on the day sells fewer rooms than exist. -/
def sellableOn (rooms : ℕ) (rules : Option (List DayRules)) (night : ℤ) : ℕ :=
  match (rules.bind fun rs => ruleOn rs night).bind (·.cap) with
  | none => rooms
  | some cap => min rooms cap

/-- The first night of the stay on which nothing is left. -/
def firstFullNight (rooms : ℕ) (stays : List Reservation) (rules : Option (List DayRules))
    (checkIn checkOut : ℤ) : Option ℤ :=
  ((List.range (nightsBetween checkIn checkOut)).map fun (i : ℕ) => addDays checkIn i).find?
    fun night => sellableOn rooms rules night ≤ soldOn stays night

variable (propertyId roomTypeId : Id)

/-- The live rooms of a type that are not out of order. -/
def typeRooms (db : HotelDb) : List Room :=
  db.rooms.rows.filter fun r => r.sellable propertyId && r.roomTypeId = roomTypeId

/-- The committed stays of a type that overlap a window. -/
def typeStays (checkIn checkOut : ℤ) (excludeId : Option Id) (db : HotelDb) : List Reservation :=
  db.reservations.rows.filter fun r =>
    r.propertyId = propertyId && r.roomTypeId = roomTypeId &&
      occupyingOverlap checkIn checkOut excludeId r

/-- Refuse if any single night of the stay is fully sold for this room type. -/
def assertTypeCapacity (checkIn checkOut : ℤ) (excludeId : Option Id)
    (rules : Option (List DayRules)) : Op Unit := do
  forSome rules fun rs => lift (assertRules rs checkIn checkOut)
  let rooms ← select (.typeRooms propertyId roomTypeId) fun db =>
    (typeRooms propertyId roomTypeId db).length
  let overlapping ← selectForUpdate
    (.typeStays propertyId roomTypeId checkIn checkOut excludeId)
    (fun db =>
      (typeStays propertyId roomTypeId checkIn checkOut excludeId db).map fun r =>
        .reservation r.id)
    (typeStays propertyId roomTypeId checkIn checkOut excludeId)
  forSome (firstFullNight rooms overlapping rules checkIn checkOut) fun night =>
    throw (.noAvailability night)

/-- Append to the trail, in the transaction of the change. -/
def recordEvent (reservationId : Id) (type : String) (actorStaffId : Option Id)
    (payload : EventPayload := .none) : Op Unit :=
  write (fun _ => []) (fun db => db.recordEvent ⟨reservationId, type, actorStaffId, payload⟩)
    fun _ => ()

/-- `UPDATE … WHERE id = … RETURNING *`. -/
def updateReservation (id : Id) (f : Reservation → Reservation)
    (hf : ∀ r, (f r).id = r.id := by intro _; rfl) : Op (Option Reservation) :=
  write (fun _ => [.reservation id]) (fun db => db.updateReservation id f hf)
    fun db => (db.reservations.find? id).map f

/-- An update that moves the dates of the row to `dates`, under the check constraint. -/
def rescheduleReservation (id : Id) (dates : Reservation → ℤ × ℤ)
    (f : Reservation → Reservation) (hf : ∀ r, (f r).id = r.id := by intro _; rfl) :
    Op (Option Reservation) :=
  writeChecked (fun _ => [.reservation id])
    (fun db => db.rescheduleReservation id dates f hf)
    fun db => (db.reservations.find? id).map (Reservation.rescheduled dates f)

def setRoomStatus (id : Id) (status : RoomStatus) (now : ℤ) : Op Unit :=
  write (fun _ => [.room id]) (fun db => db.setRoomStatus id status now) fun _ => ()

/-! ## Resolution -/

variable (id : Id)

/-- The row of a live reservation of the property. -/
def reservationOf (db : HotelDb) : Option Reservation :=
  (db.reservations.find? id).filter fun r => r.propertyId = propertyId && r.deletedAt.isNone

def roomTypeOf (db : HotelDb) : Option RoomType :=
  (db.roomTypes.find? id).filter fun t => t.propertyId = propertyId && t.deletedAt.isNone

def roomOf (db : HotelDb) : Option Room :=
  (db.rooms.find? id).filter fun r => r.propertyId = propertyId && r.deletedAt.isNone

/-- The single choke point: (id, property, not deleted) or 404. -/
def requireReservation : Op Reservation := do
  let row ← select (.reservation id) (reservationOf propertyId id)
  orThrow row .notFound

def requireRoomType : Op RoomType := do
  let row ← select (.roomType id) (roomTypeOf propertyId id)
  orThrow row .roomTypeNotFound

def requireRoom : Op Room := do
  let row ← select (.room id) (roomOf propertyId id)
  orThrow row .roomNotFound

/-- The highest override that covers the date, else the fallback. -/
def resolveRate (date fallback : ℤ) : Op ℤ := do
  let ov ← select (.rates propertyId roomTypeId) fun db =>
    ((db.rateOverrides.filter fun o =>
      o.propertyId = propertyId && o.roomTypeId = roomTypeId && o.startDate ≤ date &&
        date ≤ o.endDate && o.deletedAt.isNone).insertionSort
          fun a b => b.ratePaise ≤ a.ratePaise).head?
  return (ov.map (·.ratePaise)).getD fallback

variable (env : Env)

/-- Nightly prices for a stay, from the rates engine when it is wired. -/
def nightlyQuote (propertyId roomTypeId : Id) (checkIn checkOut : ℤ) (ratePlanId : Option Id)
    (fallback : ℤ) : Op (List ℤ) :=
  if env.rates then do
    let nights ← RatesService.nightlyPrices propertyId roomTypeId checkIn checkOut ratePlanId
    return nights.map (·.pricePaise)
  else do
    let one ← resolveRate propertyId roomTypeId checkIn fallback
    return List.replicate (max 1 (nightsBetween checkIn checkOut)) one

/-- The check-out day matters too (closed to departure), so one day past the stay. -/
def rulesFor (propertyId roomTypeId : Id) (checkIn checkOut : ℤ) :
    Op (Option (List DayRules)) :=
  if env.rates then
    some <$> RatesService.dayRules propertyId roomTypeId checkIn (addDays checkOut 1)
  else return none

/-- The minutes asked for, else the property's default. -/
def holdMinutes : Option ℤ → Op ℤ
  | some m => return m
  | none =>
    select (.settings propertyId) fun db =>
      ((db.propertySettings.find? propertyId).bind (·.holdExpiryMinutes)).getD 0

/-- When an enquiry hold stops holding; zero minutes is never. -/
def holdDeadline (propertyId : Id) (minutes : Option ℤ) : Op (Option ℤ) := do
  let m ← holdMinutes propertyId minutes
  return if 0 < m then some (env.now + m * 60000) else none

def hydrateRoom : Option Id → Op (Option Room)
  | some roomId => select (.room roomId) fun db => db.rooms.find? roomId
  | none => return none

/-- The answer for a row: two extra queries, for the names of its type and room. -/
def hydrate (row : Option Reservation) : Op ReservationDto := do
  let r ← orThrow row (.internal "Cannot read properties of undefined")
  let type ← select (.roomType r.roomTypeId) fun db => db.roomTypes.find? r.roomTypeId
  let room ← hydrateRoom r.roomId
  return {
    row := r
    roomTypeName := type.map (·.name)
    roomNumber := room.map (·.number)
    roomStatus := room.map (·.status)
    nights := nightsBetween r.checkIn r.checkOut
    balancePaise := r.totalPaise - r.paidPaise }

/-! ## Create -/

/-- The two checks of a booking that is committed at once; a pending one blocks nothing
and skips both. -/
def checkNewBooking (dto : CreateReservationDto) (status : BookingStatus)
    (rules : Option (List DayRules)) : Op Unit :=
  match status with
  | .PENDING => pure ()
  | .CONFIRMED => do
    forSome dto.roomId fun roomId =>
      assertRoomFree { propertyId, roomId, checkIn := dto.checkIn, checkOut := dto.checkOut }
    assertTypeCapacity propertyId dto.roomTypeId dto.checkIn dto.checkOut none rules

/-- The row `create` inserts when `count` reservations exist. -/
def newReservation (propertyId : Id) (dto : CreateReservationDto)
    (ordered : dto.checkIn < dto.checkOut) (status : BookingStatus) (ratePaise totalPaise : ℤ)
    (currency : String) (holdExpiresAt : Option ℤ) (actorStaffId : Option Id) (count attempt : ℕ) :
    Reservation where
  id := env.uuid attempt
  propertyId
  roomTypeId := dto.roomTypeId
  roomId := dto.roomId
  reservationNumber := formatReservationNumber (count + 1 + attempt)
  guest := dto.guest
  checkIn := dto.checkIn
  checkOut := dto.checkOut
  ordered
  status := status.toStatus
  ratePaise
  totalPaise
  currency
  holdExpiresAt
  createdBy := actorStaffId
  createdAt := env.now
  updatedAt := env.now

/-- One attempt: the checks, the number and the insert in one transaction. -/
def createTx (dto : CreateReservationDto) (status : BookingStatus) (rules : Option (List DayRules))
    (actorStaffId : Option Id) (row : ℕ → Reservation) :
    Op Reservation :=
  transaction do
    checkNewBooking propertyId dto status rules
    let count ← select (.stays propertyId) fun db =>
      db.reservations.rows.countP fun r => r.propertyId = propertyId
    let created := row count
    writeChecked
      (fun _ => [.reservation created.id,
        .reservationNumber propertyId created.reservationNumber])
      (fun db => db.insertReservation created) fun _ => ()
    recordEvent created.id "created" actorStaffId
      (.created status.toStatus dto.checkIn dto.checkOut)
    return created

/-- The retry loop: only a taken reservation number is worth another attempt. -/
def createAttempts (body : ℕ → Op ReservationDto) : ℕ → ℕ → Op ReservationDto
  | 0, _ => throw .notFound
  | left + 1, attempt =>
    tryCatchThe Err (body attempt) fun e =>
      if e = .uniqueViolation ∧ attempt < NUMBER_ATTEMPTS - 1 then
        createAttempts body left (attempt + 1)
      else throw e

/-- The rate is snapshotted at booking; a missing one, and a zero, is quoted per night. -/
def quoteUnlessGiven (propertyId : Id) (dto : CreateReservationDto) (type : RoomType) :
    Op (Option (List ℤ)) :=
  if dto.ratePaise.getD 0 ≠ 0 then return none
  else some <$> nightlyQuote env propertyId type.id dto.checkIn dto.checkOut
    dto.guest.ratePlanId type.baseRate

/-- The deadline of an enquiry hold; a committed booking has none. -/
def deadlineIfPending (propertyId : Id) (status : BookingStatus) (minutes : Option ℤ) :
    Op (Option ℤ) :=
  if status = .PENDING then holdDeadline env propertyId minutes else return none

def create (propertyId : Id) (dto : CreateReservationDto) (actorStaffId : Option Id) :
    Op ReservationDto := do
  let ordered ← lift (assertDateOrder dto.checkIn dto.checkOut)
  let type ← requireRoomType propertyId dto.roomTypeId
  forSome dto.roomId fun roomId => do
    let room ← requireRoom propertyId roomId
    throwIf (room.roomTypeId ≠ dto.roomTypeId) .roomTypeMismatch
  let nightly ← quoteUnlessGiven env propertyId dto type
  let quotedTotal := nightly.map List.sum
  let ratePaise := dto.ratePaise.getD <|
    match nightly with
    | some (n :: ns) => roundDiv (n :: ns).sum (n :: ns).length
    | _ => type.baseRate
  let status := dto.status.getD .PENDING
  let rules ← rulesFor env propertyId type.id dto.checkIn dto.checkOut
  let holdExpiresAt ← deadlineIfPending env propertyId status dto.holdMinutes
  createAttempts
    (fun attempt => do
      let row ← createTx propertyId dto status rules actorStaffId fun count =>
        newReservation env propertyId dto ordered.down status ratePaise
          (quotedTotal.getD (totalPaise ratePaise dto.checkIn dto.checkOut)) type.currency
          holdExpiresAt actorStaffId count attempt
      hydrate (some row))
    NUMBER_ATTEMPTS 0

/-! ## Update -/

/-- The columns an update sets besides `updatedAt`. -/
def patchFields (dto : UpdateReservationDto) (movingDates : Bool) : List String :=
  dto.details.map (·.field) ++ (dto.checkIn.map fun _ => "checkIn").toList ++
    (dto.checkOut.map fun _ => "checkOut").toList ++
    (dto.ratePaise.map fun _ => "ratePaise").toList ++
    if dto.ratePaise.isSome || movingDates then ["totalPaise"] else []

/-- The patch on a row, its dates apart. -/
def applyPatch (dto : UpdateReservationDto) (total : Option ℤ) (now : ℤ) (r : Reservation) :
    Reservation :=
  { r with
    guest := dto.details.foldl (fun g p => p.apply g) r.guest
    ratePaise := dto.ratePaise.getD r.ratePaise
    totalPaise := total.getD r.totalPaise
    updatedAt := now }

variable (before : Reservation)

/-- Moving a committed booking re-runs the availability rules, excluding itself. -/
def checkMovedBooking (checkIn checkOut : ℤ) (rules : Option (List DayRules)) : Op Unit := do
  forSome before.roomId fun roomId =>
    assertRoomFree { propertyId, roomId, checkIn, checkOut, excludeId := some id }
  assertTypeCapacity propertyId before.roomTypeId checkIn checkOut (some id) rules

def rulesIfMoving (propertyId roomTypeId : Id) (checkIn checkOut : ℤ) (movingDates : Bool) :
    Op (Option (List DayRules)) :=
  if movingDates then rulesFor env propertyId roomTypeId checkIn checkOut else return none

def update (propertyId id : Id) (dto : UpdateReservationDto) (actorStaffId : Option Id) :
    Op (Reservation × ReservationDto) := do
  let before ← requireReservation propertyId id
  let movingDates := dto.checkIn.isSome || dto.checkOut.isSome
  throwIf (movingDates ∧ before.status ≠ .PENDING ∧ before.status ≠ .CONFIRMED) .datesLocked
  let checkIn := dto.checkIn.getD before.checkIn
  let checkOut := dto.checkOut.getD before.checkOut
  when movingDates do
    let _ ← lift (assertDateOrder checkIn checkOut)
  let ratePaise := dto.ratePaise.getD before.ratePaise
  let total :=
    if dto.ratePaise.isSome || movingDates then some (totalPaise ratePaise checkIn checkOut)
    else none
  throwIf ((patchFields dto movingDates).length = 0) .nothingToUpdate
  let movedRules ← rulesIfMoving env propertyId before.roomTypeId checkIn checkOut movingDates
  let row ← transaction do
    when (movingDates ∧ before.status = .CONFIRMED) <|
      checkMovedBooking propertyId id before checkIn checkOut movedRules
    let updated ← rescheduleReservation id
      (fun r => (dto.checkIn.getD r.checkIn, dto.checkOut.getD r.checkOut))
      (applyPatch dto total env.now)
    recordEvent id "updated" actorStaffId (.updated (patchFields dto movingDates))
    return updated
  let after ← hydrate row
  return (before, after)

/-! ## Moving a stay -/

/-- A stay with a room needs that room, a stay without one a room of its type. -/
def checkExtension (checkOut : ℤ) : Op Unit :=
  match before.roomId with
  | some roomId =>
    assertRoomFree
      { propertyId, roomId, checkIn := before.checkIn, checkOut, excludeId := some id }
  | none =>
    assertTypeCapacity propertyId before.roomTypeId before.checkIn checkOut (some id) none

/-- Push the check-out of a committed stay out. -/
def extendStay (propertyId id : Id) (dto : ExtendStayDto) (actorStaffId : Option Id) :
    Op (ℤ × ReservationDto) := do
  let before ← requireReservation propertyId id
  throwIf (before.status ≠ .CHECKED_IN ∧ before.status ≠ .CONFIRMED) .datesLocked
  throwIf (dto.checkOut ≤ before.checkOut) .extensionMustBeLater
  let _ ← lift (assertDateOrder before.checkIn dto.checkOut)
  let ratePaise := dto.ratePaise.getD before.ratePaise
  let newTotal := totalPaise ratePaise before.checkIn dto.checkOut
  let row ← transaction do
    checkExtension propertyId id before dto.checkOut
    let updated ← rescheduleReservation id (fun r => (r.checkIn, dto.checkOut)) fun r =>
      { r with ratePaise, totalPaise := newTotal, updatedAt := env.now }
    recordEvent id "stay_extended" actorStaffId
      (.stayExtended before.checkOut dto.checkOut newTotal)
    return updated
  let after ← hydrate row
  return (before.checkOut, after)

/-- A different room type is re-quoted at its base rate unless a rate is given. -/
def movedRate (room : Room) (ratePaise : Option ℤ) :
    Op ℤ :=
  if room.roomTypeId ≠ before.roomTypeId then do
    let type ← requireRoomType propertyId room.roomTypeId
    return ratePaise.getD type.baseRate
  else return ratePaise.getD before.ratePaise

/-- Move a checked-in guest to a different room. -/
def moveRoom (propertyId id : Id) (dto : MoveRoomDto) (actorStaffId : Option Id) :
    Op (Option Id × ReservationDto) := do
  let before ← requireReservation propertyId id
  throwIf (before.status ≠ .CHECKED_IN) .notInHouse
  throwIf (before.roomId = some dto.roomId) .sameRoom
  let room ← requireRoom propertyId dto.roomId
  throwIf (¬ ASSIGNABLE_ROOM_STATUSES.contains room.status)
    (.roomNotReady room.number room.status)
  let ratePaise ← movedRate propertyId before room dto.ratePaise
  let newTotal := totalPaise ratePaise before.checkIn before.checkOut
  let row ← transaction do
    assertRoomFree
      { propertyId, roomId := room.id, checkIn := before.checkIn, checkOut := before.checkOut,
        excludeId := some id }
    let updated ← updateReservation id fun r =>
      { r with roomId := some room.id, roomTypeId := room.roomTypeId, ratePaise,
               totalPaise := newTotal, updatedAt := env.now }
    forSome before.roomId fun left => setRoomStatus left .DIRTY env.now
    setRoomStatus room.id .OCCUPIED env.now
    recordEvent id "room_moved" actorStaffId (.roomMoved before.roomId room.id room.number)
    return updated
  let after ← hydrate row
  return (before.roomId, after)

/-! ## Rooms -/

/-- Attach a physical room, before or after confirmation. -/
def assignRoom (propertyId id : Id) (roomId : Id) (actorStaffId : Option Id) :
    Op ReservationDto := do
  let before ← requireReservation propertyId id
  throwIf (before.status ≠ .PENDING ∧ before.status ≠ .CONFIRMED)
    (.invalidTransition before.status before.status)
  let room ← requireRoom propertyId roomId
  throwIf (room.roomTypeId ≠ before.roomTypeId) .roomTypeMismatch
  let row ← transaction do
    assertRoomFree
      { propertyId, roomId, checkIn := before.checkIn, checkOut := before.checkOut,
        excludeId := some id }
    let updated ← updateReservation id fun r => { r with roomId := some roomId, updatedAt := env.now }
    recordEvent id "room_assigned" actorStaffId (.roomAssigned roomId room.number before.roomId)
    return updated
  hydrate row

/-- Pin a booking to its room, or release it. -/
def lockRoom (propertyId id : Id) (locked : Bool) (actorStaffId : Option Id) :
    Op ReservationDto := do
  let before ← requireReservation propertyId id
  throwIf (locked ∧ before.roomId = none) .roomRequired
  let row ← transaction do
    let updated ← updateReservation id fun r => { r with roomLocked := locked, updatedAt := env.now }
    recordEvent id (if locked then "room_locked" else "room_unlocked") actorStaffId
      (.roomLock before.roomId)
    return updated
  hydrate row

/-- Swap two bookings' rooms: both stays keep their dates and each takes the other's room. -/
def swapRooms (propertyId id otherId : Id) (actorStaffId : Option Id) :
    Op (ReservationDto × ReservationDto) := do
  throwIf (id = otherId) .swapSelf
  let a ← requireReservation propertyId id
  let b ← requireReservation propertyId otherId
  let rooms ← orThrow (a.roomId.bind fun ra => b.roomId.map fun rb => (ra, rb)) .roomRequired
  throwIf (a.roomLocked ∨ b.roomLocked) .roomLocked
  throwIf (a.roomTypeId ≠ b.roomTypeId) .roomTypeMismatch
  throwIf (¬ OCCUPYING_STATUSES.contains a.status ∨ ¬ OCCUPYING_STATUSES.contains b.status)
    .datesLocked
  let rows ← transaction do
    assertRoomFree
      { propertyId, roomId := rooms.2, checkIn := a.checkIn, checkOut := a.checkOut,
        excludeId := some a.id, excludeId2 := some b.id }
    assertRoomFree
      { propertyId, roomId := rooms.1, checkIn := b.checkIn, checkOut := b.checkOut,
        excludeId := some b.id, excludeId2 := some a.id }
    let ra ← updateReservation a.id fun r =>
      { r with roomId := some rooms.2, updatedAt := env.now }
    let rb ← updateReservation b.id fun r =>
      { r with roomId := some rooms.1, updatedAt := env.now }
    recordEvent a.id "room_swapped" actorStaffId (.roomSwapped a.roomId b.roomId b.id)
    recordEvent b.id "room_swapped" actorStaffId (.roomSwapped b.roomId a.roomId a.id)
    return (ra, rb)
  let da ← hydrate rows.1
  let db ← hydrate rows.2
  return (da, db)

/-! ## Auto-allocation -/

/-- The unassigned committed arrivals of a window, soonest first. -/
def arrivalsOf (fromDate toDate : ℤ) (db : HotelDb) : List Reservation :=
  (db.reservations.rows.filter fun r =>
    r.propertyId = propertyId && r.status = .CONFIRMED && r.roomId = none &&
      r.deletedAt.isNone && fromDate ≤ r.checkIn && r.checkIn ≤ toDate).insertionSort
    fun a b => a.checkIn < b.checkIn ∨ a.checkIn = b.checkIn ∧ a.createdAt ≤ b.createdAt

/-- Do two pending bookings share a night? -/
def overlapsPool (pool : List Reservation) (idA : Id) (b : Reservation) : Bool :=
  match pool.find? fun r => r.id = idA with
  | some a => a.checkIn < b.checkOut && b.checkIn < a.checkOut
  | none => false

/-- The first offered room, not claimed earlier in this run, that is free for the stay. -/
def firstFreeRoom (propertyId : Id) (pending : List Reservation) (assigned : List (Id × Id))
    (res : Reservation) : List Room → Op (Option Room)
  | [] => return none
  | room :: rest =>
    if assigned.any fun a => a.2 = room.id && overlapsPool pending a.1 res then
      firstFreeRoom propertyId pending assigned res rest
    else do
      let free ← tryCatchThe Err
        (do
          assertRoomFree
            { propertyId, roomId := room.id, checkIn := res.checkIn, checkOut := res.checkOut,
              excludeId := some res.id }
          return true)
        fun _ => return false
      if free then return some room
      else firstFreeRoom propertyId pending assigned res rest

/-- Place the arrivals one after another; `assigned` is what this run has claimed. -/
def placeArrivals (env : Env) (propertyId : Id) (dryRun : Bool) (actorStaffId : Option Id)
    (pending : List Reservation) (offerable : List Room) :
    List Reservation → List (Id × Id) → List PlanLine → Op (List PlanLine)
  | [], _, plan => return plan
  | res :: rest, assigned, plan => do
    let chosen ← firstFreeRoom propertyId pending assigned res
      (offerable.filter fun r => r.roomTypeId = res.roomTypeId)
    let plan := plan ++
      [⟨res.id, res.reservationNumber, chosen.map (·.id), chosen.map (·.number)⟩]
    match chosen with
    | none => placeArrivals env propertyId dryRun actorStaffId pending offerable rest assigned plan
    | some room => do
      when (dryRun = false) do
        let _ ← updateReservation res.id fun r =>
          { r with roomId := some room.id, updatedAt := env.now }
        recordEvent res.id "room_auto_assigned" actorStaffId
          (.roomAutoAssigned room.id room.number)
      placeArrivals env propertyId dryRun actorStaffId pending offerable rest
        (assigned ++ [(res.id, room.id)]) plan

/-- Give every unassigned arrival of a window the first room of its type that is free. -/
def autoAllocate (propertyId : Id) (input : AutoAllocateDto) (actorStaffId : Option Id) :
    Op AllocationPlan := do
  throwIf (input.toDate < input.fromDate) .invalidDates
  let pending ← select (.arrivals propertyId input.fromDate input.toDate)
    (arrivalsOf propertyId input.fromDate input.toDate)
  let sellable ← select (.rooms propertyId) fun db =>
    (db.rooms.rows.filter fun r =>
      r.propertyId = propertyId && r.deletedAt.isNone).insertionSort fun a b => a.number ≤ b.number
  let offerable := sellable.filter fun r => r.status ≠ .OUT_OF_ORDER && r.status ≠ .MAINTENANCE
  let place := placeArrivals env propertyId input.dryRun actorStaffId pending offerable pending [] []
  let plan ← (if input.dryRun then rolledBack place else transaction place : Op _)
  return {
    fromDate := input.fromDate
    toDate := input.toDate
    dryRun := input.dryRun
    considered := pending.length
    assigned := (plan.filter fun p => p.roomId.isSome).length
    unplaced := (plan.filter fun p => p.roomId.isNone).length
    plan }

/-! ## Transitions -/

/-- PENDING → CONFIRMED: the point at which the booking starts blocking. -/
def confirm (propertyId id : Id) (actorStaffId : Option Id) :
    Op (ReservationStatus × ReservationDto) := do
  let before ← requireReservation propertyId id
  lift (assertTransition before.status .CONFIRMED)
  let row ← transaction do
    checkMovedBooking propertyId id before before.checkIn before.checkOut none
    let updated ← updateReservation id fun r =>
      { r with status := .CONFIRMED, updatedAt := env.now }
    recordEvent id "confirmed" actorStaffId
    return updated
  let after ← hydrate row
  return (before.status, after)

/-- CONFIRMED → CHECKED_IN, with the room flipped to OCCUPIED in the same transaction. -/
def checkIn (env : Env) (propertyId id : Id) (dto : CheckInDto) (actorStaffId : Option Id) :
    Op (ReservationStatus × ReservationDto) := do
  let before ← requireReservation propertyId id
  lift (assertTransition before.status .CHECKED_IN)
  throwIf (¬ coversDate before.checkIn before.checkOut (today env.now)) .notArrivalDay
  let roomId ← orThrow (dto.roomId.or before.roomId) .noRoomAssigned
  let room ← requireRoom propertyId roomId
  throwIf (room.roomTypeId ≠ before.roomTypeId) .roomTypeMismatch
  throwIf (¬ ASSIGNABLE_ROOM_STATUSES.contains room.status)
    (.roomNotReady room.number room.status)
  let row ← transaction do
    assertRoomFree
      { propertyId, roomId, checkIn := before.checkIn, checkOut := before.checkOut,
        excludeId := some id }
    let updated ← updateReservation id fun r =>
      { r with
        status := .CHECKED_IN
        roomId := some roomId
        checkedInAt := some env.now
        updatedAt := env.now
        guest := { r.guest with
          guestIdType := dto.guestIdType.or r.guest.guestIdType
          guestIdNumber := dto.guestIdNumber.or r.guest.guestIdNumber } }
    setRoomStatus roomId .OCCUPIED env.now
    recordEvent id "checked_in" actorStaffId (.checkedIn roomId room.number)
    return updated
  let after ← hydrate row
  return (before.status, after)

/-- CHECKED_IN → CHECKED_OUT, room → DIRTY, behind the balance gate. -/
def checkOut (propertyId id : Id) (dto : CheckOutDto) (actorStaffId : Option Id) :
    Op (ReservationStatus × ReservationDto × ℤ × Bool) := do
  let before ← requireReservation propertyId id
  lift (assertTransition before.status .CHECKED_OUT)
  -- Money handed over is kept on record even when the gate refuses.
  when (0 < dto.collectedPaise.getD 0) do
    let _ ← FolioService.recordPayment
      { reservationId := id
        propertyId
        method := dto.paymentMethod.getD .CASH
        amountPaise := dto.collectedPaise.getD 0
        reference := dto.reference
        collectedBy := actorStaffId
        idempotencyKey := dto.idempotencyKey } env.now
  let balancePaise ← FolioService.balancePaise id
  let overrode := decide (0 < balancePaise) && dto.allowOutstanding
  throwIf (0 < balancePaise ∧ dto.allowOutstanding = false)
    (.balanceOutstanding balancePaise)
  let row ← transaction do
    let updated ← updateReservation id fun r =>
      { r with status := .CHECKED_OUT, checkedOutAt := some env.now, updatedAt := env.now }
    forSome before.roomId fun roomId => do
      setRoomStatus roomId .DIRTY env.now
      createCheckoutCleanForRoom propertyId roomId actorStaffId env.now
    recordEvent id "checked_out" actorStaffId
      (.checkedOut before.roomId (dto.collectedPaise.getD 0) balancePaise overrode dto.note)
    return updated
  let after ← hydrate row
  return (before.status, after, balancePaise, overrode)

/-- The live ancillary charges, without their tax. -/
def folioAncillary (reservationId : Id) : Op ℤ := do
  let summary ← FolioService.summary reservationId
  return summary.ancillaryPaise

/-- Record a payment or refund on a folio, out of band from check-out; answers the payment,
the net paid and the balance. -/
def collectPayment (propertyId id : Id) (input : CollectPaymentInput) (actorStaffId : Option Id) :
    Op (FolioPayment × ℤ × ℤ) := do
  let before ← requireReservation propertyId id
  let (payment, netPaidPaise) ← FolioService.recordPayment
    { reservationId := id
      propertyId
      method := input.method
      amountPaise := input.amountPaise
      direction := input.direction
      reference := input.reference
      note := input.note
      collectedBy := actorStaffId
      idempotencyKey := input.idempotencyKey } env.now
  let ancillary ← folioAncillary id
  return (payment, netPaidPaise, before.totalPaise + ancillary - netPaidPaise)

/-- PENDING or CONFIRMED → CANCELLED. -/
def cancel (propertyId id : Id) (reason : String) (actorStaffId : Option Id) :
    Op (ReservationStatus × ReservationDto) := do
  let before ← requireReservation propertyId id
  lift (assertTransition before.status .CANCELLED)
  let row ← transaction do
    let updated ← updateReservation id fun r =>
      { r with status := .CANCELLED, cancelledAt := some env.now, updatedAt := env.now }
    recordEvent id "cancelled" actorStaffId (.cancelled reason before.status)
    return updated
  let after ← hydrate row
  return (before.status, after)

/-- CONFIRMED → NO_SHOW, once the arrival date has passed. -/
def noShow (propertyId id : Id) (actorStaffId : Option Id) :
    Op (ReservationStatus × ReservationDto) := do
  let before ← requireReservation propertyId id
  lift (assertTransition before.status .NO_SHOW)
  throwIf (today env.now ≤ before.checkIn) .notArrivalDay
  let row ← transaction do
    let updated ← updateReservation id fun r =>
      { r with status := .NO_SHOW, updatedAt := env.now }
    recordEvent id "no_show" actorStaffId (.noShow before.checkIn)
    return updated
  let after ← hydrate row
  return (before.status, after)

end ReservationsService

end Travelo

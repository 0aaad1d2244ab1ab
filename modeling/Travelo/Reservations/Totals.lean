import Travelo.Rates.Writes
import Travelo.Reservations.Creation
import Travelo.Reservations.Deeds

/-!
# The stored total of a booking

`create` stores what it quoted: the rate times the nights where the request gives one, the sum of
the nightly prices else. A rate of zero is quoted as if none were given, and the sum is stored
beside it (`comp_stay_charged`).

Beside the sum it stores the average of the nights, rounded. An update that repeats the dates or
the rate, and a move to a room of the same type, work the total out again from that average.

`stored_totals_iff`: a booking is stored as quoted exactly when no rate of zero hides a price, and
a call that leaves the terms alone keeps every total exactly when the total it works out again,
if any, is the stored one.
-/

namespace Travelo

open ReadCommitted ReservationsService

/-! ## What was quoted -/

/-- The nightly prices that the resolver gives for the stay of a request. -/
def resolvedNights (env : Env) (propertyId : Id) (dto : CreateReservationDto) (db : HotelDb) :
    Option (List ℤ) := do
  let type ← roomTypeOf propertyId dto.roomTypeId db
  ((nightlyQuote env propertyId type.id dto.checkIn dto.checkOut dto.guest.ratePlanId
    type.baseRate).run db).res.toOption

/-- The total a request is quoted: at its own rate, zero included, or night by night. -/
def quotedTotal (env : Env) (propertyId : Id) (dto : CreateReservationDto) (db : HotelDb) :
    Option ℤ :=
  match dto.ratePaise with
  | some rate => some (totalPaise rate dto.checkIn dto.checkOut)
  | none => (resolvedNights env propertyId dto db).map List.sum

/-- Whatever row the call stores, statements failing or not, has the quoted total. -/
def StoredAsQuoted (env : Env) (propertyId : Id) (dto : CreateReservationDto)
    (actorStaffId : Option Id) (db : HotelDb) : Prop :=
  ∀ φ, ∀ row ∈ ((create env propertyId dto actorStaffId).runWith φ db).db.reservations,
    row ∉ db.reservations → quotedTotal env propertyId dto db = some row.totalPaise

/-- A rate of zero is given for nights that cost something, and the booking goes through. -/
def ZeroRateHides (env : Env) (propertyId : Id) (dto : CreateReservationDto) (db : HotelDb) :
    Prop :=
  dto.ratePaise = some 0 ∧ Bookable env propertyId dto db ∧
    ∃ nights, resolvedNights env propertyId dto db = some nights ∧ nights.sum ≠ 0

/-! ## What later calls work out again -/

/-- The bookings with their totals. -/
def HotelDb.totals (db : HotelDb) : List (Id × ℤ) :=
  db.reservations.rows.map fun r => (r.id, r.totalPaise)

/-- The call keeps every total, statements failing or not. -/
def Call.KeepsTotals (c : Call) (db : HotelDb) : Prop :=
  ∀ φ, (c.prog.runWith φ db).db.totals = db.totals

/-- An update, confirmation, assignment, check-in or move within the room type that changes
neither dates nor rate. -/
def Call.LeavesTerms (c : Call) (db : HotelDb) : Prop :=
  match c.action with
  | .update id dto => ∀ before ∈ reservationOf c.propertyId id db,
      dto.checkIn.getD before.checkIn = before.checkIn ∧
        dto.checkOut.getD before.checkOut = before.checkOut ∧
        dto.ratePaise.getD before.ratePaise = before.ratePaise
  | .moveRoom id dto => ∀ before ∈ reservationOf c.propertyId id db,
      dto.ratePaise.getD before.ratePaise = before.ratePaise ∧
        ∀ room ∈ roomOf c.propertyId dto.roomId db, room.roomTypeId = before.roomTypeId
  | .confirm _ | .assignRoom _ _ | .checkIn _ _ => True
  | _ => False

instance : (c : Call) → (db : HotelDb) → Decidable (c.LeavesTerms db)
  | ⟨_, propertyId, _, .update id _⟩, db =>
    inferInstanceAs (Decidable (∀ _ ∈ _, _))
  | ⟨_, propertyId, _, .moveRoom id dto⟩, db =>
    inferInstanceAs (Decidable (∀ _ ∈ _, _))
  | ⟨_, _, _, .confirm _⟩, _ | ⟨_, _, _, .assignRoom _ _⟩, _ | ⟨_, _, _, .checkIn _ _⟩, _ =>
    .isTrue trivial
  | ⟨_, _, _, .create _⟩, _ | ⟨_, _, _, .extendStay _ _⟩, _ | ⟨_, _, _, .lockRoom _ _⟩, _
  | ⟨_, _, _, .swapRooms _ _⟩, _ | ⟨_, _, _, .autoAllocate _⟩, _ | ⟨_, _, _, .checkOut _ _⟩, _
  | ⟨_, _, _, .collectPayment _ _⟩, _ | ⟨_, _, _, .cancel _ _⟩, _ | ⟨_, _, _, .noShow _⟩, _ =>
    .isFalse id

/-- The rules a moved stay is checked against. -/
def stayRules (env : Env) (propertyId roomTypeId : Id) (checkIn checkOut : ℤ) (db : HotelDb) :
    Option (List DayRules) :=
  if env.rates then
    some (RatesService.dayRulesOf propertyId roomTypeId checkIn (addDays checkOut 1) db)
  else none

/-- The booking has not begun, and where it is committed its room and its type are free. -/
def MayMove (env : Env) (propertyId id : Id) (before : Reservation) (checkIn checkOut : ℤ)
    (db : HotelDb) : Prop :=
  checkIn < checkOut ∧ (before.status = .PENDING ∨ before.status = .CONFIRMED) ∧
    (before.status = .CONFIRMED →
      (∀ roomId ∈ before.roomId, RoomProbe.Clear
        { propertyId, roomId, checkIn, checkOut, excludeId := some id } db) ∧
      capacityVerdict propertyId before.roomTypeId checkIn checkOut (some id)
        (stayRules env propertyId before.roomTypeId checkIn checkOut db) db = .ok ())

/-- The update works the total out again. -/
def UpdateRetotals (env : Env) (propertyId id : Id) (dto : UpdateReservationDto)
    (before : Reservation) (db : HotelDb) : Prop :=
  (dto.checkIn.isSome ∨ dto.checkOut.isSome →
    MayMove env propertyId id before (dto.checkIn.getD before.checkIn)
      (dto.checkOut.getD before.checkOut) db) ∧
    (dto.ratePaise.isSome ∨ dto.checkIn.isSome ∨ dto.checkOut.isSome)

/-- The move goes through. -/
def MoveRetotals (propertyId id : Id) (dto : MoveRoomDto) (before : Reservation) (db : HotelDb) :
    Prop :=
  before.status = .CHECKED_IN ∧ before.roomId ≠ some dto.roomId ∧
    ∃ room ∈ roomOf propertyId dto.roomId db, ASSIGNABLE_ROOM_STATUSES.contains room.status ∧
      RoomProbe.Clear
        { propertyId, roomId := room.id, checkIn := before.checkIn, checkOut := before.checkOut,
          excludeId := some id } db

/-- The call gets as far as working the total of the booking out again. -/
def Call.Retotals (c : Call) (before : Reservation) (db : HotelDb) : Prop :=
  match c.action with
  | .update id dto => reservationOf c.propertyId id db = some before ∧
      UpdateRetotals c.env c.propertyId id dto before db
  | .moveRoom id dto => reservationOf c.propertyId id db = some before ∧
      MoveRetotals c.propertyId id dto before db
  | _ => False

/-- The total of the booking is its rate times its nights. -/
def Reservation.Level (r : Reservation) : Prop :=
  Travelo.totalPaise r.ratePaise r.checkIn r.checkOut = r.totalPaise

/-! ## Creation -/

section Create

variable {env : Env} {propertyId : Id} {dto : CreateReservationDto} {actorStaffId : Option Id}
  {db : HotelDb}

theorem quoteUnlessGiven_straight (type : RoomType) :
    (quoteUnlessGiven env propertyId dto type).Straight fun _ _ => False := by
  have hnights : (nightlyQuote env propertyId type.id dto.checkIn dto.checkOut
      dto.guest.ratePlanId type.baseRate).Straight fun _ _ => False :=
    .ite _ (.bind (RatesService.nightlyPrices_straight _ _ _ _ _) fun _ => .pure _)
      (.bind (.bind (.select _ _) fun _ => .pure _) fun _ => .pure _)
  exact .ite _ (.pure _) (.bind hnights fun _ => .pure _)

theorem rulesFor_straight (type : RoomType) :
    (rulesFor env propertyId type.id dto.checkIn dto.checkOut).Straight fun _ _ => False :=
  .ite _ (.bind (.select _ _) fun _ => .pure _) (.pure _)

variable {nightly : Option (List ℤ)}

theorem quoted_nightly {type : RoomType}
    (htype : roomTypeOf propertyId dto.roomTypeId db = some type)
    (hnightly : ((quoteUnlessGiven env propertyId dto type).run db).res = .ok nightly)
    (hnone : dto.ratePaise.getD 0 = 0) :
    ∃ nights, nightly = some nights ∧ resolvedNights env propertyId dto db = some nights := by
  rw [quoteUnlessGiven, if_neg (by simpa using hnone), Prog.run_res, eval_map_res] at hnightly
  simp only [resolvedNights, htype, Option.bind_eq_bind, Option.bind_some, Prog.run_res]
  cases hres : ((nightlyQuote env propertyId type.id dto.checkIn dto.checkOut
      dto.guest.ratePlanId type.baseRate).eval .idle db).1 with
  | error e =>
    rw [hres] at hnightly
    cases hnightly
  | ok nights =>
    rw [hres] at hnightly
    exact ⟨nights, (Except.ok.inj hnightly).symm, rfl⟩

/-- The stored total is the quoted one exactly when no rate of zero stands beside nights that
cost something. -/
theorem storedTotal_quoted_iff {type : RoomType}
    (htype : roomTypeOf propertyId dto.roomTypeId db = some type)
    (hnightly : ((quoteUnlessGiven env propertyId dto type).run db).res = .ok nightly) :
    quotedTotal env propertyId dto db = some (storedTotal dto type nightly) ↔
      (dto.ratePaise = some 0 → ∀ nights, resolvedNights env propertyId dto db = some nights →
        nights.sum = 0) := by
  have hnights := quoted_nightly htype hnightly
  cases hrate : dto.ratePaise with
  | none =>
    obtain ⟨nights, rfl, hof⟩ := hnights (by simp [hrate])
    simp [quotedTotal, storedTotal, hrate, hof]
  | some rate =>
    by_cases hzero : rate = 0
    · subst hzero
      obtain ⟨nights, rfl, hof⟩ := hnights (by simp [hrate])
      simp [quotedTotal, storedTotal, hrate, hof, totalPaise, eq_comm]
    · -- a rate that is not zero is stored as given
      rw [quoteUnlessGiven, if_pos (by simpa [hrate] using hzero)] at hnightly
      obtain rfl : none = nightly := Except.ok.inj hnightly
      simp [quotedTotal, storedTotal, storedRate, hrate, hzero]

/-- The rows that `s` has and `db` has not are of a booking that goes through, and carry the total
made of the quote. -/
def RowsQuoted (env : Env) (propertyId : Id) (dto : CreateReservationDto) (db s : HotelDb) :
    Prop :=
  ∀ row ∈ s.reservations, row ∉ db.reservations → Bookable env propertyId dto db ∧
    ∃ type nightly, roomTypeOf propertyId dto.roomTypeId db = some type ∧
      ((quoteUnlessGiven env propertyId dto type).run db).res = .ok nightly ∧
      row.totalPaise = storedTotal dto type nightly

theorem create_rowsQuoted : (create env propertyId dto actorStaffId).ends
    (fun _ _ => RowsQuoted env propertyId dto db) (fun _ _ => RowsQuoted env propertyId dto db)
    .idle db := by
  have hstay : RowsQuoted env propertyId dto db db := fun row hrow hnew => absurd hrow hnew
  simp only [create, requireRoomType, ends_simps, hstay]
  intro ordered _ type htype
  refine (requestedRoom_straight propertyId dto).ends_idle (fun _ hasked => ?_) fun _ => hstay
  refine (quoteUnlessGiven_straight type).ends_idle (fun nightly hnightly => ?_) fun _ => hstay
  refine (rulesFor_straight type).ends_idle (fun rules hrules => ?_) fun _ => hstay
  refine (deadlineIfPending_readOnly env propertyId _ _).ends_idle (fun hold => ?_) fun _ => hstay
  refine ends_createAttempts db hstay (fun attempt hattempt => ?_) NUMBER_ATTEMPTS 0 rfl
  rw [ends_bind]
  refine ends_createTx propertyId actorStaffId db (fun e => ⟨hstay, fun _ => ⟨rfl, rfl⟩⟩)
    fun s hpass hfree hs => ?_
  have hmade : RowsQuoted env propertyId dto db s := by
    intro row hrow hnew
    have hrows : s.reservations = db.reservations.insert _ := congrArg Board.reservations hs
    rw [hrows] at hrow
    obtain ⟨hkey, hnumber⟩ := reservationTaken_eq_false.mp hfree
    have hres : ((quoteUnlessGiven env propertyId dto type).run db).res = .ok nightly := by
      rw [Prog.run_res, hnightly]
    have htypeId : type.id = dto.roomTypeId :=
      (Table.find?_eq_some.mp (Option.filter_eq_some_iff.mp htype).1).2
    rw [eval_rulesFor type htypeId] at hrules
    obtain rfl : rulesOf env propertyId dto db = rules := Except.ok.inj hrules
    have hchecks : ChecksPass env propertyId dto db := by
      refine ⟨ordered.down, ⟨type, htype, nightly, hres⟩, ?_, free_of_checkNewBooking hpass⟩
      by_contra hroom
      obtain ⟨e, hrefused⟩ := eval_requestedRoom_refused hroom
      rw [hrefused] at hasked
      cases hasked
    refine ⟨⟨hchecks, attempt, hattempt, hkey, hnumber⟩, ?_⟩
    rcases (mem_insert hkey).mp hrow with hold | rfl
    · exact absurd hold hnew
    · exact ⟨type, nightly, htype, hres, rfl⟩
  exact ends_answer db _ hmade

theorem storedAsQuoted_iff : StoredAsQuoted env propertyId dto actorStaffId db ↔
    ¬ZeroRateHides env propertyId dto db := by
  constructor
  · rintro hstored ⟨hrate, hbookable, nights, hnights, hsum⟩
    obtain ⟨out, hout⟩ := (@create_ok_iff env propertyId dto actorStaffId db).mpr hbookable
    rw [Prog.run_res] at hout
    rcases create_cases env propertyId dto actorStaffId db with ⟨e, he⟩ |
      ⟨-, hdates, type, nightly, hold, a, out', e, htype, hnightly, -, hrow, hfree, heval⟩
    · rw [he] at hout
      cases hout
    · have hkey := (reservationTaken_eq_false.mp hfree).1
      have hnew : out'.row ∉ db.reservations := fun hin =>
        Table.hasKey_eq_false.mp hkey _ hin rfl
      have hrun : ((create env propertyId dto actorStaffId).runWith noFaults db).db =
          { db with reservations := db.reservations.insert out'.row }.recordEvent e := by
        rw [show ∀ p : Op ReservationDto, p.runWith noFaults db = p.run db from fun _ => rfl,
          Prog.run_db, heval]
      have hquoted := hstored noFaults out'.row
        (by rw [hrun]; exact (mem_insert hkey).mpr (.inr rfl)) hnew
      rw [hrow] at hquoted
      exact hsum ((storedTotal_quoted_iff htype hnightly).mp hquoted hrate nights hnights)
  · intro hnot φ row hrow hnew
    obtain ⟨hbookable, type, nightly, htype, hnightly, htotal⟩ :=
      ends_runWith create_rowsQuoted φ row hrow hnew
    rw [htotal, storedTotal_quoted_iff htype hnightly]
    intro hrate nights hnights
    by_contra hsum
    exact hnot ⟨hrate, hbookable, nights, hnights, hsum⟩

end Create

/-! ## Later calls -/

section Later

variable {env : Env} {propertyId id : Id} {actorStaffId : Option Id} {db : HotelDb}

variable {f : Reservation → Reservation}

variable {hf : ∀ r, (f r).id = r.id}

theorem totals_updateReservation_iff :
    (db.updateReservation id f hf).totals = db.totals ↔
      ∀ r ∈ db.reservations, r.id = id → (f r).totalPaise = r.totalPaise := by
  simp only [HotelDb.totals, HotelDb.updateReservation, Table.update, List.map_map,
    List.map_inj_left]
  refine forall₂_congr fun r _ => ?_
  by_cases hid : r.id = id
  · simp [hid, hf]
  · simp [hid]

theorem totals_updateReservation
    (hkeep : ∀ r ∈ db.reservations, r.id = id → (f r).totalPaise = r.totalPaise) :
    (db.updateReservation id f hf).totals = db.totals :=
  totals_updateReservation_iff.mpr hkeep

@[simp] theorem totals_recordEvent (e : ReservationEvent) : (db.recordEvent e).totals = db.totals :=
  rfl

@[simp] theorem totals_setRoomStatus (roomId : Id) (status : RoomStatus) (now : ℤ) :
    (db.setRoomStatus roomId status now).totals = db.totals := rfl

/-- The program, alone on `db`, keeps the totals however it ends. -/
def EndsLevel {α : Type} (p : Op α) (db : HotelDb) : Prop :=
  p.ends (fun _ _ s => s.totals = db.totals) (fun _ _ s => s.totals = db.totals) .idle db

theorem hydrate_level {s : HotelDb} (row : Option Reservation) (h : s.totals = db.totals) :
    (hydrate row).ends (fun _ _ s => s.totals = db.totals) (fun _ _ s => s.totals = db.totals) .idle
      s :=
  (hydrate_readOnly row).ends_idle (fun _ => h) fun _ => h

theorem confirm_level : EndsLevel (confirm env propertyId id actorStaffId) db := by
  simp only [EndsLevel, confirm, updateReservation, recordEvent, ends_simps,
    ends_requireReservation]
  intro before _ _ _
  refine ends_checkMovedBooking (fun _ _ => rfl) ?_
  simp only [ends_simps]
  refine hydrate_level _ ?_
  simp only [Tx.view_active, Function.comp_apply, id_eq, totals_recordEvent]
  exact totals_updateReservation fun _ _ _ => rfl

theorem assignRoom_level (roomId : Id) :
    EndsLevel (assignRoom env propertyId id roomId actorStaffId) db := by
  simp only [EndsLevel, assignRoom, updateReservation, recordEvent, ends_simps,
    ends_requireReservation, ends_requireRoom, ends_assertRoomFree]
  intro before _ _ room _ _ _
  refine hydrate_level _ ?_
  simp only [Tx.view_active, Function.comp_apply, id_eq, totals_recordEvent]
  exact totals_updateReservation fun _ _ _ => rfl

theorem checkIn_level (dto : CheckInDto) :
    EndsLevel (checkIn env propertyId id dto actorStaffId) db := by
  simp only [EndsLevel, checkIn, updateReservation, setRoomStatus, recordEvent, ends_simps,
    ends_requireReservation, ends_requireRoom, ends_assertRoomFree]
  intro before _ _ _ _ roomId _ room _ _ _ _
  refine hydrate_level _ ?_
  simp only [Tx.view_active, Function.comp_apply, id_eq, totals_recordEvent, totals_setRoomStatus]
  exact totals_updateReservation fun _ _ _ => rfl

theorem eq_before {before r : Reservation} (hf : reservationOf propertyId id db = some before)
    (hr : r ∈ db.reservations) (hid : r.id = id) : r = before := by
  obtain ⟨hb, hbid, -, -⟩ := reservationOf_eq_some.mp hf
  exact eq_of_key_eq hr hb (hid.trans hbid.symm)

theorem moveRoom_level {dto : MoveRoomDto}
    (hleaves : Call.LeavesTerms ⟨env, propertyId, actorStaffId, .moveRoom id dto⟩ db)
    (hlevel : ∀ before, Call.Retotals ⟨env, propertyId, actorStaffId, .moveRoom id dto⟩ before db →
      before.Level) : EndsLevel (moveRoom env propertyId id dto actorStaffId) db := by
  simp only [EndsLevel, moveRoom, updateReservation, setRoomStatus, recordEvent, ends_simps,
    ends_requireReservation, ends_requireRoom]
  intro before hf hin hother room hroom hready
  obtain ⟨hrate, hsame⟩ := hleaves before hf
  have htype : ¬room.roomTypeId ≠ before.roomTypeId := not_not.mpr (hsame room hroom)
  simp only [movedRate, if_neg htype, hrate, ends_simps, ends_assertRoomFree, ends_forSome]
  intro hclear
  have hmoved : Call.Retotals ⟨env, propertyId, actorStaffId, .moveRoom id dto⟩ before db :=
    ⟨hf, not_not.mp hin, hother, room, hroom, by simpa using hready, hclear⟩
  have hkeep : ∀ r ∈ db.reservations, r.id = id →
      totalPaise before.ratePaise before.checkIn before.checkOut = r.totalPaise := by
    intro r hr hid
    rw [eq_before hf hr hid]
    exact hlevel before hmoved
  constructor
  · intro left _
    refine hydrate_level _ ?_
    simp only [Tx.view_active, Function.comp_apply, id_eq, totals_recordEvent, totals_setRoomStatus]
    exact totals_updateReservation hkeep
  · intro _
    refine hydrate_level _ ?_
    simp only [Tx.view_active, Function.comp_apply, id_eq, totals_recordEvent, totals_setRoomStatus]
    exact totals_updateReservation hkeep

variable {dates : Reservation → ℤ × ℤ}

theorem rescheduled_totalPaise {r : Reservation} :
    (Reservation.rescheduled dates f r).totalPaise = (f r).totalPaise := by
  unfold Reservation.rescheduled Reservation.withDates
  split <;> rfl

variable {dto : UpdateReservationDto}

/-- The row an update leaves has the total that the patch names, and its own where it names
none. -/
theorem totals_applyPatch {total : Option ℤ} {now : ℤ} {db' : HotelDb}
    (hstored : db.rescheduleReservation id dates (applyPatch dto total now) = .ok db')
    (hkeep : ∀ r ∈ db.reservations, r.id = id → total.getD r.totalPaise = r.totalPaise) :
    db'.totals = db.totals := by
  unfold HotelDb.rescheduleReservation at hstored
  split at hstored
  · cases hstored
    refine totals_updateReservation fun r hr hid => ?_
    rw [rescheduled_totalPaise]
    exact hkeep r hr hid
  · cases hstored

theorem rulesIfMoving_straight (roomTypeId : Id) (checkIn checkOut : ℤ) (moving : Bool) :
    (rulesIfMoving env propertyId roomTypeId checkIn checkOut moving).Straight fun _ _ => False :=
  .ite _ (.ite _ (.bind (.select _ _) fun _ => .pure _) (.pure _)) (.pure _)

theorem checkMovedBooking_straight (before : Reservation) (checkIn checkOut : ℤ)
    (rules : Option (List DayRules)) :
    (checkMovedBooking propertyId id before checkIn checkOut rules).Straight fun _ _ => False :=
  .bind (.forSome fun _ => assertRoomFree_straight _) fun _ =>
    assertTypeCapacity_straight _ _ _ _ _ _

theorem eval_stayRules (roomTypeId : Id) (checkIn checkOut : ℤ) :
    (rulesFor env propertyId roomTypeId checkIn checkOut).eval .idle db =
      (.ok (stayRules env propertyId roomTypeId checkIn checkOut db), .idle, db) := by
  unfold rulesFor stayRules
  split <;> rfl

/-- A moved booking passes its checks exactly when it finds its room and its type free. -/
theorem checkMovedBooking_passes_iff {before : Reservation} {checkIn checkOut : ℤ}
    {rules : Option (List DayRules)} :
    (checkMovedBooking propertyId id before checkIn checkOut rules).eval (.active fun s => s) db =
        (.ok (), .active fun s => s, db) ↔
      (∀ roomId ∈ before.roomId, RoomProbe.Clear
        { propertyId, roomId, checkIn, checkOut, excludeId := some id } db) ∧
      capacityVerdict propertyId before.roomTypeId checkIn checkOut (some id) rules db =
        .ok () := by
  simp only [checkMovedBooking, eval_bind]
  cases hroom : before.roomId with
  | none => simp
  | some roomId =>
    simp only [eval_forSome_some, eval_assertRoomFree]
    by_cases hclear : RoomProbe.Clear
        { propertyId, roomId, checkIn, checkOut, excludeId := some id } db
    · simp [hclear]
    · simp [hclear]

/-- The transaction of an update whose row keeps its total where its checks pass. -/
theorem ends_updateTx {check : Op Unit} {C : Prop} {total : Option ℤ} {fields : List String}
    (hcheck : ∀ (P : Unit → Tx HotelDb → HotelDb → Prop) (E : Err → Tx HotelDb → HotelDb → Prop),
      (C → P () (.active fun s => s) db) → (∀ e t, E e t db) →
        check.ends P E (.active fun s => s) db)
    (hkeep : C → ∀ r ∈ db.reservations, r.id = id → total.getD r.totalPaise = r.totalPaise) :
    (transaction do
      check
      let updated ← rescheduleReservation id dates (applyPatch dto total env.now)
      recordEvent id "updated" actorStaffId (.updated fields)
      return updated).ends
        (fun row t db' => (hydrate row).ends (fun _ _ s => s.totals = db.totals)
          (fun _ _ s => s.totals = db.totals) t db')
        (fun _ _ s => s.totals = db.totals) .idle db := by
  simp only [ends_simps, rescheduleReservation, recordEvent]
  refine hcheck _ _ (fun hpassed => ?_) fun _ _ => rfl
  simp only [ends_simps]
  intro db' hstored
  refine hydrate_level _ ?_
  simp only [Tx.view_active, Function.comp_apply, totals_recordEvent, applied, hstored]
  exact totals_applyPatch hstored (hkeep hpassed)

theorem update_level (hleaves : Call.LeavesTerms ⟨env, propertyId, actorStaffId, .update id dto⟩ db)
    (hlevel : ∀ before, Call.Retotals ⟨env, propertyId, actorStaffId, .update id dto⟩ before db →
      before.Level) : EndsLevel (update env propertyId id dto actorStaffId) db := by
  simp only [EndsLevel, update, ends_simps, ends_requireReservation, ends_when]
  intro before hf hstatus
  obtain ⟨hin, hout, hrate⟩ := hleaves before hf
  have htotal : before.Level → ∀ r ∈ db.reservations, r.id = id →
      totalPaise (dto.ratePaise.getD before.ratePaise) (dto.checkIn.getD before.checkIn)
        (dto.checkOut.getD before.checkOut) = r.totalPaise := by
    intro h r hr hid
    rw [eq_before hf hr hid, hin, hout, hrate]
    exact h
  constructor
  · -- the update names a date: it works the total out again if its checks pass
    intro hmoving ordered hdates _
    have hmoving' : dto.checkIn.isSome ∨ dto.checkOut.isSome := by simpa using hmoving
    refine (rulesIfMoving_straight _ _ _ _).ends_idle (fun rules hrules => ?_) fun _ => rfl
    obtain rfl : stayRules env propertyId before.roomTypeId (dto.checkIn.getD before.checkIn)
        (dto.checkOut.getD before.checkOut) db = rules := by
      rw [rulesIfMoving, if_pos hmoving, eval_stayRules] at hrules
      exact Except.ok.inj hrules
    refine ends_updateTx (C := before.status = .CONFIRMED →
        (checkMovedBooking propertyId id before (dto.checkIn.getD before.checkIn)
          (dto.checkOut.getD before.checkOut) (stayRules env propertyId before.roomTypeId
            (dto.checkIn.getD before.checkIn) (dto.checkOut.getD before.checkOut) db)).eval
              (.active fun s => s) db = (.ok (), .active fun s => s, db)) ?_ ?_
    · intro P E hP hE
      rw [ends_when]
      constructor
      · intro hboth
        exact (checkMovedBooking_straight _ _ _ _).ends_active (fun _ hpass => hP fun _ => hpass) hE
      · intro hnot
        exact hP fun hconfirmed => absurd ⟨hmoving, hconfirmed⟩ hnot
    · intro hpassed r hr hid
      simp only [hmoving, Bool.or_true, if_true, Option.getD_some]
      refine htotal (hlevel before ⟨hf, fun _ => ⟨ordered.down, ?_, ?_⟩, .inr hmoving'⟩) r hr hid
      · by_contra hbegun
        exact hstatus ⟨hmoving, not_or.mp hbegun⟩
      · exact fun hconfirmed => checkMovedBooking_passes_iff.mp (hpassed hconfirmed)
  · -- it names none: only a rate makes it
    intro hstill _
    refine (rulesIfMoving_straight _ _ _ _).ends_idle (fun rules _ => ?_) fun _ => rfl
    refine ends_updateTx (C := True) ?_ ?_
    · intro P E hP hE
      rw [ends_when]
      exact ⟨fun hboth => absurd hboth.1 hstill, fun _ => hP trivial⟩
    · intro _ r hr hid
      have hnamed : ¬(dto.checkIn.isSome ∨ dto.checkOut.isSome) := by simpa using hstill
      cases hsome : dto.ratePaise.isSome with
      | true =>
        simp only [Bool.true_or, if_true, Option.getD_some]
        exact htotal (hlevel before ⟨hf, fun h => absurd h hnamed, .inl hsome⟩) r hr hid
      | false => simp [hstill]

end Later

/-! ## Calls that go through -/

section Through

variable {env : Env} {propertyId stayId : Id} {actorStaffId : Option Id} {db : HotelDb}

theorem eval_moveRoom {dto : MoveRoomDto} {before : Reservation}
    (hf : reservationOf propertyId stayId db = some before)
    (hmoved : MoveRetotals propertyId stayId dto before db)
    (hsame : ∀ room ∈ roomOf propertyId dto.roomId db, room.roomTypeId = before.roomTypeId) :
    ∃ roomId typeId,
      ((moveRoom env propertyId stayId dto actorStaffId).eval .idle db).2.2.totals =
        (db.updateReservation stayId fun r =>
          { r with
            roomId := roomId
            roomTypeId := typeId
            ratePaise := dto.ratePaise.getD before.ratePaise
            totalPaise := totalPaise (dto.ratePaise.getD before.ratePaise) before.checkIn
              before.checkOut
            updatedAt := env.now }).totals := by
  obtain ⟨hin, hother, room, hroom, hready, hclear⟩ := hmoved
  have hfind : db.reservations.find? stayId = some before := Option.eq_some_of_filter_eq_some hf
  have htype : ¬room.roomTypeId ≠ before.roomTypeId := not_not.mpr (hsame room hroom)
  have hroomRead : roomOf propertyId dto.roomId db = some room := hroom
  simp only [moveRoom, updateReservation, setRoomStatus, recordEvent, requireRoom, movedRate,
    eval_simps, eval_requireReservation, hf, Option.elim_some, hin, hother, hroomRead, hready,
    htype, not_true, if_false, ne_eq, eval_assertRoomFree, id_eq, hclear, if_true, hfind,
    Option.map_some]
  cases hleft : before.roomId with
  | none =>
    simp only [eval_forSome_none, eval_write_active, eval_hydrate]
    exact ⟨_, _, rfl⟩
  | some left =>
    simp only [eval_forSome_some, eval_write_active, eval_hydrate]
    exact ⟨_, _, rfl⟩

theorem eval_update {dto : UpdateReservationDto} {before : Reservation}
    (hf : reservationOf propertyId stayId db = some before)
    (hret : UpdateRetotals env propertyId stayId dto before db) :
    ((update env propertyId stayId dto actorStaffId).eval .idle db).2.2.totals =
      (db.updateReservation stayId (Reservation.rescheduled
        (fun r => (dto.checkIn.getD r.checkIn, dto.checkOut.getD r.checkOut))
        (applyPatch dto (some (totalPaise (dto.ratePaise.getD before.ratePaise)
          (dto.checkIn.getD before.checkIn) (dto.checkOut.getD before.checkOut))) env.now))
        (rescheduled_id fun _ => rfl)).totals := by
  obtain ⟨hmoves, hnames⟩ := hret
  have hfind : db.reservations.find? stayId = some before := Option.eq_some_of_filter_eq_some hf
  have hordered : dto.checkIn.getD before.checkIn < dto.checkOut.getD before.checkOut := by
    by_cases hmoving : dto.checkIn.isSome ∨ dto.checkOut.isSome
    · exact (hmoves hmoving).1
    · obtain ⟨hin, hout⟩ : dto.checkIn = none ∧ dto.checkOut = none := by simpa using hmoving
      simpa [hin, hout] using before.ordered
  have hretotals :
      (dto.ratePaise.isSome || (dto.checkIn.isSome || dto.checkOut.isSome)) = true := by
    simpa using hnames
  have hfields : (patchFields dto (dto.checkIn.isSome || dto.checkOut.isSome)).length ≠ 0 := by
    simp [patchFields, hretotals]
  have hwrite := fun f hf => show HotelDb.rescheduleReservation db stayId
      (fun r => (dto.checkIn.getD r.checkIn, dto.checkOut.getD r.checkOut)) f hf = .ok _ by
    rw [HotelDb.rescheduleReservation, if_pos (by simp [hfind, hordered])]
  have hstatus : ¬((dto.checkIn.isSome || dto.checkOut.isSome) = true ∧
      before.status ≠ .PENDING ∧ before.status ≠ .CONFIRMED) := by
    rintro ⟨hmoving, hbegun⟩
    exact not_or.mpr hbegun (hmoves (by simpa using hmoving)).2.1
  have hdates : assertDateOrder (dto.checkIn.getD before.checkIn)
      (dto.checkOut.getD before.checkOut) = .ok ⟨hordered⟩ := dif_pos hordered
  have hasserted : (when ((dto.checkIn.isSome || dto.checkOut.isSome) = true) do
      let _ ← lift (assertDateOrder (dto.checkIn.getD before.checkIn)
        (dto.checkOut.getD before.checkOut)) : Op Unit).eval .idle db = (.ok (), .idle, db) := by
    simp [hdates]
  obtain ⟨rules, hrules, hcheck⟩ : ∃ rules,
      (rulesIfMoving env propertyId before.roomTypeId (dto.checkIn.getD before.checkIn)
        (dto.checkOut.getD before.checkOut) (dto.checkIn.isSome || dto.checkOut.isSome)).eval .idle
          db = (.ok rules, .idle, db) ∧
      (when ((dto.checkIn.isSome || dto.checkOut.isSome) = true ∧ before.status = .CONFIRMED)
        (checkMovedBooking propertyId stayId before (dto.checkIn.getD before.checkIn)
          (dto.checkOut.getD before.checkOut) rules)).eval (.active id) db =
            (.ok (), .active id, db) := by
    by_cases hmoving : (dto.checkIn.isSome || dto.checkOut.isSome) = true
    · obtain ⟨-, -, hfree⟩ := hmoves (by simpa using hmoving)
      refine ⟨_, by rw [rulesIfMoving, if_pos hmoving, eval_stayRules], ?_⟩
      by_cases hconfirmed : before.status = .CONFIRMED
      · rw [eval_when, if_pos ⟨hmoving, hconfirmed⟩]
        exact checkMovedBooking_passes_iff.mpr (hfree hconfirmed)
      · rw [eval_when, if_neg fun h => hconfirmed h.2]
    · refine ⟨none, by rw [rulesIfMoving, if_neg hmoving, eval_pure], ?_⟩
      rw [eval_when, if_neg fun h => hmoving h.1]
  simp only [update, rescheduleReservation, recordEvent, eval_simps, eval_requireReservation, hf,
    Option.elim_some, if_neg hstatus, hasserted, if_neg hfields, hrules]
  rw [hcheck]
  simp only [Prog.eval_writeChecked_active, if_pos hretotals, id_eq, hwrite, eval_simps, hfind,
    Option.map_some, eval_hydrate, applied, Function.comp_apply]
  rfl

end Through

/-! ## The exact condition -/

/-- A call that leaves the terms alone keeps every total exactly when the total it works out
again, if any, is the stored one. -/
theorem keepsTotals_iff {c : Call} {db : HotelDb} (hleaves : c.LeavesTerms db) :
    c.KeepsTotals db ↔ ∀ before, c.Retotals before db → before.Level := by
  obtain ⟨env, propertyId, actorStaffId, action⟩ := c
  constructor
  · intro hkeeps before hret
    have hrun := hkeeps noFaults
    rw [show ∀ p : Op Unit, p.runWith noFaults db = p.run db from fun _ => rfl] at hrun
    cases action with
    | update id dto =>
      obtain ⟨hf, hret⟩ := hret
      obtain ⟨hin, hout, hrate⟩ := hleaves before hf
      rw [Call.prog, Prog.run_discard_db, Prog.run_db, eval_update hf hret,
        totals_updateReservation_iff] at hrun
      obtain ⟨hb, hid, -, -⟩ := reservationOf_eq_some.mp hf
      have hstored := hrun before hb hid
      rw [rescheduled_totalPaise] at hstored
      rwa [hin, hout, hrate] at hstored
    | moveRoom id dto =>
      obtain ⟨hf, hmoved⟩ := hret
      obtain ⟨hrate, hsame⟩ := hleaves before hf
      obtain ⟨roomId, typeId, htotals⟩ :=
        @eval_moveRoom env propertyId id actorStaffId db dto before hf hmoved hsame
      rw [Call.prog, Prog.run_discard_db, Prog.run_db, htotals, totals_updateReservation_iff]
        at hrun
      obtain ⟨hb, hid, -, -⟩ := reservationOf_eq_some.mp hf
      have hstored := hrun before hb hid
      rwa [hrate] at hstored
    | _ => exact hret.elim
  · intro hlevel φ
    have hdiscard : ∀ {α : Type} {p : Op α}, EndsLevel p db →
        ((do let _ ← p : Op Unit).runWith φ db).db.totals = db.totals := by
      intro α p hp
      refine ends_runWith (Q := fun s : HotelDb => s.totals = db.totals) ?_ φ
      rw [ends_bind]
      exact hp
    cases action with
    | update id dto => exact hdiscard (update_level hleaves hlevel)
    | moveRoom id dto => exact hdiscard (moveRoom_level hleaves hlevel)
    | confirm id => exact hdiscard confirm_level
    | assignRoom id roomId => exact hdiscard (assignRoom_level roomId)
    | checkIn id dto => exact hdiscard (checkIn_level dto)
    | _ => exact hleaves.elim

/-- A booking is stored as quoted exactly when no rate of zero hides a price; and a call that
leaves the terms alone keeps every total exactly when the booking it works out again, if any, is
level. -/
theorem stored_totals_iff (env : Env) (propertyId : Id) (dto : CreateReservationDto)
    (actorStaffId : Option Id) (c : Call) (db : HotelDb) (hleaves : c.LeavesTerms db) :
    (StoredAsQuoted env propertyId dto actorStaffId db ↔ ¬ZeroRateHides env propertyId dto db) ∧
      (c.KeepsTotals db ↔ ∀ before, c.Retotals before db → before.Level) :=
  ⟨storedAsQuoted_iff, keepsTotals_iff hleaves⟩

/-! ## Three nights for 301 -/

/-- Two rooms of one type at 100 a night, and a third night for 101. -/
def dearThird : HotelDb where
  rooms := ((∅ : Table Room.id).insert
    { id := 101, propertyId := 1, roomTypeId := 7, number := "101", status := .AVAILABLE }).insert
    { id := 102, propertyId := 1, roomTypeId := 7, number := "102", status := .AVAILABLE }
  roomTypes := (∅ : Table RoomType.id).insert
    { id := 7, propertyId := 1, name := "Deluxe", baseRate := 100 }
  rateInventoryDays := (∅ : Table RateInventoryDay.key).insert
    { propertyId := 1, roomTypeId := 7, ratePlanId := none, date := 12, pricePaise := some 101 }

def arrivalDay : Env where
  now := 10 * 86400000

def threeNights (ratePaise : Option ℤ) : CreateReservationDto where
  roomTypeId := 7
  roomId := some 101
  guest := { guestName := "Guest", guestPhone := "0" }
  checkIn := 10
  checkOut := 13
  ratePaise
  status := some .CONFIRMED

def deskCall (action : Action) : Call where
  env := arrivalDay
  propertyId := 1
  action

/-- The guest has booked the three nights and is in house. -/
def inHouse (ratePaise : Option ℤ) : HotelDb :=
  runCalls [(deskCall (.create (threeNights ratePaise)), noFaults),
    (deskCall (.checkIn 0 {}), noFaults)] dearThird

/-- Three nights given away are stored for 301, and a guest who pays 301 for three nights is moved
to another room of the type for 300. -/
theorem comp_stay_charged :
    ¬StoredAsQuoted arrivalDay 1 (threeNights (some 0)) none dearThird ∧
      (deskCall (.moveRoom 0 { roomId := 102 })).LeavesTerms (inHouse none) ∧
      ¬(deskCall (.moveRoom 0 { roomId := 102 })).KeepsTotals (inHouse none) := by
  refine ⟨fun hstored => ?_, by decide +kernel, fun hkeeps => ?_⟩
  · have hrow : ∃ row ∈ ((create arrivalDay 1 (threeNights (some 0)) none).runWith noFaults
        dearThird).db.reservations.rows, row.totalPaise = 301 := by decide +kernel
    obtain ⟨row, hrow, htotal⟩ := hrow
    have hquoted := hstored noFaults row hrow (fun h => by cases h)
    rw [htotal] at hquoted
    exact absurd hquoted (by decide +kernel)
  · exact absurd (hkeeps noFaults) (by decide +kernel)

/-- Without a rate the three nights are stored as quoted, and at 100 a night the guest moves for
the total that was stored. -/
theorem paid_stay_stored :
    StoredAsQuoted arrivalDay 1 (threeNights none) none dearThird ∧
      (deskCall (.moveRoom 0 { roomId := 102 })).KeepsTotals (inHouse (some 100)) := by
  have hboth := stored_totals_iff arrivalDay 1 (threeNights none) none
    (deskCall (.moveRoom 0 { roomId := 102 }))
  constructor
  · exact (hboth dearThird (by decide +kernel)).1.mpr fun hzero => by cases hzero.1
  · refine (hboth (inHouse (some 100)) (by decide +kernel)).2.mpr ?_
    rintro before ⟨hbefore, -⟩
    have hlevel : ∀ r ∈ reservationOf 1 0 (inHouse (some 100)),
        totalPaise r.ratePaise r.checkIn r.checkOut = r.totalPaise := by decide +kernel
    exact hlevel before hbefore

end Travelo

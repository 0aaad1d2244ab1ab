import Mathlib.Data.Fintype.Basic
import Travelo.Reservations.Writes

/-!
# One booking on its own

What `create` does when nothing else runs (`eval_create`): where its other checks pass it
tries five numbers, one after the other, and stores the row of the first that is free. Where
the capacity check refuses it, it fails (`create_refused`).

Among other sessions it publishes rows made of the request, each numbered from a count it has
read, and nothing else (`wp_create`).
-/

namespace Travelo

open ReadCommitted ReservationsService

/-- The reservations of a property, deleted ones too. -/
def bookings (propertyId : Id) (db : HotelDb) : ℕ :=
  db.reservations.rows.countP fun r => r.propertyId = propertyId

theorem reservationTaken_eq_false {db : HotelDb} {row : Reservation} :
    db.reservationTaken row = false ↔
      db.reservations.hasKey row.id = false ∧ ∀ r ∈ db.reservations,
        r.propertyId = row.propertyId → r.reservationNumber ≠ row.reservationNumber := by
  simp only [HotelDb.reservationTaken, Bool.or_eq_false_iff, List.any_eq_false]
  refine and_congr_right fun _ => ?_
  simp [← mem_rows]

/-- The rules a booking is checked against. -/
def rulesOf (env : Env) (propertyId : Id) (dto : CreateReservationDto) (db : HotelDb) :
    Option (List DayRules) :=
  if env.rates then
    some (RatesService.dayRulesOf propertyId dto.roomTypeId dto.checkIn (addDays dto.checkOut 1) db)
  else none

/-- The other checks of a booking pass: the dates, the type and the room exist, the stay can be
quoted, and a committed booking finds its room and its type free. -/
structure ChecksPass (env : Env) (propertyId : Id) (dto : CreateReservationDto) (db : HotelDb) :
    Prop where
  dates : dto.checkIn < dto.checkOut
  type : ∃ type, roomTypeOf propertyId dto.roomTypeId db = some type ∧
    ∃ nightly, ((quoteUnlessGiven env propertyId dto type).run db).res = .ok nightly
  room : ∀ roomId, dto.roomId = some roomId →
    ∃ room, roomOf propertyId roomId db = some room ∧ room.roomTypeId = dto.roomTypeId
  free : dto.status = some .CONFIRMED → (∀ roomId, dto.roomId = some roomId → RoomProbe.Clear
      { propertyId, roomId, checkIn := dto.checkIn, checkOut := dto.checkOut } db) ∧
    capacityVerdict propertyId dto.roomTypeId dto.checkIn dto.checkOut none
      (rulesOf env propertyId dto db) db = .ok ()

/-- The uuids handed to a booking are new. -/
def FreshIds (env : Env) (db : HotelDb) : Prop :=
  ∀ attempt < NUMBER_ATTEMPTS, db.reservations.hasKey (env.uuid attempt) = false

/-- One of the numbers that a booking tries is free. -/
def NumberFree (propertyId : Id) (db : HotelDb) (attempt : ℕ) : Prop :=
  ∀ r ∈ db.reservations, r.propertyId = propertyId →
    r.reservationNumber ≠ formatReservationNumber (bookings propertyId db + 1 + attempt)

/-- The rate a booking is stored with. -/
def storedRate (dto : CreateReservationDto) (type : RoomType) (nightly : Option (List ℤ)) : ℤ :=
  dto.ratePaise.getD <|
    match nightly with
    | some (n :: ns) => roundDiv (n :: ns).sum (n :: ns).length
    | _ => type.baseRate

/-- Its total: that of the nightly prices, where it was quoted by night. -/
def storedTotal (dto : CreateReservationDto) (type : RoomType) (nightly : Option (List ℤ)) : ℤ :=
  (nightly.map List.sum).getD
    (totalPaise (storedRate dto type nightly) dto.checkIn dto.checkOut)

section Alone

variable {env : Env} {propertyId : Id} {dto : CreateReservationDto} {actorStaffId : Option Id}
  {db : HotelDb}

theorem eval_of_readOnly {α : Type} {p : Op α} {a : α} (hp : p.ReadOnly)
    (hres : (p.run db).res = .ok a) : p.eval .idle db = (.ok a, .idle, db) := by
  have h := hp.eval_idle db
  rw [Prog.run_res] at hres
  exact Prod.ext hres h

theorem eval_of_readOnly_error {α : Type} {p : Op α} {e : Err} (hp : p.ReadOnly)
    (hres : (p.run db).res = .error e) : p.eval .idle db = (.error e, .idle, db) := by
  have h := hp.eval_idle db
  rw [Prog.run_res] at hres
  exact Prod.ext hres h

theorem eval_rulesFor (type : RoomType) (htype : type.id = dto.roomTypeId) :
    (rulesFor env propertyId type.id dto.checkIn dto.checkOut).eval .idle db =
      (.ok (rulesOf env propertyId dto db), .idle, db) := by
  unfold rulesFor rulesOf
  rw [htype]
  by_cases hr : env.rates = true
  · simp only [if_pos hr]
    rfl
  · simp only [if_neg hr]
    rfl

theorem eval_deadline (status : BookingStatus) : ∃ hold,
    (deadlineIfPending env propertyId status dto.holdMinutes).eval .idle db =
      (.ok hold, .idle, db) := by
  unfold deadlineIfPending holdDeadline
  cases status with
  | CONFIRMED => exact ⟨_, rfl⟩
  | PENDING =>
    cases dto.holdMinutes with
    | some m => exact ⟨_, rfl⟩
    | none => exact ⟨_, rfl⟩

theorem eval_checkNewBooking (h : ChecksPass env propertyId dto db) :
    (checkNewBooking propertyId dto (dto.status.getD .PENDING) (rulesOf env propertyId dto db)).eval
      (.active id) db = (.ok (), .active id, db) := by
  cases hs : dto.status.getD .PENDING with
  | PENDING => rfl
  | CONFIRMED =>
    have hconfirmed : dto.status = some .CONFIRMED := by
      cases hstatus : dto.status with
      | none => simp [hstatus] at hs
      | some s => simpa [hstatus] using hs
    obtain ⟨hclear, hcapacity⟩ := h.free hconfirmed
    simp only [checkNewBooking, eval_bind]
    cases hroom : dto.roomId with
    | none =>
      simp only [eval_forSome_none, eval_assertTypeCapacity, id_eq, hcapacity]
    | some roomId =>
      simp only [eval_forSome_some, eval_assertRoomFree, eval_assertTypeCapacity, id_eq,
        if_pos (hclear roomId hroom), hcapacity]

/-- An attempt on a state the checks pass on: it is refused, or its row is stored. -/
theorem eval_createTx (h : ChecksPass env propertyId dto db) (row : ℕ → Reservation) :
    let created := row (bookings propertyId db)
    (createTx propertyId dto (dto.status.getD .PENDING) (rulesOf env propertyId dto db) actorStaffId
        row).eval .idle db =
      if db.reservationTaken created then (.error .uniqueViolation, .idle, db)
      else (.ok created, .idle,
        { db with reservations := db.reservations.insert created }.recordEvent
          ⟨created.id, "created", actorStaffId,
            .created (dto.status.getD .PENDING).toStatus dto.checkIn dto.checkOut⟩) := by
  intro created
  have hcount : (List.countP (fun r => decide (r.propertyId = propertyId)) db.reservations.rows) =
      bookings propertyId db := rfl
  simp only [createTx, recordEvent, eval_simps, eval_checkNewBooking h,
    Prog.eval_writeChecked_active, id_eq, hcount]
  cases hfree : db.reservationTaken created with
  | true => simp [HotelDb.insertReservation, created, hfree]
  | false => simp [HotelDb.insertReservation, created, hfree, applied]

variable {body : ℕ → Op ReservationDto}

theorem eval_createAttempts {taken : ℕ → Bool} {out : ℕ → ReservationDto} {next : ℕ → HotelDb}
    (hbody : ∀ attempt, (body attempt).eval .idle db =
      if taken attempt then (.error .uniqueViolation, .idle, db)
      else (.ok (out attempt), .idle, next attempt)) :
    ∀ left attempt, attempt + left = NUMBER_ATTEMPTS → ∀ k, attempt ≤ k → k < NUMBER_ATTEMPTS →
      (∀ a, attempt ≤ a → a < k → taken a = true) → taken k = false →
      (createAttempts body left attempt).eval .idle db = (.ok (out k), .idle, next k) := by
  intro left
  induction left with
  | zero =>
    intro attempt hsum k hle hlt
    omega
  | succ left ih =>
    intro attempt hsum k hle hlt htaken hfree
    rw [createAttempts, eval_tryCatch, hbody]
    by_cases hk : attempt = k
    · subst hk
      simp [hfree]
    · have hretry : attempt < NUMBER_ATTEMPTS - 1 := by
        unfold NUMBER_ATTEMPTS at *
        omega
      rw [htaken attempt (Nat.le_refl _) (by omega)]
      simp only [if_true, hretry, and_self]
      exact ih (attempt + 1) (by omega) k (by omega) hlt (fun a ha hak => htaken a (by omega) hak)
        hfree

theorem eval_createAttempts_taken
    (hbody : ∀ attempt < NUMBER_ATTEMPTS, (body attempt).eval .idle db =
      (.error .uniqueViolation, .idle, db)) :
    ∀ left attempt, 0 < left → attempt + left = NUMBER_ATTEMPTS →
      (createAttempts body left attempt).eval .idle db = (.error .uniqueViolation, .idle, db) := by
  intro left
  induction left with
  | zero =>
    intro attempt hpos
    omega
  | succ left ih =>
    intro attempt _ hsum
    rw [createAttempts, eval_tryCatch, hbody attempt (by omega)]
    by_cases hlast : attempt < NUMBER_ATTEMPTS - 1
    · simp only [hlast, and_self, if_true]
      exact ih (attempt + 1) (by omega) (by omega)
    · simp [hlast]

theorem eval_requestedRoom (hroom : ∀ roomId, dto.roomId = some roomId →
      ∃ room, roomOf propertyId roomId db = some room ∧ room.roomTypeId = dto.roomTypeId) :
    (forSome dto.roomId fun roomId => do
      let room ← requireRoom propertyId roomId
      throwIf (room.roomTypeId ≠ dto.roomTypeId) .roomTypeMismatch : Op Unit).eval .idle db =
        (.ok (), .idle, db) := by
  cases hr : dto.roomId with
  | none => rfl
  | some roomId =>
    obtain ⟨room, hfound, hsame⟩ := hroom roomId hr
    simp [requireRoom, hfound, hsame]

theorem eval_requestedRoom_refused (hroom : ¬∀ roomId, dto.roomId = some roomId →
      ∃ room, roomOf propertyId roomId db = some room ∧ room.roomTypeId = dto.roomTypeId) :
    ∃ e, (forSome dto.roomId fun roomId => do
      let room ← requireRoom propertyId roomId
      throwIf (room.roomTypeId ≠ dto.roomTypeId) .roomTypeMismatch : Op Unit).eval .idle db =
        (.error e, .idle, db) := by
  cases hr : dto.roomId with
  | none => exact absurd (fun roomId h => by rw [hr] at h; cases h) hroom
  | some roomId =>
    cases hfound : roomOf propertyId roomId db with
    | none => exact ⟨.roomNotFound, by simp [requireRoom, hfound]⟩
    | some room =>
      have hother : room.roomTypeId ≠ dto.roomTypeId := fun hsame =>
        hroom fun id h => ⟨room, by rw [hr] at h; cases h; exact hfound, hsame⟩
      exact ⟨.roomTypeMismatch, by simp [requireRoom, hfound, hother]⟩

theorem eval_create_attempts {type : RoomType} {nightly : Option (List ℤ)}
    (hdates : dto.checkIn < dto.checkOut)
    (htype : roomTypeOf propertyId dto.roomTypeId db = some type)
    (hnightly : ((quoteUnlessGiven env propertyId dto type).run db).res = .ok nightly)
    (hroom : ∀ roomId, dto.roomId = some roomId →
      ∃ room, roomOf propertyId roomId db = some room ∧ room.roomTypeId = dto.roomTypeId) :
    ∃ (hold : Option ℤ) (body : ℕ → Op ReservationDto),
      (∀ a, body a = do
        let r ← createTx propertyId dto (dto.status.getD .PENDING) (rulesOf env propertyId dto db)
          actorStaffId fun count =>
            newReservation env propertyId dto hdates (dto.status.getD .PENDING)
              (storedRate dto type nightly) (storedTotal dto type nightly) type.currency hold
              actorStaffId count a
        hydrate (some r)) ∧
      (create env propertyId dto actorStaffId).eval .idle db =
        (createAttempts body NUMBER_ATTEMPTS 0).eval .idle db := by
  obtain ⟨hold, hhold⟩ := @eval_deadline env propertyId dto db (dto.status.getD .PENDING)
  have hquote := eval_of_readOnly (quoteUnlessGiven_readOnly env propertyId dto type) hnightly
  have htypeId : type.id = dto.roomTypeId :=
    key_of_find? (Option.eq_some_of_filter_eq_some htype)
  have hrules := @eval_rulesFor env propertyId dto db type htypeId
  have hassert : assertDateOrder dto.checkIn dto.checkOut = .ok ⟨hdates⟩ := dif_pos hdates
  have hasked := eval_requestedRoom hroom
  refine ⟨hold, _, fun a => rfl, ?_⟩
  simp only [create, eval_simps, hassert, eval_requireRoomType, htype, Option.elim_some, hasked,
    hquote, hrules, hhold]
  rcases nightly with _ | (_ | ⟨n, ns⟩)
  · rfl
  · rfl
  · rfl

theorem eval_create (h : ChecksPass env propertyId dto db) :
    ∃ (row : ℕ → Reservation) (body : ℕ → Op ReservationDto),
      (∀ a, (row a).id = env.uuid a ∧ (row a).propertyId = propertyId ∧
        (row a).reservationNumber = formatReservationNumber (bookings propertyId db + 1 + a)) ∧
      (∀ type prices, roomTypeOf propertyId dto.roomTypeId db = some type →
        ((quoteUnlessGiven env propertyId dto type).run db).res = .ok (some prices) →
        ∀ a, (row a).totalPaise = prices.sum) ∧
      (create env propertyId dto actorStaffId).eval .idle db =
        (createAttempts body NUMBER_ATTEMPTS 0).eval .idle db ∧
      ∀ a, ∃ out e, out.row = row a ∧ (body a).eval .idle db =
        if db.reservationTaken (row a) then (.error .uniqueViolation, .idle, db)
        else (.ok out, .idle,
          { db with reservations := db.reservations.insert (row a) }.recordEvent e) := by
  obtain ⟨type, htype, nightly, hnightly⟩ := h.type
  obtain ⟨hold, body, hbody, heval⟩ :=
    @eval_create_attempts env propertyId dto actorStaffId db type nightly h.dates htype hnightly
      h.room
  let row (a count : ℕ) : Reservation :=
    newReservation env propertyId dto h.dates (dto.status.getD .PENDING)
      (storedRate dto type nightly) (storedTotal dto type nightly) type.currency hold actorStaffId
      count a
  refine ⟨fun a => row a (bookings propertyId db), body, fun a => ⟨rfl, rfl, rfl⟩, ?_, heval,
    fun a => ?_⟩
  · intro type' prices htype' hprices a
    obtain rfl : type = type' := Option.some.inj (htype.symm.trans htype')
    obtain rfl : nightly = some prices := Except.ok.inj (hnightly.symm.trans hprices)
    rfl
  · have htx := @eval_createTx env propertyId dto actorStaffId db h (row a)
    rw [hbody, eval_bind, htx]
    cases htaken : db.reservationTaken (row a (bookings propertyId db)) with
    | true =>
      simp only [if_true]
      exact ⟨hydrated db (row a (bookings propertyId db)), ⟨0, "", none, .none⟩, rfl, trivial⟩
    | false =>
      simp only [Bool.false_eq_true, if_false, eval_hydrate]
      exact ⟨_, _, rfl, rfl⟩

/-- A booking whose other checks pass stores a row when one of its numbers is free. -/
theorem create_books (h : ChecksPass env propertyId dto db) {k : ℕ} (hk : k < NUMBER_ATTEMPTS)
    (hnew : db.reservations.hasKey (env.uuid k) = false) (hfree : NumberFree propertyId db k) :
    ∃ out e, out.row.propertyId = propertyId ∧ db.reservationTaken out.row = false ∧
      (∀ type prices, roomTypeOf propertyId dto.roomTypeId db = some type →
        ((quoteUnlessGiven env propertyId dto type).run db).res = .ok (some prices) →
        out.row.totalPaise = prices.sum) ∧
      (create env propertyId dto actorStaffId).eval .idle db = (.ok out, .idle,
        { db with reservations := db.reservations.insert out.row }.recordEvent e) := by
  obtain ⟨row, body, hrow, htotal, heval, hbody⟩ :=
    @eval_create env propertyId dto actorStaffId db h
  have hrowFree : db.reservationTaken (row k) = false := by
    obtain ⟨hid, hproperty, hnumber⟩ := hrow k
    refine reservationTaken_eq_false.mpr ⟨hid ▸ hnew, fun r hr hp => ?_⟩
    rw [hnumber]
    exact hfree r hr (hp.trans hproperty)
  -- the first attempt that is not refused
  obtain ⟨m, ⟨hm, hmfree⟩, hmin⟩ :
      ∃ m, (m < NUMBER_ATTEMPTS ∧ db.reservationTaken (row m) = false) ∧
      ∀ a < m, ¬(a < NUMBER_ATTEMPTS ∧ db.reservationTaken (row a) = false) := by
    have hex : ∃ m, m < NUMBER_ATTEMPTS ∧ db.reservationTaken (row m) = false := ⟨k, hk, hrowFree⟩
    exact ⟨Nat.find hex, Nat.find_spec hex, fun a ha => Nat.find_min hex ha⟩
  choose out e hout hbody using hbody
  have hrun := eval_createAttempts hbody NUMBER_ATTEMPTS 0 (by omega) m (Nat.zero_le m) hm
    (fun a _ ha => ?_) hmfree
  · refine ⟨out m, e m, ?_, ?_, fun type prices htype hprices => ?_, ?_⟩
    · rw [hout]
      exact (hrow m).2.1
    · rw [hout]
      exact hmfree
    · rw [hout]
      exact htotal type prices htype hprices m
    · rw [heval, hrun, hout]
  · by_contra hfalse
    exact hmin a ha ⟨by omega, by simpa using hfalse⟩

theorem create_succeeds (h : ChecksPass env propertyId dto db) (hids : FreshIds env db)
    {k : ℕ} (hk : k < NUMBER_ATTEMPTS) (hfree : NumberFree propertyId db k) :
    ∃ out, ((create env propertyId dto actorStaffId).run db).res = .ok out := by
  obtain ⟨out, e, -, -, -, heval⟩ :=
    @create_books env propertyId dto actorStaffId db h k hk (hids k hk) hfree
  rw [Prog.run_res, heval]
  exact ⟨out, rfl⟩

theorem create_jams (h : ChecksPass env propertyId dto db)
    (htaken : ∀ k < NUMBER_ATTEMPTS, ¬NumberFree propertyId db k) :
    (create env propertyId dto actorStaffId).eval .idle db =
      (.error .uniqueViolation, .idle, db) := by
  obtain ⟨row, body, hrow, -, heval, hbody⟩ := @eval_create env propertyId dto actorStaffId db h
  rw [heval, eval_createAttempts_taken (fun a ha => ?_) NUMBER_ATTEMPTS 0 (by decide) rfl]
  obtain ⟨out, e, -, hbody⟩ := hbody a
  have hrowTaken : db.reservationTaken (row a) = true := by
    by_contra hfalse
    obtain ⟨-, hproperty, hnumber⟩ := hrow a
    refine htaken a ha fun r hr hp => ?_
    rw [← hnumber]
    exact (reservationTaken_eq_false.mp (by simpa using hfalse)).2 r hr (hp.trans hproperty.symm)
  rw [hbody, hrowTaken]
  rfl

/-- A committed booking without a room of its own fails as the capacity check does. -/
theorem create_refused {type : RoomType} {nightly : Option (List ℤ)} {e : Err}
    (hdates : dto.checkIn < dto.checkOut)
    (htype : roomTypeOf propertyId dto.roomTypeId db = some type)
    (hnightly : ((quoteUnlessGiven env propertyId dto type).run db).res = .ok nightly)
    (hroom : dto.roomId = none) (hstatus : dto.status = some .CONFIRMED)
    (hrefused : capacityVerdict propertyId dto.roomTypeId dto.checkIn dto.checkOut none
      (rulesOf env propertyId dto db) db = .error e) (he : e ≠ .uniqueViolation) :
    (create env propertyId dto actorStaffId).eval .idle db = (.error e, .idle, db) := by
  obtain ⟨hold, body, hbody, heval⟩ :=
    @eval_create_attempts env propertyId dto actorStaffId db type nightly hdates htype hnightly
      fun roomId h => by rw [hroom] at h; cases h
  have hfirst : (body 0).eval .idle db = (.error e, .idle, db) := by
    simp only [hbody, hstatus, Option.getD_some, createTx, checkNewBooking, hroom, eval_simps,
      eval_forSome_none, eval_assertTypeCapacity, id_eq, hrefused]
  rw [heval, NUMBER_ATTEMPTS, createAttempts, eval_tryCatch, hfirst]
  simp [he]

theorem checkNewBooking_cases (status : BookingStatus) (rules : Option (List DayRules)) :
    ∃ verdict, (checkNewBooking propertyId dto status rules).eval (.active id) db =
      (verdict, .active id, db) := by
  cases status with
  | PENDING => exact ⟨_, rfl⟩
  | CONFIRMED =>
    simp only [checkNewBooking, eval_bind]
    cases hroom : dto.roomId with
    | none => simp
    | some roomId =>
      simp only [eval_forSome_some, eval_assertRoomFree]
      split_ifs <;> simp

theorem free_of_checkNewBooking {rules : Option (List DayRules)}
    (hpass : (checkNewBooking propertyId dto (dto.status.getD .PENDING) rules).eval (.active id)
      db = (.ok (), .active id, db)) (hstatus : dto.status = some .CONFIRMED) :
    (∀ roomId, dto.roomId = some roomId → RoomProbe.Clear
      { propertyId, roomId, checkIn := dto.checkIn, checkOut := dto.checkOut } db) ∧
    capacityVerdict propertyId dto.roomTypeId dto.checkIn dto.checkOut none rules db = .ok () := by
  simp only [hstatus, Option.getD_some, checkNewBooking, eval_bind] at hpass
  cases hroom : dto.roomId with
  | none =>
    simp only [hroom, eval_forSome_none, eval_assertTypeCapacity, id_eq, Prod.mk.injEq,
      and_true] at hpass
    exact ⟨(fun roomId h => by cases h), hpass⟩
  | some roomId =>
    simp only [hroom, eval_forSome_some, eval_assertRoomFree, id_eq] at hpass
    by_cases hclear : RoomProbe.Clear
        { propertyId, roomId, checkIn := dto.checkIn, checkOut := dto.checkOut } db
    · simp only [if_pos hclear, eval_assertTypeCapacity, id_eq, Prod.mk.injEq, and_true] at hpass
      exact ⟨(fun roomId' h => by cases h; exact hclear), hpass⟩
    · simp only [if_neg hclear] at hpass
      cases hpass

/-- An attempt throws and changes nothing, or its checks pass and it stores its row. -/
theorem createTx_cases (status : BookingStatus) (rules : Option (List DayRules))
    (row : ℕ → Reservation) :
    (∃ e, (createTx propertyId dto status rules actorStaffId row).eval .idle db =
        (.error e, .idle, db)) ∨
      (checkNewBooking propertyId dto status rules).eval (.active id) db =
        (.ok (), .active id, db) ∧
      db.reservationTaken (row (bookings propertyId db)) = false ∧ ∃ e,
        (createTx propertyId dto status rules actorStaffId row).eval .idle db =
          (.ok (row (bookings propertyId db)), .idle,
            { db with
              reservations := db.reservations.insert (row (bookings propertyId db))
            }.recordEvent e) := by
  obtain ⟨verdict, hchecks⟩ := @checkNewBooking_cases propertyId dto db status rules
  have hcount : (List.countP (fun r => decide (r.propertyId = propertyId)) db.reservations.rows) =
      bookings propertyId db := rfl
  simp only [createTx, recordEvent, eval_simps, hchecks]
  cases verdict with
  | error e => exact .inl ⟨e, rfl⟩
  | ok _ =>
    simp only [eval_select_active, Prog.eval_writeChecked_active, id_eq, hcount]
    cases hfree : db.reservationTaken (row (bookings propertyId db)) with
    | true => exact .inl ⟨.uniqueViolation, by simp [HotelDb.insertReservation, hfree]⟩
    | false =>
      refine .inr ⟨trivial, rfl, ⟨(row (bookings propertyId db)).id, "created", actorStaffId,
        .created status.toStatus dto.checkIn dto.checkOut⟩, ?_⟩
      simp [HotelDb.insertReservation, hfree, applied]

theorem createAttempts_cases (hbody : ∀ a, (∃ e, (body a).eval .idle db = (.error e, .idle, db)) ∨
      ∃ out db', (body a).eval .idle db = (.ok out, .idle, db')) :
    ∀ left attempt, attempt + left = NUMBER_ATTEMPTS →
      (∃ e, (createAttempts body left attempt).eval .idle db = (.error e, .idle, db)) ∨
      ∃ a < NUMBER_ATTEMPTS, ∃ out db', (body a).eval .idle db = (.ok out, .idle, db') ∧
        (createAttempts body left attempt).eval .idle db = (.ok out, .idle, db') := by
  intro left
  induction left with
  | zero => exact fun _ _ => .inl ⟨_, rfl⟩
  | succ left ih =>
    intro attempt hsum
    rw [createAttempts, eval_tryCatch]
    rcases hbody attempt with ⟨e, he⟩ | ⟨out, db', hok⟩
    · rw [he]
      by_cases hretry : e = .uniqueViolation ∧ attempt < NUMBER_ATTEMPTS - 1
      · simp only [if_pos hretry]
        exact ih (attempt + 1) (by omega)
      · simp only [if_neg hretry]
        exact .inl ⟨e, rfl⟩
    · rw [hok]
      exact .inr ⟨attempt, by omega, out, db', hok, rfl⟩

/-- A booking on its own throws and changes nothing, or its checks pass and it stores one row made
of the request. -/
theorem create_cases (env : Env) (propertyId : Id) (dto : CreateReservationDto)
    (actorStaffId : Option Id) (db : HotelDb) :
    (∃ e, (create env propertyId dto actorStaffId).eval .idle db = (.error e, .idle, db)) ∨
    ChecksPass env propertyId dto db ∧
    ∃ (hdates : dto.checkIn < dto.checkOut) (type : RoomType) (nightly : Option (List ℤ))
      (hold : Option ℤ) (a : ℕ) (out : ReservationDto) (e : ReservationEvent),
      roomTypeOf propertyId dto.roomTypeId db = some type ∧
      ((quoteUnlessGiven env propertyId dto type).run db).res = .ok nightly ∧
      a < NUMBER_ATTEMPTS ∧
      out.row = newReservation env propertyId dto hdates (dto.status.getD .PENDING)
        (storedRate dto type nightly) (storedTotal dto type nightly) type.currency hold
        actorStaffId (bookings propertyId db) a ∧
      db.reservationTaken out.row = false ∧
      (create env propertyId dto actorStaffId).eval .idle db = (.ok out, .idle,
        { db with reservations := db.reservations.insert out.row }.recordEvent e) := by
  by_cases hdates : dto.checkIn < dto.checkOut
  swap
  · refine .inl ⟨.invalidDates, ?_⟩
    have hassert : assertDateOrder dto.checkIn dto.checkOut = .error .invalidDates := dif_neg hdates
    simp only [create, eval_simps, hassert]
  have hassert : assertDateOrder dto.checkIn dto.checkOut = .ok ⟨hdates⟩ := dif_pos hdates
  cases htype : roomTypeOf propertyId dto.roomTypeId db with
  | none =>
    refine .inl ⟨.roomTypeNotFound, ?_⟩
    simp only [create, eval_simps, hassert, eval_requireRoomType, htype, Option.elim_none]
  | some type =>
    by_cases hroom : ∀ roomId, dto.roomId = some roomId →
        ∃ room, roomOf propertyId roomId db = some room ∧ room.roomTypeId = dto.roomTypeId
    swap
    · obtain ⟨e, hrefused⟩ := eval_requestedRoom_refused hroom
      exact .inl ⟨e, by simp only [create, eval_simps, hassert, eval_requireRoomType, htype,
        Option.elim_some, hrefused]⟩
    cases hnightly : ((quoteUnlessGiven env propertyId dto type).run db).res with
    | error e =>
      have hquote := eval_of_readOnly_error (quoteUnlessGiven_readOnly env propertyId dto type)
        hnightly
      exact .inl ⟨e, by simp only [create, eval_simps, hassert, eval_requireRoomType, htype,
        Option.elim_some, eval_requestedRoom hroom, hquote]⟩
    | ok nightly =>
      obtain ⟨hold, body, hbody, heval⟩ :=
        @eval_create_attempts env propertyId dto actorStaffId db type nightly hdates htype hnightly
          hroom
      let row (a count : ℕ) : Reservation :=
        newReservation env propertyId dto hdates (dto.status.getD .PENDING)
          (storedRate dto type nightly) (storedTotal dto type nightly) type.currency hold
          actorStaffId count a
      have hattempt (a : ℕ) : (∃ e, (body a).eval .idle db = (.error e, .idle, db)) ∨
          ChecksPass env propertyId dto db ∧ ∃ out e, out.row = row a (bookings propertyId db) ∧
            db.reservationTaken out.row = false ∧ (body a).eval .idle db = (.ok out, .idle,
              { db with reservations := db.reservations.insert out.row }.recordEvent e) := by
        have htx := @createTx_cases propertyId dto actorStaffId db (dto.status.getD .PENDING)
          (rulesOf env propertyId dto db) (row a)
        rw [hbody, eval_bind]
        rcases htx with ⟨e, hrefused⟩ | ⟨hpass, hfree, e, hstored⟩
        · rw [hrefused]
          exact .inl ⟨e, rfl⟩
        · rw [hstored]
          have hchecks : ChecksPass env propertyId dto db :=
            ⟨hdates, ⟨type, htype, nightly, hnightly⟩, hroom, free_of_checkNewBooking hpass⟩
          exact .inr ⟨hchecks, _, e, rfl, hfree, by simp only [eval_hydrate]; rfl⟩
      have hbodies (a : ℕ) : (∃ e, (body a).eval .idle db = (.error e, .idle, db)) ∨
          ∃ out db', (body a).eval .idle db = (.ok out, .idle, db') := by
        rcases hattempt a with hrefused | ⟨-, out, e, -, -, hstored⟩
        · exact .inl hrefused
        · exact .inr ⟨out, _, hstored⟩
      rw [heval]
      rcases createAttempts_cases hbodies NUMBER_ATTEMPTS 0 rfl with
        ⟨e, hrefused⟩ | ⟨a, ha, out, db', hstored, hrun⟩
      · exact .inl ⟨e, hrefused⟩
      · rcases hattempt a with ⟨e, hrefused⟩ | ⟨hchecks, out', e, hrow, hfree, hstored'⟩
        · rw [hrefused] at hstored
          cases hstored
        · obtain ⟨rfl, rfl⟩ : out' = out ∧ _ = db' := by
            simpa using hstored'.symm.trans hstored
          exact .inr
            ⟨hchecks, hdates, type, nightly, hold, a, out', e, rfl, hnightly, ha, hrow, hfree, hrun⟩

/-- The checks pass, and a new id and a free number are left for one of the attempts. -/
structure Bookable (env : Env) (propertyId : Id) (dto : CreateReservationDto) (db : HotelDb) :
    Prop where
  checks : ChecksPass env propertyId dto db
  number : ∃ k < NUMBER_ATTEMPTS, db.reservations.hasKey (env.uuid k) = false ∧
    NumberFree propertyId db k

theorem create_ok_iff : (∃ out, ((create env propertyId dto actorStaffId).run db).res = .ok out) ↔
    Bookable env propertyId dto db := by
  rw [Prog.run_res]
  constructor
  · rintro ⟨out, hout⟩
    rcases create_cases env propertyId dto actorStaffId db with ⟨e, he⟩ |
      ⟨hchecks, hdates, type, nightly, hold, a, out', e, -, -, ha, hrow, hfree, -⟩
    · rw [he] at hout
      cases hout
    · obtain ⟨hid, hnumber⟩ := reservationTaken_eq_false.mp hfree
      rw [hrow] at hid hnumber
      exact ⟨hchecks, a, ha, hid, fun r hr hp => hnumber r hr hp⟩
  · rintro ⟨hchecks, k, hk, hid, hfree⟩
    obtain ⟨out, e, -, -, -, heval⟩ :=
      @create_books env propertyId dto actorStaffId db hchecks k hk hid hfree
    rw [heval]
    exact ⟨out, rfl⟩

end Alone

/-! ## A booking among others -/

/-- The row is what an attempt makes of the request after the count of `b`. -/
structure RowOf (env : Env) (propertyId : Id) (dto : CreateReservationDto) (b : HotelDb)
    (attempt : ℕ) (row : Reservation) : Prop where
  id : row.id = env.uuid attempt
  property : row.propertyId = propertyId
  number : row.reservationNumber =
    formatReservationNumber (bookings propertyId b + 1 + attempt)
  guest : row.guest = dto.guest
  unstamped : row.externalRef = none

/-- What a booking publishes: its row, unless an index refuses it, and the event. -/
inductive BookedWrite (env : Env) (propertyId : Id) (dto : CreateReservationDto) (h : Trace)
    (w : HotelDb → HotelDb) : Prop where
  | mk {b : HotelDb} {attempt : ℕ} {row : Reservation} {e : ReservationEvent}
      (hsaw : .saw (.stays propertyId) b ∈ h) (hattempt : attempt < NUMBER_ATTEMPTS)
      (hrow : RowOf env propertyId dto b attempt row)
      (hw : ∀ db, w db = (applied (fun db : HotelDb => db.insertReservation row) db).recordEvent e)

section Among

variable {env : Env} {propertyId : Id} {dto : CreateReservationDto} {actorStaffId : Option Id}
  {h : Trace}

theorem wp_createTx_row {status : BookingStatus} {rules : Option (List DayRules)}
    {row : ℕ → Reservation} {attempt : ℕ} (hattempt : attempt < NUMBER_ATTEMPTS)
    (hrow : ∀ b, RowOf env propertyId dto b attempt (row (bookings propertyId b))) :
    (createTx propertyId dto status rules actorStaffId row).wp (BookedWrite env propertyId dto)
      (fun _ _ t => t = .idle) (fun _ _ t => t = .idle) h .idle := by
  simp only [createTx, recordEvent, wp_simps]
  refine wp_checkNewBooking propertyId (fun _ _ _ _ => trivial) fun o _ _ => ?_
  simp only [wp_simps]
  intro b _ _ _ _
  exact .mk (b := b) List.mem_cons_self hattempt (hrow b) fun _ => rfl

theorem wp_createAttempts_rows {C : Trace → (HotelDb → HotelDb) → Prop}
    {body : ℕ → Op ReservationDto}
    (hbody : ∀ attempt h, attempt < NUMBER_ATTEMPTS → (body attempt).wp C
      (fun _ _ t => t = .idle) (fun _ _ t => t = .idle) h .idle) :
    ∀ left attempt h, attempt + left ≤ NUMBER_ATTEMPTS →
      (createAttempts body left attempt).wp C (fun _ _ t => t = .idle) (fun _ _ t => t = .idle)
        h .idle := by
  intro left
  induction left with
  | zero => exact fun _ _ _ => rfl
  | succ left ih =>
    intro attempt h hle
    rw [createAttempts, wp_tryCatch]
    refine wp_mono (fun _ _ hw => hw) (fun _ _ _ hP => hP) (fun e h' t ht => ?_) _ _ _
      (hbody attempt h (by omega))
    subst ht
    rw [wp_ite]
    exact ⟨fun _ => ih (attempt + 1) h' (by omega), fun _ => rfl⟩

theorem wp_create (env : Env) (propertyId : Id) (dto : CreateReservationDto)
    (actorStaffId : Option Id) (h : Trace) :
    (create env propertyId dto actorStaffId).wp (BookedWrite env propertyId dto)
      (fun _ _ t => t = .idle) (fun _ _ t => t = .idle) h .idle := by
  simp only [create, wp_simps, wp_requireRoomType]
  intro ordered _ b type _
  refine wp_requestedRoom propertyId (fun _ _ => rfl) fun o _ _ => ?_
  refine (quoteUnlessGiven_readOnly env propertyId dto type).wp_idle _ (fun nightly _ _ => ?_)
    fun _ _ _ => rfl
  refine wp_rulesFor (fun _ _ => rfl) fun rules _ _ _ => ?_
  refine (deadlineIfPending_readOnly env propertyId _ _).wp_idle _ (fun hold _ _ => ?_)
    fun _ _ _ => rfl
  refine wp_createAttempts_rows (fun attempt h hattempt => ?_) NUMBER_ATTEMPTS 0 _ (Nat.le_refl _)
  rw [wp_bind]
  refine wp_mono (fun _ _ hw => hw) (fun _ h t ht => ?_) (fun _ _ _ ht => ht) _ _ _
    (wp_createTx_row hattempt fun b => ⟨rfl, rfl, rfl, rfl, rfl⟩)
  subst ht
  exact (hydrate_readOnly _).wp_idle _ (fun _ _ _ => rfl) fun _ _ _ => rfl

end Among

end Travelo

import Travelo.Ota.Ingestion

/-!
# What a booking is stored as

One booking through `ingestBooking`, with nothing else running: nothing but a log line
(`Ignored`), or one reservation, made by `create` for the first entry of `rooms` and stamped with
the booking's id (`Taken`).

The rate that `create` is given is a nightly one, and the amounts of a booking are for the whole
stay, so `ingested_as_sold`: a booking is stored as it was sold exactly when it has one room and
its amount, taken for each night, comes to that amount.
-/

namespace Travelo

open ReadCommitted ReservationsService ChannexSyncService

/-- The type of ours that an entry of `rooms` is mapped to. -/
def mappedType (cfg : ChannexConnectionConfig) (room : ChannexBookingRoom) : Option Id :=
  (nonEmpty room.room_type_id).bind (invertRoomTypeMap cfg)

/-- An amount in paise. -/
def ChannexAmount.inPaise : ChannexAmount → Option ℤ
  | .decimal false digits decimals =>
    some ((Claims.Binary64.ratio digits (10 ^ decimals)).scale 100).round
  | _ => none

/-- The reservations of `after` that were not there before. -/
def newReservations (before after : HotelDb) : List Reservation :=
  after.reservations.rows.filter fun r => !before.reservations.hasKey r.id

/-- A reservation for each entry of `rooms`, and together what the booking was sold for. -/
structure AsSold (cfg : ChannexConnectionConfig) (attrs : ChannexBookingAttributes)
    (created : List Reservation) : Prop where
  covers : (attrs.rooms.map (mappedType cfg)).Subperm (created.map fun r => some r.roomTypeId)
  total : attrs.amount.bind ChannexAmount.inPaise = some (created.map (·.totalPaise)).sum

/-- What `ingestBooking` hands to `create`, if it comes to that. -/
def requested (cfg : ChannexConnectionConfig) (booking : ChannexBooking) :
    Option CreateReservationDto :=
  if booking.attributes.cancelled then none
  else do
    let roomTypeId ← mappedType cfg booking.attributes.room
    let checkIn ← booking.attributes.checkIn
    let checkOut ← booking.attributes.checkOut
    return bookingDto booking.id booking.attributes roomTypeId checkIn checkOut

/-- The total of the stay by the rate the booking gives, for each night; without one, by the
hotel's own prices. -/
def stayTotal (env : Env) (propertyId : Id) (cfg : ChannexConnectionConfig)
    (booking : ChannexBooking) (db : HotelDb) : Option ℤ := do
  let dto ← requested cfg booking
  match booking.attributes.ratePaise.filter fun rate => rate ≠ 0 with
  | some rate => return rate * nightsBetween dto.checkIn dto.checkOut
  | none =>
    let type ← roomTypeOf propertyId dto.roomTypeId db
    let prices ← ((nightlyQuote env propertyId type.id dto.checkIn dto.checkOut none
      type.baseRate).run db).res.toOption
    return prices.sum

theorem requested_eq_some {cfg : ChannexConnectionConfig} {booking : ChannexBooking}
    {dto : CreateReservationDto} : requested cfg booking = some dto ↔
      booking.attributes.cancelled = false ∧ ∃ roomTypeId,
        mappedType cfg booking.attributes.room = some roomTypeId ∧ ∃ checkIn,
        booking.attributes.checkIn = some checkIn ∧ ∃ checkOut,
        booking.attributes.checkOut = some checkOut ∧
          bookingDto booking.id booking.attributes roomTypeId checkIn checkOut = dto := by
  unfold requested
  cases booking.attributes.cancelled with
  | true => simp
  | false => simp [Option.bind_eq_some_iff]

section Ingest

variable {env : Env} {connectionId propertyId : Id} {cfg : ChannexConnectionConfig}
  {booking : ChannexBooking} {db : HotelDb}

theorem eval_writeLog (direction : ChannexDirection) (entity : ChannexEntity)
    (status : ChannexSyncStatus) (request response error : Option String) : ∃ log,
    (writeLog connectionId direction entity status request response error).eval .idle db =
      (.ok (), .idle, { db with channexSyncLog := log }) :=
  ⟨_, rfl⟩

/-- A booking that is left alone: only the log is written. -/
def Ignored (env : Env) (connectionId propertyId : Id) (cfg : ChannexConnectionConfig)
    (booking : ChannexBooking) (db : HotelDb) (result : Ingested) : Prop :=
  ∃ log, (ingestBooking env connectionId propertyId cfg booking).eval .idle db =
    (.ok result, .idle, { db with channexSyncLog := log })

theorem ingest_stamped (hid : booking.id ≠ "") (hsome : stamped propertyId booking.id db ≠ []) :
    Ignored env connectionId propertyId cfg booking db .duplicate := by
  refine ⟨db.channexSyncLog, ?_⟩
  have hfound : 0 < ((stamped propertyId booking.id db).take 1).length := by
    cases hrows : stamped propertyId booking.id db with
    | nil => exact absurd hrows hsome
    | cons r rs => simp
  simp only [ingestBooking, if_neg hid, eval_tryCatch, eval_simps, if_pos hfound]

theorem ingestNew_unrequested (hnone : requested cfg booking = none) : ∃ log,
    (ingestNew env connectionId propertyId cfg booking.id booking.attributes).eval .idle db =
      (.ok .skipped, .idle, { db with channexSyncLog := log }) := by
  unfold requested at hnone
  unfold ingestNew
  cases hcancelled : booking.attributes.cancelled with
  | true => exact ⟨_, rfl⟩
  | false =>
    simp only [hcancelled, Bool.false_eq_true, if_false] at hnone ⊢
    cases hmapped : mappedType cfg booking.attributes.room with
    | none =>
      unfold mappedType at hmapped
      rw [hmapped]
      exact ⟨_, rfl⟩
    | some roomTypeId =>
      rw [hmapped] at hnone
      unfold mappedType at hmapped
      rw [hmapped]
      cases hin : booking.attributes.checkIn with
      | none => exact ⟨_, rfl⟩
      | some checkIn =>
        cases hout : booking.attributes.checkOut with
        | none => exact ⟨_, rfl⟩
        | some checkOut => simp [hin, hout] at hnone

theorem ingestNew_requested {dto : CreateReservationDto} (hdto : requested cfg booking = some dto) :
    ingestNew env connectionId propertyId cfg booking.id booking.attributes =
      takeBooking env connectionId propertyId booking.id dto := by
  obtain ⟨hcancelled, roomTypeId, hmapped, checkIn, hin, checkOut, hout, hdto⟩ :=
    requested_eq_some.mp hdto
  unfold mappedType at hmapped
  unfold ingestNew
  rw [hcancelled, hmapped, hin, hout, ← hdto]
  rfl

theorem eval_ingestBooking (hid : booking.id ≠ "") (hnone : stamped propertyId booking.id db = []) :
    (ingestBooking env connectionId propertyId cfg booking).eval .idle db =
      match (ingestNew env connectionId propertyId cfg booking.id booking.attributes).eval .idle
        db with
      | (.ok r, t, db') => (.ok r, t, db')
      | (.error e, t, db') =>
        (do
          writeLog connectionId .PULL .BOOKING .FAILED (some booking.id) none (some (reason e))
          return Ingested.skipped : Op Ingested).eval t db' := by
  simp only [ingestBooking, if_neg hid, eval_tryCatch, eval_simps, hnone, List.take_nil,
    List.length_nil, Nat.lt_irrefl, if_false]
  split <;> simp_all

theorem ingest_refused (hid : booking.id ≠ "") (hnone : stamped propertyId booking.id db = [])
    (hrefused : ∀ dto, requested cfg booking = some dto → ∃ e,
      (create env propertyId dto none).eval .idle db = (.error e, .idle, db)) :
    Ignored env connectionId propertyId cfg booking db .skipped := by
  rw [Ignored, eval_ingestBooking hid hnone]
  cases hdto : requested cfg booking with
  | none =>
    obtain ⟨log, heval⟩ :=
      @ingestNew_unrequested env connectionId propertyId cfg booking db hdto
    rw [heval]
    exact ⟨log, rfl⟩
  | some dto =>
    obtain ⟨e, he⟩ := hrefused dto hdto
    rw [ingestNew_requested hdto, takeBooking, eval_bind, he]
    exact ⟨_, rfl⟩

theorem eval_stamp {row : Reservation} {db' : HotelDb}
    (hnone : stamped propertyId booking.id db = []) (hproperty : row.propertyId = propertyId)
    (hfresh : db.reservations.hasKey row.id = false)
    (hrows : db'.reservations.rows = db.reservations.rows ++ [row]) :
    ∃ db'', stampReference row.id booking.id db' = .ok db'' ∧ db''.reservations.rows =
      db.reservations.rows ++ [{ row with externalRef := some booking.id }] := by
  have hmem : row ∈ db'.reservations := by simp [← mem_rows, hrows]
  have hfree : referenceTaken row.id booking.id db' = false := by
    rw [referenceTaken, find?_key hmem, Option.any_some, List.any_eq_false]
    intro r' hr'
    rw [hrows] at hr'
    rcases List.mem_append.mp hr' with hold | hnew
    · intro htaken
      have hstamped : r' ∈ stamped propertyId booking.id db := by
        refine List.mem_filter.mpr ⟨hold, ?_⟩
        simp only [and_decide_eq] at htaken ⊢
        exact ⟨htaken.1.2.trans hproperty, htaken.2⟩
      rw [hnone] at hstamped
      cases hstamped
    · rw [List.mem_singleton.mp hnew]
      simp
  refine ⟨db'.updateReservation row.id fun r => { r with externalRef := some booking.id }, ?_, ?_⟩
  · simp [stampReference, hfree]
  · -- the row is the only one of its id
    have hothers : db.reservations.rows.map (fun r =>
        if r.id = row.id then { r with externalRef := some booking.id } else r) =
          db.reservations.rows := by
      refine (List.map_congr_left fun r hr => ?_).trans (List.map_id _)
      have hne : r.id ≠ row.id := fun heq => Table.hasKey_eq_false.mp hfresh r hr heq
      simp [hne]
    simp only [HotelDb.updateReservation, Table.update, hrows, List.map_append, List.map_cons,
      List.map_nil, decide_eq_true_eq, hothers, if_true]

theorem ingest_taken (hid : booking.id ≠ "") (hnone : stamped propertyId booking.id db = [])
    {dto : CreateReservationDto} (hdto : requested cfg booking = some dto) {out : ReservationDto}
    {e : ReservationEvent} (hproperty : out.row.propertyId = propertyId)
    (hfree : db.reservationTaken out.row = false)
    (heval : (create env propertyId dto none).eval .idle db = (.ok out, .idle,
      { db with reservations := db.reservations.insert out.row }.recordEvent e)) :
    ∃ after, (ingestBooking env connectionId propertyId cfg booking).eval .idle db =
        (.ok .created, .idle, after) ∧ after.reservations.rows =
      db.reservations.rows ++ [{ out.row with externalRef := some booking.id }] := by
  have hfresh : db.reservations.hasKey out.row.id = false := (reservationTaken_eq_false.mp hfree).1
  obtain ⟨db'', hstamp, hrows⟩ := @eval_stamp propertyId booking db out.row
    ({ db with reservations := db.reservations.insert out.row }.recordEvent e) hnone hproperty
    hfresh (rows_insert hfresh)
  rw [eval_ingestBooking hid hnone, ingestNew_requested hdto]
  simp only [takeBooking, eval_bind, heval, Prog.eval_writeChecked_idle, hstamp]
  exact ⟨_, rfl, hrows⟩

theorem ingest_created
    (hcreated : ((ingestBooking env connectionId propertyId cfg booking).run db).res =
      .ok .created) :
    ∃ dto type nightly row, requested cfg booking = some dto ∧
      roomTypeOf propertyId dto.roomTypeId db = some type ∧
      ((quoteUnlessGiven env propertyId dto type).run db).res = .ok nightly ∧
      row.roomTypeId = dto.roomTypeId ∧ row.totalPaise = storedTotal dto type nightly ∧
      newReservations db ((ingestBooking env connectionId propertyId cfg booking).run db).db =
        [row] := by
  rw [Prog.run_res] at hcreated
  rw [Prog.run_db]
  have hid : booking.id ≠ "" := by
    intro hempty
    simp only [ingestBooking, if_pos hempty, eval_bind] at hcreated
    obtain ⟨log, hlog⟩ := @eval_writeLog connectionId db .PULL .BOOKING .FAILED none none
      (some "Channex booking had no id — cannot dedupe it, refusing to import")
    rw [hlog] at hcreated
    cases hcreated
  have hnone : stamped propertyId booking.id db = [] := by
    by_contra hsome
    obtain ⟨log, hlog⟩ := @ingest_stamped env connectionId propertyId cfg booking db hid hsome
    rw [hlog] at hcreated
    cases hcreated
  by_cases hrefused : ∀ dto, requested cfg booking = some dto → ∃ e,
      (create env propertyId dto none).eval .idle db = (.error e, .idle, db)
  · obtain ⟨log, hlog⟩ := @ingest_refused env connectionId propertyId cfg booking db hid hnone
      hrefused
    rw [hlog] at hcreated
    cases hcreated
  · push Not at hrefused
    obtain ⟨dto, hdto, hmade⟩ := hrefused
    rcases create_cases env propertyId dto none db with ⟨e, he⟩ |
      ⟨-, ordered, type, nightly, hold, a, out, e, htype, hquote, -, hrow, hfree, heval⟩
    · exact absurd he (hmade e)
    · have hproperty : out.row.propertyId = propertyId := by rw [hrow]; rfl
      obtain ⟨after, hingest, hrows⟩ := @ingest_taken env connectionId propertyId cfg booking db
        hid hnone dto hdto out e hproperty hfree heval
      refine ⟨dto, type, nightly, { out.row with externalRef := some booking.id }, hdto, htype,
        hquote, by rw [hrow]; rfl, by rw [hrow]; rfl, ?_⟩
      rw [hingest, newReservations, hrows, List.filter_append]
      have hold : db.reservations.rows.filter (fun r => !db.reservations.hasKey r.id) = [] :=
        List.filter_eq_nil_iff.mpr fun r hr => by
          simpa using Table.hasKey_iff.mpr ⟨r, hr, rfl⟩
      rw [hold]
      simp [(reservationTaken_eq_false.mp hfree).1]

theorem stayTotal_eq {dto : CreateReservationDto} {type : RoomType} {nightly : Option (List ℤ)}
    (hdto : requested cfg booking = some dto)
    (htype : roomTypeOf propertyId dto.roomTypeId db = some type)
    (hquote : ((quoteUnlessGiven env propertyId dto type).run db).res = .ok nightly) :
    stayTotal env propertyId cfg booking db = some (storedTotal dto type nightly) := by
  obtain ⟨-, roomTypeId, -, checkIn, -, checkOut, -, hdto'⟩ := requested_eq_some.mp hdto
  have hrate : dto.ratePaise = booking.attributes.ratePaise := by rw [← hdto']; rfl
  have hplan : dto.guest.ratePlanId = none := by rw [← hdto']; rfl
  simp only [stayTotal, hdto, Option.bind_eq_bind, Option.bind_some]
  unfold quoteUnlessGiven at hquote
  by_cases hgiven : dto.ratePaise.getD 0 ≠ 0
  · -- the rate is taken for each night
    obtain ⟨rate, hsome⟩ : ∃ rate, booking.attributes.ratePaise = some rate := by
      cases hr : booking.attributes.ratePaise with
      | none => simp [hrate, hr] at hgiven
      | some rate => exact ⟨rate, rfl⟩
    have hnonzero : rate ≠ 0 := by simpa [hrate, hsome] using hgiven
    simp only [if_pos hgiven, Prog.run_res, eval_pure, Except.ok.injEq] at hquote
    subst hquote
    simp [hsome, Option.filter, hnonzero, storedTotal, storedRate, hrate, totalPaise]
  · have hzero : (booking.attributes.ratePaise.filter fun rate => rate ≠ 0) = none := by
      cases hr : booking.attributes.ratePaise with
      | none => rfl
      | some rate =>
        have : rate = 0 := by simpa [hrate, hr] using hgiven
        simp [Option.filter, this]
    obtain ⟨prices, hprices, rfl⟩ : ∃ prices,
        ((nightlyQuote env propertyId type.id dto.checkIn dto.checkOut none type.baseRate).run
          db).res = .ok prices ∧ nightly = some prices := by
      rw [if_neg hgiven, hplan, Prog.run_res] at hquote
      rcases eval_bind_ok (Prod.ext hquote rfl) with ⟨prices, t, db', hprices, hsome⟩
      simp only [Function.comp_apply, eval_ret, Prod.mk.injEq, Except.ok.injEq] at hsome
      rw [Prog.run_res, hprices]
      exact ⟨prices, rfl, hsome.1.symm⟩
    simp only [hzero, htype, Option.bind_some, hprices]
    rfl

end Ingest

/-- A booking that was taken is stored as it was sold exactly when it has one entry and the stay
comes to what it was sold for. -/
theorem ingested_as_sold (env : Env) (connectionId propertyId : Id) (cfg : ChannexConnectionConfig)
    (booking : ChannexBooking) (db : HotelDb)
    (hcreated : ((ingestBooking env connectionId propertyId cfg booking).run db).res =
      .ok .created) :
    AsSold cfg booking.attributes
        (newReservations db ((ingestBooking env connectionId propertyId cfg booking).run db).db) ↔
      booking.attributes.rooms.length = 1 ∧
        stayTotal env propertyId cfg booking db =
          booking.attributes.amount.bind ChannexAmount.inPaise := by
  obtain ⟨dto, type, nightly, row, hdto, htype, hquote, hrow, htotal, hnew⟩ :=
    ingest_created hcreated
  obtain ⟨-, roomTypeId, hmapped, _, -, _, -, hdto'⟩ := requested_eq_some.mp hdto
  have htypeId : row.roomTypeId = roomTypeId := by rw [hrow, ← hdto']; rfl
  rw [hnew, stayTotal_eq hdto htype hquote, ← htotal]
  constructor
  · rintro ⟨hcovers, htotal'⟩
    have hle : booking.attributes.rooms.length ≤ 1 := by simpa using hcovers.length_le
    refine ⟨?_, by simpa using htotal'.symm⟩
    cases hrooms : booking.attributes.rooms with
    | nil => simp [mappedType, ChannexBookingAttributes.room, hrooms, nonEmpty] at hmapped
    | cons room rooms =>
      rw [hrooms] at hle
      simp only [List.length_cons] at hle ⊢
      omega
  · rintro ⟨hone, htotal'⟩
    obtain ⟨room, hrooms⟩ := List.length_eq_one_iff.mp hone
    have hroom : booking.attributes.room = room := by
      simp [ChannexBookingAttributes.room, hrooms]
    refine ⟨?_, by simpa using htotal'.symm⟩
    simp only [hrooms, List.map_cons, List.map_nil, htypeId, ← hroom, hmapped]
    exact List.Subperm.refl _

/-! ## A rate for each night -/

/-- Two nights sold for 500 in all. -/
def twoNightBooking : ChannexBooking where
  id := "bk-2"
  attributes :=
    { arrival_date := some 10
      departure_date := some 12
      amount := some (.decimal false 50000 2)
      rooms := [{ room_type_id := some "cx-deluxe" }] }

/-- Two rooms for a night, 500 each. -/
def twoRoomBooking : ChannexBooking where
  id := "bk-3"
  attributes :=
    { arrival_date := some 10
      departure_date := some 11
      amount := some (.decimal false 100000 2)
      rooms := [{ room_type_id := some "cx-deluxe", amount := some (.decimal false 50000 2) },
        { room_type_id := some "cx-deluxe", amount := some (.decimal false 50000 2) }] }

def ingestEnv : Env := { now := 0, uuid := fun n => n + 1, rates := false }

def mappedConfig : ChannexConnectionConfig := ⟨"cx", [(7, "cx-deluxe")]⟩

/-- The two nights are stored for 1000; of the two rooms one is stored. -/
theorem stored_otherwise :
    (∀ room ∈ twoNightBooking.attributes.rooms ++ twoRoomBooking.attributes.rooms,
      (mappedType mappedConfig room).isSome) ∧
    (let p := ingestBooking ingestEnv 5 1 mappedConfig twoNightBooking
    (p.run mappedHotel).res = .ok .created ∧ ¬AsSold mappedConfig twoNightBooking.attributes
      (newReservations mappedHotel (p.run mappedHotel).db)) ∧
    let p := ingestBooking ingestEnv 5 1 mappedConfig twoRoomBooking
    (p.run mappedHotel).res = .ok .created ∧ ¬AsSold mappedConfig twoRoomBooking.attributes
      (newReservations mappedHotel (p.run mappedHotel).db) := by
  refine ⟨by decide, ⟨by decide +kernel, fun h => ?_⟩, by decide +kernel, fun h => ?_⟩
  · exact absurd h.total (by decide +kernel)
  · exact absurd h.covers.length_le (by decide +kernel)

/-- One room for one night. -/
theorem stored_as_sold : AsSold mappedConfig oneRoomBooking.attributes (newReservations mappedHotel
    ((ingestBooking ingestEnv 5 1 mappedConfig oneRoomBooking).run mappedHotel).db) :=
  (ingested_as_sold ingestEnv 5 1 mappedConfig oneRoomBooking mappedHotel (by decide +kernel)).mpr
    ⟨rfl, by decide +kernel⟩

end Travelo

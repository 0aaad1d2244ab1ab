import Mathlib.Tactic.Ring
import Travelo.Availability.Booking
import Travelo.Reservations.Totals

/-!
# The total of an extended stay

`extendStay` works the total out again: the recorded rate, which is the rounded average of the
nights that were quoted, times all the nights. `extendStay_priced_iff` says when that is what was
quoted and the added nights on top. In one step or in two, the total is the same.
-/

namespace Travelo

open ReadCommitted ReservationsService

/-! ## What the added nights cost -/

section Prices

variable (env : Env) (dto : ExtendStayDto) (before : Reservation) (db : HotelDb)

/-- The price of a night of the booking: the rate of the request where it gives one, else what the
resolver gives for that night in the booking's plan. -/
def nightRate (night : ℤ) : ℤ :=
  dto.ratePaise.getD
    (quoteOf db before.propertyId before.roomTypeId
      (((db.roomTypes.find? before.roomTypeId).map (·.baseRate)).getD 0) before.guest.ratePlanId
      night (addDays night 1) env).sum

/-- The rate the total is worked out from. -/
def flatRate : ℤ := dto.ratePaise.getD before.ratePaise

/-- The nights that are added. -/
def addedNights : List ℤ := datesFrom before.checkOut dto.checkOut

/-- Over the added nights the flat rate is above their prices by as much as it is below what the
nights before were sold for. -/
def FlatRateFits : Prop :=
  ((addedNights dto before).map fun night =>
      flatRate dto before - nightRate env dto before db night).sum =
    before.totalPaise - totalPaise (flatRate dto before) before.checkIn before.checkOut

instance : Decidable (FlatRateFits env dto before db) := by
  unfold FlatRateFits
  infer_instance

end Prices

/-- The stored total of a booking. -/
def totalOf (id : Id) (db : HotelDb) : Option ℤ :=
  (db.reservations.find? id).map (·.totalPaise)

/-- The extension that led from `db` to `after` charges the added nights, and going on to a later
date charges what one extension to that date does. -/
structure ExtensionPriced (env : Env) (propertyId id : Id) (dto : ExtendStayDto)
    (before : Reservation) (db after : HotelDb) : Prop where
  adds : totalOf id after = some (before.totalPaise +
    ((addedNights dto before).map (nightRate env dto before db)).sum)
  inSteps : ∀ env' checkOut staff staff' φ φ' out out',
    ((extendStay env' propertyId id { checkOut } staff).runWith φ after).res = .ok out →
    ((extendStay env propertyId id { checkOut, ratePaise := dto.ratePaise } staff').runWith φ'
      db).res = .ok out' →
    totalOf id ((extendStay env' propertyId id { checkOut } staff).runWith φ after).db =
      totalOf id ((extendStay env propertyId id { checkOut, ratePaise := dto.ratePaise }
        staff').runWith φ' db).db

/-! ## What is stored -/

section Stored

variable (env : Env) (propertyId id : Id) (actorStaffId : Option Id) (db : HotelDb)

/-- What the update sets besides the dates. -/
def repriced (dto : ExtendStayDto) (before r : Reservation) : Reservation :=
  { r with
    ratePaise := flatRate dto before
    totalPaise := totalPaise (flatRate dto before) before.checkIn dto.checkOut
    updatedAt := env.now }

/-- The row of an extended stay. -/
def extendedRow (dto : ExtendStayDto) (before : Reservation) : Reservation :=
  Reservation.rescheduled (fun r => (r.checkIn, dto.checkOut)) (repriced env dto before) before

theorem extendStay_stores (dto : ExtendStayDto) :
    (extendStay env propertyId id dto actorStaffId).ends
      (fun _ _ s => ∃ before, reservationOf propertyId id db = some before ∧
        before.checkOut < dto.checkOut ∧
        s.reservations.find? id = some (extendedRow env dto before))
      (fun _ _ _ => True) .idle db := by
  simp only [extendStay, ends_simps, ends_requireReservation]
  intro before hread hs hlater horder _
  have hcheck : ∀ {P : Unit → Tx HotelDb → HotelDb → Prop}, P () (.active fun s => s) db →
      (checkExtension propertyId id before dto.checkOut).ends P (fun _ _ _ => True)
        (.active fun s => s) db := by
    intro P hP
    unfold checkExtension
    cases before.roomId with
    | some roomId => simp [hP]
    | none => exact ends_assertTypeCapacity (fun _ _ => trivial) hP
  refine hcheck ?_
  simp only [rescheduleReservation, recordEvent, ends_simps]
  intro db' hok
  refine (hydrate_readOnly _).ends_idle (fun _ => ?_) fun _ => trivial
  refine ⟨before, hread, by omega, ?_⟩
  obtain ⟨hmem, hid, -, -⟩ := reservationOf_eq_some.mp hread
  have hfind : db.reservations.find? id = some before := Table.find?_eq_some.mpr ⟨hmem, hid⟩
  have hids : ∀ r, (Reservation.rescheduled (fun r => (r.checkIn, dto.checkOut))
      (repriced env dto before) r).id = r.id := rescheduled_id fun _ => rfl
  change db.rescheduleReservation id (fun r => (r.checkIn, dto.checkOut))
    (repriced env dto before) (fun _ => rfl) = .ok db' at hok
  have hcommit : applied (fun s => HotelDb.rescheduleReservation s id
      (fun r => (r.checkIn, dto.checkOut)) (repriced env dto before) fun _ => rfl) db = db' := by
    simp only [applied, hok]
  have hedit : db' = db.updateReservation id _ hids := by
    unfold HotelDb.rescheduleReservation at hok
    split at hok
    · exact (Except.ok.inj hok).symm
    · cases hok
  have hrow : db'.reservations.find? id = some (extendedRow env dto before) := by
    rw [hedit]
    exact (find?_update_self _ hids id).trans (congrArg _ hfind)
  have hview : (applied (fun s => HotelDb.rescheduleReservation s id
      (fun r => (r.checkIn, dto.checkOut)) (repriced env dto before) fun _ => rfl)
        db).reservations.find? id = some (extendedRow env dto before) := by
    rw [hcommit]
    exact hrow
  exact hview

variable {env propertyId id actorStaffId db}

variable {out : ℤ × ReservationDto} {φ : ℕ → Option String}

variable {dto : ExtendStayDto}

theorem extendStay_ok
    (hok : ((extendStay env propertyId id dto actorStaffId).runWith φ db).res = .ok out) :
    ∃ before, reservationOf propertyId id db = some before ∧ before.checkOut < dto.checkOut ∧
      ((extendStay env propertyId id dto actorStaffId).runWith φ db).db.reservations.find? id =
        some (extendedRow env dto before) := by
  obtain ⟨hends, -⟩ := ends_runFrom _ φ .idle db []
    (extendStay_stores env propertyId id actorStaffId db dto)
  obtain ⟨t, hstored⟩ := hends out hok
  exact hstored

variable {before : Reservation}

theorem extendedRow_eq (hlater : before.checkOut < dto.checkOut) :
    (extendedRow env dto before).checkIn = before.checkIn ∧
      (extendedRow env dto before).ratePaise = flatRate dto before ∧
      (extendedRow env dto before).totalPaise =
        totalPaise (flatRate dto before) before.checkIn dto.checkOut ∧
      (extendedRow env dto before).propertyId = before.propertyId ∧
      (extendedRow env dto before).deletedAt = before.deletedAt := by
  have hordered : before.checkIn < dto.checkOut := before.ordered.trans hlater
  unfold extendedRow Reservation.rescheduled
  rw [Reservation.withDates_eq hordered]
  exact ⟨rfl, rfl, rfl, rfl, rfl⟩

theorem totalOf_extended (hread : reservationOf propertyId id db = some before)
    (hok : ((extendStay env propertyId id dto actorStaffId).runWith φ db).res = .ok out) :
    totalOf id ((extendStay env propertyId id dto actorStaffId).runWith φ db).db =
      some (totalPaise (flatRate dto before) before.checkIn dto.checkOut) := by
  obtain ⟨found, hfound, hlater, hrow⟩ := extendStay_ok hok
  obtain rfl := Option.some.inj (hread.symm.trans hfound)
  unfold totalOf
  rw [hrow]
  exact congrArg some (extendedRow_eq hlater).2.2.1

/-- The rate is kept and the stay begins when it did, so further steps come to the same total. -/
theorem totalOf_inSteps (hread : reservationOf propertyId id db = some before)
    (hok : ((extendStay env propertyId id dto actorStaffId).runWith φ db).res = .ok out)
    {env' env'' : Env} {checkOut : ℤ} {staff staff' : Option Id} {φ' φ'' : ℕ → Option String}
    {out' out'' : ℤ × ReservationDto}
    (hnext : ((extendStay env' propertyId id { checkOut } staff).runWith φ'
      ((extendStay env propertyId id dto actorStaffId).runWith φ db).db).res = .ok out')
    (honce : ((extendStay env'' propertyId id { checkOut, ratePaise := dto.ratePaise }
      staff').runWith φ'' db).res = .ok out'') :
    totalOf id ((extendStay env' propertyId id { checkOut } staff).runWith φ'
        ((extendStay env propertyId id dto actorStaffId).runWith φ db).db).db =
      totalOf id ((extendStay env'' propertyId id { checkOut, ratePaise := dto.ratePaise }
        staff').runWith φ'' db).db := by
  obtain ⟨found, hfound, hlater, hrow⟩ := extendStay_ok hok
  obtain rfl := Option.some.inj (hread.symm.trans hfound)
  have hkept : (extendedRow env dto before).checkIn = before.checkIn ∧
      (extendedRow env dto before).ratePaise = flatRate dto before ∧
      (extendedRow env dto before).totalPaise =
        totalPaise (flatRate dto before) before.checkIn dto.checkOut ∧
      (extendedRow env dto before).propertyId = before.propertyId ∧
      (extendedRow env dto before).deletedAt = before.deletedAt := extendedRow_eq hlater
  obtain ⟨hmem, hid, hproperty, hlive⟩ := reservationOf_eq_some.mp hread
  obtain ⟨hmem', hid'⟩ := Table.find?_eq_some.mp hrow
  have hread' : reservationOf propertyId id
      ((extendStay env propertyId id dto actorStaffId).runWith φ db).db =
        some (extendedRow env dto before) :=
    reservationOf_eq_some.mpr ⟨hmem', hid', hkept.2.2.2.1.trans hproperty,
      hkept.2.2.2.2.trans hlive⟩
  rw [totalOf_extended hread' hnext, totalOf_extended hread honce]
  have hrate : flatRate { checkOut } (extendedRow env dto before) =
      flatRate { checkOut, ratePaise := dto.ratePaise } before := hkept.2.1
  rw [hrate, hkept.1]

end Stored

/-! ## The exact condition -/

theorem length_addedNights {dto : ExtendStayDto} {before : Reservation}
    (hlater : before.checkOut < dto.checkOut) :
    ((addedNights dto before).length : ℤ) = dto.checkOut - before.checkOut := by
  simp only [addedNights, datesFrom, List.length_map, List.length_range]
  omega

theorem sum_map_const_sub {α : Type} (l : List α) (c : ℤ) (f : α → ℤ) :
    (l.map fun a => c - f a).sum = c * l.length - (l.map f).sum := by
  induction l with
  | nil => simp
  | cons a l ih =>
    simp only [List.map_cons, List.sum_cons, List.length_cons, ih]
    push_cast
    ring

/-- The extension charges the added nights exactly when the flat rate fits. -/
theorem extendStay_priced_iff {env : Env} {propertyId id : Id} {dto : ExtendStayDto}
    {actorStaffId : Option Id} {φ : ℕ → Option String} {db : HotelDb} {before : Reservation}
    {out : ℤ × ReservationDto} (hread : reservationOf propertyId id db = some before)
    (hok : ((extendStay env propertyId id dto actorStaffId).runWith φ db).res = .ok out) :
    ExtensionPriced env propertyId id dto before db
        ((extendStay env propertyId id dto actorStaffId).runWith φ db).db ↔
      FlatRateFits env dto before db := by
  have htotal := totalOf_extended hread hok
  obtain ⟨found, hfound, hlater, -⟩ := extendStay_ok hok
  obtain rfl := Option.some.inj (hread.symm.trans hfound)
  have hnights : totalPaise (flatRate dto before) before.checkIn dto.checkOut =
      totalPaise (flatRate dto before) before.checkIn before.checkOut +
        flatRate dto before * (addedNights dto before).length := by
    have hordered := before.ordered
    have hsplit : (nightsBetween before.checkIn dto.checkOut : ℤ) =
        nightsBetween before.checkIn before.checkOut + (addedNights dto before).length := by
      rw [length_addedNights hlater]
      unfold nightsBetween
      omega
    unfold totalPaise
    rw [hsplit, mul_add]
  unfold FlatRateFits
  rw [sum_map_const_sub]
  constructor
  · intro hpriced
    have hsum := Option.some.inj (htotal.symm.trans hpriced.adds)
    omega
  · intro hfits
    refine ⟨?_, ?_⟩
    · rw [htotal]
      congr 1
      omega
    · intro env' checkOut staff staff' φ' φ'' out' out'' hnext honce
      exact totalOf_inSteps hread hok hnext honce

/-! ## A fourth night -/

/-- Another night, at the rate of the booking. -/
def fourthNight : ExtendStayDto := { checkOut := 14 }

/-- At 100 a night the fourth costs 100 too. -/
theorem fourth_night_charged : ∃ before ∈ reservationOf 1 0 (inHouse (some 100)),
    ExtensionPriced arrivalDay 1 0 fourthNight before (inHouse (some 100))
      ((extendStay arrivalDay 1 0 fourthNight none).runWith noFaults
        (inHouse (some 100))).db := by
  have hfound : (reservationOf 1 0 (inHouse (some 100))).isSome = true := by decide +kernel
  obtain ⟨before, hbefore⟩ := Option.isSome_iff_exists.mp hfound
  have hpasses : ((extendStay arrivalDay 1 0 fourthNight none).runWith noFaults
      (inHouse (some 100))).res.toOption.isSome = true := by decide +kernel
  cases hout : ((extendStay arrivalDay 1 0 fourthNight none).runWith noFaults
      (inHouse (some 100))).res with
  | error e =>
    rw [hout] at hpasses
    exact absurd hpasses Bool.false_ne_true
  | ok out =>
    have hfits : ∀ b ∈ reservationOf 1 0 (inHouse (some 100)),
        FlatRateFits arrivalDay fourthNight b (inHouse (some 100)) := by decide +kernel
    exact ⟨before, hbefore, (extendStay_priced_iff hbefore hout).mpr (hfits before hbefore)⟩

/-- Three nights for 301 and a fourth at 100 come to 400. -/
theorem fourth_night_reprices : ∃ before ∈ reservationOf 1 0 (inHouse none),
    ¬ExtensionPriced arrivalDay 1 0 fourthNight before (inHouse none)
      ((extendStay arrivalDay 1 0 fourthNight none).runWith noFaults (inHouse none)).db := by
  have hfound : (reservationOf 1 0 (inHouse none)).isSome = true := by decide +kernel
  obtain ⟨before, hbefore⟩ := Option.isSome_iff_exists.mp hfound
  have hcosts : ∀ b ∈ reservationOf 1 0 (inHouse none), b.totalPaise +
      ((addedNights fourthNight b).map (nightRate arrivalDay fourthNight b (inHouse none))).sum =
        401 := by decide +kernel
  have htotal : totalOf 0 ((extendStay arrivalDay 1 0 fourthNight none).runWith noFaults
      (inHouse none)).db = some 400 := by decide +kernel
  refine ⟨before, hbefore, ?_⟩
  intro hpriced
  have hsum := htotal.symm.trans hpriced.adds
  rw [hcosts before hbefore] at hsum
  exact absurd hsum (by decide)

end Travelo

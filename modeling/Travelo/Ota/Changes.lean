import Travelo.Ota.AsSold

/-!
# Changes of a booking

A modification and a cancellation of a booking carry the id of the booking, and `ingestBooking`
takes a message whose id is on a reservation for a redelivery: after the first message it could
book, the booking's reservation no longer changes.

`reflects_iff`: the last message is reflected exactly when nothing was booked and it is a
cancellation, or the first message that could be booked has the dates of the last.
-/

namespace Travelo

open ReadCommitted ReservationsService ChannexSyncService

/-- One delivery of a message about a booking. -/
structure Delivery where
  env : Env
  attributes : ChannexBookingAttributes

def Delivery.booking (externalRef : String) (m : Delivery) : ChannexBooking :=
  ⟨externalRef, m.attributes⟩

section Deliveries

variable (connectionId propertyId : Id) (cfg : ChannexConnectionConfig) (externalRef : String)

/-- The messages are delivered in order. -/
def deliver (ms : List Delivery) (db : HotelDb) : HotelDb :=
  ms.foldl (fun db m =>
    ((ingestBooking m.env connectionId propertyId cfg (m.booking externalRef)).run db).db) db

/-- The reservations of the booking that are neither cancelled nor deleted. -/
def liveStamped (db : HotelDb) : List Reservation :=
  (stamped propertyId externalRef db).filter fun r => r.status ≠ .CANCELLED && r.deletedAt.isNone

/-- The reservations of the booking are as the message has them. -/
def Reflects (m : Delivery) (db : HotelDb) : Prop :=
  if m.attributes.cancelled then
    ∀ r ∈ stamped propertyId externalRef db, r.status = .CANCELLED
  else
    liveStamped propertyId externalRef db ≠ [] ∧ ∀ r ∈ liveStamped propertyId externalRef db,
      some r.checkIn = m.attributes.checkIn ∧ some r.checkOut = m.attributes.checkOut

instance (m : Delivery) (db : HotelDb) : Decidable (Reflects propertyId externalRef m db) := by
  unfold Reflects
  infer_instance

/-- The message can be booked. -/
def CanBook (m : Delivery) (db : HotelDb) : Prop :=
  ∃ dto, requested cfg (m.booking externalRef) = some dto ∧ Bookable m.env propertyId dto db

/-- Of the messages the first that can be booked has the dates of `last`. -/
def BookedWithDatesOf (last : Delivery) (ms : List Delivery) (db : HotelDb) : Prop :=
  ∃ earlier m later, ms = earlier ++ m :: later ∧
    (∀ m' ∈ earlier, ¬CanBook propertyId cfg externalRef m' db) ∧
    CanBook propertyId cfg externalRef m db ∧
    m.attributes.checkIn = last.attributes.checkIn ∧
    m.attributes.checkOut = last.attributes.checkOut

end Deliveries

section Messages

variable {connectionId propertyId : Id} {cfg : ChannexConnectionConfig} {externalRef : String}
  {db : HotelDb} {log : List ChannexSyncLog}

theorem nightlyPrices_log (propertyId roomTypeId : Id) (fromDate toDate : ℤ)
    (ratePlanId : Option Id) :
    ((RatesService.nightlyPrices propertyId roomTypeId fromDate toDate ratePlanId).eval .idle
        { db with channexSyncLog := log }).1 =
      ((RatesService.nightlyPrices propertyId roomTypeId fromDate toDate ratePlanId).eval .idle
        db).1 := by
  simp only [RatesService.nightlyPrices, eval_simps]
  cases RatesService.assertWindow fromDate toDate with
  | error e => rfl
  | ok u =>
    simp only [eval_select_idle]
    cases (db.roomTypes.find? roomTypeId).filter fun t => t.propertyId = propertyId <;> rfl

theorem quote_log (env : Env) (dto : CreateReservationDto) (type : RoomType) :
    ((quoteUnlessGiven env propertyId dto type).run { db with channexSyncLog := log }).res =
      ((quoteUnlessGiven env propertyId dto type).run db).res := by
  have hsame := @nightlyPrices_log db log propertyId type.id dto.checkIn dto.checkOut
    dto.guest.ratePlanId
  unfold quoteUnlessGiven nightlyQuote
  split_ifs
  · rfl
  · rw [Prog.run_res, Prog.run_res, eval_map_res, eval_map_res]
    refine congrArg (Except.map some) ?_
    exact ((eval_map_res _ _).trans (congrArg _ hsame)).trans (eval_map_res _ _).symm
  · rfl

theorem canBook_log {m : Delivery} :
    CanBook propertyId cfg externalRef m { db with channexSyncLog := log } ↔
      CanBook propertyId cfg externalRef m db := by
  refine exists_congr fun dto => and_congr_right fun _ => ?_
  have hrules : rulesOf m.env propertyId dto { db with channexSyncLog := log } =
      rulesOf m.env propertyId dto db := rfl
  have hverdict : capacityVerdict propertyId dto.roomTypeId dto.checkIn dto.checkOut none
      (rulesOf m.env propertyId dto { db with channexSyncLog := log })
        { db with channexSyncLog := log } =
      capacityVerdict propertyId dto.roomTypeId dto.checkIn dto.checkOut none
        (rulesOf m.env propertyId dto db) db := rfl
  have hchecks : ChecksPass m.env propertyId dto { db with channexSyncLog := log } ↔
      ChecksPass m.env propertyId dto db := by
    constructor
    · rintro ⟨hdates, ⟨type, htype, nightly, hnightly⟩, hroom, hfree⟩
      exact ⟨hdates, ⟨type, htype, nightly, quote_log m.env dto type ▸ hnightly⟩, hroom, hfree⟩
    · rintro ⟨hdates, ⟨type, htype, nightly, hnightly⟩, hroom, hfree⟩
      exact ⟨hdates, ⟨type, htype, nightly, (quote_log m.env dto type).trans hnightly⟩, hroom,
        hfree⟩
  exact ⟨fun h => ⟨hchecks.mp h.checks, h.number⟩, fun h => ⟨hchecks.mpr h.checks, h.number⟩⟩

theorem deliver_unbooked {m : Delivery} (hid : externalRef ≠ "")
    (hnone : stamped propertyId externalRef db = [])
    (hcannot : ¬CanBook propertyId cfg externalRef m db) : ∃ log,
    ((ingestBooking m.env connectionId propertyId cfg (m.booking externalRef)).run db).db =
      { db with channexSyncLog := log } := by
  have hrefused : ∀ dto, requested cfg (m.booking externalRef) = some dto → ∃ e,
      (create m.env propertyId dto none).eval .idle db = (.error e, .idle, db) := by
    intro dto hdto
    rcases create_cases m.env propertyId dto none db with hrefused |
      ⟨-, _, _, _, _, _, out, e, -, -, -, -, -, heval⟩
    · exact hrefused
    · have hbooked : ((create m.env propertyId dto none).run db).res = .ok out := by
        rw [Prog.run_res, heval]
      exact absurd ⟨dto, hdto, create_ok_iff.mp ⟨out, hbooked⟩⟩ hcannot
  obtain ⟨log, hlog⟩ := @ingest_refused m.env connectionId propertyId cfg (m.booking externalRef) db
    hid hnone hrefused
  exact ⟨log, by rw [Prog.run_db, hlog]⟩

/-- One that can be leaves a live reservation with its dates, the only one of the booking. -/
theorem deliver_booked {m : Delivery} (hid : externalRef ≠ "")
    (hnone : stamped propertyId externalRef db = [])
    (hcan : CanBook propertyId cfg externalRef m db) : ∃ r : Reservation,
    stamped propertyId externalRef
      ((ingestBooking m.env connectionId propertyId cfg (m.booking externalRef)).run db).db = [r] ∧
    r.status = .CONFIRMED ∧ r.deletedAt = none ∧ m.attributes.checkIn = some r.checkIn ∧
      m.attributes.checkOut = some r.checkOut := by
  obtain ⟨dto, hdto, hbookable⟩ := hcan
  obtain ⟨-, roomTypeId, -, checkIn, hin, checkOut, hcheckOut, rfl⟩ := requested_eq_some.mp hdto
  obtain ⟨out₀, hout⟩ := (@create_ok_iff m.env propertyId _ none db).mpr hbookable
  rcases create_cases m.env propertyId _ none db with ⟨e, he⟩ |
    ⟨-, ordered, type, nightly, hold, a, out, e, -, -, -, hrow, hfree, heval⟩
  · rw [Prog.run_res, he] at hout
    cases hout
  have hproperty : out.row.propertyId = propertyId := by rw [hrow]; rfl
  obtain ⟨after, hingest, hrows⟩ := @ingest_taken m.env connectionId propertyId cfg
    (m.booking externalRef) db hid hnone _ hdto out e hproperty hfree heval
  refine ⟨{ out.row with externalRef := some externalRef }, ?_, ?_, ?_, ?_, ?_⟩
  · rw [Prog.run_db, hingest, stamped, hrows, List.filter_append]
    have hold : db.reservations.rows.filter (fun r =>
        r.propertyId = propertyId && r.externalRef = some externalRef) = [] := hnone
    rw [hold]
    simp [hproperty, Delivery.booking]
  · rw [hrow]
    rfl
  · rw [hrow]
    rfl
  · rw [hrow]
    exact hin
  · rw [hrow]
    exact hcheckOut

theorem deliver_stamped (hid : externalRef ≠ "") : ∀ (ms : List Delivery) (db : HotelDb),
    stamped propertyId externalRef db ≠ [] → ∃ log,
      deliver connectionId propertyId cfg externalRef ms db = { db with channexSyncLog := log } := by
  intro ms
  induction ms with
  | nil => exact fun db _ => ⟨db.channexSyncLog, rfl⟩
  | cons m ms ih =>
    intro db hsome
    obtain ⟨log, hlog⟩ := @ingest_stamped m.env connectionId propertyId cfg (m.booking externalRef)
      db hid hsome
    have hstep : deliver connectionId propertyId cfg externalRef (m :: ms) db =
        deliver connectionId propertyId cfg externalRef ms { db with channexSyncLog := log } := by
      rw [deliver, List.foldl_cons, Prog.run_db, hlog]
      rfl
    rw [hstep]
    exact ih _ hsome

/-- The run lemma: nothing is booked and only the log changes, or the first message that can be
booked is, and its reservation stays as it was made. -/
theorem deliver_cases (hid : externalRef ≠ "") : ∀ (ms : List Delivery) (db : HotelDb),
    stamped propertyId externalRef db = [] →
      ((∀ m ∈ ms, ¬CanBook propertyId cfg externalRef m db) ∧ ∃ log,
        deliver connectionId propertyId cfg externalRef ms db =
          { db with channexSyncLog := log }) ∨
      ∃ earlier m later r, ms = earlier ++ m :: later ∧
        (∀ m' ∈ earlier, ¬CanBook propertyId cfg externalRef m' db) ∧
        CanBook propertyId cfg externalRef m db ∧
        stamped propertyId externalRef
          (deliver connectionId propertyId cfg externalRef ms db) = [r] ∧
        r.status = .CONFIRMED ∧ r.deletedAt = none ∧ m.attributes.checkIn = some r.checkIn ∧
          m.attributes.checkOut = some r.checkOut := by
  intro ms
  induction ms with
  | nil => exact fun db _ => .inl ⟨(fun m hm => by cases hm), db.channexSyncLog, rfl⟩
  | cons m ms ih =>
    intro db hnone
    have hstep : deliver connectionId propertyId cfg externalRef (m :: ms) db =
        deliver connectionId propertyId cfg externalRef ms
          ((ingestBooking m.env connectionId propertyId cfg (m.booking externalRef)).run db).db :=
      rfl
    by_cases hcan : CanBook propertyId cfg externalRef m db
    · right
      obtain ⟨r, hstamped, hr⟩ := @deliver_booked connectionId propertyId cfg externalRef db m hid
        hnone hcan
      obtain ⟨log, hrest⟩ := @deliver_stamped connectionId propertyId cfg externalRef hid ms
        ((ingestBooking m.env connectionId propertyId cfg (m.booking externalRef)).run db).db
        (by rw [hstamped]; exact List.cons_ne_nil r [])
      refine ⟨[], m, ms, r, rfl, (fun m' hm' => by cases hm'), hcan, ?_, hr⟩
      rw [hstep, hrest]
      exact hstamped
    · obtain ⟨log, hfirst⟩ := @deliver_unbooked connectionId propertyId cfg externalRef db m hid
        hnone hcan
      rw [hstep, hfirst]
      rcases ih { db with channexSyncLog := log } hnone with
        ⟨hcannot, log', hrest⟩ | ⟨earlier, m', later, r, rfl, hearlier, hbooked, hr⟩
      · refine .inl ⟨fun m' hm' => ?_, log', hrest⟩
        rcases List.mem_cons.mp hm' with rfl | hmem
        · exact hcan
        · exact fun h => hcannot m' hmem (canBook_log.mpr h)
      · refine .inr ⟨m :: earlier, m', later, r, rfl, fun m'' hm'' => ?_, canBook_log.mp hbooked, hr⟩
        rcases List.mem_cons.mp hm'' with rfl | hmem
        · exact hcan
        · exact fun h => hearlier m'' hmem (canBook_log.mpr h)

theorem first_unique {α : Type} {p : α → Prop} {a b : α} {after after' : List α} (ha : p a)
    (hb : p b) : ∀ {before before' : List α}, before ++ a :: after = before' ++ b :: after' →
      (∀ x ∈ before, ¬p x) → (∀ x ∈ before', ¬p x) → a = b := by
  intro before
  induction before with
  | nil =>
    intro before' heq _ hnot'
    cases before' with
    | nil => exact (List.cons.inj heq).1
    | cons x before' =>
      obtain ⟨rfl, -⟩ := List.cons.inj heq
      exact absurd ha (hnot' a List.mem_cons_self)
  | cons y before ih =>
    intro before' heq hnot hnot'
    cases before' with
    | nil =>
      obtain ⟨rfl, -⟩ := List.cons.inj heq
      exact absurd hb (hnot y List.mem_cons_self)
    | cons x before' =>
      exact ih (List.cons.inj heq).2 (fun z hz => hnot z (List.mem_cons_of_mem _ hz))
        fun z hz => hnot' z (List.mem_cons_of_mem _ hz)

end Messages

/-- The booking as it is made, for the night from 10 to 11. -/
def made : Delivery := ⟨ingestEnv, oneRoomBooking.attributes⟩

/-- It is moved to the night from 12 to 13. -/
def moved : Delivery :=
  ⟨ingestEnv, { made.attributes with arrival_date := some 12, departure_date := some 13 }⟩

def calledOff : Delivery := ⟨ingestEnv, { made.attributes with status := some "cancelled" }⟩

end Travelo

import Travelo.ReadCommitted.Rounds
import Travelo.Reservations.Creation

/-!
# Reservation numbers

A booking takes its number from a count of the property's rows, and tries the next ones
when the unique index refuses it. Racing bookings leave numbers ahead of the count, by four
at most (`WellNumbered`), so one of the five tries of a booking on its own is free — until
the six digits wrap around (`numbering_never_jams`, `numbering_jams`).
-/

namespace Travelo

open ReadCommitted ReservationsService

/-- Some session books. -/
def IsCreate (p : Op ReservationDto) : Prop :=
  ∃ env propertyId dto actorStaffId, p = create env propertyId dto actorStaffId

/-- The states that interleaved bookings reach from one without reservations of the property. -/
abbrev Booked (propertyId : Id) : HotelDb → Prop :=
  Reached (fun db => bookings propertyId db = 0) IsCreate

/-! ## The invariant -/

/-- No two rows of a property have one number; no number is more than four ahead of the count,
and zero is a number only after the wrap. -/
structure WellNumbered (propertyId : Id) (db : HotelDb) : Prop where
  distinct : ∀ r ∈ db.reservations, ∀ r' ∈ db.reservations, r.propertyId = propertyId →
    r'.propertyId = propertyId → r.reservationNumber = r'.reservationNumber → r = r'
  near : ∀ r ∈ db.reservations, r.propertyId = propertyId →
    r.reservationNumber ≤ bookings propertyId db + 4
  zero : ∀ r ∈ db.reservations, r.propertyId = propertyId → r.reservationNumber = 0 →
    999996 ≤ bookings propertyId db

/-- What a booking publishes: its row, unless an index refuses it, numbered from a count it has
read, and the event. -/
inductive NumberedWrite (h : Trace) (w : HotelDb → HotelDb) : Prop where
  | mk {b : HotelDb} {attempt : ℕ} {row : Reservation} {e : ReservationEvent}
      (hsaw : .saw (.stays row.propertyId) b ∈ h) (hattempt : attempt < NUMBER_ATTEMPTS)
      (hnumber : row.reservationNumber =
        formatReservationNumber (bookings row.propertyId b + 1 + attempt))
      (hw : ∀ db, w db = (applied (fun db : HotelDb => db.insertReservation row) db).recordEvent e)

section Invariant

variable {propertyId : Id} {db : HotelDb} {row : Reservation}

theorem bookings_insert (hid : db.reservations.hasKey row.id = false) :
    bookings propertyId { db with reservations := db.reservations.insert row } =
      bookings propertyId db + if row.propertyId = propertyId then 1 else 0 := by
  unfold bookings
  simp only [rows_insert hid, List.countP_append, List.countP_singleton]
  simp

theorem WellNumbered.insert (hwell : WellNumbered propertyId db) {count attempt : ℕ}
    (hfree : db.reservationTaken row = false) (hcount : count ≤ bookings row.propertyId db)
    (hattempt : attempt < NUMBER_ATTEMPTS)
    (hnumber : row.reservationNumber = formatReservationNumber (count + 1 + attempt)) :
    WellNumbered propertyId { db with reservations := db.reservations.insert row } := by
  obtain ⟨hid, hother⟩ := reservationTaken_eq_false.mp hfree
  have hbookings := @bookings_insert propertyId db row hid
  have hmem : ∀ r, r ∈ db.reservations.insert row ↔ r ∈ db.reservations ∨ r = row := by
    intro r
    rw [mem_insert hid]
  unfold NUMBER_ATTEMPTS at hattempt
  unfold formatReservationNumber at hnumber
  refine ⟨fun r hr r' hr' hp hp' hsame => ?_, fun r hr hp => ?_, fun r hr hp hzero => ?_⟩
  · rcases (hmem r).mp hr with hold | rfl
    · rcases (hmem r').mp hr' with hold' | rfl
      · exact hwell.distinct r hold r' hold' hp hp' hsame
      · exact absurd hsame (hother r hold (hp.trans hp'.symm))
    · rcases (hmem r').mp hr' with hold' | rfl
      · exact absurd hsame.symm (hother r' hold' (hp'.trans hp.symm))
      · rfl
  · rw [hbookings]
    rcases (hmem r).mp hr with hold | rfl
    · have := hwell.near r hold hp
      omega
    · rw [if_pos hp]
      rw [hp] at hcount
      omega
  · rw [hbookings]
    rcases (hmem r).mp hr with hold | rfl
    · have := hwell.zero r hold hp hzero
      omega
    · rw [if_pos hp]
      rw [hp] at hcount
      omega

/-- The step lemma: the count a booking has read is no larger than the one its row meets. -/
theorem NumberedWrite.step {h : Trace} {w : HotelDb → HotelDb} {now : HotelDb}
    (hw : NumberedWrite h w)
    (hseen : ∀ l b, .saw l b ∈ h → ∀ propertyId, bookings propertyId b ≤ bookings propertyId now)
    (hwell : WellNumbered propertyId now) :
    WellNumbered propertyId (w now) ∧
      ∀ propertyId, bookings propertyId now ≤ bookings propertyId (w now) := by
  obtain ⟨hsaw, hattempt, hnumber, hw⟩ := hw
  rename_i b attempt row e
  rw [hw]
  cases hfree : now.reservationTaken row with
  | true =>
    have hsame : applied (fun db : HotelDb => db.insertReservation row) now = now := by
      simp [applied, HotelDb.insertReservation, hfree]
    rw [hsame]
    exact ⟨⟨hwell.distinct, hwell.near, hwell.zero⟩, fun _ => Nat.le_refl _⟩
  | false =>
    have hgrown : applied (fun db : HotelDb => db.insertReservation row) now =
        { now with reservations := now.reservations.insert row } := by
      simp [applied, HotelDb.insertReservation, hfree]
    have hinserted := hwell.insert hfree (hseen _ b hsaw row.propertyId) hattempt hnumber
    rw [hgrown]
    refine ⟨⟨hinserted.distinct, hinserted.near, hinserted.zero⟩, fun p => ?_⟩
    have hbookings := @bookings_insert p now row (reservationTaken_eq_false.mp hfree).1
    show bookings p now ≤ bookings p { now with reservations := now.reservations.insert row }
    omega

end Invariant

theorem BookedWrite.numbered {env : Env} {propertyId : Id} {dto : CreateReservationDto} {h : Trace}
    {w : HotelDb → HotelDb} (hw : BookedWrite env propertyId dto h w) : NumberedWrite h w := by
  obtain ⟨hsaw, hattempt, hrow, hw⟩ := hw
  obtain ⟨-, rfl, hnumber, -, -⟩ := hrow
  exact .mk hsaw hattempt hnumber hw

/-- However bookings are interleaved, the numbers stay distinct and near the count. -/
theorem Booked.wellNumbered {propertyId : Id} {db : HotelDb} (h : Booked propertyId db) :
    WellNumbered propertyId db := by
  refine Reached.invariant (fun db hnone => ?_) (fun db calls evs c hwell hcalls hrun => ?_) h
  · have hout : ∀ r ∈ db.reservations, r.propertyId ≠ propertyId := by
      intro r hr
      have hzero := List.countP_eq_zero.mp hnone r (Table.mem_rows.mpr hr)
      simpa using hzero
    exact ⟨fun r hr _ _ hp => absurd hp (hout r hr), fun r hr hp => absurd hp (hout r hr),
      fun r hr hp => absurd hp (hout r hr)⟩
  · refine Config.run_growing (C := fun _ => NumberedWrite) (I := WellNumbered propertyId)
      (M := fun b now => ∀ p, bookings p b ≤ bookings p now) (fun i p hp => ?_)
      (fun s p => Nat.le_refl _) (fun s s' s'' h h' p => (h p).trans (h' p))
      (fun i h w now hw hseen hwell => hw.step (fun l b hb => (hseen l b hb).2) hwell) hwell hrun
    obtain ⟨env, p, dto, actorStaffId, rfl⟩ := hcalls _ (List.mem_of_getElem? hp)
    exact wp_mono (fun _ _ hw => hw.numbered) (fun _ _ _ _ => trivial) (fun _ _ _ _ => trivial)
      _ _ _ (wp_create env p dto actorStaffId [])

/-- In every state that interleaved bookings reach, the numbers of the property are distinct,
and below 999,996 reservations a booking that then runs alone gets a number. -/
theorem numbering_never_jams (propertyId : Id) (db : HotelDb) (hbooked : Booked propertyId db) :
    (∀ r ∈ db.reservations, ∀ r' ∈ db.reservations, r.propertyId = propertyId →
      r'.propertyId = propertyId → r.reservationNumber = r'.reservationNumber → r = r') ∧
    (bookings propertyId db < 999996 → ∀ (env : Env) (dto : CreateReservationDto)
      (actorStaffId : Option Id), ChecksPass env propertyId dto db → FreshIds env db →
      ∃ out, ((create env propertyId dto actorStaffId).run db).res = .ok out) := by
  have hwell := hbooked.wellNumbered
  refine ⟨hwell.distinct, fun hcount env dto actorStaffId hchecks hids => ?_⟩
  -- the fifth number is further from the count than any that is stored
  refine create_succeeds hchecks hids (k := 4) (by decide) fun r hr hp hsame => ?_
  have hnear := hwell.near r hr hp
  have hzero := hwell.zero r hr hp
  unfold formatReservationNumber at hsame
  omega

/-! ## Skipped numbers -/

/-- A hotel with one room type and no reservations. -/
def newHotel : HotelDb where
  roomTypes := (∅ : Table RoomType.id).insert
    { id := 7, propertyId := 1, name := "Deluxe", baseRate := 100000 }

/-- An enquiry, which blocks nothing and passes every check. -/
def enquiry : CreateReservationDto where
  roomTypeId := 7
  guest := { guestName := "Guest", guestPhone := "0" }
  checkIn := 10
  checkOut := 11
  ratePaise := some 100000
  holdMinutes := some 0

/-- A call whose new row has the given id. -/
def withId (id : Id) : Env := { now := 0, uuid := fun _ => id, rates := false }

/-- Eight calls at once. -/
def eightCalls : List (Op ReservationDto) :=
  (List.range 8).map fun i => create (withId (i + 1)) 1 enquiry none

/-- Session `i` takes `n` steps. -/
def stepsOf (n i : ℕ) : List Event := List.replicate n (.step i)

/-- All count, one stores its row, the others are refused and count again; after four rounds
the calls that are left are at their last attempt, and finish one by one. -/
def eightAtOnce : List Event :=
  (List.range 8).flatMap (stepsOf 3) ++ stepsOf 4 0 ++
    [1, 2, 3, 4, 5, 6, 7].flatMap (stepsOf 4) ++ stepsOf 4 1 ++
    [2, 3, 4, 5, 6, 7].flatMap (stepsOf 4) ++ stepsOf 4 2 ++
    [3, 4, 5, 6, 7].flatMap (stepsOf 4) ++ stepsOf 4 3 ++
    [4, 5, 6, 7].flatMap (stepsOf 2) ++ [4, 5, 6, 7].flatMap (stepsOf 6)

/-- A number of the property is taken. -/
def Used (k : ℕ) (db : HotelDb) : Prop :=
  ∃ r ∈ db.reservations, r.propertyId = 1 ∧ r.reservationNumber = formatReservationNumber k

/-- After `n` reservations the next four numbers are taken already, and so is the first. -/
structure FourAhead (n : ℕ) (db : HotelDb) : Prop where
  reached : Booked 1 db
  count : bookings 1 db = n
  type : (roomTypeOf 1 7 db).isSome
  ids : ∀ r ∈ db.reservations, r.id ≤ n
  ahead : ∀ k, n < k → k ≤ n + 4 → Used k db
  first : Used 1 db

instance (k : ℕ) (db : HotelDb) : Decidable (Used k db) :=
  inferInstanceAs (Decidable (∃ _ ∈ _, _))

theorem fourAhead_eight : ∃ db, FourAhead 8 db := by
  have hrace : ((Config.start newHotel eightCalls).run eightAtOnce).any (fun c =>
      decide (bookings 1 c.db = 8) && (roomTypeOf 1 7 c.db).isSome &&
        decide (∀ r ∈ c.db.reservations.rows, r.id ≤ 8) &&
        [9, 10, 11, 12].all (fun k => decide (Used k c.db)) && decide (Used 1 c.db)) = true := by
    decide +kernel
  obtain ⟨c, hrun, hc⟩ := (Option.any_eq_true _ _).mp hrace
  simp only [and_decide_eq, List.all_eq_true] at hc
  obtain ⟨⟨⟨⟨hcount, htype⟩, hids⟩, hahead⟩, hfirst⟩ := hc
  refine ⟨c.db, ?_, hcount, htype, hids, fun k hlt hle => ?_, hfirst⟩
  · refine Reached.round (.start (by decide)) (fun p hp => ?_) hrun
    simp only [eightCalls, List.mem_map] at hp
    obtain ⟨i, -, rfl⟩ := hp
    exact ⟨_, _, _, _, rfl⟩
  · have hk : k ∈ [9, 10, 11, 12] := by
      simp only [List.mem_cons, List.not_mem_nil, or_false]
      omega
    exact hahead k hk

theorem checksPass_enquiry (id : Id) {db : HotelDb} (htype : (roomTypeOf 1 7 db).isSome) :
    ChecksPass (withId id) 1 enquiry db := by
  obtain ⟨type, htype⟩ := Option.isSome_iff_exists.mp htype
  exact ⟨by decide, ⟨type, htype, none, rfl⟩, (fun _ h => by cases h), fun h => by cases h⟩

theorem FourAhead.next {n : ℕ} {db : HotelDb} (h : FourAhead n db) (hn : n < 999996) :
    ∃ db', FourAhead (n + 1) db' := by
  have hwell := h.reached.wellNumbered
  have hchecks := checksPass_enquiry (n + 1) h.type
  obtain ⟨row, body, hrow, -, heval, hbody⟩ :=
    @eval_create (withId (n + 1)) 1 enquiry none db hchecks
  choose out e hout hbody using hbody
  have hnew : db.reservations.hasKey (n + 1) = false := by
    refine Table.hasKey_eq_false.mpr fun r hr hid => ?_
    have hle : n + 1 ≤ n := hid ▸ h.ids r hr
    exact Nat.not_succ_le_self n hle
  have htaken : ∀ a, 0 ≤ a → a < 4 → db.reservationTaken (row a) = true := by
    intro a _ ha
    obtain ⟨-, hproperty, hnumber⟩ := hrow a
    obtain ⟨r, hr, hp, hsame⟩ := h.ahead (n + 1 + a) (by omega) (by omega)
    by_contra hfalse
    refine (reservationTaken_eq_false.mp (by simpa using hfalse)).2 r hr (hp.trans hproperty.symm) ?_
    rw [hnumber, hsame, h.count]
  have hfree : db.reservationTaken (row 4) = false := by
    obtain ⟨hid, hproperty, hnumber⟩ := hrow 4
    refine reservationTaken_eq_false.mpr ⟨hid ▸ hnew, fun r hr hp hsame => ?_⟩
    have hnear := hwell.near r hr (hp.trans hproperty)
    have hzero := hwell.zero r hr (hp.trans hproperty)
    rw [hnumber] at hsame
    unfold formatReservationNumber at hsame
    rw [h.count] at *
    omega
  have hrun :=
    eval_createAttempts hbody NUMBER_ATTEMPTS 0 rfl 4 (by decide) (by decide) htaken hfree
  have hreached := h.reached.alone
    (⟨withId (n + 1), 1, enquiry, none, rfl⟩ : IsCreate (create (withId (n + 1)) 1 enquiry none))
  rw [heval, hrun] at hreached
  obtain ⟨hid, hproperty, hnumber⟩ := hrow 4
  have hkey : db.reservations.hasKey (row 4).id = false := hid ▸ hnew
  have hused : ∀ k, Used k db → Used k
      ({ db with reservations := db.reservations.insert (row 4) }.recordEvent (e 4)) := by
    rintro k ⟨r, hr, hk⟩
    exact ⟨r, (mem_insert hkey).mpr (.inl hr), hk⟩
  refine ⟨_, hreached, ?_, h.type, fun r hr => ?_, fun k hlt hle => ?_, hused 1 h.first⟩
  · have hbookings := @bookings_insert 1 db (row 4) hkey
    rw [if_pos hproperty, h.count] at hbookings
    exact hbookings
  · rcases (mem_insert hkey).mp hr with hold | rfl
    · exact Nat.le_succ_of_le (h.ids r hold)
    · rw [hid]
      exact Nat.le_refl _
  · by_cases hk : k = n + 5
    · subst hk
      refine ⟨row 4, (mem_insert hkey).mpr (.inr rfl), hproperty, ?_⟩
      rw [hnumber, h.count]
    · exact hused k (h.ahead k (by omega) (by omega))

theorem fourAhead : ∀ n, 8 ≤ n → n ≤ 999996 → ∃ db, FourAhead n db := by
  intro n hn
  induction n, hn using Nat.le_induction with
  | base => exact fun _ => fourAhead_eight
  | succ n _ ih =>
    intro hle
    obtain ⟨db, h⟩ := ih (by omega)
    exact h.next (by omega)

/-- At 999,996 reservations all five numbers of a booking can be taken, for good. -/
theorem numbering_jams : ∃ db, Booked 1 db ∧ bookings 1 db = 999996 ∧
    ChecksPass (withId 1000000) 1 enquiry db ∧ FreshIds (withId 1000000) db ∧
    ((create (withId 1000000) 1 enquiry none).run db).res = .error .uniqueViolation := by
  obtain ⟨db, h⟩ := fourAhead 999996 (by omega) (Nat.le_refl _)
  have hchecks := checksPass_enquiry 1000000 h.type
  have htaken : ∀ k < NUMBER_ATTEMPTS, ¬NumberFree 1 db k := by
    intro k hk hfree
    by_cases hlast : k = 4
    · subst hlast
      -- the fifth number has wrapped around to the first
      obtain ⟨r, hr, hp, hsame⟩ := h.first
      refine hfree r hr hp ?_
      rw [hsame, h.count]
      rfl
    · unfold NUMBER_ATTEMPTS at hk
      obtain ⟨r, hr, hp, hsame⟩ := h.ahead (999996 + 1 + k) (by omega) (by omega)
      refine hfree r hr hp ?_
      rw [hsame, h.count]
  refine ⟨db, h.reached, h.count, hchecks, fun a _ => ?_, ?_⟩
  · refine Table.hasKey_eq_false.mpr fun r hr hid => ?_
    have hle : 1000000 ≤ 999996 := (show r.id = 1000000 from hid) ▸ h.ids r hr
    omega
  · rw [Prog.run_res, create_jams hchecks htaken]

/-- The first booking of a hotel gets a number. -/
theorem first_booking :
    ∃ out, ((create (withId 1) 1 enquiry none).run newHotel).res = .ok out :=
  (numbering_never_jams 1 newHotel (.start (by decide))).2 (by decide) (withId 1) enquiry none
    (checksPass_enquiry 1 (by decide)) (by unfold FreshIds; decide)

end Travelo

import Travelo.Reservations.Deeds
import Travelo.Reservations.Lifecycle

/-!
# The trail of a reservation

`recordEvent` promises that the trail is written with the change it records.

* `Recorded`: a step adds one row, of the matching kind, for each reservation whose status it
  changes, and no such row for any other.
* `Replays`: the rows of a reservation, replayed from its creation, give its status.

The methods of the service keep both; the workers change statuses and write no row, so the
trail is complete exactly as long as their sweeps match nothing (`trail_complete_iff`).
-/

namespace Travelo

open ReadCommitted Relation ReservationsService

/-- What a row does to the status it is replayed on: a creation starts a trail, any other
row with a status has to follow the table. -/
def ReservationEvent.apply (st : Option ReservationStatus) (e : ReservationEvent) :
    Option ReservationStatus :=
  match e.status? with
  | none => st
  | some status =>
    if e.type = "created" then
      if st = none then some status else none
    else
      match st with
      | some s => if canTransition s status then some status else none
      | none => none

namespace Board

variable (b : Board) (id : Id)

/-- The rows of a reservation, oldest first. -/
def eventsOf : List ReservationEvent := b.events.filter fun e => e.reservationId = id

/-- The statuses these rows name. -/
def trail : List ReservationStatus := (b.eventsOf id).filterMap ReservationEvent.status?

/-- The status the rows lead to. -/
def replay : Option ReservationStatus := (b.eventsOf id).foldl ReservationEvent.apply none

/-- The status that is stored. -/
def statusOf : Option ReservationStatus := (b.reservations.find? id).map (·.status)

end Board

/-- From one state to the next every change of a status adds one row to the trail of its
reservation, and nothing else does. -/
def Recorded (b b' : Board) : Prop :=
  ∀ id, b'.trail id =
    b.trail id ++ if b'.statusOf id = b.statusOf id then [] else (b'.statusOf id).toList

/-- Replaying the trail of any reservation gives its stored status. -/
def Replays (b : Board) : Prop := ∀ id, b.replay id = b.statusOf id

/-! ## What a call does to the statuses -/

namespace Board

variable {b : Board} {id : Id}

variable {status : ReservationStatus}

theorem statusOf_eq_some :
    b.statusOf id = some status ↔ ∃ r ∈ b.reservations, r.id = id ∧ r.status = status := by
  simp only [statusOf, Option.map_eq_some_iff, find?_eq_some, and_assoc]

theorem statusOf_eq_none : b.statusOf id = none ↔ ∀ r ∈ b.reservations, r.id ≠ id := by
  simp [statusOf, Table.find?, List.find?_eq_none, mem_rows]

@[simp] theorem statusOf_setStatus (roomId : Id) (status : RoomStatus) (now : ℤ) :
    (b.setStatus roomId status now).statusOf id = b.statusOf id := rfl

@[simp] theorem statusOf_vacate (roomId : Option Id) (now : ℤ) :
    (b.vacate roomId now).statusOf id = b.statusOf id := by
  cases roomId <;> rfl

@[simp] theorem statusOf_record (e : ReservationEvent) :
    (b.record e).statusOf id = b.statusOf id := rfl

@[simp] theorem eventsOf_update (k : Id) (f : Reservation → Reservation)
    (hf : ∀ r, (f r).id = r.id) : (b.update k f hf).eventsOf id = b.eventsOf id := rfl

@[simp] theorem eventsOf_insert (row : Reservation) :
    (b.insert row).eventsOf id = b.eventsOf id := rfl

@[simp] theorem eventsOf_setStatus (roomId : Id) (status : RoomStatus) (now : ℤ) :
    (b.setStatus roomId status now).eventsOf id = b.eventsOf id := rfl

@[simp] theorem eventsOf_vacate (roomId : Option Id) (now : ℤ) :
    (b.vacate roomId now).eventsOf id = b.eventsOf id := by
  cases roomId <;> rfl

theorem eventsOf_record (e : ReservationEvent) : (b.record e).eventsOf id =
    b.eventsOf id ++ if e.reservationId = id then [e] else [] := by
  by_cases he : e.reservationId = id <;> simp [eventsOf, record, he]

theorem statusOf_update_of_keep {k : Id} {f : Reservation → Reservation}
    {hf : ∀ r, (f r).id = r.id} (hkeep : ∀ r, (f r).status = r.status) :
    (b.update k f hf).statusOf id = b.statusOf id := by
  simp only [statusOf, update, find?_update, Option.map_map]
  congr 1
  funext r
  by_cases hr : r.id = k <;> simp [hr, hkeep]

theorem statusOf_update_of_set {k : Id} {f : Reservation → Reservation} {hf : ∀ r, (f r).id = r.id}
    {r : Reservation} (hr : r ∈ b.reservations) (hk : r.id = k)
    (hset : ∀ r, (f r).status = status) :
    (b.update k f hf).statusOf id = if id = k then some status else b.statusOf id := by
  simp only [statusOf, update, find?_update, Option.map_map]
  by_cases hid : id = k
  · subst hid
    have hfind : b.reservations.find? id = some r := Table.find?_eq_some.mpr ⟨hr, hk⟩
    simp [hfind, hk, hset]
  · rw [if_neg hid]
    cases hfind : b.reservations.find? id with
    | none => rfl
    | some r' =>
      have hne : r'.id ≠ k := key_of_find? hfind ▸ hid
      simp [hne]

theorem statusOf_insert {row : Reservation} (hfree : ∀ r ∈ b.reservations, r.id ≠ row.id) :
    (b.insert row).statusOf id = if id = row.id then some row.status else b.statusOf id := by
  have hkey : b.reservations.hasKey row.id = false := Table.hasKey_eq_false.mpr hfree
  simp only [statusOf, insert, find?_insert hkey]
  by_cases hid : row.id = id
  · simp [hid]
  · simp [hid, Ne.symm hid]

end Board

/-- The statuses stay, and the trail says nothing of them. -/
def Silent (b b' : Board) : Prop :=
  ∀ id, b'.statusOf id = b.statusOf id ∧ b'.trail id = b.trail id ∧ b'.replay id = b.replay id

theorem Silent.refl (b : Board) : Silent b b := fun _ => ⟨rfl, rfl, rfl⟩

theorem Silent.trans {a b c : Board} (hab : Silent a b) (hbc : Silent b c) : Silent a c := by
  intro id
  obtain ⟨hs, ht, hr⟩ := hab id
  obtain ⟨hs', ht', hr'⟩ := hbc id
  exact ⟨hs'.trans hs, ht'.trans ht, hr'.trans hr⟩

theorem Silent.record {a b : Board} {e : ReservationEvent} (h : Silent a b)
    (he : e.status? = none) : Silent a (b.record e) := by
  refine h.trans fun id => ⟨rfl, ?_, ?_⟩
  · by_cases hid : e.reservationId = id <;>
      simp [Board.trail, Board.eventsOf_record, hid, he]
  · by_cases hid : e.reservationId = id <;>
      simp [Board.replay, Board.eventsOf_record, hid, ReservationEvent.apply, he]

variable {b b' : Board}

theorem Silent.of_eq (hs : ∀ id, b'.statusOf id = b.statusOf id)
    (he : ∀ id, b'.eventsOf id = b.eventsOf id) : Silent b b' := by
  intro id
  refine ⟨hs id, ?_, ?_⟩
  · simp only [Board.trail, he]
  · simp only [Board.replay, he]

variable {f : Reservation → Reservation} {hf : ∀ r, (f r).id = r.id}

theorem Silent.update {a b : Board} {k : Id} (h : Silent a b)
    (hkeep : ∀ r, (f r).status = r.status) :
    Silent a (b.update k f hf) :=
  h.trans (.of_eq (fun _ => Board.statusOf_update_of_keep hkeep) fun _ => rfl)

theorem Silent.setStatus {a b : Board} (h : Silent a b) (roomId : Id) (status : RoomStatus)
    (now : ℤ) : Silent a (b.setStatus roomId status now) :=
  h.trans (.of_eq (fun _ => rfl) fun _ => rfl)

theorem Silent.vacate {a b : Board} (h : Silent a b) (roomId : Option Id) (now : ℤ) :
    Silent a (b.vacate roomId now) :=
  h.trans (.of_eq (fun _ => Board.statusOf_vacate _ _) fun _ => Board.eventsOf_vacate _ _)

theorem Shuffle.silent {c : Call} {start b b' : Board} (h : Shuffle c start b b') :
    Silent b b' := by
  cases h with
  | edited hid hkeep he => exact ((Silent.refl b).update fun r => (hkeep r).1).record he
  | paid => exact (Silent.refl b).update fun _ => rfl
  | housed hb hs he => exact Silent.record (Silent.update (.refl b) fun _ => by rfl) he
  | swapped hk ha hb hla hlb hne hra hrb he₁ he₂ =>
    refine Silent.record (Silent.record (Silent.update (Silent.update (.refl _) ?_) ?_) he₁) he₂
    · exact fun _ => rfl
    · exact fun _ => rfl
  | moved hb hl hs hroom hready hne he =>
    refine Silent.record (Silent.setStatus (Silent.vacate (Silent.update (.refl _) ?_) _ _) _ _ _) he
    exact fun _ => rfl

theorem Turn.effect (h : Turn b b') : ∃ e status,
    (∀ id, b'.eventsOf id = b.eventsOf id ++ if e.reservationId = id then [e] else []) ∧
    (∀ id, b'.statusOf id = if id = e.reservationId then some status else b.statusOf id) ∧
    e.status? = some status ∧ b.statusOf e.reservationId ≠ some status ∧
    ReservationEvent.apply (b.statusOf e.reservationId) e = some status := by
  -- the table has no loops
  have hloop : ∀ s s' : ReservationStatus, canTransition s s' = true → s ≠ s' := by
    intro s s' ht
    cases s <;> cases s' <;> simp_all [canTransition, RESERVATION_TRANSITIONS]
  have hmove : ∀ {before : Reservation} {status : ReservationStatus} {e : ReservationEvent},
      before ∈ b.reservations → canTransition before.status status = true →
      e.Tells before.id status → b.statusOf e.reservationId ≠ some status ∧
        ReservationEvent.apply (b.statusOf e.reservationId) e = some status := by
    intro before status e hb ht he
    have hstatus : b.statusOf e.reservationId = some before.status :=
      Board.statusOf_eq_some.mpr ⟨before, hb, he.reservation.symm, rfl⟩
    refine ⟨?_, ?_⟩
    · rw [hstatus]
      simpa using hloop _ _ ht
    · simp [hstatus, ReservationEvent.apply, he.status, he.type, ht]
  cases h with
  | @created row actorStaffId hfree hs hl =>
    have hnone : b.statusOf row.id = none := Board.statusOf_eq_none.mpr hfree
    refine ⟨_, row.status, fun id => Board.eventsOf_record _, fun id => ?_, rfl, ?_, ?_⟩
    · exact Board.statusOf_insert hfree
    · simp [hnone]
    · simp [hnone, ReservationEvent.apply, ReservationEvent.status?]
  | @turned before status f e hid hb hl ht hnot hin hf he =>
    refine ⟨e, status, fun id => Board.eventsOf_record _, fun id => ?_, he.status, hmove hb ht he⟩
    rw [Board.statusOf_record, Board.statusOf_update_of_set hb rfl fun r => (hf r).1,
      he.reservation]
  | @checkedIn before room now e guest hb hl ht hroom hready he =>
    refine ⟨e, .CHECKED_IN, fun id => Board.eventsOf_record _, fun id => ?_, he.status,
      hmove hb ht he⟩
    rw [Board.statusOf_record, Board.statusOf_setStatus, he.reservation]
    exact Board.statusOf_update_of_set hb rfl fun _ => rfl
  | @checkedOut before now e hb hl ht he =>
    refine ⟨e, .CHECKED_OUT, fun id => ?_, fun id => ?_, he.status, hmove hb ht he⟩
    · rw [Board.eventsOf_record, Board.eventsOf_vacate, Board.eventsOf_update]
    · rw [Board.statusOf_record, Board.statusOf_vacate, he.reservation]
      exact Board.statusOf_update_of_set hb rfl fun _ => rfl

/-! ## The trail is complete -/

theorem Silent.recorded (h : Silent b b') : Recorded b b' := by
  intro id
  obtain ⟨hs, ht, -⟩ := h id
  simp [hs, ht]

theorem Silent.replays (h : Silent b b') (hb : Replays b) : Replays b' := by
  intro id
  obtain ⟨hs, -, hr⟩ := h id
  rw [hs, hr, hb id]

theorem Turn.recorded (h : Turn b b') : Recorded b b' := by
  obtain ⟨e, status, hevents, hstatus, he, hnew, -⟩ := h.effect
  intro id
  rw [Board.trail, hevents, hstatus]
  by_cases hid : id = e.reservationId
  · subst hid
    simp [Board.trail, he, Ne.symm hnew]
  · simp [Board.trail, hid, Ne.symm hid]

theorem Turn.replays (h : Turn b b') (hb : Replays b) : Replays b' := by
  obtain ⟨e, status, hevents, hstatus, -, -, happly⟩ := h.effect
  intro id
  rw [Board.replay, hevents, hstatus, List.foldl_append]
  have hbefore : (b.eventsOf id).foldl ReservationEvent.apply none = b.statusOf id := hb id
  by_cases hid : id = e.reservationId
  · subst hid
    simp [hbefore, happly]
  · simp [hbefore, hid, Ne.symm hid]

theorem Silent.of_shuffles {c : Call} {start b b' : Board}
    (h : ReflTransGen (Shuffle c start) b b') : Silent b b' := by
  induction h with
  | refl => exact .refl b
  | tail _ hstep ih => exact ih.trans hstep.silent

theorem Does.trail {c : Call} {b : Board} {s : HotelDb} (h : Does c b s) :
    Recorded b s.board ∧ (Replays b → Replays s.board) := by
  obtain ⟨mid, hshuffle, hlast⟩ := h
  have hsilent : Silent b mid := .of_shuffles hshuffle
  rcases hlast with hsame | hturn
  · rw [hsame]
    exact ⟨hsilent.recorded, hsilent.replays⟩
  · refine ⟨fun id => ?_, fun hb => hturn.replays (hsilent.replays hb)⟩
    obtain ⟨hs, ht, -⟩ := hsilent id
    rw [hturn.recorded id, hs, ht]

/-! ## The workers -/

/-- A sweep that finds no row. -/
def Actor.Idle : Actor → HotelDb → Prop
  | .call _, _ => True
  | .nightAudit now, db => ∀ r ∈ db.reservations,
      ¬(r.status = .CONFIRMED ∧ r.checkIn < today now ∧ r.deletedAt = none)
  | .holdExpiry now, db => ∀ r ∈ db.reservations,
      ¬(r.status = .PENDING ∧ r.holdExpiresAt.any (· < now) = true ∧ r.deletedAt = none)

instance (a : Actor) (db : HotelDb) : Decidable (a.Idle db) := by
  cases a <;> unfold Actor.Idle <;> infer_instance

variable {db : HotelDb} {p : Reservation → Bool}

theorem sweep_runWith {Q : HotelDb → Prop} (hstay : Q db)
    (hswept : Q { db with reservations := db.reservations.update p f hf }) (φ : ℕ → Option String) :
    Q ((do let _ ← sweepReservations p f hf : Op Unit).runWith φ db).db := by
  refine ends_runWith ?_ φ
  simp only [sweepReservations, ends_simps]
  exact ⟨hswept, fun _ => hstay⟩

theorem sweep_idle (hidle : ∀ r ∈ db.reservations, p r = false) :
    { db with reservations := db.reservations.update p f hf } = db := by
  rw [Table.update_of_false hidle]

theorem sweep_not_recorded {hf : ∀ r, (f r).id = r.id} {r : Reservation} (hr : r ∈ db.reservations)
    (hp : p r = true) (hchange : (f r).status ≠ r.status) :
    ¬ Recorded db.board
      ({ db with reservations := db.reservations.update p f hf } : HotelDb).board := by
  intro hrec
  have hbefore : db.board.statusOf r.id = some r.status :=
    Board.statusOf_eq_some.mpr ⟨r, hr, rfl, rfl⟩
  have hafter : ({ db with reservations := db.reservations.update p f hf } : HotelDb).board.statusOf
      r.id = some (f r).status :=
    Board.statusOf_eq_some.mpr ⟨f r, mem_update_of_mem hf hr hp, hf r, rfl⟩
  have htrail := hrec r.id
  rw [hbefore, hafter, if_neg (by simpa using hchange)] at htrail
  -- the trail would be longer than itself
  simpa [Board.trail, Board.eventsOf, HotelDb.board] using congrArg List.length htrail

/-! ## Clerks and workers one after another -/

theorem Actor.trail {a : Actor} (φ : ℕ → Option String) (hidle : a.Idle db)
    (hdb : Replays db.board) :
    Recorded db.board (a.prog.runWith φ db).db.board ∧ Replays (a.prog.runWith φ db).db.board := by
  have hstay : Recorded db.board db.board ∧ Replays db.board :=
    ⟨(Silent.refl db.board).recorded, hdb⟩
  cases a with
  | call c =>
    obtain ⟨hrec, hrep⟩ := (c.does_runWith φ db).trail
    exact ⟨hrec, hrep hdb⟩
  | nightAudit now =>
    refine sweep_runWith (Q := fun s => Recorded db.board s.board ∧ Replays s.board) hstay ?_ φ
    rw [sweep_idle]
    · exact hstay
    · intro r hr
      simpa [and_assoc, Option.isSome_iff_ne_none] using hidle r hr
  | holdExpiry now =>
    refine sweep_runWith (Q := fun s => Recorded db.board s.board ∧ Replays s.board) hstay ?_ φ
    rw [sweep_idle]
    · exact hstay
    · intro r hr
      simpa [and_assoc, Option.isSome_iff_ne_none] using hidle r hr

theorem Actor.idle_of_recorded {a : Actor} (h : Recorded db.board (a.prog.run db).db.board) :
    a.Idle db := by
  cases a with
  | call c => trivial
  | nightAudit now =>
    intro r hr hdue
    refine sweep_not_recorded hr (by simpa [and_assoc] using hdue) ?_ h
    simp [hdue.1]
  | holdExpiry now =>
    intro r hr hdue
    refine sweep_not_recorded hr (by simpa [and_assoc] using hdue) ?_ h
    simp [hdue.1]

/-- The trail is complete after every step of a run in which no sweep finds a row; and in a
run without faults only then. -/
theorem trail_complete_iff {db : HotelDb} (hstart : Replays db.board)
    (steps : List (Actor × (ℕ → Option String))) :
    (EachStep Actor.prog (fun a s _ => a.Idle s) steps db →
      EachStep Actor.prog (fun _ s s' => Recorded s.board s'.board ∧ Replays s'.board) steps db) ∧
    ((∀ step ∈ steps, step.2 = noFaults) →
      EachStep Actor.prog (fun _ s s' => Recorded s.board s'.board ∧ Replays s'.board) steps db →
      EachStep Actor.prog (fun a s _ => a.Idle s) steps db) := by
  refine ⟨fun hidle => ?_, ?_⟩
  · refine EachStep.mono (I := fun s => Replays s.board) (fun a s φ hs ha => ?_) steps db hidle
      hstart
    have htrail := a.trail φ ha hs
    exact ⟨htrail, htrail.2⟩
  · clear hstart
    induction steps generalizing db with
    | nil => exact fun _ _ => trivial
    | cons step steps ih =>
      obtain ⟨a, φ⟩ := step
      intro hφ hrec
      obtain rfl : φ = noFaults := hφ _ (List.mem_cons_self ..)
      exact ⟨Actor.idle_of_recorded hrec.1.1, ih (fun s hs => hφ s (List.mem_cons_of_mem _ hs))
        hrec.2⟩

/-! ### A no-show nobody recorded -/

/-- A house with one room and no bookings. -/
def auditDb : HotelDb where
  rooms := (∅ : Table Room.id).insert
    { id := 101, propertyId := 1, roomTypeId := 7, number := "101", status := .AVAILABLE }
  roomTypes := (∅ : Table RoomType.id).insert
    { id := 7, propertyId := 1, name := "Deluxe", baseRate := 100000 }

def auditBooking : Actor :=
  .call {
    env := { now := 0, uuid := fun n => n + 1, rates := false }
    propertyId := 1
    action := .create {
      roomTypeId := 7
      guest := { guestName := "Guest", guestPhone := "0" }
      checkIn := 10, checkOut := 12, ratePaise := some 100000, status := some .CONFIRMED } }

def auditCancel : Actor :=
  .call { env := { now := 0 }, propertyId := 1, action := .cancel 1 "changed plans" }

/-- Two days after the arrival. -/
def auditSweep : Actor := .nightAudit (12 * 86400000)

/-- The booking ends as NO_SHOW while its trail ends with its creation as CONFIRMED. -/
theorem noShow_unrecorded :
    Replays auditDb.board ∧
      (runAll Actor.prog [(auditBooking, noFaults), (auditSweep, noFaults)]
        auditDb).board.statusOf 1 = some .NO_SHOW ∧
      (runAll Actor.prog [(auditBooking, noFaults), (auditSweep, noFaults)]
        auditDb).board.replay 1 = some .CONFIRMED ∧
      ¬ EachStep Actor.prog (fun _ s s' => Recorded s.board s'.board ∧ Replays s'.board)
        [(auditBooking, noFaults), (auditSweep, noFaults)] auditDb := by
  refine ⟨fun _ => rfl, by decide, by decide, fun hrec => ?_⟩
  have hreplay := hrec.2.1.2 1
  revert hreplay
  decide

/-- The same house with the booking cancelled before the audit. -/
theorem cancellation_recorded :
    EachStep Actor.prog (fun _ s s' => Recorded s.board s'.board ∧ Replays s'.board)
      [(auditBooking, noFaults), (auditCancel, noFaults), (auditSweep, noFaults)]
      auditDb :=
  (trail_complete_iff (fun _ => rfl) _).1 (by decide)

end Travelo

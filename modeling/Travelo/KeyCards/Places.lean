import Travelo.KeyCards
import Travelo.ReadCommitted.Staged

/-!
# Where a card is cut

The calls of the desk as machines: each place holds what the call knows by then, and its program is
what is left of the method. `CardCall.prog_start` connects the first place of a call to the method.
-/

namespace Travelo.KeyCards

open ReadCommitted KeyCardsService

/-- A call of the service, with the clock. -/
inductive CardCall where
  | issue (propertyId reservationId : Id) (staffId : Option Id) (now : ℤ)
  | deactivate (propertyId id : Id) (lost : Bool) (now : ℤ)
  | replace (propertyId id : Id) (now : ℤ)

def CardCall.prog (offset : ℤ → ℤ) : CardCall → KeyOp KeyCardDto
  | .issue propertyId reservationId staffId now =>
    KeyCardsService.issue offset propertyId reservationId staffId now
  | .deactivate propertyId id lost now => KeyCardsService.deactivate propertyId id lost now
  | .replace propertyId id now => KeyCardsService.replace offset propertyId id now

/-- A card to be cut. -/
structure Order where
  propertyId : Id
  reservation : Reservation
  staffId : Option Id
  now : ℤ

namespace Order

variable (offset : ℤ → ℤ) (o : Order)

/-- The card with sequence `n`. -/
def card (n : ℕ) (db : KeyDb) : KeyCard :=
  newCard offset o.propertyId o.reservation o.staffId o.now n db

/-- What is left of the tries, and the answer. -/
def cutFrom (count tries bump : ℕ) : KeyOp KeyCardDto :=
  cut offset o.propertyId o.reservation o.staffId o.now count tries bump >>=
    answerFor o.reservation o.now

end Order

/-- Where a call is: before the statement the place is named after. -/
inductive Place where
  | answered (a : KeyCardDto)
  | failed (e : KeyErr)
  | readReservation (propertyId reservationId : Id) (staffId : Option Id) (now : ℤ)
  | countCards (o : Order)
  | cut (o : Order) (count tries bump : ℕ)
  | readRoom (roomId : Id) (card : KeyCard) (guestName : Option String) (now : ℤ)
  | findCard (propertyId id : Id) (lost : Bool) (now : ℤ)
  | kill (propertyId id : Id) (lost : Bool) (now : ℤ)
  | readStay (card : KeyCard) (now : ℤ)
  | findOld (propertyId id : Id) (now : ℤ)
  | readOldStay (propertyId id : Id) (old : KeyCard) (now : ℤ)
  | retire (propertyId id : Id) (old : KeyCard) (reservation : Reservation) (now : ℤ)

namespace Place

/-- The room number and the answer. -/
def answer (card : KeyCard) (guestName : Option String) (now : ℤ) (roomId : Option Id) :
    KeyOp KeyCardDto := do
  let roomNumber ← roomNumberFor roomId
  return toDto card guestName roomNumber now

variable (offset : ℤ → ℤ)

/-- What is left of the call. -/
def prog : Place → KeyOp KeyCardDto
  | .answered a => .ret a
  | .failed e => .throw e
  | .readReservation propertyId reservationId staffId now =>
    issue offset propertyId reservationId staffId now
  | .countCards o => do
    let count ← select (.count o.propertyId) (cardCount o.propertyId)
    o.cutFrom offset count NUMBER_RETRIES 0
  | .cut o count tries bump => o.cutFrom offset count (tries + 1) bump
  | .readRoom roomId card guestName now => answer card guestName now (some roomId)
  | .findCard propertyId id lost now => deactivate propertyId id lost now
  | .kill propertyId id lost now => finishDeactivate propertyId id lost now
  | .readStay card now => answerDead now card
  | .findOld propertyId id now => replace offset propertyId id now
  | .readOldStay propertyId id old now => do
    let reservation ← requireReservation propertyId old.reservationId
    finishReplace offset propertyId id old reservation now
  | .retire propertyId id old reservation now =>
    finishReplace offset propertyId id old reservation now

/-- Where the room number is needed. -/
def roomFor (card : KeyCard) (guestName : Option String) (now : ℤ) : Option Id → Place
  | some roomId => .readRoom roomId card guestName now
  | none => .answered (toDto card guestName none now)

/-- Where the search for a row leads. -/
def orFailed {α : Type} (e : KeyErr) (next : α → Place) : Option α → Place
  | some a => next a
  | none => .failed e

/-- Where an active card leads. -/
def ifActive (next : KeyCard → Place) (card : KeyCard) : Place :=
  if card.status ≠ .ACTIVE then .failed .notActive else next card

/-- Where a refused number leads. -/
def nextTry (o : Order) (count tries bump : ℕ) (e : KeyErr) : Place :=
  if e = .uniqueViolation then
    match tries with
    | 0 => .failed .numberExhausted
    | tries + 1 => .cut o count tries (bump + 1)
  else .failed e

/-- The next statement, and where it leads. -/
def stage : Place → Stage KeyDb KeyLook KeyErr Place
  | .answered _ => .ended
  | .failed _ => .ended
  | .readReservation propertyId reservationId staffId now => .read (.reservation reservationId)
      (fun db => orFailed .reservationNotFound
        (fun r => if ¬eligible r.status then .failed (.reservationNotEligible r.status)
          else .countCards ⟨propertyId, r, staffId, now⟩)
        (stayOf reservationId (some propertyId) db)) .failed
  | .countCards o => .read (.count o.propertyId)
      (fun db => .cut o (cardCount o.propertyId db) 4 0) .failed
  | .cut o count tries bump =>
    .write (fun db => insertRow (o.card offset (count + 1 + bump) db) db)
      (fun db => roomFor (o.card offset (count + 1 + bump) db)
        (some o.reservation.guest.guestName) o.now o.reservation.roomId)
      (nextTry o count tries bump)
  | .readRoom roomId card guestName now => .read (.room roomId)
      (fun db => .answered
        (toDto card guestName ((db.hotel.rooms.find? roomId).map (·.number)) now)) .failed
  | .findCard propertyId id lost now => .read (.card id)
      (fun db => orFailed .notFound (ifActive fun _ => .kill propertyId id lost now)
        (cardOf propertyId id db)) .failed
  | .kill propertyId id lost now =>
    .write (fun db => .ok (KeyCardsService.kill propertyId id (statusOf lost) now db))
      (fun db => orFailed (.internal "no row was updated") (fun card => .readStay card now)
        ((cardOf propertyId id db).map (dead (statusOf lost) now))) .failed
  | .readStay card now => .read (.reservation card.reservationId)
      (fun db => roomFor card ((stayOf card.reservationId none db).map (·.guest.guestName)) now
        ((stayOf card.reservationId none db).bind (·.roomId))) .failed
  | .findOld propertyId id now => .read (.card id)
      (fun db => orFailed .notFound (ifActive fun old => .readOldStay propertyId id old now)
        (cardOf propertyId id db)) .failed
  | .readOldStay propertyId id old now => .read (.reservation old.reservationId)
      (fun db => orFailed .reservationNotFound (fun r => .retire propertyId id old r now)
        (stayOf old.reservationId (some propertyId) db)) .failed
  | .retire propertyId id old reservation now =>
    .write (fun db => .ok (KeyCardsService.kill propertyId id .DEACTIVATED now db))
      (fun _ => .countCards ⟨propertyId, reservation, old.issuedBy, now⟩) .failed

theorem prog_orFailed {α : Type} (e : KeyErr) (next : α → Place) (found : Option α) :
    (orFailed e next found).prog offset =
      orThrow found e >>= fun a => (next a).prog offset := by
  cases found <;> rfl

theorem prog_roomFor (card : KeyCard) (guestName : Option String) (now : ℤ) (roomId : Option Id) :
    (roomFor card guestName now roomId).prog offset = answer card guestName now roomId := by
  cases roomId <;> rfl

theorem prog_ifActive (next : KeyCard → Place) (card : KeyCard) :
    (ifActive next card).prog offset =
      throwIf (card.status ≠ .ACTIVE) .notActive >>= fun _ => (next card).prog offset := by
  unfold ifActive throwIf
  by_cases hactive : card.status ≠ .ACTIVE
  · rw [if_pos hactive, if_pos hactive]
    rfl
  · rw [if_neg hactive, if_neg hactive]
    rfl

theorem prog_nextTry (o : Order) (count tries bump : ℕ) (e : KeyErr) :
    (nextTry o count tries bump e).prog offset =
      (if e = .uniqueViolation then
        KeyCardsService.cut offset o.propertyId o.reservation o.staffId o.now count tries (bump + 1)
      else throw e) >>= answerFor o.reservation o.now := by
  unfold nextTry
  by_cases htaken : e = .uniqueViolation
  · rw [if_pos htaken, if_pos htaken]
    cases tries <;> rfl
  · rw [if_neg htaken, if_neg htaken]
    rfl

theorem at_stage (φ : Place) : (φ.prog offset).At (Place.prog offset) (φ.stage offset) := by
  cases φ with
  | answered a => rfl
  | failed e => rfl
  | readReservation propertyId reservationId staffId now =>
    refine ⟨_, rfl, fun db => ?_, fun e => rfl⟩
    dsimp only
    cases stayOf reservationId (some propertyId) db with
    | none => rfl
    | some r =>
      show (throwIf (¬eligible r.status) (.reservationNotEligible r.status) >>= fun _ =>
        insertCard offset propertyId r staffId now >>= answerFor r now) = Place.prog offset
          (if ¬eligible r.status then .failed (.reservationNotEligible r.status)
            else .countCards ⟨propertyId, r, staffId, now⟩)
      unfold throwIf
      by_cases heligible : ¬eligible r.status
      · rw [if_pos heligible, if_pos heligible]
        rfl
      · rw [if_neg heligible, if_neg heligible]
        exact Prog.bind_assoc _ _ _
  | countCards o => exact ⟨_, rfl, fun db => rfl, fun e => rfl⟩
  | cut o count tries bump =>
    refine ⟨_, _, rfl, fun db => ?_, fun e => ?_⟩
    · rw [prog_roomFor]
      rfl
    · rw [prog_nextTry]
      rfl
  | readRoom roomId card guestName now => exact ⟨_, rfl, fun db => rfl, fun e => rfl⟩
  | findCard propertyId id lost now =>
    refine ⟨_, rfl, fun db => ?_, fun e => rfl⟩
    rw [prog_orFailed]
    simp only [prog_ifActive]
    rfl
  | kill propertyId id lost now =>
    refine ⟨_, _, rfl, fun db => ?_, fun e => rfl⟩
    rw [prog_orFailed]
    rfl
  | readStay card now =>
    refine ⟨_, rfl, fun db => ?_, fun e => rfl⟩
    rw [prog_roomFor]
    rfl
  | findOld propertyId id now =>
    refine ⟨_, rfl, fun db => ?_, fun e => rfl⟩
    rw [prog_orFailed]
    simp only [prog_ifActive]
    rfl
  | readOldStay propertyId id old now =>
    refine ⟨_, rfl, fun db => ?_, fun e => rfl⟩
    rw [prog_orFailed]
    rfl
  | retire propertyId id old reservation now =>
    refine ⟨_, _, rfl, fun db => ?_, fun e => rfl⟩
    show (insertCard offset propertyId reservation old.issuedBy now >>= _) = _
    exact Prog.bind_assoc _ _ _

theorem eq_failed {φ : Place} {e : KeyErr} (h : φ.prog offset = .throw e) : φ = .failed e := by
  have hended : φ.stage offset = .ended := by
    by_contra hst
    have hrunning := (at_stage offset φ).running hst
    rw [h] at hrunning
    cases hrunning
  cases φ <;> simp only [stage, reduceCtorEq] at hended
  case answered a => cases h
  case failed e' => exact congrArg Place.failed (Prog.throw.inj h)

theorem eq_answered {φ : Place} {a : KeyCardDto} (h : φ.prog offset = .ret a) :
    φ = .answered a := by
  have hended : φ.stage offset = .ended := by
    by_contra hst
    have hrunning := (at_stage offset φ).running hst
    rw [h] at hrunning
    cases hrunning
  cases φ <;> simp only [stage, reduceCtorEq] at hended
  case answered a' => exact congrArg Place.answered (Prog.ret.inj h)
  case failed e => cases h

end Place

/-- The calls in stages. -/
def staging (offset : ℤ → ℤ) : Staging KeyDb Id KeyLook KeyErr KeyCardDto Place where
  prog := Place.prog offset
  stage := Place.stage offset
  at_stage := Place.at_stage offset
  dead := .failed (lost "crash")
  dead_prog := rfl

/-- The first place of a call. -/
def CardCall.start : CardCall → Place
  | .issue propertyId reservationId staffId now =>
    .readReservation propertyId reservationId staffId now
  | .deactivate propertyId id lost now => .findCard propertyId id lost now
  | .replace propertyId id now => .findOld propertyId id now

theorem CardCall.prog_start (offset : ℤ → ℤ) (call : CardCall) :
    call.start.prog offset = call.prog offset := by
  cases call <;> rfl

end Travelo.KeyCards

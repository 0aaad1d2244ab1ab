import Travelo.ReadCommitted.Answers
import Travelo.Reservations.Rules
import Travelo.Reservations.Service

/-!
# Key cards

`KeyCardsService`: the cards the desk cuts for a stay, beside the tables of the hotel. A card keeps
a copy of the check-out of its stay, its number counts the cards of the property, and it is never
deleted. The server's clock is `offset day` ahead of UTC at eleven on `day`.
-/

namespace Travelo.KeyCards

open ReadCommitted

/-! ## State -/

inductive KeyCardStatus where
  | ACTIVE
  | DEACTIVATED
  | LOST
  deriving DecidableEq

structure KeyCard where
  id : Id
  propertyId : Id
  reservationId : Id
  cardNumber : String
  status : KeyCardStatus := .ACTIVE
  /-- Who handed it over. -/
  issuedBy : Option Id := none
  issuedAt : ℤ := 0
  expiresAt : ℤ
  deactivatedAt : Option ℤ := none

structure KeyDb where
  hotel : HotelDb := {}
  keyCards : Table KeyCard.id := ∅

/-- What a statement reads. -/
inductive KeyLook where
  | card (id : Id)
  | reservation (id : Id)
  /-- How many cards the property has. -/
  | count (propertyId : Id)
  | room (id : Id)
  deriving DecidableEq

inductive KeyErr where
  | notFound
  | reservationNotFound
  | reservationNotEligible (status : ReservationStatus)
  | notActive
  | numberExhausted
  /-- SQLSTATE 23505. -/
  | uniqueViolation
  | internal (message : String)
  deriving DecidableEq

instance : Faults KeyErr := ⟨.internal⟩

/-- A method of the service; a row that is written is locked by its id. -/
abbrev KeyOp := Prog KeyDb Id KeyLook KeyErr

abbrev KeyTrace := List (Obs KeyDb KeyLook)

/-! ## Rules -/

/-- `String(n).padStart(width, '0')`. -/
def padStart (width n : ℕ) : String :=
  String.ofList (List.replicate (width - (toString n).length) '0') ++ toString n

/-- `KC-0001` style. -/
def cardNumber (n : ℕ) : String := "KC-" ++ padStart 4 n

theorem cardNumber_inj {m n : ℕ} (h : cardNumber m = cardNumber n) : m = n := by
  have hlists : (cardNumber m).toList = (cardNumber n).toList := by rw [h]
  unfold cardNumber padStart at hlists
  simp only [String.toList_append, String.toList_ofList, List.append_cancel_left_eq] at hlists
  have hdigits : ∀ i, (toString i).toList = Nat.toDigits 10 i := fun i => Nat.toList_repr
  have hvalue := congrArg (Nat.ofDigitChars 10 · 0) hlists
  simpa only [hdigits, Nat.ofDigitChars_append, Nat.ofDigitChars_replicate_zero, Nat.mul_zero,
    Nat.ofDigitChars_ten_toDigits] using hvalue

/-- Eleven in the morning of a day, server-local. -/
def elevenOn (offset : ℤ → ℤ) (day : ℤ) : ℤ := day * 86400000 + 39600000 - offset day

/-- The status a card reports. -/
inductive DtoStatus where
  | ACTIVE
  | DEACTIVATED
  | LOST
  | EXPIRED

structure KeyCardDto where
  id : Id
  cardNumber : String
  status : DtoStatus
  issuedAt : ℤ
  expiresAt : ℤ
  reservationId : Id
  guestName : Option String
  roomNumber : Option String

/-- The card opens the door at `now`. -/
def KeyCard.opens (card : KeyCard) (now : ℤ) : Prop :=
  card.status = .ACTIVE ∧ ¬card.expiresAt < now

instance (card : KeyCard) (now : ℤ) : Decidable (card.opens now) :=
  inferInstanceAs (Decidable (_ ∧ _))

namespace KeyCardsService

/-- Bumps past a handful of unique collisions before giving up. -/
def NUMBER_RETRIES : ℕ := 5

/-- The stored status, except that a card stored `ACTIVE` past its expiry reports `EXPIRED`. -/
def statusAt (card : KeyCard) (now : ℤ) : DtoStatus :=
  match card.status with
  | .ACTIVE => if card.expiresAt < now then .EXPIRED else .ACTIVE
  | .DEACTIVATED => .DEACTIVATED
  | .LOST => .LOST

def toDto (card : KeyCard) (guestName roomNumber : Option String) (now : ℤ) : KeyCardDto :=
  { id := card.id
    cardNumber := card.cardNumber
    status := statusAt card now
    issuedAt := card.issuedAt
    expiresAt := card.expiresAt
    reservationId := card.reservationId
    guestName
    roomNumber }

/-! ## Look-ups -/

/-- The card of the property. -/
def cardOf (propertyId id : Id) (db : KeyDb) : Option KeyCard :=
  (db.keyCards.find? id).filter fun k => k.propertyId = propertyId

theorem cardOf_eq_some {propertyId id : Id} {db : KeyDb} {k : KeyCard} :
    cardOf propertyId id db = some k ↔ k ∈ db.keyCards ∧ k.id = id ∧ k.propertyId = propertyId := by
  unfold cardOf
  rw [Option.filter_eq_some_iff, find?_eq_some, and_assoc, decide_eq_true_iff]

/-- The reservation, of the property if one is given. -/
def stayOf (id : Id) (propertyId : Option Id) (db : KeyDb) : Option Reservation :=
  (db.hotel.reservations.find? id).filter fun r =>
    r.deletedAt.isNone && propertyId.all fun p => r.propertyId = p

theorem stayOf_eq_some {propertyId id : Id} {db : KeyDb} {r : Reservation} :
    stayOf id (some propertyId) db = some r ↔
      r ∈ db.hotel.reservations ∧ r.id = id ∧ r.deletedAt = none ∧ r.propertyId = propertyId := by
  unfold stayOf
  rw [Option.filter_eq_some_iff, find?_eq_some, and_assoc]
  simp

/-- The cards of a property. -/
def cardsOf (propertyId : Id) (db : KeyDb) : List KeyCard :=
  db.keyCards.rows.filter fun k => k.propertyId = propertyId

/-- `count(*)`. -/
def cardCount (propertyId : Id) (db : KeyDb) : ℕ := (cardsOf propertyId db).length

def requireCard (propertyId id : Id) : KeyOp KeyCard := do
  let found ← select (.card id) (cardOf propertyId id)
  orThrow found .notFound

def reservationFor (id : Id) (propertyId : Option Id) : KeyOp (Option Reservation) :=
  select (.reservation id) (stayOf id propertyId)

def requireReservation (propertyId id : Id) : KeyOp Reservation := do
  let row ← reservationFor id (some propertyId)
  orThrow row .reservationNotFound

def roomNumberFor (roomId : Option Id) : KeyOp (Option String) :=
  match roomId with
  | some id => select (.room id) fun db => (db.hotel.rooms.find? id).map (·.number)
  | none => return none

/-! ## Cutting a card -/

section Cutting

variable (offset : ℤ → ℤ) (propertyId : Id) (reservation : Reservation) (staffId : Option Id)
  (now : ℤ)

/-- The row of the card with sequence `n`; the database draws its id. -/
def newCard (n : ℕ) (db : KeyDb) : KeyCard :=
  { id := freshId (db.keyCards.rows.map (·.id))
    propertyId
    reservationId := reservation.id
    cardNumber := cardNumber n
    status := .ACTIVE
    issuedBy := staffId
    issuedAt := now
    expiresAt := elevenOn offset reservation.checkOut }

/-- A property has no two cards of one number. -/
def insertRow (card : KeyCard) (db : KeyDb) : Except KeyErr KeyDb :=
  if (cardsOf card.propertyId db).any fun k => k.cardNumber = card.cardNumber then
    .error .uniqueViolation
  else .ok { db with keyCards := db.keyCards.insert card }

/-- The tries from `bump` on. -/
def cut (count : ℕ) : ℕ → ℕ → KeyOp KeyCard
  | 0, _ => throw .numberExhausted
  | tries + 1, bump =>
    tryCatchThe KeyErr
      (writeChecked (fun _ => [])
        (fun db => insertRow
          (newCard offset propertyId reservation staffId now (count + 1 + bump) db) db)
        (newCard offset propertyId reservation staffId now (count + 1 + bump)))
      fun e => if e = .uniqueViolation then cut count tries (bump + 1) else throw e

/-- The next number of the property, bumped past what others take meanwhile. -/
def insertCard : KeyOp KeyCard := do
  let count ← select (.count propertyId) (cardCount propertyId)
  cut offset propertyId reservation staffId now count NUMBER_RETRIES 0

end Cutting

/-! ## The service -/

/-- A card that opens nothing any more. -/
def dead (status : KeyCardStatus) (now : ℤ) (card : KeyCard) : KeyCard :=
  { card with status, deactivatedAt := some now }

/-- `UPDATE key_cards SET … WHERE id = … AND property_id = …`. -/
def kill (propertyId id : Id) (status : KeyCardStatus) (now : ℤ) (db : KeyDb) : KeyDb :=
  { db with
    keyCards := db.keyCards.update (fun k => k.id = id && k.propertyId = propertyId)
      (dead status now) fun _ => rfl }

variable (offset : ℤ → ℤ)

/-- What the desk is told of a card cut for a reservation. -/
def answerFor (reservation : Reservation) (now : ℤ) (card : KeyCard) : KeyOp KeyCardDto := do
  let roomNumber ← roomNumberFor reservation.roomId
  return toDto card (some reservation.guest.guestName) roomNumber now

/-- A committed or in-house stay. -/
def eligible (status : ReservationStatus) : Prop := status = .CONFIRMED ∨ status = .CHECKED_IN

instance (status : ReservationStatus) : Decidable (eligible status) :=
  inferInstanceAs (Decidable (_ ∨ _))

def issue (propertyId reservationId : Id) (staffId : Option Id) (now : ℤ) : KeyOp KeyCardDto := do
  let reservation ← requireReservation propertyId reservationId
  throwIf (¬eligible reservation.status) (.reservationNotEligible reservation.status)
  let card ← insertCard offset propertyId reservation staffId now
  answerFor reservation now card

/-- `lost` records why the card died. -/
def statusOf (lost : Bool) : KeyCardStatus := if lost then .LOST else .DEACTIVATED

/-- What the desk is told of a card that has been killed. -/
def answerDead (now : ℤ) (updated : KeyCard) : KeyOp KeyCardDto := do
  let reservation ← reservationFor updated.reservationId none
  let roomNumber ← roomNumberFor (reservation.bind (·.roomId))
  return toDto updated (reservation.map (·.guest.guestName)) roomNumber now

/-- `UPDATE … RETURNING`, and the answer. -/
def finishDeactivate (propertyId id : Id) (lost : Bool) (now : ℤ) : KeyOp KeyCardDto := do
  let updated ← write (fun _ => [id]) (kill propertyId id (statusOf lost) now)
    fun db => (cardOf propertyId id db).map (dead (statusOf lost) now)
  let updated ← orThrow updated (.internal "no row was updated")
  answerDead now updated

def deactivate (propertyId id : Id) (lost : Bool) (now : ℤ) : KeyOp KeyCardDto := do
  let card ← requireCard propertyId id
  throwIf (card.status ≠ .ACTIVE) .notActive
  finishDeactivate propertyId id lost now

/-- The old card dies, and the next number is cut for the same stay. -/
def finishReplace (propertyId id : Id) (old : KeyCard) (reservation : Reservation) (now : ℤ) :
    KeyOp KeyCardDto := do
  write (fun _ => [id]) (kill propertyId id .DEACTIVATED now) fun _ => ()
  let fresh ← insertCard offset propertyId reservation old.issuedBy now
  answerFor reservation now fresh

def replace (propertyId id : Id) (now : ℤ) : KeyOp KeyCardDto := do
  let old ← requireCard propertyId id
  throwIf (old.status ≠ .ACTIVE) .notActive
  let reservation ← requireReservation propertyId old.reservationId
  finishReplace offset propertyId id old reservation now

end KeyCardsService

end Travelo.KeyCards

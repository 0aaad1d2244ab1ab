import Travelo.ReadCommitted.Answers
import Travelo.Reservations.Service

/-!
# Events

`events-rules.ts` and `EventsService`: a banquet event walks ENQUIRY → CONFIRMED → IN_PROGRESS →
COMPLETED, and every live state may be CANCELLED. An edit and a change of the status both read the
row and write back whole groups of its columns, those that are not named from the earlier read.
-/

namespace Travelo.Events

open ReadCommitted

/-! ## State -/

inductive EventStatus where
  | ENQUIRY
  | CONFIRMED
  | IN_PROGRESS
  | COMPLETED
  | CANCELLED
  deriving DecidableEq

structure EventRow where
  id : Id
  propertyId : Id
  name : String
  clientName : String
  type : Option String := none
  venue : Option String := none
  startAt : ℤ
  endAt : Option ℤ := none
  guestCount : ℕ := 0
  package : Option String := none
  status : EventStatus := .ENQUIRY
  /-- The contracted value. -/
  revenuePaise : ℤ := 0
  roomBlock : Option ℕ := none
  notes : Option String := none
  cancelledAt : Option ℤ := none
  completedAt : Option ℤ := none
  createdAt : ℤ := 0
  updatedAt : ℤ := 0

structure EventDb where
  events : Table EventRow.id := ∅

instance : Inhabited EventDb := ⟨{}⟩

/-- What a statement reads: an event. -/
inductive EventLook where
  | event (id : Id)

inductive EventErr where
  | notFound
  | invalidTransition (fromStatus toStatus : EventStatus)
  | internal (message : String)

instance : Faults EventErr := ⟨.internal⟩

/-- A method of the service; a row that is written is locked by its id. -/
abbrev EventOp := Prog EventDb Id EventLook EventErr

abbrev EventTrace := List (Obs EventDb EventLook)

/-! ## Rules -/

def EVENT_TRANSITIONS : EventStatus → List EventStatus
  | .ENQUIRY => [.CONFIRMED, .CANCELLED]
  | .CONFIRMED => [.IN_PROGRESS, .CANCELLED]
  | .IN_PROGRESS => [.COMPLETED, .CANCELLED]
  | .COMPLETED => []
  | .CANCELLED => []

def canTransitionEvent (fromStatus toStatus : EventStatus) : Bool :=
  toStatus ∈ EVENT_TRANSITIONS fromStatus

def assertEventTransition (fromStatus toStatus : EventStatus) : Except EventErr Unit :=
  if canTransitionEvent fromStatus toStatus then .ok ()
  else .error (.invalidTransition fromStatus toStatus)

theorem assertEventTransition_ok {fromStatus toStatus : EventStatus} {u : Unit} :
    assertEventTransition fromStatus toStatus = .ok u ↔
      canTransitionEvent fromStatus toStatus = true := by
  unfold assertEventTransition
  split <;> simp_all

theorem live_of_canTransition {fromStatus toStatus : EventStatus}
    (h : canTransitionEvent fromStatus toStatus = true) :
    fromStatus ≠ .COMPLETED ∧ fromStatus ≠ .CANCELLED := by
  constructor
  · rintro rfl
    cases h
  · rintro rfl
    cases h

/-- The body of an edit; a field that is absent keeps the value that was read. -/
structure UpdateEventDto where
  name : Option String := none
  clientName : Option String := none
  type : Option String := none
  venue : Option String := none
  startAt : Option ℤ := none
  endAt : Option ℤ := none
  guestCount : Option ℕ := none
  package : Option String := none
  revenuePaise : Option ℤ := none
  roomBlock : Option ℕ := none
  notes : Option String := none

namespace EventsService

variable (propertyId id : Id)

/-- The event of the property. -/
def eventOf (db : EventDb) : Option EventRow :=
  (db.events.find? id).filter fun e => e.propertyId = propertyId

theorem eventOf_eq_some {propertyId id : Id} {db : EventDb} {e : EventRow} :
    eventOf propertyId id db = some e ↔ e ∈ db.events ∧ e.id = id ∧ e.propertyId = propertyId := by
  unfold eventOf
  rw [Option.filter_eq_some_iff, find?_eq_some, and_assoc]
  simp

def require : EventOp EventRow := do
  let row ← select (.event id) (eventOf propertyId id)
  orThrow row .notFound

/-- `UPDATE events SET … WHERE id = … AND property_id = …`. -/
def setEvent (f : EventRow → EventRow) (hf : ∀ e, (f e).id = e.id) (db : EventDb) : EventDb :=
  { db with events := db.events.update (fun e => e.id = id && e.propertyId = propertyId) f hf }

theorem mem_setEvent {propertyId id : Id} {f : EventRow → EventRow} {hf : ∀ e, (f e).id = e.id}
    {db : EventDb} {e : EventRow} : e ∈ (setEvent propertyId id f hf db).events ↔
      ∃ e₀ ∈ db.events, e = if e₀.id = id ∧ e₀.propertyId = propertyId then f e₀ else e₀ := by
  show e ∈ Table.update db.events _ f hf ↔ _
  simp only [mem_update, and_decide_eq]

/-- And the row it returns. -/
def updateEvent (f : EventRow → EventRow) (hf : ∀ e, (f e).id = e.id) :
    EventOp EventRow := do
  let row ← write (fun _ => [id]) (setEvent propertyId id f hf) fun db =>
    (eventOf propertyId id db).map f
  orThrow row (.internal "Cannot read properties of undefined")

/-- The columns an edit writes, over the stored row. -/
def edited (dto : UpdateEventDto) (before : EventRow) (now : ℤ) (e : EventRow) : EventRow :=
  { e with
    name := dto.name.getD before.name
    clientName := dto.clientName.getD before.clientName
    type := dto.type.or before.type
    venue := dto.venue.or before.venue
    startAt := dto.startAt.getD before.startAt
    endAt := dto.endAt.or before.endAt
    guestCount := dto.guestCount.getD before.guestCount
    package := dto.package.or before.package
    revenuePaise := dto.revenuePaise.getD before.revenuePaise
    roomBlock := dto.roomBlock.or before.roomBlock
    notes := dto.notes.or before.notes
    updatedAt := now }

def update (dto : UpdateEventDto) (now : ℤ) :
    EventOp (EventRow × EventRow) := do
  let before ← require propertyId id
  let row ← updateEvent propertyId id (edited dto before now) fun _ => rfl
  return (before, row)

variable (toStatus : EventStatus) (reason : Option String)

/-- The reason of a cancellation, if one is given; it replaces the notes. -/
def reasonNoted : Option String :=
  if toStatus = .CANCELLED then reason.filter (· ≠ "") else none

/-- The columns a change of the status writes, over the stored row. -/
def statusSet (before : EventRow) (now : ℤ) (e : EventRow) : EventRow :=
  { e with
    status := toStatus
    cancelledAt := if toStatus = .CANCELLED then some now else before.cancelledAt
    completedAt := if toStatus = .COMPLETED then some now else before.completedAt
    notes := (reasonNoted toStatus reason).or before.notes
    updatedAt := now }

def setStatus (now : ℤ) :
    EventOp (EventRow × EventRow) := do
  let before ← require propertyId id
  lift (assertEventTransition before.status toStatus)
  let row ← updateEvent propertyId id (statusSet toStatus reason before now) fun _ => rfl
  return (before, row)

end EventsService

end Travelo.Events

import Mathlib.Data.Rat.Floor
import Travelo.ReadCommitted.Guarded
import Travelo.Reservations.Service

/-!
# Spa appointments and their bills

`SpaAppointmentsService`: changing, assigning and moving an appointment, and the therapists' own
moves. `SpaBillsService.createForAppointment`: the bill of a treatment. The row is read first, and
no write names what was read.
-/

namespace Travelo.SpaDesk

open ReadCommitted

/-! ## State -/

inductive SpaAppointmentStatus where
  | BOOKED
  | IN_PROGRESS
  | COMPLETED
  | CANCELLED
  | NO_SHOW
  deriving DecidableEq

structure SpaAppointment where
  id : Id
  propertyId : Id
  guestName : String
  reservationId : Option Id := none
  serviceId : Option Id := none
  /-- The assigned therapist. -/
  staffId : Option Id := none
  startAt : ℤ
  status : SpaAppointmentStatus := .BOOKED
  serviceNameSnapshot : String
  /-- Frozen at booking. -/
  pricePaiseSnapshot : ℤ
  notes : Option String := none
  updatedAt : ℤ := 0
  cancelledAt : Option ℤ := none
  completedAt : Option ℤ := none
  deriving DecidableEq

/-- The columns of `hotel_staff` the desk reads. -/
structure Therapist where
  id : Id
  propertyId : Id

structure SpaDb where
  spaAppointments : Table SpaAppointment.id := ∅
  spaBills : Table SpaBill.id := ∅
  hotelStaff : Table Therapist.id := ∅

instance : Inhabited SpaDb := ⟨{}⟩

/-- What a write locks: a row, or the entry of the unique index on the bills. -/
inductive SpaRow where
  | appointment (id : Id)
  | billOf (appointmentId : Id)
  deriving DecidableEq

/-- What a statement reads. -/
inductive SpaLook where
  | appointment (id : Id)
  | therapist (id : Id)
  | billOf (appointmentId : Id)

inductive SpaErr where
  | appointmentNotFound
  | therapistNotFound
  | invalidAppointmentTransition (source target : SpaAppointmentStatus)
  | notBillable
  | billExists
  /-- SQLSTATE 23505. -/
  | uniqueViolation
  | internal (message : String)
  deriving DecidableEq

instance : Faults SpaErr := ⟨.internal⟩

abbrev SpaOp := Prog SpaDb SpaRow SpaLook SpaErr

abbrev SpaTrace := List (Obs SpaDb SpaLook)

/-! ## The rules -/

def APPOINTMENT_TRANSITIONS : SpaAppointmentStatus → List SpaAppointmentStatus
  | .BOOKED => [.IN_PROGRESS, .CANCELLED, .NO_SHOW]
  | .IN_PROGRESS => [.COMPLETED, .CANCELLED]
  | .COMPLETED => []
  | .CANCELLED => []
  | .NO_SHOW => []

def canTransitionAppointment (source target : SpaAppointmentStatus) : Bool :=
  (APPOINTMENT_TRANSITIONS source).contains target

def assertAppointmentTransition (source target : SpaAppointmentStatus) : Except SpaErr Unit :=
  if canTransitionAppointment source target then .ok ()
  else .error (.invalidAppointmentTransition source target)

/-- `SPA_TAX_PERCENT`, with 5 where it is no number or below zero. -/
def resolveSpaTaxPercent (raw : Option ℚ) : ℚ :=
  match raw with
  | some n => if n < 0 then 5 else n
  | none => 5

structure SpaBillTotals where
  subtotalPaise : ℤ
  taxPaise : ℤ
  totalPaise : ℤ
  deriving DecidableEq

/-- `Math.round` rounds a half up. -/
def computeSpaBill (pricePaiseSnapshot : ℤ) (taxPercent : ℚ) : SpaBillTotals :=
  let subtotalPaise := max 0 pricePaiseSnapshot
  let taxPaise := ⌊(subtotalPaise * taxPercent) / 100 + 1 / 2⌋
  { subtotalPaise, taxPaise, totalPaise := subtotalPaise + taxPaise }

/-- An appointment is billable once the treatment is COMPLETED. -/
def isBillable (status : SpaAppointmentStatus) : Bool := status = .COMPLETED

/-! ## The services -/

/-- What is given is set. -/
structure UpdateAppointmentDto where
  guestName : Option String := none
  startAt : Option ℤ := none
  notes : Option String := none

/-- The appointment of the property. -/
def appointmentOf (propertyId id : Id) (db : SpaDb) : Option SpaAppointment :=
  (db.spaAppointments.find? id).filter fun a => a.propertyId = propertyId

namespace SpaAppointmentsService

variable (propertyId id : Id)

def requireAppointment : SpaOp SpaAppointment := do
  let row ← select (.appointment id) (appointmentOf propertyId id)
  orThrow row .appointmentNotFound

/-- A therapist may only touch their own appointment. -/
def assertOwned (a : SpaAppointment) (myStaffId : Option Id) : Except SpaErr Unit :=
  match myStaffId with
  | some me => if a.staffId ≠ some me then .error .appointmentNotFound else .ok ()
  | none => .ok ()

variable (staffId : Id)

def requireTherapist : SpaOp Therapist := do
  let row ← select (.therapist staffId) fun db =>
    (db.hotelStaff.find? staffId).filter fun s => s.propertyId = propertyId
  orThrow row .therapistNotFound

/-- `UPDATE spa_appointments SET … WHERE id AND property_id`. -/
def setAppointment (patch : SpaAppointment → SpaAppointment) (hkey : ∀ a, (patch a).id = a.id)
    (db : SpaDb) : SpaDb :=
  { db with
    spaAppointments :=
      db.spaAppointments.update (fun a => a.id = id && a.propertyId = propertyId) patch hkey }

/-- And the row as it is then. -/
def updateAppointment (patch : SpaAppointment → SpaAppointment) (hkey : ∀ a, (patch a).id = a.id) :
    SpaOp SpaAppointment := do
  let row ← write (fun _ => [.appointment id]) (setAppointment propertyId id patch hkey)
    fun db => (appointmentOf propertyId id db).map patch
  orThrow row (.internal "Cannot read properties of undefined")

/-- The columns `update` writes; what is not given is what was read. -/
def edited (dto : UpdateAppointmentDto) (before : SpaAppointment) (now : ℤ)
    (a : SpaAppointment) : SpaAppointment :=
  { a with
    guestName := dto.guestName.getD before.guestName
    startAt := dto.startAt.getD before.startAt
    notes := dto.notes.or before.notes
    updatedAt := now }

def update (dto : UpdateAppointmentDto) (now : ℤ) :
    SpaOp (SpaAppointment × SpaAppointment) := do
  let before ← requireAppointment propertyId id
  throwIf (before.status ≠ .BOOKED)
    (.invalidAppointmentTransition before.status before.status)
  let row ← updateAppointment propertyId id (edited dto before now) fun _ => rfl
  return (before, row)

def assigned (now : ℤ) (a : SpaAppointment) : SpaAppointment :=
  { a with staffId := some staffId, updatedAt := now }

def assignTherapist (now : ℤ) :
    SpaOp (SpaAppointment × SpaAppointment) := do
  let before ← requireAppointment propertyId id
  let _ ← requireTherapist propertyId staffId
  let row ← updateAppointment propertyId id (assigned staffId now) fun _ => rfl
  return (before, row)

/-- The columns `setStatus` writes; a date it does not set is the one that was read. -/
def moved (target : SpaAppointmentStatus) (before : SpaAppointment) (now : ℤ)
    (a : SpaAppointment) : SpaAppointment :=
  { a with
    status := target
    cancelledAt := if target = .CANCELLED then some now else before.cancelledAt
    completedAt := if target = .COMPLETED then some now else before.completedAt
    updatedAt := now }

/-- Advance an appointment through its state machine; with `myStaffId`, the therapist's own. -/
def setStatus (target : SpaAppointmentStatus) (myStaffId : Option Id) (now : ℤ) :
    SpaOp (SpaAppointment × SpaAppointment) :=
  transaction do
    let before ← requireAppointment propertyId id
    lift (assertOwned before myStaffId)
    lift (assertAppointmentTransition before.status target)
    let row ← updateAppointment propertyId id (moved target before now) fun _ => rfl
    return (before, row)

end SpaAppointmentsService

namespace SpaBillsService

/-- The bill of an appointment; the database draws its id. -/
def newBill (propertyId appointmentId : Id) (totals : SpaBillTotals) (now : ℤ) (db : SpaDb) :
    SpaBill :=
  { id := freshId (db.spaBills.rows.map (·.id))
    propertyId
    appointmentId
    subtotalPaise := totals.subtotalPaise
    taxPaise := totals.taxPaise
    totalPaise := totals.totalPaise
    updatedAt := now }

/-- The bills of an appointment. -/
def billed (appointmentId : Id) (db : SpaDb) : Bool :=
  db.spaBills.rows.any fun b => b.appointmentId = appointmentId

/-- `INSERT`; a second bill of the appointment violates the unique index. -/
def insertBill (propertyId appointmentId : Id) (totals : SpaBillTotals) (now : ℤ) (db : SpaDb) :
    Except SpaErr SpaDb :=
  if billed appointmentId db then .error .uniqueViolation
  else .ok { db with
    spaBills := db.spaBills.insert (newBill propertyId appointmentId totals now db) }

/-- Raise a bill for a COMPLETED appointment, from the price it was booked at. -/
def createForAppointment (config : Option ℚ) (propertyId appointmentId : Id) (now : ℤ) :
    SpaOp SpaBill :=
  transaction do
    let row ← select (.appointment appointmentId) (appointmentOf propertyId appointmentId)
    let appt ← orThrow row .appointmentNotFound
    throwIf (¬isBillable appt.status) .notBillable
    let existing ← select (.billOf appointmentId) (billed appointmentId)
    throwIf existing .billExists
    let totals := computeSpaBill appt.pricePaiseSnapshot (resolveSpaTaxPercent config)
    tryCatchThe SpaErr
      (writeChecked (fun _ => [.billOf appointmentId])
        (insertBill propertyId appointmentId totals now)
        (newBill propertyId appointmentId totals now))
      fun e => throw (if e = .uniqueViolation then .billExists else e)

end SpaBillsService

/-- A call of the services, with the clock. -/
inductive SpaCall where
  | update (propertyId id : Id) (dto : UpdateAppointmentDto) (now : ℤ)
  | assignTherapist (propertyId id staffId : Id) (now : ℤ)
  /-- By the desk, or by a therapist. -/
  | setStatus (propertyId id : Id) (target : SpaAppointmentStatus) (myStaffId : Option Id)
      (now : ℤ)
  | createForAppointment (propertyId appointmentId : Id) (now : ℤ)

def SpaCall.prog (config : Option ℚ) : SpaCall → SpaOp Unit
  | .update propertyId id dto now => do
    let _ ← SpaAppointmentsService.update propertyId id dto now
  | .assignTherapist propertyId id staffId now => do
    let _ ← SpaAppointmentsService.assignTherapist propertyId id staffId now
  | .setStatus propertyId id target myStaffId now => do
    let _ ← SpaAppointmentsService.setStatus propertyId id target myStaffId now
  | .createForAppointment propertyId appointmentId now => do
    let _ ← SpaBillsService.createForAppointment config propertyId appointmentId now

end Travelo.SpaDesk

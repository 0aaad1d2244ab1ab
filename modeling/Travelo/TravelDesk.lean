import Travelo.Inventory
import Travelo.Reservations.Service

/-!
# The travel desk

`TransportService`: the requests of a property. The desk owns the status of a request, the driver
the stage of the trip while it is IN_PROGRESS, and both write one row.
-/

namespace Travelo.TravelDesk

open ReadCommitted

/-! ## State -/

inductive TransportType where
  | PICKUP
  | DROP
  | TOUR
  | RENTAL

inductive TransportStatus where
  | REQUESTED
  | ASSIGNED
  | IN_PROGRESS
  | COMPLETED
  | CANCELLED
  deriving DecidableEq

/-- The driver's progress while the request is IN_PROGRESS. -/
inductive DriverStage where
  | ACCEPTED
  | EN_ROUTE
  | ARRIVED
  | PICKED_UP
  deriving DecidableEq

structure TransportRequest where
  id : Id
  propertyId : Id
  guestName : String
  reservationId : Option Id := none
  type : TransportType
  pickupAt : ℤ
  fromLocation : Option String := none
  toLocation : Option String := none
  vehicleId : Option Id := none
  driverStaffId : Option Id := none
  status : TransportStatus := .REQUESTED
  driverStage : Option DriverStage := none
  farePaise : Option ℤ := none
  note : Option String := none
  createdBy : Option Id := none
  createdAt : ℤ := 0
  updatedAt : ℤ := 0
  deletedAt : Option ℤ := none

structure Vehicle where
  id : Id
  propertyId : Id
  name : String
  plate : String
  deletedAt : Option ℤ := none

/-- The columns of `hotel_staff` the desk reads. -/
structure Staff where
  id : Id
  propertyId : Id
  firstName : String
  lastName : String
  deletedAt : Option ℤ := none

structure DeskDb where
  transportRequests : Table TransportRequest.id := ∅
  vehicles : Table Vehicle.id := ∅
  hotelStaff : Table Staff.id := ∅

instance : Inhabited DeskDb := ⟨{}⟩

/-- What a statement reads. -/
inductive DeskLook where
  | request (id : Id)
  | staff (id : Id)
  | vehicle (id : Id)

inductive TransportErr where
  | requestNotFound
  | vehicleNotFound
  | invalidTransportTransition (source target : TransportStatus)
  /-- From a stage, or from the status of a request without one. -/
  | invalidDriverStep (source : TransportStatus ⊕ DriverStage) (target : DriverStage)
  | driverRequired
  | notYourTrip
  | notAssignable
  | internal (message : String)

instance : Faults TransportErr := ⟨.internal⟩

/-- A method of the service; a row that is written is locked by its id. -/
abbrev DeskOp := Prog DeskDb Id DeskLook TransportErr

abbrev DeskTrace := List (Obs DeskDb DeskLook)

/-! ## The two machines -/

def TRANSPORT_TRANSITIONS : TransportStatus → List TransportStatus
  | .REQUESTED => [.ASSIGNED, .CANCELLED]
  | .ASSIGNED => [.IN_PROGRESS, .REQUESTED, .CANCELLED]
  | .IN_PROGRESS => [.COMPLETED, .CANCELLED]
  | .COMPLETED => []
  | .CANCELLED => []

def canTransitionTransport (source target : TransportStatus) : Bool :=
  (TRANSPORT_TRANSITIONS source).contains target

def assertTransportTransition (source target : TransportStatus) : Except TransportErr Unit :=
  if canTransitionTransport source target then .ok ()
  else .error (.invalidTransportTransition source target)

def DRIVER_STAGE_TRANSITIONS : DriverStage → List DriverStage
  | .ACCEPTED => [.EN_ROUTE]
  | .EN_ROUTE => [.ARRIVED]
  | .ARRIVED => [.PICKED_UP]
  | .PICKED_UP => []

/-- Accepting is the only move out of the state before it. -/
def canTransitionDriverStage (source : Option DriverStage) (target : DriverStage) : Bool :=
  match source with
  | none => target = .ACCEPTED
  | some stage => (DRIVER_STAGE_TRANSITIONS stage).contains target

/-- `from ?? 'ASSIGNED'`. -/
def stageName (stage : Option DriverStage) : TransportStatus ⊕ DriverStage :=
  stage.elim (.inl .ASSIGNED) .inr

def assertDriverStage (source : Option DriverStage) (target : DriverStage) :
    Except TransportErr Unit :=
  if canTransitionDriverStage source target then .ok ()
  else .error (.invalidDriverStep (stageName source) target)

inductive DriverStep where
  | accept
  | onTheWay
  | arrived
  | pickedUp
  | complete
  deriving DecidableEq

/-! ## The service -/

structure CreateTransportDto where
  guestName : String
  reservationId : Option Id := none
  type : TransportType
  pickupAt : ℤ
  fromLocation : Option String := none
  toLocation : Option String := none
  farePaise : Option ℤ := none
  note : Option String := none

/-- What is given is set; the reservation and the fare may be given as `null`. -/
structure UpdateTransportDto where
  guestName : Option String := none
  reservationId : Option (Option Id) := none
  type : Option TransportType := none
  pickupAt : Option ℤ := none
  fromLocation : Option String := none
  toLocation : Option String := none
  farePaise : Option (Option ℤ) := none
  note : Option String := none

/-- A request as it is returned, with the names `hydrate` reads. -/
structure TransportDto where
  row : TransportRequest
  driverName : Option String := none
  vehicleName : Option String := none

namespace TransportService

variable (propertyId id : Id)

/-- The live request of the property. -/
def requestOf (db : DeskDb) : Option TransportRequest :=
  (db.transportRequests.find? id).filter fun r =>
    r.propertyId = propertyId && r.deletedAt.isNone

def requireRequest : DeskOp TransportRequest := do
  let row ← select (.request id) (requestOf propertyId id)
  orThrow row .requestNotFound

variable (driverStaffId : Id)

/-- The live trip of the driver. -/
def tripOf (id : Id) (db : DeskDb) : Option TransportRequest :=
  (requestOf propertyId id db).filter fun r => r.driverStaffId = some driverStaffId

def requireMyTrip (id : Id) : DeskOp TransportRequest := do
  let row ← select (.request id) (tripOf propertyId driverStaffId id)
  orThrow row .notYourTrip

def driverNameOf (driverStaffId : Option Id) : DeskOp (Option String) :=
  match driverStaffId with
  | some staffId => select (.staff staffId) fun db =>
      (db.hotelStaff.find? staffId).map fun d => trim (d.firstName ++ " " ++ d.lastName)
  | none => return none

variable (vehicleId : Option Id)

def vehicleNameOf : DeskOp (Option String) :=
  match vehicleId with
  | some vehicleId => select (.vehicle vehicleId) fun db =>
      (db.vehicles.find? vehicleId).map fun v => v.name ++ " (" ++ v.plate ++ ")"
  | none => return none

/-- The names for display. -/
def hydrate (r : TransportRequest) : DeskOp TransportDto := do
  let driverName ← driverNameOf r.driverStaffId
  let vehicleName ← vehicleNameOf r.vehicleId
  return { row := r, driverName, vehicleName }

/-- `UPDATE transport_requests SET … WHERE id = …`. -/
def setRequest (patch : TransportRequest → TransportRequest) (hkey : ∀ r, (patch r).id = r.id)
    (db : DeskDb) : DeskDb :=
  { db with transportRequests := db.transportRequests.update (fun r => r.id = id) patch hkey }

variable (dto : CreateTransportDto) (createdBy : Id) (now : ℤ)

/-- The row `create` inserts; the database draws its id and fills in the defaults. -/
def newRequest (db : DeskDb) : TransportRequest :=
  { id := freshId (db.transportRequests.rows.map (·.id))
    propertyId
    guestName := trim dto.guestName
    reservationId := dto.reservationId
    type := dto.type
    pickupAt := dto.pickupAt
    fromLocation := dto.fromLocation.bind trimOrNull
    toLocation := dto.toLocation.bind trimOrNull
    farePaise := dto.farePaise
    note := dto.note.bind trimOrNull
    createdBy := some createdBy
    createdAt := now
    updatedAt := now }

def insertRequest (db : DeskDb) : DeskDb :=
  { db with
    transportRequests := db.transportRequests.insert (newRequest propertyId dto createdBy now db) }

def create :
    DeskOp TransportDto := do
  let row ← write (fun _ => []) (insertRequest propertyId dto createdBy now)
    (newRequest propertyId dto createdBy now)
  hydrate row

/-- The columns `update` sets: those the request names. -/
def edited (dto : UpdateTransportDto) (now : ℤ) (r : TransportRequest) : TransportRequest :=
  { r with
    updatedAt := now
    guestName := (dto.guestName.map trim).getD r.guestName
    reservationId := dto.reservationId.getD r.reservationId
    type := dto.type.getD r.type
    pickupAt := dto.pickupAt.getD r.pickupAt
    fromLocation := (dto.fromLocation.map trimOrNull).getD r.fromLocation
    toLocation := (dto.toLocation.map trimOrNull).getD r.toLocation
    farePaise := dto.farePaise.getD r.farePaise
    note := (dto.note.map trimOrNull).getD r.note }

/-- A request before and after. -/
abbrev Change := TransportDto × TransportDto

/-- Write the columns of a request that was read, and read it again. -/
def change (before : TransportRequest) (patch : TransportRequest → TransportRequest)
    (hkey : ∀ r, (patch r).id = r.id) :
    DeskOp Change := do
  write (fun _ => [id]) (setRequest id patch hkey) fun _ => ()
  let after ← requireRequest propertyId id
  let dto ← hydrate after
  return ({ row := before }, dto)

def update (dto : UpdateTransportDto) (now : ℤ) : DeskOp Change := do
  let before ← requireRequest propertyId id
  change propertyId id before (edited dto now) fun _ => rfl

/-- The staff id belongs to this property. -/
def assertStaffInProperty (staffId : Id) : DeskOp Unit := do
  let row ← select (.staff staffId) fun db =>
    (db.hotelStaff.find? staffId).filter fun s => s.propertyId = propertyId && s.deletedAt.isNone
  throwIf row.isNone .driverRequired

/-- The vehicle, if one is named, belongs to this property. -/
def assertVehicleInProperty : Option Id → DeskOp Unit
  | some vehicleId => do
    let v ← select (.vehicle vehicleId) fun db =>
      (db.vehicles.find? vehicleId).filter fun v =>
        v.propertyId = propertyId && v.deletedAt.isNone
    throwIf v.isNone .vehicleNotFound
  | none => return ()

def assigned (r : TransportRequest) :
    TransportRequest :=
  { r with
    status := .ASSIGNED
    driverStaffId := some driverStaffId
    vehicleId
    updatedAt := now }

def assign :
    DeskOp Change := do
  let before ← requireRequest propertyId id
  throwIf (before.status ≠ .REQUESTED ∧ before.status ≠ .ASSIGNED) .notAssignable
  lift (assertTransportTransition before.status .ASSIGNED)
  assertStaffInProperty propertyId driverStaffId
  assertVehicleInProperty propertyId vehicleId
  change propertyId id before (assigned driverStaffId vehicleId now) fun _ => rfl

variable (target : TransportStatus)

/-- Unassigning clears the driver, the vehicle and any driver progress. -/
def moved (now : ℤ) (r : TransportRequest) : TransportRequest :=
  if target = .REQUESTED then
    { r with
      status := target
      updatedAt := now
      driverStaffId := none
      vehicleId := none
      driverStage := none }
  else { r with status := target, updatedAt := now }

theorem moved_id (now : ℤ) (r : TransportRequest) :
    (moved target now r).id = r.id := by
  unfold moved
  split <;> rfl

/-- Desk-driven status moves. -/
def setStatus (now : ℤ) : DeskOp Change := do
  let before ← requireRequest propertyId id
  lift (assertTransportTransition before.status target)
  change propertyId id before (moved target now) (moved_id target now)

def removed (r : TransportRequest) : TransportRequest :=
  { r with deletedAt := some now, updatedAt := now }

def remove : DeskOp TransportDto := do
  let before ← requireRequest propertyId id
  write (fun _ => [id]) (setRequest id (removed now) fun _ => rfl) fun _ => ()
  return { row := before }

/-- The columns a step sets. -/
structure StepPatch where
  status : Option TransportStatus := none
  driverStage : Option DriverStage := none

/-- What a step does to a trip, if the trip is ready for it. -/
def stepPatch (before : TransportRequest) : DriverStep → Except TransportErr StepPatch
  | .accept => do
    assertTransportTransition before.status .IN_PROGRESS
    assertDriverStage before.driverStage .ACCEPTED
    return { status := some .IN_PROGRESS, driverStage := some .ACCEPTED }
  | .complete => do
    assertTransportTransition before.status .COMPLETED
    if before.driverStage ≠ some .PICKED_UP then
      throw (.invalidDriverStep (stageName before.driverStage) .PICKED_UP)
    return { status := some .COMPLETED }
  | .onTheWay => middle .EN_ROUTE
  | .arrived => middle .ARRIVED
  | .pickedUp => middle .PICKED_UP
where
  /-- The steps between, which move the stage only. -/
  middle (target : DriverStage) : Except TransportErr StepPatch := do
    if before.status ≠ .IN_PROGRESS then
      throw (.invalidDriverStep (.inl before.status) target)
    assertDriverStage before.driverStage target
    return { driverStage := some target }

def stepped (patch : StepPatch) (now : ℤ) (r : TransportRequest) : TransportRequest :=
  { r with
    status := patch.status.getD r.status
    driverStage := patch.driverStage.or r.driverStage
    updatedAt := now }

/-- Advance a trip the driver owns. -/
def step (id : Id) (driverStep : DriverStep) (now : ℤ) : DeskOp Change :=
  transaction do
    let before ← requireMyTrip propertyId driverStaffId id
    let patch ← lift (stepPatch before driverStep)
    write (fun _ => [id]) (setRequest id (stepped patch now) fun _ => rfl) fun _ => ()
    let after ← requireMyTrip propertyId driverStaffId id
    return ({ row := before }, { row := after })

end TransportService

/-- A call of the service, with the clock. -/
inductive TripCall where
  | create (propertyId : Id) (dto : CreateTransportDto) (createdBy : Id) (now : ℤ)
  | update (propertyId id : Id) (dto : UpdateTransportDto) (now : ℤ)
  | assign (propertyId id driverStaffId : Id) (vehicleId : Option Id) (now : ℤ)
  | setStatus (propertyId id : Id) (target : TransportStatus) (now : ℤ)
  | step (propertyId driverStaffId id : Id) (driverStep : DriverStep) (now : ℤ)
  | remove (propertyId id : Id) (now : ℤ)

def TripCall.prog : TripCall → DeskOp Unit
  | .create propertyId dto createdBy now => do
    let _ ← TransportService.create propertyId dto createdBy now
  | .update propertyId id dto now => do
    let _ ← TransportService.update propertyId id dto now
  | .assign propertyId id driverStaffId vehicleId now => do
    let _ ← TransportService.assign propertyId id driverStaffId vehicleId now
  | .setStatus propertyId id target now => do
    let _ ← TransportService.setStatus propertyId id target now
  | .step propertyId driverStaffId id driverStep now => do
    let _ ← TransportService.step propertyId driverStaffId id driverStep now
  | .remove propertyId id now => do
    let _ ← TransportService.remove propertyId id now

end Travelo.TravelDesk

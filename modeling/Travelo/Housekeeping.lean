import Travelo.Reservations.Service

/-!
# Housekeeping tasks

`HousekeepingService`: the attendant's loop over one task, and what it does to the room. A
room task drives its room through `ROOM_STATUS_FOR_TASK`; an area task touches no room.
-/

namespace Travelo

open ReadCommitted

/-- The central task map; terminal statuses have no outgoing edges. -/
def HOUSEKEEPING_TASK_TRANSITIONS : HousekeepingTaskStatus → List HousekeepingTaskStatus
  | .PENDING => [.IN_PROGRESS]
  | .IN_PROGRESS => [.COMPLETED]
  | .COMPLETED => [.INSPECTED, .REJECTED]
  | .INSPECTED => []
  | .REJECTED => []

def canTaskTransition (fromStatus toStatus : HousekeepingTaskStatus) : Bool :=
  (HOUSEKEEPING_TASK_TRANSITIONS fromStatus).contains toStatus

def assertTaskTransition (fromStatus toStatus : HousekeepingTaskStatus) : Except Err Unit :=
  if canTaskTransition fromStatus toStatus then .ok ()
  else .error (.invalidTaskTransition fromStatus toStatus)

/-- The keys of `ROOM_STATUS_FOR_TASK`. -/
inductive TaskStep where
  | START
  | COMPLETE
  | INSPECT_PASS
  | INSPECT_FAIL

def ROOM_STATUS_FOR_TASK : TaskStep → RoomStatus
  | .START => .CLEANING
  | .COMPLETE => .INSPECTED
  | .INSPECT_PASS => .READY
  | .INSPECT_FAIL => .DIRTY

/-- Who acts; a supervisor may act on any task. -/
structure TaskActor where
  id : Id
  isSupervisor : Bool

structure CompleteTaskDto where
  notes : Option String := none

structure InspectTaskDto where
  pass : Bool
  notes : Option String := none

/-- A task as it is returned, with what `hydrate` adds of its room. -/
structure TaskDto where
  row : HousekeepingTask
  roomNumber : Option String
  roomStatus : Option RoomStatus

/-- `UPDATE housekeeping_tasks SET … WHERE id = …`. -/
def HotelDb.updateTask (db : HotelDb) (id : Id) (f : HousekeepingTask → HousekeepingTask)
    (hf : ∀ t, (f t).id = t.id := by intro _; rfl) : HotelDb :=
  { db with housekeepingTasks := db.housekeepingTasks.update (fun t => t.id = id) f hf }

namespace HousekeepingService

variable (propertyId id : Id)

/-- The row of a live task of the property. -/
def taskOf (db : HotelDb) : Option HousekeepingTask :=
  (db.housekeepingTasks.find? id).filter fun t => t.propertyId = propertyId && t.deletedAt.isNone

def requireTask : Op HousekeepingTask := do
  let row ← select (.task id) (taskOf propertyId id)
  orThrow row .taskNotFound

/-- Attendants: own tasks, or unassigned ones. -/
def assertMayWork (task : HousekeepingTask) (actor : TaskActor) : Except Err Unit :=
  if actor.isSupervisor then .ok ()
  else
    match task.assignedStaffId with
    | some staff => if staff ≠ actor.id then .error .notYourTask else .ok ()
    | none => .ok ()

def updateTask (id : Id) (f : HousekeepingTask → HousekeepingTask)
    (hf : ∀ t, (f t).id = t.id := by intro _; rfl) : Op (Option HousekeepingTask) :=
  write (fun _ => [.task id]) (fun db => db.updateTask id f hf)
    fun db => (db.housekeepingTasks.find? id).map f

def setRoomStatus (roomId : Id) (status : RoomStatus) (now : ℤ) : Op Unit :=
  write (fun _ => [.room roomId]) (fun db => db.setRoomStatus roomId status now) fun _ => ()

/-- The answer for a row; a query for the room it names. -/
def hydrate (row : Option HousekeepingTask) : Op TaskDto := do
  let t ← orThrow row (.internal "Cannot read properties of undefined")
  let room ← ReservationsService.hydrateRoom t.roomId
  return { row := t, roomNumber := room.map (·.number), roomStatus := room.map (·.status) }

/-- PENDING → IN_PROGRESS; an unassigned task is claimed, a room goes to CLEANING. -/
def start (actor : TaskActor) (now : ℤ) : Op (HousekeepingTask × TaskDto) := do
  let before ← requireTask propertyId id
  lift (assertMayWork before actor)
  lift (assertTaskTransition before.status .IN_PROGRESS)
  let claim := before.assignedStaffId.getD actor.id
  let row ← transaction do
    let updated ← updateTask id fun t =>
      { t with status := .IN_PROGRESS, assignedStaffId := some claim, startedAt := some now,
               updatedAt := now }
    forSome before.roomId fun roomId =>
      setRoomStatus roomId (ROOM_STATUS_FOR_TASK .START) now
    return updated
  let out ← hydrate row
  return (before, out)

/-- IN_PROGRESS → COMPLETED; a room goes to INSPECTED. -/
def complete (dto : CompleteTaskDto) (actor : TaskActor) (now : ℤ) :
    Op (HousekeepingTask × TaskDto) := do
  let before ← requireTask propertyId id
  lift (assertMayWork before actor)
  lift (assertTaskTransition before.status .COMPLETED)
  let row ← transaction do
    let updated ← updateTask id fun t =>
      { t with status := .COMPLETED, completedAt := some now, notes := dto.notes.or before.notes,
               updatedAt := now }
    forSome before.roomId fun roomId =>
      setRoomStatus roomId (ROOM_STATUS_FOR_TASK .COMPLETE) now
    return updated
  let out ← hydrate row
  return (before, out)

/-- The fresh task a failed inspection raises. -/
def redoTask (before : HousekeepingTask) (dto : InspectTaskDto) (actor : TaskActor) (now : ℤ)
    (id : Id) : HousekeepingTask where
  id
  propertyId
  roomId := before.roomId
  area := before.area
  located := before.located
  type := before.type
  status := .PENDING
  priority := before.priority
  guestRequest := before.guestRequest
  notes :=
    -- an empty note counts as none
    let reason := (dto.notes.filter (· ≠ "")).elim "" fun notes => " — " ++ notes
    some ("Re-clean after failed inspection of task " ++ toString before.id ++ reason)
  assignedStaffId := before.assignedStaffId
  createdBy := some actor.id
  createdAt := now
  updatedAt := now

def insertRedo (task : Id → HousekeepingTask) : Op HousekeepingTask :=
  let fresh := fun db : HotelDb => task (freshId (db.housekeepingTasks.rows.map (·.id)))
  write (fun _ => [])
    (fun db => { db with housekeepingTasks := db.housekeepingTasks.insert (fresh db) }) fresh

/-- COMPLETED → INSPECTED with the room READY, or → REJECTED with the room DIRTY and a fresh
task. -/
def inspect (dto : InspectTaskDto) (actor : TaskActor) (now : ℤ) :
    Op (HousekeepingTask × TaskDto × Option TaskDto) := do
  let before ← requireTask propertyId id
  let target : HousekeepingTaskStatus := if dto.pass then .INSPECTED else .REJECTED
  lift (assertTaskTransition before.status target)
  let result ← transaction do
    let updated ← updateTask id fun t =>
      { t with status := target, inspectedAt := some now, notes := dto.notes.or before.notes,
               updatedAt := now }
    if dto.pass then do
      forSome before.roomId fun roomId =>
        setRoomStatus roomId (ROOM_STATUS_FOR_TASK .INSPECT_PASS) now
      return (updated, none)
    else do
      forSome before.roomId fun roomId =>
        setRoomStatus roomId (ROOM_STATUS_FOR_TASK .INSPECT_FAIL) now
      let redo ← insertRedo (redoTask propertyId before dto actor now)
      return (updated, some redo)
  let after ← hydrate result.1
  match result.2 with
  | some task => do
    let redo ← hydrate (some task)
    return (before, after, some redo)
  | none => return (before, after, none)

end HousekeepingService

end Travelo

import Mathlib.Data.Nat.Notation
import Travelo.Claims.Machine

/-!
# The queue of offline work

`SyncQueue` of the staff app: what a member of staff does without a network is kept in memory
and in the local store until it is pushed. The app runs on one thread, so what a call does
between two `await`s is one step; the store answers a read and completes a write in a step of
its own, and a push ends in one of three ways.
-/

namespace Travelo.Offline

inductive SyncStatus where
  | pending
  | syncing
  | synced
  | failed
  deriving DecidableEq

structure PendingOperation where
  operationId : String
  entityId : String
  operationType : String
  createdAt : ℕ
  userId : String
  deviceId : String
  syncStatus : SyncStatus := .pending
  /-- The JSON text of the payload. -/
  payload : String := "\x7b\x7d"
  attempts : ℕ := 0
  lastError : Option String := none
  deriving DecidableEq

/-- `copyWith`: the error is replaced, whatever it was. -/
def PendingOperation.copyWith (op : PendingOperation) (syncStatus : SyncStatus)
    (attempts : Option ℕ := none) (lastError : Option String := none) : PendingOperation :=
  { op with syncStatus, attempts := attempts.getD op.attempts, lastError }

/-- The types `StaffSyncHandler` claims. -/
def handledTypes : List String :=
  ["housekeeping.task.start", "housekeeping.task.complete", "workorder.create",
    "security.incident", "gate.vehicle_in", "gate.vehicle_out", "gate.staff_in", "gate.staff_out",
    "gate.visitor", "gate.lostfound"]

/-- A handler is registered for the operation. -/
def handled (op : PendingOperation) : Bool := handledTypes.contains op.operationType

inductive Call where
  | load
  /-- What is to be done, with the id and the time that are drawn for it. -/
  | enqueue (op : PendingOperation)
  | remove (operationId : String)
  | clearSynced
  | drain
  deriving DecidableEq

/-- What a call is waiting for. -/
inductive Stage where
  /-- The store, to read the list. -/
  | reading
  /-- Its turn, with what the store answered. -/
  | answered (raw : List PendingOperation)
  /-- Its turn, after `await load()`. -/
  | ready
  /-- The push of an operation; the rest of the snapshot is still to come. -/
  | pushing (op : PendingOperation) (rest : List PendingOperation)
  /-- The store, to write the list; the writes are numbered as they start. -/
  | writing (n : ℕ) (list : List PendingOperation)
  /-- Its turn, after its write. -/
  | written
  | done
  deriving DecidableEq

structure Task where
  call : Call
  stage : Stage

/-- What has been done with an operation so far, by its id. -/
structure History where
  /-- In the store when the queue was opened, or added since, with the number of the write
  that stores it first (none for what was there). -/
  known : List (String × ℕ) := []
  removed : List String := []
  /-- Taken out by `clearSynced`. -/
  cleared : List String := []
  /-- Pushed with success, now or before the queue was opened. -/
  synced : List String := []

/-- The queue, the store and the calls under way. -/
structure SyncQueue where
  ops : List PendingOperation := []
  loaded : Bool := false
  draining : Bool := false
  /-- The persisted list. -/
  store : List PendingOperation
  /-- The writes started so far, and the last that took effect. -/
  writes : ℕ := 0
  landed : ℕ := 0
  tasks : List Task
  history : History
  /-- What the server has applied, in order. -/
  applied : List PendingOperation := []

def ids (l : List PendingOperation) : List String := l.map (·.operationId)

/-- `syncQueueProvider` builds the queue and calls `load`. -/
def opened (store applied : List PendingOperation) : SyncQueue where
  store
  tasks := [{ call := .load, stage := .reading }]
  history :=
    { known := (ids store).map fun id => (id, 0)
      synced := ids (store.filter fun o => o.syncStatus = .synced) }
  applied

namespace SyncQueue

variable (q : SyncQueue)

/-- `_replace`. -/
def replace (updated : PendingOperation) : SyncQueue :=
  { q with ops := q.ops.map fun o =>
      if o.operationId = updated.operationId then updated else o }

/-- `_persist`: a write of the whole list starts. -/
def persist : SyncQueue × Stage :=
  ({ q with writes := q.writes + 1 }, .writing (q.writes + 1) q.ops)

/-- `await load()` up to where it waits. -/
def awaitLoad : Stage := if q.loaded then .ready else .reading

/-- What a call does when it is made. -/
def start : Call → SyncQueue × Stage
  | .load => (q, if q.loaded then .done else .reading)
  | .enqueue _ => (q, q.awaitLoad)
  | .drain => (q, if q.draining then .done else q.awaitLoad)
  | .remove operationId =>
    persist { q with
      ops := q.ops.filter fun o => o.operationId ≠ operationId
      history := { q.history with removed := operationId :: q.history.removed } }
  | .clearSynced =>
    let out := ids (q.ops.filter fun o => o.syncStatus = .synced)
    persist { q with
      ops := q.ops.filter fun o => o.syncStatus ≠ .synced
      history := { q.history with cleared := out ++ q.history.cleared } }

/-- The next operation of a snapshot that is pushed: those synced and those without a handler
are passed over. -/
def nextPush : List PendingOperation → Option (PendingOperation × List PendingOperation)
  | [] => none
  | op :: rest => if op.syncStatus = .synced || !handled op then nextPush rest else some (op, rest)

/-- The loop of `drain` up to its next push, or the write at its end. -/
def continueDrain (snapshot : List PendingOperation) : SyncQueue × Stage :=
  match nextPush snapshot with
  | some (op, rest) => (q.replace (op.copyWith .syncing), .pushing op rest)
  | none => q.persist

/-- How a push ends. -/
inductive Pushed where
  /-- The server applied it and the answer came back. -/
  | ok
  /-- It failed before it reached the server. -/
  | lost (error : String)
  /-- The server applied it and the answer was lost. -/
  | timedOut (error : String)
  deriving DecidableEq

def Pushed.reached : Pushed → Bool
  | .lost _ => false
  | _ => true

/-- The operation after its push. -/
def outcome (op : PendingOperation) : Pushed → PendingOperation
  | .ok => op.copyWith .synced
  | .lost error => op.copyWith .failed (some (op.attempts + 1)) (some error)
  | .timedOut error => op.copyWith .failed (some (op.attempts + 1)) (some error)

/-- What is known of the queue after a push: the server's log and the success. -/
def recordPush (op : PendingOperation) (r : Pushed) : SyncQueue :=
  { q with
    applied := if r.reached then q.applied ++ [op] else q.applied
    history := { q.history with
      synced := if r = .ok then op.operationId :: q.history.synced else q.history.synced } }

/-- A call goes on after its `await`; `r` is how its push ended, where it waited for one. -/
def resume (call : Call) (r : Pushed) : Stage → Option (SyncQueue × Stage)
  | .answered raw =>
    some ({ q with ops := raw, loaded := true }, if call = .load then .done else .ready)
  | .ready =>
    match call with
    | .enqueue op => some (persist { q with
        ops := q.ops ++ [{ op with syncStatus := .pending, attempts := 0, lastError := none }]
        history := { q.history with known := (op.operationId, q.writes + 1) :: q.history.known } })
    | .drain => some (continueDrain { q with draining := true } q.ops)
    | _ => none
  | .pushing op rest =>
    some (continueDrain ((q.recordPush op r).replace (outcome op r)) rest)
  | .written =>
    some (if call = .drain then { q with draining := false } else q, .done)
  | _ => none

inductive Event where
  | call (c : Call)
  /-- The store answers the read of a call. -/
  | answer (i : ℕ)
  /-- The write of a call takes effect. -/
  | land (i : ℕ)
  /-- A call goes on. -/
  | resume (i : ℕ) (r : Pushed := .ok)

def setTask (i : ℕ) (call : Call) (stage : Stage) : SyncQueue :=
  { q with tasks := q.tasks.set i { call, stage } }

def step : Event → Option SyncQueue
  | .call c =>
    let (q', stage) := q.start c
    some { q' with tasks := q'.tasks ++ [{ call := c, stage }] }
  | .answer i =>
    match q.tasks[i]? with
    | some { call, stage := .reading } => some (q.setTask i call (.answered q.store))
    | _ => none
  | .land i =>
    match q.tasks[i]? with
    | some { call, stage := .writing n list } =>
      some (setTask { q with store := list, landed := n } i call .written)
    | _ => none
  | .resume i r =>
    match q.tasks[i]? with
    | some { call, stage } =>
      (q.resume call r stage).map fun q' => setTask q'.1 i call q'.2
    | none => none

end SyncQueue

end Travelo.Offline

import Mathlib.Data.List.Sort
import Travelo.ReadCommitted.Table
import Travelo.Schema

/-!
# Notification deliveries

`NotificationDeliveryService.drain` sends the deliveries that are due, each over its channel, and
marks what became of it. A worker calls it over and over and catches whatever it throws.

The channels are the registry it is given: whether one is unavailable, and what it answers to the
send of each delivery in this run. The sends that were made are kept in a log.
-/

namespace Travelo

open ReadCommitted

inductive NotificationChannelName where
  | EMAIL
  | SMS
  | WHATSAPP
  | PUSH
  | IN_APP
  deriving DecidableEq

def NotificationChannelName.name : NotificationChannelName → String
  | .EMAIL => "EMAIL"
  | .SMS => "SMS"
  | .WHATSAPP => "WHATSAPP"
  | .PUSH => "PUSH"
  | .IN_APP => "IN_APP"

inductive NotificationDeliveryStatus where
  | PENDING
  | SENT
  | FAILED
  | SKIPPED
  deriving DecidableEq

structure NotificationDelivery where
  id : Id
  notificationKey : String
  channel : NotificationChannelName
  recipient : String
  subject : Option String := none
  body : String
  status : NotificationDeliveryStatus := .PENDING
  attempts : ℕ := 0
  lastError : Option String := none
  relatedType : Option String := none
  relatedId : Option Id := none
  scheduledFor : ℤ := 0
  sentAt : Option ℤ := none
  deriving DecidableEq

structure RenderedMessage where
  subject : Option String := none
  body : String
  relatedType : Option String := none
  relatedId : Option Id := none
  notificationKey : Option String := none

/-- What a channel throws: two conditions that are permanent, and any other error. -/
inductive SendError where
  | smsTextNotConfigured (message : String)
  | pushDeliverySkipped (message : String)
  | other (message : String)

def SendError.message : SendError → String
  | .smsTextNotConfigured m | .pushDeliverySkipped m | .other m => m

def SendError.permanent : SendError → Bool
  | .smsTextNotConfigured _ | .pushDeliverySkipped _ => true
  | .other _ => false

/-- One outbound transport: its answer to the send of each delivery. -/
structure NotificationChannel where
  send : Id → Except SendError Unit
  unavailable : Bool := false

abbrev ChannelRegistry := NotificationChannelName → Option NotificationChannel

/-- It logs and succeeds. -/
def ConsoleChannel : NotificationChannel where
  send _ := .ok ()

/-- There is no provider behind it: it logs and drops. -/
def UnavailableChannel : NotificationChannel where
  send _ := .ok ()
  unavailable := true

/-- One implementation per channel; `smtp` and `push` are there if they are configured. -/
def buildChannelRegistry (smtp : Option NotificationChannel) (sms inApp : NotificationChannel)
    (push : Option NotificationChannel) : ChannelRegistry
  | .EMAIL => some (smtp.getD ConsoleChannel)
  | .SMS => some sms
  | .IN_APP => some inApp
  | .PUSH => some (push.getD UnavailableChannel)
  | .WHATSAPP => some UnavailableChannel

/-- A send that was made, the number of the attempt it was and when. -/
structure SendAttempt where
  id : Id
  number : ℕ
  time : ℤ
  recipient : String
  rendered : RenderedMessage

/-- The deliveries, and the sends of the run. -/
structure Outbox where
  deliveries : Table NotificationDelivery.id
  sends : List SendAttempt := []

structure DrainStats where
  processed : ℕ := 0
  sent : ℕ := 0
  failed : ℕ := 0
  skipped : ℕ := 0
  retried : ℕ := 0

/-- What became of one delivery. -/
inductive Disposal where
  | sent
  | failed
  | skipped
  | retried

def DrainStats.count (s : DrainStats) : Disposal → DrainStats
  | .sent => { s with sent := s.sent + 1 }
  | .failed => { s with failed := s.failed + 1 }
  | .skipped => { s with skipped := s.skipped + 1 }
  | .retried => { s with retried := s.retried + 1 }

namespace NotificationDeliveryService

/-- Attempts before a delivery is abandoned. -/
def MAX_ATTEMPTS : ℕ := 5

/-- 1m, 2m, 4m, 8m, by the attempts already made. -/
def backoffMs (attempts : ℕ) : ℤ := min (2 ^ (attempts - 1)) 32 * 60000

/-- A throw keeps what was written before it. -/
abbrev DrainM := ExceptT SendError (StateM Outbox)

/-- The columns a mark sets; `lastError` may be set to null. -/
structure MarkValues where
  status : NotificationDeliveryStatus
  attempts : ℕ
  lastError : Option (Option String) := none
  sentAt : Option ℤ := none
  scheduledFor : Option ℤ := none

def MarkValues.apply (v : MarkValues) (d : NotificationDelivery) : NotificationDelivery :=
  { d with
    status := v.status
    attempts := v.attempts
    lastError := v.lastError.getD d.lastError
    sentAt := v.sentAt.or d.sentAt
    scheduledFor := v.scheduledFor.getD d.scheduledFor }

def mark (id : Id) (v : MarkValues) : DrainM Unit :=
  modify fun q => { q with deliveries := q.deliveries.update (fun d => d.id = id) v.apply }

/-- Hand the message to the channel; what it throws is thrown. -/
def sendOver (channel : NotificationChannel) (now : ℤ) (row : NotificationDelivery)
    (rendered : RenderedMessage) : DrainM Unit := do
  modify fun q =>
    { q with sends := q.sends ++ [⟨row.id, row.attempts + 1, now, row.recipient, rendered⟩] }
  match channel.send row.id with
  | .ok _ => return ()
  | .error e => throw e

def sliceMessage (message : String) : String := String.ofList (message.toList.take 2000)

/-- One delivery of the loop. -/
def deliver (channels : ChannelRegistry) (now : ℤ) (row : NotificationDelivery) :
    DrainM Disposal :=
  match channels row.channel with
  | none => do
    mark row.id
      { status := .SKIPPED
        attempts := row.attempts + 1
        lastError := some s!"No implementation registered for channel {row.channel.name}" }
    return .skipped
  | some channel =>
    if channel.unavailable then do
      -- outside the guard of the other channels
      sendOver channel now row { subject := row.subject, body := row.body }
      mark row.id
        { status := .SKIPPED
          attempts := row.attempts + 1
          lastError := some s!"{row.channel.name} delivery is not implemented" }
      return .skipped
    else
      tryCatch
        (do
          sendOver channel now row
            { subject := row.subject
              body := row.body
              relatedType := row.relatedType
              relatedId := row.relatedId
              notificationKey := some row.notificationKey }
          mark row.id
            { status := .SENT
              attempts := row.attempts + 1
              sentAt := some now
              lastError := some none }
          return .sent)
        fun err => do
          let attempts := row.attempts + 1
          let message := sliceMessage err.message
          if err.permanent then
            mark row.id { status := .SKIPPED, attempts, lastError := some message }
            return .skipped
          else if MAX_ATTEMPTS ≤ attempts then
            mark row.id { status := .FAILED, attempts, lastError := some message }
            return .failed
          else
            mark row.id
              { status := .PENDING
                attempts
                lastError := some message
                scheduledFor := some (now + backoffMs attempts) }
            return .retried

def deliverAll (channels : ChannelRegistry) (now : ℤ) :
    List NotificationDelivery → DrainStats → DrainM DrainStats
  | [], stats => return stats
  | row :: rest, stats => do
    let disposal ← deliver channels now row
    deliverAll channels now rest ({ stats with processed := stats.processed + 1 }.count disposal)

/-- The pending deliveries whose time has come, oldest first. -/
def due (limit : ℕ) (now : ℤ) (deliveries : Table NotificationDelivery.id) :
    List NotificationDelivery :=
  ((deliveries.rows.filter fun d =>
    d.status = .PENDING && d.scheduledFor ≤ now).insertionSort
      fun a b => a.scheduledFor ≤ b.scheduledFor).take limit

/-- Send every due delivery, at most `limit` of them. -/
def drain (channels : ChannelRegistry) (limit : ℕ) (now : ℤ) : DrainM DrainStats := do
  let q ← get
  deliverAll channels now (due limit now q.deliveries) {}

end NotificationDeliveryService

end Travelo

import Mathlib.Data.List.Sort
import Travelo.ReadCommitted.Answers
import Travelo.Reservations.Rules
import Travelo.Reservations.Service

/-!
# Conversations

`ConversationsService`: one thread a guest, with the messages of both directions. A thread is found
by its reservation, else by phone, else by e-mail, and created on first use; no index makes any of
them unique. What is handed to the notification service is kept in the state.
-/

namespace Travelo.Conversations

open ReadCommitted

/-! ## State -/

inductive MessageChannel where
  | SMS
  | EMAIL
  | WHATSAPP
  | INTERNAL
  deriving DecidableEq

inductive MessageDirection where
  | IN
  | OUT
  deriving DecidableEq

inductive MessageStatus where
  | QUEUED
  | SENT
  | FAILED
  | RECEIVED
  deriving DecidableEq

inductive MessageOrigin where
  | MANUAL
  | AUTOMATION
  | GUEST
  deriving DecidableEq

structure Conversation where
  id : Id
  propertyId : Id
  reservationId : Option Id := none
  guestName : Option String := none
  guestPhone : Option String := none
  guestEmail : Option String := none
  lastMessageAt : Option ℤ := none
  lastPreview : Option String := none
  unreadCount : ℕ := 0
  createdAt : ℤ := 0

structure Message where
  id : Id
  conversationId : Id
  propertyId : Id
  direction : MessageDirection
  channel : MessageChannel
  body : String
  status : MessageStatus := .QUEUED
  origin : MessageOrigin := .MANUAL
  automationKey : Option String := none
  sentBy : Option Id := none
  createdAt : ℤ := 0
  deriving DecidableEq

/-- The columns of a reservation that the service reads. -/
structure GuestStay where
  id : Id
  propertyId : Id
  reservationNumber : String
  guestName : String
  guestPhone : String
  guestEmail : Option String := none
  deletedAt : Option ℤ := none

structure Hotel where
  id : Id
  name : String

/-- What `notifyQuietly` is given: a `guest.message` about a message. -/
structure GuestNotice where
  relatedId : Id
  channel : MessageChannel
  recipient : String
  body : String
  propertyName : String

structure ConvDb where
  conversations : Table Conversation.id := ∅
  messages : Table Message.id := ∅
  reservations : Table GuestStay.id := ∅
  properties : Table Hotel.id := ∅
  /-- What has been handed to the notification service, oldest first. -/
  handedOver : List GuestNotice := []

/-- What a statement reads. -/
inductive ConvLook where
  | conversation (id : Id)
  | messages (conversationId : Id)
  /-- The conversations of a property, by whom they are with. -/
  | threads (propertyId : Id)
  | reservation (id : Id)
  | property (id : Id)

inductive ConvErr where
  | conversationNotFound (message : String)
  | reservationNotFound
  | internal (message : String)

instance : Faults ConvErr := ⟨.internal⟩

/-- A method of the service; a row that is written is locked by its id. -/
abbrev ConvOp := Prog ConvDb Id ConvLook ConvErr

abbrev ConvTrace := List (Obs ConvDb ConvLook)

/-- The text, unless it is empty. -/
def truthy (s : Option String) : Option String := s.filter (· ≠ "")

/-! ## The service -/

namespace ConversationsService

variable (propertyId id : Id) (db : ConvDb)

/-- The conversation of the property. -/
def conversationOf : Option Conversation :=
  (db.conversations.find? id).filter fun c => c.propertyId = propertyId

/-- `UPDATE conversations SET … WHERE id = …`. -/
def setConversation (patch : Conversation → Conversation) (hkey : ∀ c, (patch c).id = c.id)
    (db : ConvDb) : ConvDb :=
  { db with conversations := db.conversations.update (fun c => c.id = id) patch hkey }

/-- The messages of a conversation, oldest first. -/
def messagesOf (conversationId : Id) (db : ConvDb) : List Message :=
  (db.messages.rows.filter fun m => m.conversationId = conversationId).insertionSort
    fun a b => a.createdAt ≤ b.createdAt

structure Thread where
  conversation : Conversation
  messages : List Message

/-- Nothing is unread any more. -/
def readAll (c : Conversation) : Conversation := { c with unreadCount := 0 }

theorem readAll_id (c : Conversation) : (readAll c).id = c.id := rfl

/-- What `thread` does once it has the conversation. -/
def readThread (c : Conversation) : ConvOp Thread := do
  let rows ← select (.messages id) (messagesOf id)
  when (0 < c.unreadCount) (write (fun _ => [id])
    (setConversation id readAll fun _ => rfl) fun _ => ())
  return { conversation := readAll c, messages := rows }

def thread : ConvOp Thread := do
  let found ← select (.conversation id) (conversationOf propertyId id)
  let c ← orThrow found (.conversationNotFound "Conversation not found")
  readThread id c

/-- Whom a conversation is with. -/
structure Who where
  reservationId : Option Id := none
  phone : Option String := none
  email : Option String := none
  name : Option String := none

variable (who : Who)

/-- The condition of the look-up: by reservation, else by phone, else by e-mail. -/
def isWith (c : Conversation) : Bool :=
  c.propertyId = propertyId &&
    match who.reservationId, truthy who.phone, truthy who.email with
    | some reservationId, _, _ => c.reservationId = some reservationId
    | none, some phone, _ => c.guestPhone = some phone
    | none, none, some email => c.guestEmail = some email
    | none, none, none => true

def existing (db : ConvDb) : Option Conversation :=
  db.conversations.rows.find? (isWith propertyId who)

variable (now : ℤ)

/-- The row of a new conversation; the database draws its id. -/
def newConversation (db : ConvDb) : Conversation :=
  { id := freshId (db.conversations.rows.map (·.id))
    propertyId
    reservationId := who.reservationId
    guestName := who.name
    guestPhone := who.phone
    guestEmail := who.email
    createdAt := now }

def insertConversation (db : ConvDb) : ConvDb :=
  { db with conversations := db.conversations.insert (newConversation propertyId who now db) }

def createConversation : ConvOp Conversation :=
  write (fun _ => []) (insertConversation propertyId who now)
    (newConversation propertyId who now)

/-- The thread for a guest, created on first use. -/
def threadFor : ConvOp Conversation := do
  let found ← select (.threads propertyId) (existing propertyId who)
  match found with
  | some c => return c
  | none => createConversation propertyId who now

/-- The row of a message; the database draws its id. -/
def stored (m : Message) (db : ConvDb) : Message :=
  { m with id := freshId (db.messages.rows.map (·.id)) }

def insertMessage (m : Message) : ConvOp Message :=
  write (fun _ => []) (fun db => { db with messages := db.messages.insert (stored m db) })
    (stored m)

/-- The columns `touch` sets. -/
def touched (preview : String) (unread : Bool) (now : ℤ) (c : Conversation) : Conversation :=
  { c with
    lastMessageAt := some now
    lastPreview := some (String.ofList (preview.toList.take 200))
    unreadCount := if unread then c.unreadCount + 1 else c.unreadCount }

def touch (conversationId : Id) (preview : String) (unread : Bool) (now : ℤ) : ConvOp Unit :=
  write (fun _ => [conversationId])
    (setConversation conversationId (touched preview unread now) fun _ => rfl) fun _ => ()

structure SendInput where
  conversationId : Option Id := none
  reservationId : Option Id := none
  channel : MessageChannel
  body : String
  origin : Option MessageOrigin := none
  automationKey : Option String := none
  sentBy : Option Id := none

/-- The guest of a reservation. -/
def guestOf (r : GuestStay) : Who :=
  { reservationId := some r.id
    phone := some r.guestPhone
    email := r.guestEmail
    name := some r.guestName }

/-- The reservation of the property. -/
def reservationOf : Option GuestStay :=
  (db.reservations.find? id).filter fun r => r.propertyId = propertyId

variable (input : SendInput)

/-- The thread that `send` writes to. -/
def sendThread (now : ℤ) : ConvOp Conversation :=
  match input.conversationId, input.reservationId with
  | some id, _ => do
    let found ← select (.conversation id) (conversationOf propertyId id)
    orThrow found (.conversationNotFound "Conversation not found")
  | none, some reservationId => do
    let found ← select (.reservation reservationId) (reservationOf propertyId reservationId)
    let r ← orThrow found .reservationNotFound
    threadFor propertyId (guestOf r) now
  | none, none => throw (.conversationNotFound "Say who to write to")

/-- The message that `send` inserts. -/
def outbound (now : ℤ) (thread : Conversation) : Message :=
  { id := 0
    conversationId := thread.id
    propertyId
    direction := .OUT
    channel := input.channel
    body := input.body
    status := if input.channel = .INTERNAL then .SENT else .QUEUED
    origin := input.origin.getD .MANUAL
    automationKey := input.automationKey
    sentBy := input.sentBy
    createdAt := now }

/-- Where a message on the channel goes. -/
def addressOf (channel : MessageChannel) (thread : Conversation) : Option String :=
  truthy (if channel = .EMAIL then thread.guestEmail else thread.guestPhone)

def setMessageStatus (status : MessageStatus) : ConvOp Unit :=
  write (fun _ => [id])
    (fun db => { db with
      messages := db.messages.update (fun m => m.id = id) (fun m => { m with status }) })
    fun _ => ()

/-- Hand a notice to the notification service, which keeps what fails to itself. -/
def notifyQuietly (notice : GuestNotice) : ConvOp Unit :=
  tryCatchThe ConvErr
    (write (fun _ => []) (fun db => { db with handedOver := db.handedOver ++ [notice] })
      fun _ => ())
    fun _ => return ()

/-- The notice about a message. -/
def noticeOf (msg : Message) (recipient : String) (name : Option String) :
    GuestNotice :=
  { relatedId := msg.id
    channel := input.channel
    recipient
    body := input.body
    propertyName := name.getD "" }

/-- Hand the message over, if there is anywhere to send it. -/
def handOver (thread : Conversation) (msg : Message) (name : Option String) :
    ConvOp Unit :=
  match addressOf input.channel thread with
  | some recipient => do
    notifyQuietly (noticeOf input msg recipient name)
    setMessageStatus msg.id .SENT
  | none => setMessageStatus msg.id .FAILED

def propertyName : Option String :=
  (db.properties.find? propertyId).map (·.name)

/-- The way out of a message that is not internal. -/
def deliver (thread : Conversation) (msg : Message) :
    ConvOp Message := do
  when (input.channel ≠ .INTERNAL) do
    let name ← select (.property propertyId) (propertyName propertyId)
    handOver input thread msg name
  return msg

/-- What `send` does on its thread. -/
def sendOn (now : ℤ) (thread : Conversation) :
    ConvOp Message := do
  let msg ← insertMessage (outbound propertyId input now thread)
  touch thread.id input.body false now
  deliver propertyId input thread msg

/-- Staff, or an automation, writes to the guest. -/
def send (now : ℤ) : ConvOp Message := do
  let thread ← sendThread propertyId input now
  sendOn propertyId input now thread

structure Inbound where
  channel : MessageChannel
  /-- `from`. -/
  sender : String
  body : String
  name : Option String := none

/-- The guest by the address a message came from. -/
def senderOf (input : Inbound) : Who :=
  if '@' ∈ input.sender.toList then { email := some input.sender, name := input.name }
  else { phone := some input.sender, name := input.name }

/-- The message that `receive` inserts. -/
def inbound (input : Inbound) (now : ℤ) (thread : Conversation) : Message :=
  { id := 0
    conversationId := thread.id
    propertyId
    direction := .IN
    channel := input.channel
    body := input.body
    status := .RECEIVED
    origin := .GUEST
    createdAt := now }

/-- What `receive` does on its thread. -/
def receiveOn (input : Inbound) (now : ℤ) (thread : Conversation) :
    ConvOp Message := do
  let msg ← insertMessage (inbound propertyId input now thread)
  touch thread.id input.body true now
  return msg

/-- A guest wrote in. -/
def receive (input : Inbound) (now : ℤ) : ConvOp Message := do
  let thread ← threadFor propertyId (senderOf input) now
  receiveOn propertyId input now thread

end ConversationsService

end Travelo.Conversations

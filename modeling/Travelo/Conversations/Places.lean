import Travelo.Conversations
import Travelo.ReadCommitted.Staged

/-!
# Where a message is

The calls of the desk and of the guests, as machines: each place holds what the call knows by then,
and its program is what is left of the method. `ConvCall.prog_start` connects the first place of a
call to the method.
-/

namespace Travelo.Conversations

open ReadCommitted ConversationsService

/-- A call of the service, with the clock. -/
inductive ConvCall where
  | thread (propertyId id : Id)
  | send (propertyId : Id) (input : SendInput) (now : ℤ)
  | receive (propertyId : Id) (input : Inbound) (now : ℤ)

inductive Answer where
  | thread (t : Thread)
  | message (m : Message)

/-- The answer to a message. -/
def wrap (m : Message) : ConvOp Answer := return .message m

def ConvCall.prog : ConvCall → ConvOp Answer
  | .thread propertyId id => do
    let t ← ConversationsService.thread propertyId id
    return .thread t
  | .send propertyId input now => ConversationsService.send propertyId input now >>= wrap
  | .receive propertyId input now => ConversationsService.receive propertyId input now >>= wrap

/-- A message on its way to a thread. -/
inductive Letter where
  | outbound (input : SendInput)
  | inbound (input : Inbound)

namespace Letter

def body : Letter → String
  | .outbound input => input.body
  | .inbound input => input.body

/-- It counts as unread. -/
def unread : Letter → Bool
  | .outbound _ => false
  | .inbound _ => true

/-- The row to insert. -/
def message (propertyId : Id) (now : ℤ) (thread : Conversation) : Letter → Message
  | .outbound input => ConversationsService.outbound propertyId input now thread
  | .inbound input => ConversationsService.inbound propertyId input now thread

/-- What is done once the thread is touched. -/
def after (propertyId : Id) (thread : Conversation) (msg : Message) : Letter → ConvOp Message
  | .outbound input => deliver propertyId input thread msg
  | .inbound _ => return msg

/-- What is done once the thread is known. -/
def onThread (propertyId : Id) (now : ℤ) (thread : Conversation) : Letter → ConvOp Message
  | .outbound input => sendOn propertyId input now thread
  | .inbound input => receiveOn propertyId input now thread

end Letter

theorem withStatus_id (status : MessageStatus) (m : Message) : { m with status }.id = m.id := rfl

/-- Where a call is: before the statement the place is named after. -/
inductive Place where
  | answered (a : Answer)
  | failed (e : ConvErr)
  | openThread (propertyId id : Id)
  | readMessages (id : Id) (c : Conversation)
  | resetUnread (id : Id) (c : Conversation) (rows : List Message)
  | sendTo (propertyId : Id) (input : SendInput) (now : ℤ) (id : Id)
  | sendToGuest (propertyId : Id) (input : SendInput) (now : ℤ) (reservationId : Id)
  | findThread (propertyId : Id) (l : Letter) (now : ℤ) (who : Who)
  | createThread (propertyId : Id) (l : Letter) (now : ℤ) (who : Who)
  | insert (propertyId : Id) (l : Letter) (now : ℤ) (thread : Conversation)
  | touch (propertyId : Id) (l : Letter) (now : ℤ) (thread : Conversation) (msg : Message)
  | readName (propertyId : Id) (input : SendInput) (thread : Conversation) (msg : Message)
  | notify (input : SendInput) (msg : Message) (recipient : String) (name : Option String)
  | mark (msg : Message) (status : MessageStatus)

namespace Place

/-- What is left of the call. -/
def prog : Place → ConvOp Answer
  | .answered a => .ret a
  | .failed e => .throw e
  | .openThread propertyId id => do
    let t ← thread propertyId id
    return .thread t
  | .readMessages id c => do
    let t ← readThread id c
    return .thread t
  | .resetUnread id c rows => do
    let t ← (do
      write (fun _ => [id]) (setConversation id readAll readAll_id) fun _ => ()
      return { conversation := readAll c, messages := rows } : ConvOp Thread)
    return .thread t
  | .sendTo propertyId input now id => do
    let found ← select (.conversation id) (conversationOf propertyId id)
    let thread ← orThrow found (.conversationNotFound "Conversation not found")
    sendOn propertyId input now thread >>= wrap
  | .sendToGuest propertyId input now reservationId => do
    let found ← select (.reservation reservationId) (reservationOf propertyId reservationId)
    let r ← orThrow found .reservationNotFound
    let thread ← threadFor propertyId (guestOf r) now
    sendOn propertyId input now thread >>= wrap
  | .findThread propertyId l now who => do
    let thread ← threadFor propertyId who now
    l.onThread propertyId now thread >>= wrap
  | .createThread propertyId l now who => do
    let thread ← createConversation propertyId who now
    l.onThread propertyId now thread >>= wrap
  | .insert propertyId l now thread => l.onThread propertyId now thread >>= wrap
  | .touch propertyId l now thread msg =>
    (do ConversationsService.touch thread.id l.body l.unread now
        l.after propertyId thread msg : ConvOp Message) >>= wrap
  | .readName propertyId input thread msg =>
    (do let name ← select (.property propertyId) (propertyName propertyId)
        handOver input thread msg name : ConvOp Unit) >>= fun _ => wrap msg
  | .notify input msg recipient name =>
    (do notifyQuietly (noticeOf input msg recipient name)
        setMessageStatus msg.id .SENT : ConvOp Unit) >>= fun _ => wrap msg
  | .mark msg status => setMessageStatus msg.id status >>= fun _ => wrap msg

/-- Where the search for a row leads. -/
def orFailed {α : Type} (e : ConvErr) (next : α → Place) : Option α → Place
  | some a => next a
  | none => .failed e

/-- The next statement, and where it leads. -/
def stage : Place → Stage ConvDb ConvLook ConvErr Place
  | .answered _ => .ended
  | .failed _ => .ended
  | .openThread propertyId id => .read (.conversation id)
      (fun db => orFailed (.conversationNotFound "Conversation not found") (.readMessages id)
        (conversationOf propertyId id db)) .failed
  | .readMessages id c => .read (.messages id)
      (fun db => if 0 < c.unreadCount then .resetUnread id c (messagesOf id db)
        else .answered (.thread { conversation := readAll c, messages := messagesOf id db }))
      .failed
  | .resetUnread id c rows => .write (fun db => .ok (setConversation id readAll readAll_id db))
      (fun _ => .answered (.thread { conversation := readAll c, messages := rows })) .failed
  | .sendTo propertyId input now id => .read (.conversation id)
      (fun db => orFailed (.conversationNotFound "Conversation not found")
        (.insert propertyId (.outbound input) now) (conversationOf propertyId id db)) .failed
  | .sendToGuest propertyId input now reservationId => .read (.reservation reservationId)
      (fun db => orFailed .reservationNotFound
        (fun r => .findThread propertyId (.outbound input) now (guestOf r))
        (reservationOf propertyId reservationId db)) .failed
  | .findThread propertyId l now who => .read (.threads propertyId)
      (fun db => match existing propertyId who db with
        | some c => .insert propertyId l now c
        | none => .createThread propertyId l now who) .failed
  | .createThread propertyId l now who =>
    .write (fun db => .ok (insertConversation propertyId who now db))
      (fun db => .insert propertyId l now (newConversation propertyId who now db)) .failed
  | .insert propertyId l now thread =>
    .write (fun db => .ok { db with
        messages := db.messages.insert (stored (l.message propertyId now thread) db) })
      (fun db => .touch propertyId l now thread (stored (l.message propertyId now thread) db))
      .failed
  | .touch propertyId l now thread msg =>
    .write
      (fun db => .ok (setConversation thread.id (touched l.body l.unread now) (fun _ => rfl) db))
      (fun _ => match l with
        | .inbound _ => .answered (.message msg)
        | .outbound input =>
          if input.channel ≠ .INTERNAL then .readName propertyId input thread msg
          else .answered (.message msg)) .failed
  | .readName propertyId input thread msg => .read (.property propertyId)
      (fun db => match addressOf input.channel thread with
        | some recipient => .notify input msg recipient (propertyName propertyId db)
        | none => .mark msg .FAILED) .failed
  | .notify input msg recipient name =>
    .write (fun db => .ok { db with
        handedOver := db.handedOver ++ [noticeOf input msg recipient name] })
      (fun _ => .mark msg .SENT) fun _ => .mark msg .SENT
  | .mark msg status =>
    .write (fun db => .ok { db with
        messages := db.messages.update (fun m => m.id = msg.id) (fun m => { m with status })
          (withStatus_id status) })
      (fun _ => .answered (.message msg)) .failed

theorem prog_orFailed {α : Type} (e : ConvErr) (next : α → Place) (found : Option α) :
    (orFailed e next found).prog = orThrow found e >>= fun a => (next a).prog := by
  cases found <;> rfl

theorem at_stage (φ : Place) : φ.prog.At Place.prog φ.stage := by
  cases φ with
  | answered a => rfl
  | failed e => rfl
  | openThread propertyId id =>
    refine ⟨_, rfl, fun db => ?_, fun e => rfl⟩
    rw [prog_orFailed]
    show (orThrow (conversationOf propertyId id db) _ >>= readThread id) >>= _ = _
    rw [Prog.bind_assoc]
    rfl
  | readMessages id c =>
    refine ⟨_, rfl, fun db => ?_, fun e => rfl⟩
    show (when (0 < c.unreadCount) (write (fun _ => [id])
      (setConversation id readAll fun _ => rfl) fun _ => ()) >>= fun _ =>
        (return { conversation := readAll c, messages := messagesOf id db } : ConvOp Thread)) >>=
          (fun t => (return .thread t : ConvOp Answer)) = Place.prog (if 0 < c.unreadCount then
            .resetUnread id c (messagesOf id db)
          else .answered (.thread { conversation := readAll c, messages := messagesOf id db }))
    unfold when
    by_cases hunread : 0 < c.unreadCount
    · rw [if_pos hunread, if_pos hunread]
      rfl
    · rw [if_neg hunread, if_neg hunread]
      rfl
  | resetUnread id c rows => exact ⟨_, _, rfl, fun db => rfl, fun e => rfl⟩
  | sendTo propertyId input now id =>
    refine ⟨_, rfl, fun db => ?_, fun e => rfl⟩
    rw [prog_orFailed]
    rfl
  | sendToGuest propertyId input now reservationId =>
    refine ⟨_, rfl, fun db => ?_, fun e => rfl⟩
    rw [prog_orFailed]
    rfl
  | findThread propertyId l now who =>
    refine ⟨_, rfl, fun db => ?_, fun e => rfl⟩
    dsimp only
    cases hfound : existing propertyId who db <;> rfl
  | createThread propertyId l now who => exact ⟨_, _, rfl, fun db => rfl, fun e => rfl⟩
  | insert propertyId l now thread =>
    cases l with
    | inbound input => exact ⟨_, _, rfl, fun db => rfl, fun e => rfl⟩
    | outbound input => exact ⟨_, _, rfl, fun db => rfl, fun e => rfl⟩
  | touch propertyId l now thread msg =>
    refine ⟨_, _, rfl, fun db => ?_, fun e => rfl⟩
    cases l with
    | inbound input => rfl
    | outbound input =>
      show deliver propertyId input thread msg >>= wrap = _
      unfold deliver when
      by_cases hc : input.channel ≠ .INTERNAL
      · simp only [if_pos hc]
        rw [Prog.bind_assoc]
        rfl
      · simp only [if_neg hc]
        rfl
  | readName propertyId input thread msg =>
    refine ⟨_, rfl, fun db => ?_, fun e => rfl⟩
    show handOver input thread msg (propertyName propertyId db) >>= _ = _
    unfold handOver
    dsimp only
    cases haddress : addressOf input.channel thread <;> rfl
  | notify input msg recipient name => exact ⟨_, _, rfl, fun db => rfl, fun e => rfl⟩
  | mark msg status => exact ⟨_, _, rfl, fun db => rfl, fun e => rfl⟩

end Place

/-- The calls in stages. -/
def staging : Staging ConvDb Id ConvLook ConvErr Answer Place where
  prog := Place.prog
  stage := Place.stage
  at_stage := Place.at_stage
  dead := .failed (lost "crash")
  dead_prog := rfl

/-- The first place of a call. -/
def ConvCall.start : ConvCall → Place
  | .thread propertyId id => .openThread propertyId id
  | .send propertyId input now =>
    match input.conversationId, input.reservationId with
    | some id, _ => .sendTo propertyId input now id
    | none, some reservationId => .sendToGuest propertyId input now reservationId
    | none, none => .failed (.conversationNotFound "Say who to write to")
  | .receive propertyId input now =>
    .findThread propertyId (.inbound input) now (senderOf input)

theorem ConvCall.prog_start (call : ConvCall) : call.start.prog = call.prog := by
  cases call with
  | thread propertyId id => rfl
  | send propertyId input now =>
    have hprog : (ConvCall.send propertyId input now).prog =
        sendThread propertyId input now >>= fun thread =>
          sendOn propertyId input now thread >>= wrap := Prog.bind_assoc _ _ _
    rw [hprog]
    unfold start sendThread
    dsimp only
    cases input.conversationId with
    | some id => exact (Prog.bind_assoc _ _ _).symm
    | none =>
      cases input.reservationId with
      | some reservationId =>
        dsimp only
        rw [Prog.bind_assoc]
        simp only [Prog.bind_assoc]
        rfl
      | none => rfl
  | receive propertyId input now => exact (Prog.bind_assoc _ _ _).symm

end Travelo.Conversations

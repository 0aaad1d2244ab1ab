import Travelo.Conversations.Places

/-!
# Messages nobody has read

A message counts as unread one statement after it is there, and opening a thread resets the count
one statement after the messages are read. `messages_seen`: no message goes unseen while the reset
finds no message that was not read, and each address has one conversation while a new one is
inserted where nobody has its addresses yet.
-/

namespace Travelo.Conversations

open ReadCommitted ConversationsService
open ConvCall (prog)

/-! ## The laws -/

/-- The messages a call has returned. -/
def Answer.returned : Answer → List Id
  | .thread t => t.messages.map (·.id)
  | .message _ => []

/-- The messages that calls have returned. -/
def returned (c : Config ConvDb Id ConvLook ConvErr Answer) : List Id :=
  c.sessions.flatMap fun s => (s.answer.map Answer.returned).getD []

/-- An inbound message of the conversation that is not among those seen. -/
def isUnseen (seen : List Id) (conversationId : Id) (m : Message) : Bool :=
  m.conversationId = conversationId && m.direction = .IN && m.id ∉ seen

/-- How many inbound messages of the conversation nobody has seen. -/
def unseen (seen : List Id) (db : ConvDb) (conversationId : Id) : ℕ :=
  db.messages.rows.countP (isUnseen seen conversationId)

/-- Each unseen message belongs to a conversation, which counts at least as many. -/
@[mk_iff] structure Attended (seen : List Id) (db : ConvDb) : Prop where
  threaded : ∀ m ∈ db.messages, m.direction = .IN → ∃ c ∈ db.conversations, c.id = m.conversationId
  counted : ∀ c ∈ db.conversations, unseen seen db c.id ≤ c.unreadCount

/-- They have a phone number or an e-mail address in common. -/
def sharesAddress (phone email phone' email' : Option String) : Prop :=
  (∃ p ∈ truthy phone, p ∈ truthy phone') ∨ ∃ e ∈ truthy email, e ∈ truthy email'

/-- No two conversations of a property share an address. -/
def OneEach (db : ConvDb) : Prop :=
  ∀ c ∈ db.conversations, ∀ c' ∈ db.conversations, c.propertyId = c'.propertyId →
    sharesAddress c.guestPhone c.guestEmail c'.guestPhone c'.guestEmail → c.id = c'.id

/-- The messages exchanged with an address at a property are in one conversation. -/
def OneConversation (db : ConvDb) : Prop :=
  ∀ m ∈ db.messages, ∀ m' ∈ db.messages, ∀ c ∈ db.conversations, ∀ c' ∈ db.conversations,
    m.conversationId = c.id → m'.conversationId = c'.id → c.propertyId = c'.propertyId →
      sharesAddress c.guestPhone c.guestEmail c'.guestPhone c'.guestEmail →
        m.conversationId = m'.conversationId

/-- Nobody at the property is known under an address of `who`. -/
def NobodyWith (propertyId : Id) (who : Who) (db : ConvDb) : Prop :=
  ∀ c ∈ db.conversations, c.propertyId = propertyId →
    ¬sharesAddress who.phone who.email c.guestPhone c.guestEmail

/-- The inbound messages of the thread that are there as it is reset have been read. -/
def ReadWhole : ConvCall → (ConvDb → ConvDb) → ConvTrace → ConvDb → Prop
  | .thread _ id, _, [.saw _ b, .saw _ _], now => ∀ m ∈ now.messages, m.conversationId = id →
      m.direction = .IN → m ∈ b.messages.rows
  | _, _, _, _ => True

/-- A conversation is inserted where nobody has its addresses. -/
def FirstWith : ConvCall → (ConvDb → ConvDb) → ConvTrace → ConvDb → Prop
  | .receive propertyId input _, _, [.saw _ b], now =>
    existing propertyId (senderOf input) b = none → NobodyWith propertyId (senderOf input) now
  | .send propertyId input _, _, [.saw _ b, .saw _ a], now => input.conversationId = none →
      ∀ r ∈ input.reservationId.bind (reservationOf propertyId · a),
        existing propertyId (guestOf r) b = none → NobodyWith propertyId (guestOf r) now
  | _, _, _, _ => True

/-- No statement fails, and no call dies. -/
def IsStep : Event → Prop
  | .step _ => True
  | _ => False

instance (ev : Event) : Decidable (IsStep ev) := by
  cases ev <;> unfold IsStep <;> infer_instance

/-- The call has ended, or has not begun. -/
def AtRest (s : Session ConvDb Id ConvLook ConvErr Answer) : Prop :=
  s.running = true → s.trace = []

/-- Nothing goes unseen whenever no call is in progress, in an interleaving whose writes
meet `G`. -/
def NothingMissed (G : ConvCall → (ConvDb → ConvDb) → ConvTrace → ConvDb → Prop) : Prop :=
  ∀ (calls : List ConvCall) (db : ConvDb) (seen : List Id) (evs : List Event)
    (c : Config ConvDb Id ConvLook ConvErr Answer), Attended seen db → (∀ ev ∈ evs, IsStep ev) →
    (Config.start db (calls.map prog)).Throughout (GuardedCalls calls G) evs →
    (Config.start db (calls.map prog)).run evs = some c →
    (∀ s ∈ c.sessions, AtRest s) → Attended (seen ++ returned c) c.db

/-- Each address has one conversation, in every interleaving whose writes meet `G`. -/
def OneThread (G : ConvCall → (ConvDb → ConvDb) → ConvTrace → ConvDb → Prop) : Prop :=
  ∀ (calls : List ConvCall) (db : ConvDb) (evs : List Event)
    (c : Config ConvDb Id ConvLook ConvErr Answer), OneEach db →
    (Config.start db (calls.map prog)).Throughout (GuardedCalls calls G) evs →
    (Config.start db (calls.map prog)).run evs = some c → OneConversation c.db

/-! ## Places and histories -/

/-- What a call has done where it is. -/
inductive Fits : ConvCall → Place → ConvTrace → Prop where
  | openThread {propertyId id} : Fits (.thread propertyId id) (.openThread propertyId id) []
  | readMessages {propertyId id c l b} :
    Fits (.thread propertyId id) (.readMessages id c) [.saw l b]
  | resetUnread {propertyId id c l l' b a} : Fits (.thread propertyId id)
    (.resetUnread id c (messagesOf id b)) [.saw l b, .saw l' a]
  | sendTo {propertyId input now id} (hid : input.conversationId = some id) :
    Fits (.send propertyId input now) (.sendTo propertyId input now id) []
  | sendToGuest {propertyId input now reservationId} (hid : input.conversationId = none)
    (hr : input.reservationId = some reservationId) :
    Fits (.send propertyId input now) (.sendToGuest propertyId input now reservationId) []
  | findGuest {propertyId input now reservationId r l a} (hid : input.conversationId = none)
    (hr : input.reservationId = some reservationId)
    (hfound : reservationOf propertyId reservationId a = some r) : Fits (.send propertyId input now)
    (.findThread propertyId (.outbound input) now (guestOf r)) [.saw l a]
  | findSender {propertyId input now} : Fits (.receive propertyId input now)
    (.findThread propertyId (.inbound input) now (senderOf input)) []
  | createGuest {propertyId input now reservationId r l l' b a}
    (hid : input.conversationId = none) (hr : input.reservationId = some reservationId)
    (hfound : reservationOf propertyId reservationId a = some r)
    (hnone : existing propertyId (guestOf r) b = none) : Fits (.send propertyId input now)
    (.createThread propertyId (.outbound input) now (guestOf r)) [.saw l b, .saw l' a]
  | createSender {propertyId input now l b}
    (hnone : existing propertyId (senderOf input) b = none) : Fits (.receive propertyId input now)
    (.createThread propertyId (.inbound input) now (senderOf input)) [.saw l b]
  | insert {call propertyId l now thread h} (hh : h ≠ []) :
    Fits call (.insert propertyId l now thread) h
  | touch {call propertyId l now thread msg h} (hh : h ≠ []) :
    Fits call (.touch propertyId l now thread msg) h
  | readName {call propertyId input thread msg h} :
    Fits call (.readName propertyId input thread msg) h
  | notify {call input msg recipient name h} : Fits call (.notify input msg recipient name) h
  | mark {call msg status h} : Fits call (.mark msg status) h
  | answered {call a h} : Fits call (.answered a) h
  | failed {call e h} : Fits call (.failed e) h

theorem fits_start (call : ConvCall) : Fits call call.start [] := by
  cases call with
  | thread propertyId id => exact .openThread
  | receive propertyId input now => exact .findSender
  | send propertyId input now =>
    unfold ConvCall.start
    dsimp only
    cases hid : input.conversationId with
    | some id => exact .sendTo hid
    | none =>
      cases hr : input.reservationId with
      | some reservationId => exact .sendToGuest hid hr
      | none => exact .failed

theorem fits_orFailed {α : Type} {call : ConvCall} {e : ConvErr} {next : α → Place} {h : ConvTrace}
    {found : Option α} (hnext : ∀ a, found = some a → Fits call (next a) h) :
    Fits call (Place.orFailed e next found) h := by
  cases found with
  | none => exact .failed
  | some a => exact hnext a rfl

theorem Fits.next {call : ConvCall} {φ φ' : Place} {c c' : Config ConvDb Id ConvLook ConvErr Answer}
    {ev : Event} {i : ℕ} {s s' : Session ConvDb Id ConvLook ConvErr Answer}
    (hfits : Fits call φ s.trace) (hmove : staging.Moves c c' ev i φ φ' s s') :
    Fits call φ' s'.trace := by
  generalize hh : s.trace = h at hfits
  cases hmove with
  | read hstage hdb htrace =>
    rw [htrace, hh]
    cases hfits <;> simp only [staging, Place.stage, Stage.read.injEq, reduceCtorEq] at hstage <;>
      rcases hstage with ⟨rfl, rfl, rfl⟩
    case openThread => exact fits_orFailed fun c' _ => .readMessages
    case readMessages =>
      dsimp only
      split
      · exact .resetUnread
      · exact .answered
    case sendTo => exact fits_orFailed fun c' _ => .insert (by simp)
    case sendToGuest hid hr => exact fits_orFailed fun r hfound => .findGuest hid hr hfound
    case findGuest hid hr hfound =>
      dsimp only
      split
      · exact .insert (by simp)
      · rename_i hnone
        exact .createGuest hid hr hfound hnone
    case findSender =>
      dsimp only
      split
      · exact .insert (by simp)
      · rename_i hnone
        exact .createSender hnone
    case readName =>
      dsimp only
      split
      · exact .notify
      · exact .mark
  | wrote hstage hok hpublishes htrace =>
    rw [htrace, hh]
    cases hfits <;> simp only [staging, Place.stage, Stage.write.injEq, reduceCtorEq] at hstage <;>
      rcases hstage with ⟨-, rfl, rfl⟩
    case resetUnread => exact .answered
    case createGuest => exact .insert (by simp)
    case createSender => exact .insert (by simp)
    case insert => exact .touch (by simp)
    case touch propertyId l now thread msg _ =>
      cases l with
      | inbound input => exact .answered
      | outbound input =>
        dsimp only
        split
        · exact .readName
        · exact .answered
    case notify => exact .mark
    case mark => exact .answered
  | refused hstage herror hdb htrace =>
    cases hfits <;> simp only [staging, Place.stage, Stage.write.injEq, reduceCtorEq] at hstage <;>
      rcases hstage with ⟨rfl, -, -⟩ <;> cases herror
  | unread hstage hdb htrace =>
    cases hfits <;> simp only [staging, Place.stage, Stage.read.injEq, reduceCtorEq] at hstage <;>
      rcases hstage with ⟨-, -, rfl⟩ <;> exact .failed
  | unwritten hstage hdb htrace =>
    cases hfits <;> simp only [staging, Place.stage, Stage.write.injEq, reduceCtorEq] at hstage <;>
      rcases hstage with ⟨-, -, rfl⟩
    case notify => exact .mark
    all_goals exact .failed
  | died hdb htrace => exact .failed

/-! ## Counting -/

namespace Place

/-- The conversation whose count the call still has to raise. -/
def owes (conversationId : Id) : Place → Bool
  | .touch _ l _ thread _ => l.unread && thread.id = conversationId
  | _ => false

/-- What the call has returned. -/
def returned : Place → List Id
  | .answered a => a.returned
  | _ => []

/-- The conversation the call writes a message to. -/
def threadId : Place → Option Id
  | .insert _ _ _ thread => some thread.id
  | .touch _ _ _ thread _ => some thread.id
  | _ => none

end Place

/-- Each conversation counts its unseen messages, or a call will raise its count. -/
def Counted (seen : List Id) (db : ConvDb) (φs : List Place) : Prop :=
  ∀ c ∈ db.conversations, unseen (seen ++ φs.flatMap Place.returned) db c.id ≤
    c.unreadCount + φs.countP (Place.owes c.id)

section Counting

variable {seen : List Id} {db db' : ConvDb} {φs : List Place} {i : ℕ} {φ φ' : Place}

theorem countP_place (φ' : Place) (hφ : φs[i]? = some φ) (p : Place → Bool) :
    (φs.set i φ').countP p + (if p φ then 1 else 0) =
      φs.countP p + if p φ' then 1 else 0 := by
  rcases List.getElem?_eq_some_iff.mp hφ with ⟨hlt, rfl⟩
  rw [List.countP_set hlt]
  have hpos : (if p φs[i] then 1 else 0) ≤ φs.countP p := by
    split_ifs with hp
    · exact List.countP_pos_iff.mpr ⟨_, List.getElem_mem hlt, hp⟩
    · omega
  omega

theorem mem_returned_set (hφ : φs[i]? = some φ) (hnone : φ.returned = []) {id : Id}
    (hid : id ∈ φs.flatMap Place.returned ∨ id ∈ φ'.returned) :
    id ∈ (φs.set i φ').flatMap Place.returned := by
  rcases List.getElem?_eq_some_iff.mp hφ with ⟨hlt, rfl⟩
  rw [List.mem_flatMap]
  rcases hid with hid | hid
  · rcases List.mem_flatMap.mp hid with ⟨ψ, hψ, hmem⟩
    rcases List.mem_iff_getElem?.mp hψ with ⟨j, hj⟩
    have hne : i ≠ j := by
      rintro rfl
      rw [List.getElem?_eq_getElem hlt] at hj
      cases hj
      rw [hnone] at hmem
      cases hmem
    refine ⟨ψ, List.mem_iff_getElem?.mpr ⟨j, ?_⟩, hmem⟩
    rw [List.getElem?_set_ne hne]
    exact hj
  · exact ⟨φ', List.mem_iff_getElem?.mpr ⟨i, by rw [List.getElem?_set_self hlt]⟩, hid⟩

theorem unseen_mono {seen' : List Id} (h : ∀ id ∈ seen, id ∈ seen') (id : Id) :
    unseen seen' db id ≤ unseen seen db id := by
  refine List.countP_mono_left fun m _ hm => ?_
  simp only [isUnseen, and_decide_eq] at hm ⊢
  exact ⟨hm.1, fun hmem => hm.2 (h _ hmem)⟩

theorem unseen_set (seen : List Id) (db : ConvDb) (φ' : Place) (hφ : φs[i]? = some φ)
    (hnone : φ.returned = []) (id : Id) :
    unseen (seen ++ (φs.set i φ').flatMap Place.returned) db id ≤
      unseen (seen ++ φs.flatMap Place.returned) db id := by
  refine unseen_mono (fun x hx => ?_) id
  rcases List.mem_append.mp hx with hx | hx
  · exact List.mem_append_left _ hx
  · exact List.mem_append_right _ (mem_returned_set hφ hnone (.inl hx))

theorem Counted.go (h : Counted seen db φs) (hφ : φs[i]? = some φ) (hnone : φ.returned = [])
    (howes : ∀ id, φ.owes id = false) (hsame : db'.conversations = db.conversations)
    (hmessages : ∀ seen id, unseen seen db' id = unseen seen db id) :
    Counted seen db' (φs.set i φ') := by
  intro c hc
  rw [hsame] at hc
  rw [hmessages]
  have hbefore := h c hc
  have hseen := unseen_set seen db φ' hφ hnone c.id
  have htally := countP_place φ' hφ (Place.owes c.id)
  rw [howes c.id] at htally
  simp only [Bool.false_eq_true, if_false] at htally
  omega

theorem Counted.insert {m : Message} (h : Counted seen db φs) (hφ : φs[i]? = some φ)
    (hnone : φ.returned = []) (howes : ∀ id, φ.owes id = false)
    (howes' : ∀ id, m.direction = .IN → m.conversationId = id → φ'.owes id = true)
    (hid : m.id = freshId (db.messages.rows.map (·.id))) :
    Counted seen { db with messages := db.messages.insert m } (φs.set i φ') := by
  have hrows : (db.messages.insert m).rows = db.messages.rows ++ [m] := by
    refine rows_insert ?_
    rw [hid]
    exact hasKey_freshId db.messages
  intro c hc
  have hbefore := h c hc
  have hseen := unseen_set seen db φ' hφ hnone c.id
  have htally := countP_place φ' hφ (Place.owes c.id)
  rw [howes c.id] at htally
  simp only [Bool.false_eq_true, if_false] at htally
  have hcount : ∀ seen, unseen seen { db with messages := db.messages.insert m } c.id =
      unseen seen db c.id + if isUnseen seen c.id m then 1 else 0 := by
    intro seen
    unfold unseen
    rw [hrows, List.countP_append, List.countP_singleton]
  rw [hcount]
  have hone : (if isUnseen (seen ++ (φs.set i φ').flatMap Place.returned) c.id m then 1 else 0) ≤
      (if φ'.owes c.id then 1 else 0) := by
    split_ifs with hm hno
    · omega
    · simp only [isUnseen, and_decide_eq] at hm
      exact absurd (howes' c.id hm.1.2 hm.1.1) hno
    · omega
    · omega
  omega

theorem mem_setConversation {id : Id} {patch : Conversation → Conversation}
    {hkey : ∀ c, (patch c).id = c.id} {c : Conversation} :
    c ∈ (setConversation id patch hkey db).conversations ↔
      ∃ c₀ ∈ db.conversations, c = if c₀.id = id then patch c₀ else c₀ := by
  show c ∈ db.conversations.update (fun c => c.id = id) patch hkey ↔ _
  rw [mem_update]
  simp

theorem Counted.touch {thread : Id} {preview : String} {unread : Bool} {now : ℤ}
    (h : Counted seen db φs) (hφ : φs[i]? = some φ) (hnone : φ.returned = [])
    (howes : ∀ id, φ.owes id = (unread && thread = id)) :
    Counted seen (setConversation thread (touched preview unread now) (fun _ => rfl) db)
      (φs.set i φ') := by
  intro c hc
  rcases mem_setConversation.mp hc with ⟨c₀, hc₀, rfl⟩
  have hbefore := h c₀ hc₀
  have hseen := unseen_set seen db φ' hφ hnone c₀.id
  have htally := countP_place φ' hφ (Place.owes c₀.id)
  rw [howes] at htally
  have hmessages : ∀ seen id, unseen seen
      (setConversation thread (touched preview unread now) (fun _ => rfl) db) id =
        unseen seen db id := fun _ _ => rfl
  rw [hmessages]
  by_cases hid : c₀.id = thread
  · rw [if_pos hid]
    have hcount : (touched preview unread now c₀).unreadCount =
        c₀.unreadCount + if unread then 1 else 0 := by
      unfold touched
      cases unread <;> rfl
    have hthread : (touched preview unread now c₀).id = c₀.id := rfl
    rw [hcount, hthread]
    cases unread with
    | true =>
      simp only [hid, Bool.true_and, decide_true, if_true] at *
      omega
    | false =>
      simp only [Bool.false_and, Bool.false_eq_true, if_false] at *
      omega
  · rw [if_neg hid]
    have hother : (unread && decide (thread = c₀.id)) = false := by
      simp [Ne.symm hid]
    rw [hother] at htally
    simp only [Bool.false_eq_true, if_false] at htally
    omega

theorem Counted.reset {thread : Id} (h : Counted seen db φs) (hφ : φs[i]? = some φ)
    (hnone : φ.returned = []) (howes : ∀ id, φ.owes id = false)
    (hread : ∀ m ∈ db.messages, m.conversationId = thread → m.direction = .IN →
      m.id ∈ φ'.returned) :
    Counted seen (setConversation thread readAll (fun _ => rfl) db) (φs.set i φ') := by
  intro c hc
  rcases mem_setConversation.mp hc with ⟨c₀, hc₀, rfl⟩
  have hmessages : ∀ seen id, unseen seen (setConversation thread readAll (fun _ => rfl) db) id =
      unseen seen db id := fun _ _ => rfl
  rw [hmessages]
  by_cases hid : c₀.id = thread
  · rw [if_pos hid]
    have hzero : unseen (seen ++ (φs.set i φ').flatMap Place.returned) db c₀.id = 0 := by
      refine List.countP_eq_zero.mpr fun m hm hunseen => ?_
      simp only [isUnseen, and_decide_eq] at hunseen
      have hmem := hread m hm (hunseen.1.1.trans hid) hunseen.1.2
      exact hunseen.2 (List.mem_append_right _ (mem_returned_set hφ hnone (.inr hmem)))
    have hthread : (readAll c₀).id = c₀.id := rfl
    rw [hthread, hzero]
    omega
  · rw [if_neg hid]
    have hbefore := h c₀ hc₀
    have hseen := unseen_set seen db φ' hφ hnone c₀.id
    have htally := countP_place φ' hφ (Place.owes c₀.id)
    rw [howes] at htally
    simp only [Bool.false_eq_true, if_false] at htally
    omega

theorem Counted.create {propertyId : Id} {who : Who} {now : ℤ} (h : Counted seen db φs)
    (hφ : φs[i]? = some φ) (hnone : φ.returned = []) (howes : ∀ id, φ.owes id = false)
    (hthreaded : ∀ m ∈ db.messages, m.direction = .IN →
      ∃ c ∈ db.conversations, c.id = m.conversationId) :
    Counted seen (insertConversation propertyId who now db) (φs.set i φ') := by
  intro c hc
  have hmessages : ∀ seen id, unseen seen (insertConversation propertyId who now db) id =
      unseen seen db id := fun _ _ => rfl
  rw [hmessages]
  rcases mem_or_eq_of_mem_insert hc with hold | rfl
  · have hbefore := h c hold
    have hseen := unseen_set seen db φ' hφ hnone c.id
    have htally := countP_place φ' hφ (Place.owes c.id)
    rw [howes] at htally
    simp only [Bool.false_eq_true, if_false] at htally
    omega
  · have hzero : unseen (seen ++ (φs.set i φ').flatMap Place.returned) db
        (newConversation propertyId who now db).id = 0 := by
      refine List.countP_eq_zero.mpr fun m hm hunseen => ?_
      simp only [isUnseen, and_decide_eq] at hunseen
      rcases hthreaded m hm hunseen.1.2 with ⟨c, hc, hid⟩
      have hlt := lt_freshId (List.mem_map_of_mem (f := (·.id)) hc)
      rw [hid, hunseen.1.1] at hlt
      exact absurd hlt (lt_irrefl _)
    rw [hzero]
    omega

end Counting

/-! ## Nothing is missed -/

/-- Conversations stay. -/
def Stay (db db' : ConvDb) : Prop :=
  ∀ c ∈ db.conversations, ∃ c' ∈ db'.conversations, c'.id = c.id

/-- What holds between the steps. -/
structure Kept (calls : List ConvCall) (seen : List Id)
    (c : Config ConvDb Id ConvLook ConvErr Answer) (φs : List Place) : Prop where
  length : φs.length = calls.length
  fits : ∀ (i : ℕ) call φ s, calls[i]? = some call → φs[i]? = some φ → c.sessions[i]? = some s →
    Fits call φ s.trace
  threaded : ∀ m ∈ c.db.messages, m.direction = .IN →
    ∃ conv ∈ c.db.conversations, conv.id = m.conversationId
  known : ∀ φ ∈ φs, ∀ id ∈ φ.threadId, ∃ conv ∈ c.db.conversations, conv.id = id
  counted : Counted seen c.db φs

section Keeping

variable {calls : List ConvCall} {seen : List Id} {c c' : Config ConvDb Id ConvLook ConvErr Answer}
  {φs : List Place} {i : ℕ} {φ φ' : Place} {s s' : Session ConvDb Id ConvLook ConvErr Answer}
  {ev : Event} {db db' : ConvDb}

theorem stay_refl (db : ConvDb) : Stay db db := fun c hc => ⟨c, hc, rfl⟩

theorem stay_set {id : Id} {patch : Conversation → Conversation} {hkey : ∀ c, (patch c).id = c.id} :
    Stay db (setConversation id patch hkey db) := by
  intro c hc
  have hmem : (if c.id = id then patch c else c) ∈
      (setConversation id patch hkey db).conversations := mem_setConversation.mpr ⟨c, hc, rfl⟩
  refine ⟨_, hmem, ?_⟩
  split_ifs
  · exact hkey c
  · rfl

theorem stay_insert {propertyId : Id} {who : Who} {now : ℤ} :
    Stay db (insertConversation propertyId who now db) :=
  fun c hc => ⟨c, mem_insert_of_mem hc, rfl⟩

theorem fits_set (hfits : ∀ (i : ℕ) call φ s, calls[i]? = some call → φs[i]? = some φ →
      c.sessions[i]? = some s → Fits call φ s.trace) (hφ : φs[i]? = some φ)
    (hs : c.sessions[i]? = some s) (hset : c'.sessions = c.sessions.set i s')
    (hmove : staging.Moves c c' ev i φ φ' s s') : ∀ (j : ℕ) call ψ t, calls[j]? = some call →
      (φs.set i φ')[j]? = some ψ → c'.sessions[j]? = some t → Fits call ψ t.trace := by
  intro j call ψ t hcall hψ ht
  rw [hset] at ht
  by_cases hj : i = j
  · subst hj
    rw [List.getElem?_set_self (List.getElem?_eq_some_iff.mp hφ).1] at hψ
    rw [List.getElem?_set_self (List.getElem?_eq_some_iff.mp hs).1] at ht
    cases hψ
    cases ht
    exact (hfits i call φ s hcall hφ hs).next hmove
  · rw [List.getElem?_set_ne hj] at hψ ht
    exact hfits j call ψ t hcall hψ ht

theorem fits_at_start {call : ConvCall} (hcall : calls[i]? = some call)
    (hφ : (calls.map ConvCall.start)[i]? = some φ)
    (hs : (Config.start db ((calls.map ConvCall.start).map staging.prog)).sessions[i]? = some s) :
    Fits call φ s.trace := by
  rw [List.getElem?_map, hcall] at hφ
  cases hφ
  simp only [Config.start, List.getElem?_map, hcall, Option.map_some, Option.some.injEq] at hs
  subst hs
  exact fits_start call

theorem Kept.known_set (hk : Kept calls seen c φs) (hstay : Stay c.db db')
    (hnew : ∀ id ∈ φ'.threadId, ∃ conv ∈ db'.conversations, conv.id = id) :
    ∀ ψ ∈ φs.set i φ', ∀ id ∈ ψ.threadId, ∃ conv ∈ db'.conversations, conv.id = id := by
  intro ψ hψ id hid
  rcases List.mem_or_eq_of_mem_set hψ with hold | rfl
  · rcases hk.known ψ hold id hid with ⟨conv, hconv, rfl⟩
    exact hstay conv hconv
  · exact hnew id hid

theorem threaded_stay (hk : Kept calls seen c φs) (hstay : Stay c.db db')
    (hmessages : ∀ m ∈ db'.messages, m.direction = .IN → ∃ m₀ ∈ c.db.messages,
      m₀.direction = .IN ∧ m₀.conversationId = m.conversationId) :
    ∀ m ∈ db'.messages, m.direction = .IN →
      ∃ conv ∈ db'.conversations, conv.id = m.conversationId := by
  intro m hm hin
  rcases hmessages m hm hin with ⟨m₀, hm₀, hin₀, hsame⟩
  rcases hk.threaded m₀ hm₀ hin₀ with ⟨conv, hconv, hid⟩
  rcases hstay conv hconv with ⟨conv', hconv', hid'⟩
  exact ⟨conv', hconv', hid'.trans (hid.trans hsame)⟩

theorem conversationOf_some {propertyId id : Id} {conv : Conversation}
    (h : conversationOf propertyId id db = some conv) : conv ∈ db.conversations :=
  mem_of_find? (Option.filter_eq_some_iff.mp h).1

theorem existing_some {propertyId : Id} {who : Who} {conv : Conversation}
    (h : existing propertyId who db = some conv) : conv ∈ db.conversations :=
  List.mem_of_find?_eq_some h

/-- A place of a call that still runs owes nothing but the touch, and has returned nothing. -/
theorem Place.returned_of_stage (hstage : φ.stage ≠ .ended) : φ.returned = [] := by
  cases φ with
  | answered a => exact absurd rfl hstage
  | _ => rfl

theorem threadId_orFailed {α : Type} {e : ConvErr} {next : α → Place} {found : Option α} {id : Id}
    (h : id ∈ (Place.orFailed e next found).threadId) :
    ∃ a, found = some a ∧ id ∈ (next a).threadId := by
  cases found with
  | none => cases h
  | some a => exact ⟨a, rfl, h⟩

theorem Kept.read {l : ConvLook} {next : ConvDb → Place} {failed : ConvErr → Place}
    (hk : Kept calls seen c φs) (hφ : φs[i]? = some φ) (hstage : φ.stage = .read l next failed)
    (hdb : c'.db = c.db) (hfits : ∀ (j : ℕ) call ψ t, calls[j]? = some call →
      (φs.set i (next c.db))[j]? = some ψ → c'.sessions[j]? = some t → Fits call ψ t.trace) :
    Kept calls seen c' (φs.set i (next c.db)) := by
  have hrunning : φ.stage ≠ .ended := by
    rw [hstage]
    rintro ⟨⟩
  have hnone := Place.returned_of_stage hrunning
  have howes : ∀ id, φ.owes id = false := by
    intro id
    cases φ <;> first | rfl | cases hstage
  have hnew : ∀ id ∈ (next c.db).threadId, ∃ conv ∈ c.db.conversations, conv.id = id := by
    intro id hid
    cases φ <;> simp only [Place.stage, Stage.read.injEq, reduceCtorEq] at hstage <;>
      rcases hstage with ⟨-, rfl, -⟩
    case openThread =>
      rcases threadId_orFailed hid with ⟨a, -, hid⟩
      cases hid
    case readMessages =>
      dsimp only at hid
      split at hid <;> cases hid
    case sendTo =>
      rcases threadId_orFailed hid with ⟨conv, hfound, hid⟩
      cases hid
      exact ⟨conv, conversationOf_some hfound, rfl⟩
    case sendToGuest =>
      rcases threadId_orFailed hid with ⟨a, -, hid⟩
      cases hid
    case findThread =>
      dsimp only at hid
      split at hid
      · rename_i conv hfound
        cases hid
        exact ⟨conv, existing_some hfound, rfl⟩
      · cases hid
    case readName =>
      dsimp only at hid
      split at hid <;> cases hid
  refine ⟨by rw [List.length_set, hk.length], hfits, ?_, ?_, ?_⟩
  · rw [hdb]
    exact hk.threaded
  · rw [hdb]
    exact hk.known_set (stay_refl _) hnew
  · rw [hdb]
    exact hk.counted.go hφ hnone howes rfl fun _ _ => rfl

theorem resets_whole {call : ConvCall} {id : Id} {conv : Conversation} {rows : List Message}
    {h : ConvTrace} {w : ConvDb → ConvDb} (hfits : Fits call (.resetUnread id conv rows) h)
    (hguard : ReadWhole call w h db) : ∀ m ∈ db.messages, m.conversationId = id →
      m.direction = .IN → m.id ∈ rows.map (·.id) := by
  cases hfits with
  | resetUnread =>
    intro m hm hid hin
    have hread := hguard m hm hid hin
    refine List.mem_map.mpr ⟨m, ?_, rfl⟩
    unfold messagesOf
    rw [List.mem_insertionSort]
    exact List.mem_filter.mpr ⟨hread, by simpa using hid⟩

/-- A statement that writes keeps the invariant, if a reset finds nothing unread. -/
theorem Kept.wrote {f : ConvDb → Except ConvErr ConvDb} {next : ConvDb → Place}
    {failed : ConvErr → Place} (hk : Kept calls seen c φs) (hφ : φs[i]? = some φ)
    (hs : c.sessions[i]? = some s) (hstage : φ.stage = .write f next failed)
    (hok : f c.db = .ok c'.db)
    (hguard : ∀ call ∈ calls[i]?, ReadWhole call (applied f) s.trace c.db)
    (hfits : ∀ (j : ℕ) call ψ t, calls[j]? = some call →
      (φs.set i (next c.db))[j]? = some ψ → c'.sessions[j]? = some t → Fits call ψ t.trace) :
    Kept calls seen c' (φs.set i (next c.db)) := by
  have hrunning : φ.stage ≠ .ended := by
    rw [hstage]
    rintro ⟨⟩
  have hnone := Place.returned_of_stage hrunning
  have hlength : (φs.set i (next c.db)).length = calls.length := by
    rw [List.length_set, hk.length]
  have hsame : ∀ {db' : ConvDb}, db'.messages = c.db.messages →
      ∀ m ∈ db'.messages, m.direction = .IN → ∃ m₀ ∈ c.db.messages,
        m₀.direction = .IN ∧ m₀.conversationId = m.conversationId := by
    intro db' heq m hm hin
    rw [heq] at hm
    exact ⟨m, hm, hin, rfl⟩
  cases φ <;> simp only [Place.stage, Stage.write.injEq, reduceCtorEq] at hstage <;>
    rcases hstage with ⟨rfl, rfl, -⟩ <;> have hdb := (Except.ok.inj hok).symm
  case resetUnread id conv rows =>
    have hlt : i < calls.length := hk.length ▸ (List.getElem?_eq_some_iff.mp hφ).1
    have hcall := List.getElem?_eq_getElem hlt
    have hread := resets_whole (hk.fits i _ _ s hcall hφ hs) (hguard _ hcall)
    refine ⟨hlength, hfits, ?_, ?_, ?_⟩
    · rw [hdb]
      exact threaded_stay hk stay_set (hsame rfl)
    · rw [hdb]
      exact hk.known_set stay_set (fun id hid => by cases hid)
    · rw [hdb]
      exact hk.counted.reset hφ hnone (fun _ => rfl) hread
  case createThread propertyId l now who =>
    refine ⟨hlength, hfits, ?_, ?_, ?_⟩
    · rw [hdb]
      exact threaded_stay hk stay_insert (hsame rfl)
    · rw [hdb]
      refine hk.known_set stay_insert fun id hid => ?_
      cases hid
      refine ⟨newConversation propertyId who now c.db, ?_, rfl⟩
      exact (mem_insert (hasKey_freshId c.db.conversations)).mpr (.inr rfl)
    · rw [hdb]
      exact hk.counted.create hφ hnone (fun _ => rfl) hk.threaded
  case insert propertyId l now thread =>
    have hknown := hk.known _ (List.mem_of_getElem? hφ) thread.id rfl
    have hthread : (stored (l.message propertyId now thread) c.db).conversationId = thread.id := by
      cases l <;> rfl
    refine ⟨hlength, hfits, ?_, ?_, ?_⟩
    · rw [hdb]
      intro m hm hin
      rcases mem_or_eq_of_mem_insert hm with hold | rfl
      · exact hk.threaded m hold hin
      · rw [hthread]
        exact hknown
    · rw [hdb]
      refine hk.known_set (stay_refl _) fun id hid => ?_
      cases hid
      exact hknown
    · rw [hdb]
      refine hk.counted.insert hφ hnone (fun _ => rfl) (fun id hin hid => ?_) rfl
      rw [hthread] at hid
      cases l with
      | outbound input => cases hin
      | inbound input => simp [Place.owes, Letter.unread, hid]
  case touch propertyId l now thread msg =>
    refine ⟨hlength, hfits, ?_, ?_, ?_⟩
    · rw [hdb]
      exact threaded_stay hk stay_set (hsame rfl)
    · rw [hdb]
      refine hk.known_set stay_set fun id hid => ?_
      cases l with
      | inbound input => cases hid
      | outbound input =>
        dsimp only at hid
        split at hid <;> cases hid
    · rw [hdb]
      exact hk.counted.touch hφ hnone fun _ => rfl
  case notify input msg recipient name =>
    refine ⟨hlength, hfits, ?_, ?_, ?_⟩
    · rw [hdb]
      exact threaded_stay hk (stay_refl _) (hsame rfl)
    · rw [hdb]
      exact hk.known_set (stay_refl _) (fun id hid => by cases hid)
    · rw [hdb]
      exact hk.counted.go hφ hnone (fun _ => rfl) rfl fun _ _ => rfl
  case mark msg status =>
    refine ⟨hlength, hfits, ?_, ?_, ?_⟩
    · rw [hdb]
      refine threaded_stay hk (stay_refl _) fun m hm hin => ?_
      rcases List.mem_map.mp hm with ⟨m₀, hm₀, rfl⟩
      refine ⟨m₀, hm₀, ?_, ?_⟩
      · split at hin <;> exact hin
      · split <;> rfl
    · rw [hdb]
      exact hk.known_set (stay_refl _) (fun id hid => by cases hid)
    · rw [hdb]
      refine hk.counted.go hφ hnone (fun _ => rfl) rfl fun seen id => ?_
      show List.countP _ (c.db.messages.rows.map _) = _
      rw [List.countP_map]
      refine List.countP_congr fun m _ => ?_
      simp only [Function.comp_apply, isUnseen]
      split <;> rfl

theorem Kept.next (hk : Kept calls seen c φs) (hstep : IsStep ev)
    (hguard : GuardedCalls calls ReadWhole c ev) (hφ : φs[i]? = some φ)
    (hs : c.sessions[i]? = some s) (hset : c'.sessions = c.sessions.set i s')
    (hmove : staging.Moves c c' ev i φ φ' s s') : Kept calls seen c' (φs.set i φ') := by
  have hfits := fits_set hk.fits hφ hs hset hmove
  cases hmove with
  | read hstage hdb htrace => exact hk.read hφ hstage hdb hfits
  | wrote hstage hok hpublishes htrace =>
    exact hk.wrote hφ hs hstage hok (hguard i s _ rfl hs hpublishes) hfits
  | refused hstage herror hdb htrace =>
    cases φ <;> simp only [staging, Place.stage, Stage.write.injEq, reduceCtorEq] at hstage <;>
      rcases hstage with ⟨rfl, -, -⟩ <;> cases herror
  | unread hstage hdb htrace => cases hstep
  | unwritten hstage hdb htrace => cases hstep
  | died hdb htrace => cases hstep

end Keeping

theorem progs_start (calls : List ConvCall) :
    calls.map prog = (calls.map ConvCall.start).map staging.prog := by
  rw [List.map_map]
  exact List.map_congr_left fun call _ => (call.prog_start).symm

theorem answer_place (φ : Place) (s : Session ConvDb Id ConvLook ConvErr Answer)
    (hprog : s.prog = staging.prog φ) :
    (s.answer.map Answer.returned).getD [] = φ.returned := by
  cases φ with
  | answered a =>
    have hret : s.prog = .ret a := hprog
    unfold Session.answer
    rw [hret]
    rfl
  | failed e =>
    have hthrow : s.prog = .throw e := hprog
    unfold Session.answer
    rw [hthrow]
    rfl
  | _ =>
    have hrunning : s.prog.running = true := by
      rw [hprog]
      exact (staging.at_stage _).running (by rintro ⟨⟩)
    rw [Session.answer_of_running hrunning]
    rfl

theorem returned_places {c : Config ConvDb Id ConvLook ConvErr Answer} {φs : List Place}
    (ht : staging.Tracks c φs) : returned c = φs.flatMap Place.returned := by
  unfold returned
  rw [List.flatMap_def, List.flatMap_def, ht.map_eq answer_place]

theorem nothing_missed : NothingMissed ReadWhole := by
  intro calls db seen evs c hdb hsteps hguard hrun hrest
  rw [progs_start] at hguard hrun
  have hstart : Kept calls seen (.start db ((calls.map ConvCall.start).map staging.prog))
      (calls.map ConvCall.start) := by
    refine ⟨by simp, ?_, hdb.threaded, ?_, ?_⟩
    · intro i call φ s hcall hφ hs
      exact fits_at_start hcall hφ hs
    · intro φ hφ id hid
      rcases List.mem_map.mp hφ with ⟨call, -, rfl⟩
      cases call with
      | send propertyId input now =>
        unfold ConvCall.start at hid
        dsimp only at hid
        split at hid <;> cases hid
      | _ => cases hid
    · intro conv hconv
      have hcount := hdb.counted conv hconv
      have hseen : unseen (seen ++ (calls.map ConvCall.start).flatMap Place.returned) db conv.id ≤
          unseen seen db conv.id := unseen_mono (fun id hid => List.mem_append_left _ hid) conv.id
      exact Nat.le_trans (Nat.le_trans hseen hcount) (Nat.le_add_right _ _)
  have hq := (Config.throughout_of_forall (Q := IsStep) hsteps).and hguard
  rcases staging.run_throughout (Kept calls seen)
    (fun _ _ _ _ _ _ _ _ _ _ hk hq hφ hs hset hmove => hk.next hq.1 hq.2 hφ hs hset hmove)
    hstart hq hrun with ⟨φs, ht, hk⟩
  rw [returned_places ht]
  refine ⟨hk.threaded, fun conv hconv => ?_⟩
  have hcount := hk.counted conv hconv
  have hzero : φs.countP (Place.owes conv.id) = 0 := by
    refine List.countP_eq_zero.mpr fun φ hφ howes => ?_
    rcases List.mem_iff_getElem?.mp hφ with ⟨i, hi⟩
    rcases ht.session hi with ⟨s, hs, hprog, -⟩
    have hlt : i < calls.length := hk.length ▸ (List.getElem?_eq_some_iff.mp hi).1
    have hfits := hk.fits i _ φ s (List.getElem?_eq_getElem hlt) hi hs
    generalize calls[i] = call at hfits
    cases φ with
    | touch propertyId l now thread msg =>
      -- a call that has a thread to touch is under way
      have hrunning : s.running = true := by
        unfold Session.running
        rw [hprog]
        rfl
      have hnil := hrest s (List.mem_of_getElem? hs) hrunning
      cases hfits with
      | touch hh => exact hh hnil
    | _ => cases howes
  omega

/-! ## One thread -/

section Threads

variable {db : ConvDb} {calls : List ConvCall} {φs : List Place}
  {c c' : Config ConvDb Id ConvLook ConvErr Answer}

theorem sharesAddress_comm {phone email phone' email' : Option String}
    (h : sharesAddress phone email phone' email') : sharesAddress phone' email' phone email := by
  rcases h with ⟨p, hp, hp'⟩ | ⟨e, he, he'⟩
  · exact .inl ⟨p, hp', hp⟩
  · exact .inr ⟨e, he', he⟩

theorem OneEach.set {id : Id} {patch : Conversation → Conversation}
    {hkey : ∀ c, (patch c).id = c.id} (h : OneEach db)
    (hpatch : ∀ c, (patch c).propertyId = c.propertyId ∧ (patch c).guestPhone = c.guestPhone ∧
      (patch c).guestEmail = c.guestEmail) : OneEach (setConversation id patch hkey db) := by
  have hrow : ∀ c ∈ (setConversation id patch hkey db).conversations, ∃ c₀ ∈ db.conversations,
      c.id = c₀.id ∧ c.propertyId = c₀.propertyId ∧ c.guestPhone = c₀.guestPhone ∧
        c.guestEmail = c₀.guestEmail := by
    intro c hc
    rcases mem_setConversation.mp hc with ⟨c₀, hc₀, rfl⟩
    refine ⟨c₀, hc₀, ?_⟩
    split_ifs
    · exact ⟨hkey c₀, hpatch c₀⟩
    · exact ⟨rfl, rfl, rfl, rfl⟩
  intro c hc c' hc' hprop hshare
  rcases hrow c hc with ⟨c₀, hc₀, hid, hp, hphone, hemail⟩
  rcases hrow c' hc' with ⟨c₁, hc₁, hid', hp', hphone', hemail'⟩
  rw [hid, hid']
  rw [hp, hp'] at hprop
  rw [hphone, hemail, hphone', hemail'] at hshare
  exact h c₀ hc₀ c₁ hc₁ hprop hshare

theorem OneEach.create {propertyId : Id} {who : Who} {now : ℤ} (h : OneEach db)
    (hnobody : NobodyWith propertyId who db) :
    OneEach (insertConversation propertyId who now db) := by
  intro c hc c' hc' hprop hshare
  rcases mem_or_eq_of_mem_insert hc with hold | rfl
  · rcases mem_or_eq_of_mem_insert hc' with hold' | rfl
    · exact h c hold c' hold' hprop hshare
    · exact absurd (sharesAddress_comm hshare) (hnobody c hold hprop)
  · rcases mem_or_eq_of_mem_insert hc' with hold' | rfl
    · exact absurd hshare (hnobody c' hold' hprop.symm)
    · rfl

/-- A write keeps the addresses apart, if a new conversation is with somebody new. -/
theorem OneEach.wrote {φ : Place} {call : ConvCall} {h : ConvTrace}
    {f : ConvDb → Except ConvErr ConvDb} {next : ConvDb → Place} {failed : ConvErr → Place}
    {w : ConvDb → ConvDb} {db' : ConvDb} (hone : OneEach db) (hfits : Fits call φ h)
    (hstage : φ.stage = .write f next failed) (hok : f db = .ok db')
    (hguard : FirstWith call w h db) : OneEach db' := by
  cases hfits <;> simp only [Place.stage, Stage.write.injEq, reduceCtorEq] at hstage <;>
    rcases hstage with ⟨rfl, -, -⟩ <;> obtain rfl := Except.ok.inj hok
  case resetUnread => exact hone.set fun c => ⟨rfl, rfl, rfl⟩
  case createGuest hid hr hfound hnone =>
    refine hone.create (hguard hid _ ?_ hnone)
    rw [hr]
    exact hfound
  case createSender hnone => exact hone.create (hguard hnone)
  case insert => exact hone
  case touch => exact hone.set fun c => ⟨rfl, rfl, rfl⟩
  case notify => exact hone
  case mark => exact hone

theorem one_thread : OneThread FirstWith := by
  intro calls db evs c hdb hguard hrun
  rw [progs_start] at hguard hrun
  have hinv := staging.run_throughout
    (fun c φs => OneEach c.db ∧ φs.length = calls.length ∧
      ∀ (i : ℕ) call φ s, calls[i]? = some call → φs[i]? = some φ → c.sessions[i]? = some s →
        Fits call φ s.trace) ?_ ⟨hdb, by simp, ?_⟩ hguard hrun
  · rcases hinv with ⟨φs, -, hone, -⟩
    intro m hm m' hm' conv hconv conv' hconv' hid hid' hprop hshare
    rw [hid, hid']
    exact hone conv hconv conv' hconv' hprop hshare
  · rintro c c' φs ev i φ φ' s s' - ⟨hone, hlength, hfits⟩ hguard hφ hs hset hmove
    have hlt : i < calls.length := hlength ▸ (List.getElem?_eq_some_iff.mp hφ).1
    have hcall := List.getElem?_eq_getElem hlt
    have hfit := hfits i _ φ s hcall hφ hs
    refine ⟨?_, by rw [List.length_set, hlength], ?_⟩
    · cases hmove with
      | wrote hstage hok hpublishes htrace =>
        exact hone.wrote hfit hstage hok (hguard i s _ rfl hs hpublishes _ hcall)
      | read hstage hdb htrace => exact hdb.symm ▸ hone
      | refused hstage herror hdb htrace => exact hdb.symm ▸ hone
      | unread hstage hdb htrace => exact hdb.symm ▸ hone
      | unwritten hstage hdb htrace => exact hdb.symm ▸ hone
      | died hdb htrace => exact hdb.symm ▸ hone
    · exact fits_set hfits hφ hs hset hmove
  · intro i call φ s hcall hφ hs
    exact fits_at_start hcall hφ hs

end Threads

/-- **No guest message goes unseen** while a thread is reset with every inbound message read, and
**each address has one conversation** while a new one is inserted where nobody has its
addresses. -/
theorem messages_seen (calls : List ConvCall) (db : ConvDb) (evs : List Event)
    (c : Config ConvDb Id ConvLook ConvErr Answer)
    (hrun : (Config.start db (calls.map prog)).run evs = some c) :
    (∀ seen, Attended seen db → (∀ ev ∈ evs, IsStep ev) →
      (Config.start db (calls.map prog)).Throughout (GuardedCalls calls ReadWhole) evs →
      (∀ s ∈ c.sessions, AtRest s) → Attended (seen ++ returned c) c.db) ∧
    (OneEach db →
      (Config.start db (calls.map prog)).Throughout (GuardedCalls calls FirstWith) evs →
      OneConversation c.db) := by
  constructor
  · intro seen hdb hsteps hguarded hrest
    exact nothing_missed calls db seen evs c hdb hsteps hguarded hrun hrest
  · intro hdb hguarded
    exact one_thread calls db evs c hdb hguarded hrun

/-! ## Two guests and a desk -/

instance (seen : List Id) (db : ConvDb) : Decidable (Attended seen db) :=
  decidable_of_iff _ (attended_iff ..).symm

instance (phone email phone' email' : Option String) :
    Decidable (sharesAddress phone email phone' email') :=
  inferInstanceAs (Decidable (_ ∨ _))

instance (db : ConvDb) : Decidable (OneEach db) :=
  inferInstanceAs (Decidable (∀ _ ∈ _, _))

instance (db : ConvDb) : Decidable (OneConversation db) :=
  inferInstanceAs (Decidable (∀ _ ∈ _, _))

instance (propertyId : Id) (who : Who) (db : ConvDb) : Decidable (NobodyWith propertyId who db) :=
  inferInstanceAs (Decidable (∀ _ ∈ _, _))

instance : ∀ call w h now, Decidable (ReadWhole call w h now) := by
  intro call w h now
  unfold ReadWhole
  split <;> infer_instance

instance : ∀ call w h now, Decidable (FirstWith call w h now) := by
  intro call w h now
  unfold FirstWith
  split <;> infer_instance

instance (s : Session ConvDb Id ConvLook ConvErr Answer) : Decidable (AtRest s) :=
  decidable_of_iff (s.running = true → s.trace.isEmpty = true) (by simp [AtRest])

/-- What a guest has written. -/
def hello : Message :=
  { id := 1
    conversationId := 1
    propertyId := 1
    direction := .IN
    channel := .SMS
    body := "Hello"
    status := .RECEIVED
    origin := .GUEST }

/-- Nobody has looked at it. -/
def oneUnread : ConvDb :=
  { conversations := ⟨[{ id := 1, propertyId := 1, guestPhone := some "98765", unreadCount := 1 }],
      by decide⟩
    messages := ⟨[hello], by decide⟩ }

/-- The guest writes. -/
def guestWrites (body : String) : ConvCall :=
  .receive 1 { channel := .SMS, sender := "98765", body } 1

/-- The desk opens the thread while the guest writes again. -/
def openAndWrite : List ConvCall := [.thread 1 1, guestWrites "Anybody there?"]

/-- The second message comes once the desk has the first, and is counted before the reset. -/
def writtenBetween : List Event := [.step 0, .step 0, .step 1, .step 1, .step 1, .step 0]

/-- It comes after the reset. -/
def writtenAfter : List Event := [.step 0, .step 0, .step 0, .step 1, .step 1, .step 1]

/-- A guest writes two messages, the first ever. -/
def twoFirsts : List ConvCall := [guestWrites "Hello", guestWrites "Anybody there?"]

/-- Both look for the thread before either has made it. -/
def bothFirst : List Event :=
  [.step 0, .step 1, .step 0, .step 1, .step 0, .step 1, .step 0, .step 1]

/-- The first has made it when the second looks. -/
def firstThenSecond : List Event :=
  [.step 0, .step 0, .step 0, .step 0, .step 1, .step 1, .step 1]

/-- The second message is in a thread that counts none unread, and two messages from one phone are
in two conversations. -/
theorem messages_missed :
    ¬NothingMissed (fun _ _ _ _ => True) ∧ ¬OneThread (fun _ _ _ _ => True) := by
  constructor
  · intro hlaw
    have hend := hlaw openAndWrite oneUnread [] writtenBetween _ (by decide +kernel)
      (by decide +kernel) (by decide +kernel) rfl (by decide +kernel)
    exact absurd hend (by decide +kernel)
  · intro hlaw
    have hend := hlaw twoFirsts {} bothFirst _ (by decide +kernel) (by decide +kernel) rfl
    exact absurd hend (by decide +kernel)

/-- Written after the reset, the second message is counted; written after the first, it is in its
conversation. -/
theorem messages_seen_in_turn :
    (∃ c, (Config.start oneUnread (openAndWrite.map prog)).run writtenAfter = some c ∧
      Attended ([] ++ returned c) c.db ∧ c.db.conversations.rows.map (·.unreadCount) = [1]) ∧
    ∃ c, (Config.start ({} : ConvDb) (twoFirsts.map prog)).run firstThenSecond = some c ∧
      OneConversation c.db ∧ c.db.messages.rows.map (·.conversationId) = [1, 1] :=
  ⟨⟨_, rfl, (messages_seen openAndWrite oneUnread writtenAfter _ rfl).1 [] (by decide +kernel)
      (by decide +kernel) (by decide +kernel) (by decide +kernel), by decide +kernel⟩,
    _, rfl, (messages_seen twoFirsts {} firstThenSecond _ rfl).2 (by decide +kernel)
      (by decide +kernel), by decide +kernel⟩

end Travelo.Conversations

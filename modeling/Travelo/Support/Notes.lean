import Travelo.Claims.Unwinding
import Travelo.Support

/-!
# What an owner learns of the internal notes

A run of the desk is a list of operations of owners and agents. What the owner is shown leaves out
the notes' messages, but posting one also sets `firstResponseAt`, which the owner is shown: the
first note on an unanswered ticket dates its first response. An attachment or an opening message
of an agent, on the other hand, is a response that is not recorded.
-/

namespace Travelo.Support

open ReadCommitted Claims

/-! ## Runs -/

/-- A call, with the time it runs at and the ids the database draws for it. -/
inductive SupportOp where
  | ownerCreate (ownerId : Id) (dto : OwnerSupportService.CreateTicketDto) (id messageId : Id)
      (now : ℤ)
  | ownerMessage (ownerId ticketId : Id) (body : String) (id : Id) (now : ℤ)
  | ownerAttachment (ownerId ticketId : Id) (file : Option UploadedAttachment)
      (messageId attachmentId : Id) (uuid : String) (now : ℤ)
  | create (dto : SupportService.CreateTicketDto) (adminId : Option Id) (id messageId : Id)
      (now : ℤ)
  | addAttachment (ticketId : Id) (file : Option UploadedAttachment) (adminId : Option Id)
      (messageId attachmentId : Id) (uuid : String) (now : ℤ)
  | postMessage (ticketId : Id) (dto : SupportService.MessageDto) (adminId : Option Id) (id : Id)
      (now : ℤ)
  | assign (ticketId adminId : Id) (now : ℤ)
  | setStatus (ticketId : Id) (status : TicketStatus) (now : ℤ)

namespace SupportOp

def prog : SupportOp → SupportM Unit
  | ownerCreate ownerId dto id messageId now =>
    OwnerSupportService.create ownerId dto id messageId now
  | ownerMessage ownerId ticketId body id now =>
    OwnerSupportService.addMessage ownerId ticketId body id now
  | ownerAttachment ownerId ticketId file messageId attachmentId uuid now =>
    OwnerSupportService.addAttachment ownerId ticketId file messageId attachmentId uuid now
  | create dto adminId id messageId now => SupportService.create dto adminId id messageId now
  | addAttachment ticketId file adminId messageId attachmentId uuid now =>
    SupportService.addAttachment ticketId file adminId messageId attachmentId uuid now
  | postMessage ticketId dto adminId id now =>
    SupportService.postMessage ticketId dto adminId id now
  | assign ticketId adminId now => SupportService.assign ticketId adminId now
  | setStatus ticketId status now => SupportService.setStatus ticketId status now

/-- Posts an internal note. -/
def isNote : SupportOp → Bool
  | postMessage _ dto _ _ _ => dto.isInternalNote.getD false
  | _ => false

end SupportOp

/-- The state a call leaves, whether it fails or not. -/
def after (m : SupportM Unit) (db : SupportDb) : SupportDb := (m.run.run db).2

def takes (db : SupportDb) (op : SupportOp) : SupportDb := after op.prog db

def runOps (db : SupportDb) (ops : List SupportOp) : SupportDb := ops.foldl takes db

/-! ## What each call writes -/

section Effects

variable (db : SupportDb)

theorem run_bind {α β : Type} (m : SupportM α) (f : α → SupportM β) : (m >>= f).run.run db =
    match m.run.run db with
    | (.ok a, db') => (f a).run.run db'
    | (.error e, db') => (.error e, db') := by
  rw [ExceptT.run_bind, StateT.run_bind]
  rcases m.run.run db with ⟨_ | _, _⟩ <;> rfl

theorem run_insertMessage (m : SupportMessage) : (insertMessage m).run.run db =
    if db.tickets.hasKey m.ticketId then (.ok (), db.withMessage m)
    else (.error .foreignKeyViolation, db) := by
  change StateT.run (ExceptT.run (if db.tickets.hasKey m.ticketId then set (db.withMessage m)
    else throw .foreignKeyViolation : SupportM Unit)) db = _
  split <;> rfl

theorem run_insertTicket (t : SupportTicket) : (insertTicket t).run.run db =
    if db.tickets.hasKey t.id then (.error .uniqueViolation, db)
    else (.ok (), db.withTicket t) := by
  change StateT.run (ExceptT.run (if db.tickets.hasKey t.id then throw .uniqueViolation
    else set (db.withTicket t) : SupportM Unit)) db = _
  split <;> rfl

theorem run_insertAttachment (a : SupportAttachment) : (insertAttachment a).run.run db =
    (.ok (), db.withAttachment a) := rfl

theorem run_updateTicket (id : Id) (f : SupportTicket → SupportTicket)
    (hf : ∀ t, (f t).id = t.id) :
    (updateTicket id f hf).run.run db = (.ok (), db.setTicket id f hf) := rfl

theorem run_requireTicket (id : Id) : (SupportService.requireTicket id).run.run db =
    if db.tickets.hasKey id then (.ok (), db) else (.error .ticketNotFound, db) := by
  change StateT.run (ExceptT.run (if db.tickets.hasKey id then pure ()
    else throw .ticketNotFound : SupportM Unit)) db = _
  split <;> rfl

theorem run_loadOwnedTicket (ownerId ticketId : Id) :
    (OwnerSupportService.loadOwnedTicket ownerId ticketId).run.run db =
    if (OwnerSupportService.ownedTicket ownerId ticketId db).isSome then (.ok (), db)
    else (.error .ticketNotFound, db) := by
  change StateT.run (ExceptT.run (if (OwnerSupportService.ownedTicket ownerId ticketId db).isSome
    then pure () else throw .ticketNotFound : SupportM Unit)) db = _
  split <;> rfl

theorem run_assertOwnedProperty (ownerId propertyId : Id) :
    (OwnerSupportService.assertOwnedProperty ownerId propertyId).run.run db =
    if db.properties.rows.any fun p =>
      p.id = propertyId && p.ownerId = ownerId && p.deletedAt.isNone
    then (.ok (), db) else (.error .propertyNotFound, db) := by
  change StateT.run (ExceptT.run (if db.properties.rows.any fun p =>
      p.id = propertyId && p.ownerId = ownerId && p.deletedAt.isNone
    then pure () else throw .propertyNotFound : SupportM Unit)) db = _
  split <;> rfl

/-- The row that `postMessage` inserts. -/
def posted (ticketId : Id) (dto : SupportService.MessageDto) (adminId : Option Id) (id : Id)
    (now : ℤ) : SupportMessage where
  id
  ticketId
  authorType := .ADMIN
  authorId := adminId
  body := dto.body
  isInternalNote := dto.isInternalNote.getD false
  createdAt := now

/-- What `postMessage` makes of the ticket. -/
def responded (now : ℤ) (t : SupportTicket) : SupportTicket :=
  { t with updatedAt := now, firstResponseAt := t.firstResponseAt.or (some now) }

theorem responded_id (now : ℤ) (t : SupportTicket) : (responded now t).id = t.id := rfl

theorem run_postMessage (ticketId : Id) (dto : SupportService.MessageDto) (adminId : Option Id)
    (id : Id) (now : ℤ) :
    (SupportService.postMessage ticketId dto adminId id now).run.run db =
      if db.tickets.hasKey ticketId then
        (.ok (), (db.withMessage (posted ticketId dto adminId id now)).setTicket ticketId
          (responded now) (responded_id now))
      else (.error .foreignKeyViolation, db) := by
  rw [SupportService.postMessage, run_bind, run_insertMessage]
  cases h : db.tickets.hasKey ticketId <;> rfl

theorem run_liftExcept {α : Type} (r : Except SupportErr α) :
    (liftM r : SupportM α).run.run db = (r, db) := by
  cases r <;> rfl

end Effects

/-! ## The outside of the desk -/

/-- The tables as far as some owner could be shown them, `updatedAt` apart. -/
structure Outside where
  tickets : List SupportTicket
  messages : List SupportMessage
  attachments : List SupportAttachment
  properties : Table OwnedProperty.id

/-- A ticket of no owner is shown to none. -/
def outsideTicket (t : SupportTicket) : SupportTicket :=
  { t with
    updatedAt := 0
    firstResponseAt := if t.ownerId.isSome then t.firstResponseAt else none }

def outside (db : SupportDb) : Outside where
  tickets := db.tickets.rows.map outsideTicket
  messages := db.messages.filter fun m => !m.isInternalNote
  attachments := db.attachments
  properties := db.properties

variable {db db' : SupportDb}

theorem hasKey_outside (id : Id) :
    db.tickets.hasKey id = (outside db).tickets.any fun t => t.id = id := by
  simp only [Table.hasKey, outside, List.any_map]
  rfl

theorem ownedTicket_outside (ownerId ticketId : Id) :
    (OwnerSupportService.ownedTicket ownerId ticketId db).map outsideTicket =
      ((outside db).tickets.find? fun t => t.id = ticketId).filter
        fun t => t.ownerId = some ownerId := by
  simp only [OwnerSupportService.ownedTicket, Table.find?, outside, List.find?_map]
  have hid : ((fun t : SupportTicket => decide (t.id = ticketId)) ∘ outsideTicket) =
      fun t => decide (t.id = ticketId) := rfl
  rw [hid]
  cases db.tickets.rows.find? fun t => decide (t.id = ticketId) with
  | none => rfl
  | some t =>
    by_cases ht : t.ownerId = some ownerId <;> simp [Option.filter, outsideTicket, ht]

theorem outside_withMessage (m : SupportMessage) : outside (db.withMessage m) =
    { outside db with
      messages := (outside db).messages ++ if m.isInternalNote then [] else [m] } := by
  cases h : m.isInternalNote <;> simp [outside, SupportDb.withMessage, h]

theorem outside_withTicket {t : SupportTicket} (h : db.tickets.hasKey t.id = false) :
    outside (db.withTicket t) =
      { outside db with tickets := (outside db).tickets ++ [outsideTicket t] } := by
  simp [outside, SupportDb.withTicket, rows_insert h]

variable {f : SupportTicket → SupportTicket} {id : Id} {hf : ∀ t, (f t).id = t.id}

theorem outside_setTicket
    (hblind : ∀ t, outsideTicket (f t) = outsideTicket (f (outsideTicket t))) :
    outside (db.setTicket id f hf) =
      { outside db with
        tickets := (outside db).tickets.map fun t =>
          if t.id = id then outsideTicket (f t) else t } := by
  simp only [outside, SupportDb.setTicket, Table.update, List.map_map]
  congr 1
  apply List.map_congr_left
  intro t _
  by_cases ht : t.id = id
  · have hid : (outsideTicket t).id = id := ht
    simp only [Function.comp_apply, ht, hid, decide_true, if_true]
    exact hblind t
  · have hid : (outsideTicket t).id ≠ id := ht
    simp [ht, hid]

theorem outside_setTicket_hidden
    (hidden : ∀ t ∈ db.tickets, t.id = id → outsideTicket (f t) = outsideTicket t) :
    outside (db.setTicket id f hf) = outside db := by
  simp only [outside, SupportDb.setTicket, Table.update, List.map_map]
  congr 1
  apply List.map_congr_left
  intro t ht
  by_cases hid : t.id = id
  · simp only [Function.comp_apply, hid, decide_true, if_true]
    exact hidden t ht hid
  · simp [hid]

/-! ## Calls that do not look inside -/

/-- Started in states alike from the outside, `m` answers the same and ends in such states. -/
def Blind {α : Type} (m : SupportM α) : Prop :=
  ∀ (db db' : SupportDb), outside db = outside db' →
    (m.run.run db).1 = (m.run.run db').1 ∧
      outside (m.run.run db).2 = outside (m.run.run db').2

namespace Blind

theorem pure {α : Type} (a : α) : Blind (Pure.pure a) := fun _ _ h => ⟨rfl, h⟩

theorem bind {α β : Type} {m : SupportM α} {f : α → SupportM β} (hm : Blind m)
    (hf : ∀ a, Blind (f a)) : Blind (m >>= f) := by
  intro db db' h
  have hfirst := hm db db' h
  rw [run_bind, run_bind]
  rcases hrun : m.run.run db with ⟨r, s⟩
  rcases hrun' : m.run.run db' with ⟨r', s'⟩
  rw [hrun, hrun'] at hfirst
  rcases hfirst with ⟨rfl, hs⟩
  cases r with
  | error e => exact ⟨rfl, hs⟩
  | ok a => exact hf a s s' hs

theorem forM {α : Type} {f : α → SupportM Unit} (hf : ∀ a, Blind (f a)) :
    ∀ o : Option α, Blind (o.forM f)
  | none => pure ()
  | some a => hf a

theorem insertMessage (m : SupportMessage) : Blind (insertMessage m) := by
  intro db db' h
  rw [run_insertMessage, run_insertMessage, hasKey_outside, hasKey_outside, h]
  split
  · exact ⟨rfl, by rw [outside_withMessage, outside_withMessage, h]⟩
  · exact ⟨rfl, h⟩

theorem insertTicket (t : SupportTicket) : Blind (insertTicket t) := by
  intro db db' h
  have hsame : db.tickets.hasKey t.id = db'.tickets.hasKey t.id := by
    rw [hasKey_outside, hasKey_outside, h]
  rw [run_insertTicket, run_insertTicket]
  cases hkey : db.tickets.hasKey t.id with
  | true =>
    rw [← hsame, hkey]
    exact ⟨rfl, h⟩
  | false =>
    rw [← hsame, hkey]
    refine ⟨rfl, ?_⟩
    show outside (db.withTicket t) = outside (db'.withTicket t)
    rw [outside_withTicket hkey, outside_withTicket (hsame ▸ hkey), h]

theorem insertAttachment (a : SupportAttachment) : Blind (insertAttachment a) := by
  intro db db' h
  refine ⟨rfl, ?_⟩
  show ({ outside db with attachments := (outside db).attachments ++ [a] } : Outside) =
    { outside db' with attachments := (outside db').attachments ++ [a] }
  rw [h]

theorem updateTicket {id : Id} {f : SupportTicket → SupportTicket} {hf : ∀ t, (f t).id = t.id}
    (hblind : ∀ t, outsideTicket (f t) = outsideTicket (f (outsideTicket t))) :
    Blind (updateTicket id f hf) := by
  intro db db' h
  refine ⟨rfl, ?_⟩
  show outside (db.setTicket id f hf) = outside (db'.setTicket id f hf)
  rw [outside_setTicket hblind, outside_setTicket hblind, h]

theorem requireTicket (id : Id) : Blind (SupportService.requireTicket id) := by
  intro db db' h
  rw [run_requireTicket, run_requireTicket, hasKey_outside, hasKey_outside, h]
  split <;> exact ⟨rfl, h⟩

theorem loadOwnedTicket (ownerId ticketId : Id) :
    Blind (OwnerSupportService.loadOwnedTicket ownerId ticketId) := by
  intro db db' h
  have hsame : (OwnerSupportService.ownedTicket ownerId ticketId db).isSome =
      (OwnerSupportService.ownedTicket ownerId ticketId db').isSome := by
    rw [← Option.isSome_map (f := outsideTicket), ownedTicket_outside, h,
      ← ownedTicket_outside, Option.isSome_map]
  rw [run_loadOwnedTicket, run_loadOwnedTicket, hsame]
  split <;> exact ⟨rfl, h⟩

theorem assertOwnedProperty (ownerId propertyId : Id) :
    Blind (OwnerSupportService.assertOwnedProperty ownerId propertyId) := by
  intro db db' h
  have hsame : db.properties = db'.properties := congrArg Outside.properties h
  rw [run_assertOwnedProperty, run_assertOwnedProperty, hsame]
  split <;> exact ⟨rfl, h⟩

theorem liftExcept {α : Type} (r : Except SupportErr α) : Blind (liftM r : SupportM α) := by
  intro db db' h
  rw [run_liftExcept, run_liftExcept]
  exact ⟨rfl, h⟩

theorem touch (id : Id) (now : ℤ) :
    Blind (Support.updateTicket id (fun t => { t with updatedAt := now }) fun _ => rfl) :=
  updateTicket fun t => by cases h : t.ownerId <;> simp [outsideTicket, h]

theorem of_open {op : SupportOp} (hop : op.isNote = false) : Blind op.prog := by
  cases op with
  | ownerCreate ownerId dto id messageId now =>
    exact (forM (assertOwnedProperty ownerId) _).bind fun _ =>
      (insertTicket _).bind fun _ => insertMessage _
  | ownerMessage ownerId ticketId body id now =>
    exact (loadOwnedTicket _ _).bind fun _ => (insertMessage _).bind fun _ => touch _ _
  | ownerAttachment ownerId ticketId file messageId attachmentId uuid now =>
    exact (liftExcept _).bind fun _ => (loadOwnedTicket _ _).bind fun _ =>
      (insertMessage _).bind fun _ => (insertAttachment _).bind fun _ => touch _ _
  | create dto adminId id messageId now =>
    exact (insertTicket _).bind fun _ => forM (fun _ => insertMessage _) _
  | addAttachment ticketId file adminId messageId attachmentId uuid now =>
    exact (liftExcept _).bind fun _ => (requireTicket _).bind fun _ =>
      (insertMessage _).bind fun _ => (insertAttachment _).bind fun _ => touch _ _
  | postMessage ticketId dto adminId id now =>
    -- The first response of an owned ticket is on the outside already.
    refine (insertMessage _).bind fun _ => updateTicket fun t => ?_
    cases h : t.ownerId <;> simp [outsideTicket, h]
  | assign ticketId adminId now =>
    refine Blind.bind (updateTicket fun t => ?_) fun _ => requireTicket _
    cases h : t.ownerId <;> simp [outsideTicket, h]
  | setStatus ticketId status now =>
    refine Blind.bind (updateTicket fun t => ?_) fun _ => requireTicket _
    cases h : t.ownerId <;> simp [outsideTicket, h]

end Blind

/-! ## Notes on answered tickets -/

/-- An owner waits for the first response to the ticket. -/
def Unanswered (db : SupportDb) (ticketId : Id) : Prop :=
  ∃ t ∈ db.tickets, t.id = ticketId ∧ t.ownerId.isSome ∧ t.firstResponseAt = none

instance (db : SupportDb) (ticketId : Id) : Decidable (Unanswered db ticketId) :=
  inferInstanceAs (Decidable (∃ t ∈ db.tickets, _))

/-- Notes and attachments wait for the first reply, and no owner's ticket is opened by an agent
with a message. -/
def RepliesFirst (db : SupportDb) : SupportOp → Prop
  | .postMessage ticketId dto _ _ _ =>
    dto.isInternalNote.getD false = true → ¬Unanswered db ticketId
  | .addAttachment ticketId file _ _ _ _ _ =>
    (assertValidAttachment file).isOk = true → ¬Unanswered db ticketId
  | .create dto _ _ _ _ => dto.ownerId.isSome → dto.body.filter (· ≠ "") = none
  | _ => True

instance (db : SupportDb) (op : SupportOp) : Decidable (RepliesFirst db op) := by
  cases op <;> unfold RepliesFirst <;> infer_instance

theorem outside_note {op : SupportOp} (hop : op.isNote = true) (hcalm : RepliesFirst db op) :
    outside (takes db op) = outside db := by
  cases op with
  | postMessage ticketId dto adminId id now =>
    have hnote : dto.isInternalNote.getD false = true := hop
    have hanswered : ¬Unanswered db ticketId := hcalm hnote
    show outside ((SupportService.postMessage ticketId dto adminId id now).run.run db).2 = _
    rw [run_postMessage]
    split
    · show outside (SupportDb.setTicket _ _ _ _) = _
      rw [outside_setTicket_hidden, outside_withMessage]
      · simp [posted, hnote]
      · intro t ht hid
        cases howner : t.ownerId with
        | none => simp [outsideTicket, responded, howner]
        | some ownerId =>
          have hsome : t.firstResponseAt ≠ none := by
            intro hnone
            exact hanswered ⟨t, ht, hid, by rw [howner]; rfl, hnone⟩
          rcases Option.ne_none_iff_exists'.mp hsome with ⟨first, hfirst⟩
          simp [outsideTicket, responded, howner, hfirst]
    · rfl
  | _ => simp [SupportOp.isNote] at hop

/-! ## What the owner is shown -/

section Views

open OwnerSupportService

def OwnerSupportService.TicketDto.sansUpdatedAt (t : TicketDto) : TicketDto :=
  { t with updatedAt := 0 }

def OwnerSupportService.TicketPage.sansUpdatedAt (page : TicketPage) : TicketPage :=
  { page with items := page.items.map TicketDto.sansUpdatedAt }

def OwnerSupportService.TicketView.sansUpdatedAt (view : TicketView) : TicketView :=
  { view with ticket := view.ticket.sansUpdatedAt }

/-- Every page and every ticket that an owner asks for is the same, `updatedAt` apart. -/
def ShownAlike (db db' : SupportDb) : Prop :=
  (∀ ownerId filter, (list ownerId filter db).sansUpdatedAt =
    (list ownerId filter db').sansUpdatedAt) ∧
  ∀ sign ownerId ticketId, (get sign ownerId ticketId db).map TicketView.sansUpdatedAt =
    (get sign ownerId ticketId db').map TicketView.sansUpdatedAt

theorem ticketDto_outside {ownerId : Id} {t : SupportTicket} (ht : t.ownerId = some ownerId)
    (propertyName : Option String) :
    (ticketDto (outsideTicket t) propertyName).sansUpdatedAt =
      (ticketDto t propertyName).sansUpdatedAt := by
  simp [ticketDto, TicketDto.sansUpdatedAt, outsideTicket, ht]

theorem matching_outside (ownerId : Id) (filter : TicketFilterDto) :
    (matching ownerId filter db).map outsideTicket =
      ((outside db).tickets.filter fun t =>
        t.ownerId = some ownerId && (filter.status.map fun s => decide (t.status = s)).getD true &&
          (filter.q.map fun q => q.isEmpty || FolioListService.contains q t.subject).getD true
        ).insertionSort fun a b => b.createdAt ≤ a.createdAt := by
  rw [matching, List.map_insertionSort (r := fun a b => b.createdAt ≤ a.createdAt)
    (s := fun a b => b.createdAt ≤ a.createdAt) outsideTicket _ fun _ _ _ _ => Iff.rfl,
    outside, List.filter_map]
  rfl

theorem mem_matching {ownerId : Id} {filter : TicketFilterDto} {t : SupportTicket}
    (ht : t ∈ matching ownerId filter db) : t.ownerId = some ownerId := by
  rw [matching, List.mem_insertionSort, List.mem_filter] at ht
  simp only [and_decide_eq] at ht
  exact ht.2.1.1

theorem list_outside (ownerId : Id) (filter : TicketFilterDto) :
    (list ownerId filter db).sansUpdatedAt =
      let rows := (matching ownerId filter db).map outsideTicket
      { items := ((rows.drop (filter.offset.getD 0)).take (min (filter.limit.getD 50) 100)).map
          fun t => (ticketDto t
            ((t.propertyId.bind (outside db).properties.find?).map (·.name))).sansUpdatedAt
        total := rows.length
        limit := min (filter.limit.getD 50) 100
        offset := filter.offset.getD 0 } := by
  simp only [list, TicketPage.sansUpdatedAt, List.length_map, ← List.map_drop, ← List.map_take,
    List.map_map]
  congr 1
  apply List.map_congr_left
  intro t ht
  have howner : t.ownerId = some ownerId :=
    mem_matching (List.mem_of_mem_drop (List.mem_of_mem_take ht))
  exact (ticketDto_outside howner _).symm

theorem get_outside (sign : String → ℕ → String) (ownerId ticketId : Id) :
    (get sign ownerId ticketId db).map TicketView.sansUpdatedAt =
      match (ownedTicket ownerId ticketId db).map outsideTicket with
      | none => .error .ticketNotFound
      | some t => .ok
        { ticket := (ticketDto t none).sansUpdatedAt
          messages := (((outside db).messages.filter fun m => m.ticketId = ticketId).insertionSort
            fun a b => a.createdAt ≤ b.createdAt).map
              (messageDto sign (outside db).attachments) } := by
  have hthread : thread ticketId db =
      ((outside db).messages.filter fun m => m.ticketId = ticketId).insertionSort
        fun a b => a.createdAt ≤ b.createdAt := by
    rw [thread, outside, List.filter_filter]
  rw [← hthread]
  unfold OwnerSupportService.get
  cases hfound : ownedTicket ownerId ticketId db with
  | none => rfl
  | some t =>
    have howner : t.ownerId = some ownerId := by
      rcases Option.filter_eq_some_iff.mp hfound with ⟨_, hp⟩
      simpa using hp
    simp only [Option.map_some, Except.map, TicketView.sansUpdatedAt]
    rw [ticketDto_outside howner]
    rfl

theorem shownAlike_of_outside (h : outside db = outside db') : ShownAlike db db' := by
  constructor
  · intro ownerId filter
    rw [list_outside, list_outside, matching_outside, matching_outside, h]
  · intro sign ownerId ticketId
    rw [get_outside, get_outside, ownedTicket_outside, ownedTicket_outside, h]

end Views

/-! ## The date of the first response -/

/-- The first message of an agent that the owner can see. -/
def firstReply (db : SupportDb) (ticketId : Id) : Option SupportMessage :=
  db.messages.find? fun m =>
    m.ticketId = ticketId && m.authorType = .ADMIN && !m.isInternalNote

/-- Every message has its ticket, and every owner's ticket is dated by the first reply. -/
structure Dated (db : SupportDb) : Prop where
  filed : ∀ m ∈ db.messages, db.tickets.hasKey m.ticketId = true
  dated : ∀ t ∈ db.tickets, t.ownerId.isSome →
    t.firstResponseAt = (firstReply db t.id).map (·.createdAt)

theorem firstReply_withMessage (m : SupportMessage) (ticketId : Id) :
    firstReply (db.withMessage m) ticketId = (firstReply db ticketId).or
      (if m.ticketId = ticketId ∧ m.authorType = .ADMIN ∧ m.isInternalNote = false then some m
        else none) := by
  rw [firstReply, SupportDb.withMessage, List.find?_append]
  congr 1
  by_cases h : m.ticketId = ticketId ∧ m.authorType = .ADMIN ∧ m.isInternalNote = false
  · rw [if_pos h]
    simp [h]
  · rw [if_neg h]
    simp only [List.find?_singleton, and_decide_eq, Bool.not_eq_true']
    rw [if_neg]
    rintro ⟨⟨hid, hauthor⟩, hnote⟩
    exact h ⟨hid, hauthor, hnote⟩

theorem Dated.withMessage {m : SupportMessage} (h : Dated db)
    (hkey : db.tickets.hasKey m.ticketId = true)
    (hquiet : m.authorType = .ADMIN → m.isInternalNote = false → ¬Unanswered db m.ticketId) :
    Dated (db.withMessage m) := by
  constructor
  · intro m' hm'
    rcases List.mem_append.mp hm' with hold | hnew
    · exact h.filed m' hold
    · rw [List.mem_singleton.mp hnew]
      exact hkey
  · intro t ht howner
    have hdated := h.dated t ht howner
    rw [firstReply_withMessage, hdated]
    cases hfirst : firstReply db t.id with
    | some first => rfl
    | none =>
      rw [if_neg]
      · rfl
      · rintro ⟨hid, hauthor, hnote⟩
        refine hquiet hauthor hnote ⟨t, ht, hid.symm, howner, ?_⟩
        rw [hdated, hfirst]
        rfl

theorem hasKey_setTicket {id id' : Id} {hf : ∀ t, (f t).id = t.id} :
    (db.setTicket id f hf).tickets.hasKey id' = db.tickets.hasKey id' := by
  simp only [SupportDb.setTicket, Table.hasKey, Table.update, List.any_map]
  congr 1
  funext t
  by_cases ht : t.id = id <;> simp [ht, hf]

theorem Dated.setTicket (hfiled : ∀ m ∈ db.messages, db.tickets.hasKey m.ticketId = true)
    (howner : ∀ t, (f t).ownerId = t.ownerId)
    (hset : ∀ t ∈ db.tickets, t.id = id → t.ownerId.isSome →
      (f t).firstResponseAt = (firstReply db t.id).map (·.createdAt))
    (hrest : ∀ t ∈ db.tickets, t.id ≠ id → t.ownerId.isSome →
      t.firstResponseAt = (firstReply db t.id).map (·.createdAt)) :
    Dated (db.setTicket id f hf) := by
  constructor
  · intro m hm
    rw [hasKey_setTicket]
    exact hfiled m hm
  · intro t ht hown
    have hmem : t ∈ Table.update db.tickets (fun t => t.id = id) f hf := ht
    rcases Table.mem_update.mp hmem with ⟨t₀, ht₀, rfl⟩
    by_cases hid : t₀.id = id
    · simp only [hid, decide_true, if_true] at hown ⊢
      rw [howner] at hown
      rw [hset t₀ ht₀ hid hown, hf]
      rfl
    · simp only [hid, decide_false, Bool.false_eq_true, if_false] at hown ⊢
      exact hrest t₀ ht₀ hid hown

theorem Dated.untouched (h : Dated db) (howner : ∀ t, (f t).ownerId = t.ownerId)
    (hfirst : ∀ t, (f t).firstResponseAt = t.firstResponseAt) : Dated (db.setTicket id f hf) :=
  Dated.setTicket h.filed howner
    (fun t ht _ hown => (hfirst t).trans (h.dated t ht hown)) fun t ht _ hown => h.dated t ht hown

theorem Dated.withTicket {t : SupportTicket} (h : Dated db)
    (hkey : db.tickets.hasKey t.id = false) (hfirst : t.firstResponseAt = none) :
    Dated (db.withTicket t) := by
  have hmem : ∀ t' ∈ (db.withTicket t).tickets, t' ∈ db.tickets ∨ t' = t :=
    fun t' ht' => (mem_insert hkey).mp ht'
  constructor
  · intro m hm
    rcases Table.hasKey_iff.mp (h.filed m hm) with ⟨t', ht', hid⟩
    exact Table.hasKey_iff.mpr ⟨t', mem_insert_of_mem ht', hid⟩
  · intro t' ht' howner
    rcases hmem t' ht' with hold | rfl
    · exact h.dated t' hold howner
    · -- No message is filed under a ticket that was not there.
      have hnone : firstReply (db.withTicket t') t'.id = none := by
        rw [firstReply, List.find?_eq_none]
        intro m hm hsame
        simp only [and_decide_eq] at hsame
        have hfiled := h.filed m hm
        rw [hsame.1.1, hkey] at hfiled
        exact Bool.false_ne_true hfiled
      rw [hnone, hfirst]
      rfl

theorem Dated.posted {ticketId id : Id} {dto : SupportService.MessageDto} {adminId : Option Id}
    {now : ℤ} (h : Dated db) (hkey : db.tickets.hasKey ticketId = true)
    (hcalm : dto.isInternalNote.getD false = true → ¬Unanswered db ticketId) :
    Dated ((db.withMessage (posted ticketId dto adminId id now)).setTicket ticketId
      (responded now) (responded_id now)) := by
  apply Dated.setTicket
  · intro m hm
    rcases List.mem_append.mp hm with hold | hnew
    · exact h.filed m hold
    · rw [List.mem_singleton.mp hnew]
      exact hkey
  · intro t
    rfl
  · intro t ht hid howner
    show t.firstResponseAt.or (some now) = _
    have hdated := h.dated t ht howner
    rw [firstReply_withMessage]
    cases hnote : dto.isInternalNote.getD false with
    | true =>
      have hsome : t.firstResponseAt ≠ none := by
        intro hnone
        exact hcalm hnote ⟨t, ht, hid, howner, hnone⟩
      rcases Option.ne_none_iff_exists'.mp hsome with ⟨first, hfirst⟩
      rw [if_neg (by simp [Support.posted, hnote]), Option.or_none, ← hdated, hfirst]
      rfl
    | false =>
      rw [if_pos ⟨hid.symm, rfl, hnote⟩, hdated]
      cases firstReply db t.id <;> rfl
  · intro t ht hid howner
    rw [firstReply_withMessage, if_neg, Option.or_none]
    · exact h.dated t ht howner
    · rintro ⟨hsame, _⟩
      exact hid hsame.symm

/-! ## Calls that keep the dates right -/

/-- From `P`, `m` ends in `Q`, or fails in a state whose dates are right. -/
def Steps {α : Type} (P : SupportDb → Prop) (m : SupportM α) (Q : SupportDb → Prop) : Prop :=
  ∀ db, P db → match m.run.run db with
    | (.ok _, db') => Q db'
    | (.error _, db') => Dated db'

namespace Steps

variable {P Q R : SupportDb → Prop}

theorem bind {α β : Type} {m : SupportM α} {f : α → SupportM β} (hm : Steps P m Q)
    (hf : ∀ a, Steps Q (f a) R) : Steps P (m >>= f) R := by
  intro db h
  have hfirst := hm db h
  rw [run_bind]
  rcases hrun : m.run.run db with ⟨_ | a, db'⟩
  · rw [hrun] at hfirst
    exact hfirst
  · rw [hrun] at hfirst
    exact hf a db' hfirst

theorem forM {α : Type} {f : α → SupportM Unit} (hf : ∀ a, Steps P (f a) P) :
    ∀ o : Option α, Steps P (o.forM f) P
  | none => fun _ h => h
  | some a => hf a

theorem after {m : SupportM Unit} {db : SupportDb} (h : Steps P m Dated) (hP : P db) :
    Dated (after m db) := by
  have hend := h db hP
  unfold Support.after
  rcases hrun : m.run.run db with ⟨_ | a, db'⟩ <;> rw [hrun] at hend <;> exact hend

theorem liftExcept {α : Type} (r : Except SupportErr α) (hP : ∀ db, P db → Dated db) :
    Steps P (liftM r : SupportM α) fun db => P db ∧ r.isOk = true := by
  intro db h
  rw [run_liftExcept]
  cases r with
  | error e => exact hP db h
  | ok a => exact ⟨h, rfl⟩

theorem requireTicket (id : Id) (hP : ∀ db, P db → Dated db) :
    Steps P (SupportService.requireTicket id) P := by
  intro db h
  rw [run_requireTicket]
  cases db.tickets.hasKey id with
  | true => exact h
  | false => exact hP db h

theorem loadOwnedTicket (ownerId ticketId : Id) (hP : ∀ db, P db → Dated db) :
    Steps P (OwnerSupportService.loadOwnedTicket ownerId ticketId) P := by
  intro db h
  rw [run_loadOwnedTicket]
  cases (OwnerSupportService.ownedTicket ownerId ticketId db).isSome with
  | true => exact h
  | false => exact hP db h

theorem assertOwnedProperty (ownerId propertyId : Id) :
    Steps Dated (OwnerSupportService.assertOwnedProperty ownerId propertyId) Dated := by
  intro db h
  rw [run_assertOwnedProperty]
  generalize List.any _ _ = isThere
  cases isThere <;> exact h

theorem insertTicket {t : SupportTicket} (hfirst : t.firstResponseAt = none) :
    Steps Dated (insertTicket t) fun db =>
      Dated db ∧ (t.ownerId = none → ¬Unanswered db t.id) := by
  intro db h
  rw [run_insertTicket]
  cases hkey : db.tickets.hasKey t.id with
  | true => exact h
  | false =>
    refine ⟨h.withTicket hkey hfirst, ?_⟩
    rintro howner ⟨t', ht', hid, hown, _⟩
    -- The only row of that id is the new one, which has no owner.
    rcases (mem_insert hkey).mp ht' with hold | rfl
    · exact Table.hasKey_eq_false.mp hkey t' hold hid
    · rw [howner] at hown
      cases hown

theorem insertMessage {m : SupportMessage}
    (hP : ∀ db, P db → Dated db ∧ (m.authorType = .ADMIN → ¬Unanswered db m.ticketId)) :
    Steps P (insertMessage m) Dated := by
  intro db h
  rcases hP db h with ⟨hdated, hquiet⟩
  rw [run_insertMessage]
  cases hkey : db.tickets.hasKey m.ticketId with
  | true => exact hdated.withMessage hkey fun hauthor _ => hquiet hauthor
  | false => exact hdated

theorem ownerMessage {m : SupportMessage} (hauthor : m.authorType = .OWNER)
    (hP : ∀ db, P db → Dated db) : Steps P (Support.insertMessage m) Dated :=
  insertMessage fun db h => ⟨hP db h, fun hadmin => nomatch hauthor.symm.trans hadmin⟩

theorem insertAttachment (a : SupportAttachment) : Steps Dated (insertAttachment a) Dated :=
  fun _ h => ⟨h.filed, h.dated⟩

theorem updateTicket {id : Id} {f : SupportTicket → SupportTicket} {hf : ∀ t, (f t).id = t.id}
    (howner : ∀ t, (f t).ownerId = t.ownerId)
    (hfirst : ∀ t, (f t).firstResponseAt = t.firstResponseAt) :
    Steps Dated (updateTicket id f hf) Dated :=
  fun _ h => h.untouched howner hfirst

end Steps

theorem dated_takes {op : SupportOp} (h : Dated db) (hcalm : RepliesFirst db op) :
    Dated (takes db op) := by
  have hself : ∀ db : SupportDb, Dated db → Dated db := fun _ h => h
  cases op with
  | ownerCreate ownerId dto id messageId now =>
    refine Steps.after (P := Dated) ?_ h
    refine (Steps.forM (Steps.assertOwnedProperty ownerId) dto.propertyId).bind fun _ => ?_
    refine (Steps.insertTicket rfl).bind fun _ => ?_
    exact Steps.ownerMessage rfl fun db h => h.1
  | ownerMessage ownerId ticketId body id now =>
    refine Steps.after (P := Dated) ?_ h
    refine (Steps.loadOwnedTicket ownerId ticketId hself).bind fun _ => ?_
    refine Steps.bind (Steps.ownerMessage rfl hself) fun _ => ?_
    exact Steps.updateTicket (fun _ => rfl) fun _ => rfl
  | ownerAttachment ownerId ticketId file messageId attachmentId uuid now =>
    refine Steps.after (P := Dated) ?_ h
    refine (Steps.liftExcept (assertValidAttachment file) hself).bind fun _ => ?_
    refine (Steps.loadOwnedTicket ownerId ticketId fun db h => h.1).bind fun _ => ?_
    refine Steps.bind (Steps.ownerMessage rfl fun db h => h.1) fun _ => ?_
    refine (Steps.insertAttachment _).bind fun _ => ?_
    exact Steps.updateTicket (fun _ => rfl) fun _ => rfl
  | create dto adminId id messageId now =>
    refine Steps.after (P := Dated) ?_ h
    refine (Steps.insertTicket rfl).bind fun _ => ?_
    cases howner : dto.ownerId with
    | none =>
      -- The ticket is nobody's, so nobody waits for its first response.
      cases dto.body.filter (· ≠ "") with
      | none => exact fun _ h => h.1
      | some body => exact Steps.insertMessage fun db h => ⟨h.1, fun _ => h.2 rfl⟩
    | some ownerId =>
      have hbody : dto.body.filter (· ≠ "") = none := hcalm (by rw [howner]; rfl)
      rw [hbody]
      exact fun _ h => h.1
  | addAttachment ticketId file adminId messageId attachmentId uuid now =>
    refine Steps.after (P := fun db' => Dated db' ∧ db' = db) ?_ ⟨h, rfl⟩
    refine (Steps.liftExcept (assertValidAttachment file) fun _ h => h.1).bind fun _ => ?_
    refine (Steps.requireTicket ticketId fun db h => h.1.1).bind fun _ => ?_
    refine (Steps.insertMessage ?_).bind fun _ => ?_
    · rintro db' ⟨⟨hdated, rfl⟩, hok⟩
      exact ⟨hdated, fun _ => hcalm hok⟩
    · refine (Steps.insertAttachment _).bind fun _ => ?_
      exact Steps.updateTicket (fun _ => rfl) fun _ => rfl
  | postMessage ticketId dto adminId id now =>
    show Dated ((SupportService.postMessage ticketId dto adminId id now).run.run db).2
    rw [run_postMessage]
    cases hkey : db.tickets.hasKey ticketId with
    | true => exact h.posted hkey hcalm
    | false => exact h
  | assign ticketId adminId now =>
    refine Steps.after (P := Dated) ?_ h
    refine Steps.bind (Steps.updateTicket (fun _ => rfl) fun _ => rfl) fun _ => ?_
    exact Steps.requireTicket ticketId hself
  | setStatus ticketId status now =>
    refine Steps.after (P := Dated) ?_ h
    refine Steps.bind (Steps.updateTicket (fun _ => rfl) fun _ => rfl) fun _ => ?_
    exact Steps.requireTicket ticketId hself

/-! ## Two runs -/

/-- The calls of a run that are no notes. -/
def openOps (ops : List SupportOp) : List SupportOp := ops.filter fun op => !op.isNote

/-- Runs that differ in notes show owners the same, and tickets are dated by the first reply. -/
def NotesUnseen : Prop :=
  ∀ (db : SupportDb) (ops ops' : List SupportOp), openOps ops = openOps ops' →
    ShownAlike (runOps db ops) (runOps db ops') ∧ (Dated db → Dated (runOps db ops))

/-- **Notes stay inside, and the first response is the first reply, in runs that reply first.** -/
theorem notes_unseen (db : SupportDb) (ops ops' : List SupportOp)
    (hsame : openOps ops = openOps ops')
    (hcalm : AllAlong takes RepliesFirst db ops) (hcalm' : AllAlong takes RepliesFirst db ops') :
    ShownAlike (runOps db ops) (runOps db ops') ∧ (Dated db → Dated (runOps db ops)) := by
  constructor
  · -- A note on an answered ticket changes nothing on the outside; no other call looks inside.
    apply shownAlike_of_outside
    refine foldl_alike ?_ ?_ hsame hcalm hcalm'
    · intro db op hop hcalm
      exact outside_note hop hcalm
    · intro db db' op hop hview
      exact (Blind.of_open hop db db' hview).2
  · intro hstart
    exact foldl_invariant (fun db op h hcalm => dated_takes h hcalm) hstart hcalm

/-- Owner 5 asks at 10, is answered at 20, and an agent notes something down at 30. -/
def askedAndAnswered : List SupportOp :=
  [.ownerCreate 5 { subject := "Payout", message := "Where is it?" } 1 1 10,
    .postMessage 1 { body := "On its way." } (some 8) 2 20]

def notedAt (now : ℤ) : SupportOp :=
  .postMessage 1 { body := "Called the bank.", isInternalNote := some true } (some 8) 3 now

theorem notes_unseen_after_reply :
    let ops := askedAndAnswered ++ [notedAt 30]
    ShownAlike (runOps {} ops) (runOps {} askedAndAnswered) ∧
      (Dated {} → Dated (runOps {} ops)) :=
  notes_unseen {} (askedAndAnswered ++ [notedAt 30]) askedAndAnswered rfl (by decide +kernel)
    (by decide +kernel)

/-- A note on a ticket that no one has answered dates its first response. -/
theorem note_seen : ¬NotesUnseen := by
  intro hlaw
  let asked : List SupportOp := askedAndAnswered.take 1
  have halike := (hlaw {} (asked ++ [notedAt 15]) asked rfl).1.1 5 {}
  revert halike
  decide +kernel

end Travelo.Support

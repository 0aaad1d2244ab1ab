import Mathlib.Data.List.Sort
import Travelo.Folio.OpenList
import Travelo.ReadCommitted.Table

/-!
# The support desk

`SupportService` for the agents and `OwnerSupportService` for the owner, over the same tickets and
messages. A message that is an internal note is never selected for the owner; but posting it writes
the ticket, as every message does.
-/

namespace Travelo.Support

open ReadCommitted FolioListService

/-! ## State -/

inductive TicketStatus where
  | OPEN
  | IN_PROGRESS
  | WAITING_FOR_OWNER
  | RESOLVED
  | CLOSED
  deriving DecidableEq

inductive AuthorType where
  | ADMIN
  | OWNER
  deriving DecidableEq

structure SupportTicket where
  id : Id
  ownerId : Option Id := none
  propertyId : Option Id := none
  subject : String
  category : Option String := none
  priority : String := "NORMAL"
  status : TicketStatus := .OPEN
  assignedAdminId : Option Id := none
  firstResponseAt : Option ℤ := none
  resolvedAt : Option ℤ := none
  createdAt : ℤ := 0
  updatedAt : ℤ := 0

structure SupportMessage where
  id : Id
  ticketId : Id
  authorType : AuthorType
  authorId : Option Id := none
  body : String
  isInternalNote : Bool := false
  createdAt : ℤ := 0

structure SupportAttachment where
  id : Id
  messageId : Id
  filename : String
  /-- The key in the object store. -/
  url : String
  mimeType : Option String := none
  size : Option ℕ := none

structure OwnedProperty where
  id : Id
  ownerId : Id
  name : String
  deletedAt : Option ℤ := none

/-- The tables of the desk; ids of messages and attachments are drawn new. -/
structure SupportDb where
  tickets : Table SupportTicket.id := ∅
  messages : List SupportMessage := []
  attachments : List SupportAttachment := []
  properties : Table OwnedProperty.id := ∅

inductive SupportErr where
  | noFile
  | unsupportedMediaType
  | fileTooLarge
  | ticketNotFound
  | propertyNotFound
  /-- SQLSTATE 23503. -/
  | foreignKeyViolation
  /-- SQLSTATE 23505. -/
  | uniqueViolation

/-- A method: what it has written stays when it throws. -/
abbrev SupportM := ExceptT SupportErr (StateM SupportDb)

/-! ## Attachments -/

structure UploadedAttachment where
  originalname : Option String := none
  mimetype : String
  size : ℕ

def MAX_ATTACHMENT_BYTES : ℕ := 10 * 1024 * 1024

def ATTACHMENT_URL_TTL_SECONDS : ℕ := 3600

def ALLOWED_ATTACHMENT_MIME : List String :=
  ["image/jpeg", "image/jpg", "image/png", "image/webp", "image/gif", "application/pdf"]

/-- A file that is there, of a type a browser can render, and small enough. -/
def assertValidAttachment : Option UploadedAttachment → Except SupportErr UploadedAttachment
  | none => .error .noFile
  | some file =>
    if ¬ALLOWED_ATTACHMENT_MIME.contains file.mimetype then .error .unsupportedMediaType
    else if MAX_ATTACHMENT_BYTES < file.size then .error .fileTooLarge
    else .ok file

/-- The path-safe rendering of a file name. -/
def safeAttachmentName (name : Option String) : String :=
  let base := ((name.getD "file").toList.reverse.takeWhile fun c => c ≠ '/' && c ≠ '\\').reverse
  let cleaned := base.map fun c => if c.isAlphanum || "._-".toList.contains c then c else '_'
  let short := (cleaned.dropWhile (· = '.')).take 200
  if short.isEmpty then "file" else String.ofList short

def attachmentObjectKey (ticketId messageId : Id) (filename : Option String) (uuid : String) :
    String :=
  s!"support/{ticketId}/{messageId}/{uuid}-" ++ safeAttachmentName filename

/-! ## Statements -/

namespace SupportDb

variable (db : SupportDb)

def withTicket (t : SupportTicket) : SupportDb := { db with tickets := db.tickets.insert t }

def withMessage (m : SupportMessage) : SupportDb := { db with messages := db.messages ++ [m] }

def withAttachment (a : SupportAttachment) : SupportDb :=
  { db with attachments := db.attachments ++ [a] }

def setTicket (id : Id) (f : SupportTicket → SupportTicket) (hf : ∀ t, (f t).id = t.id) :
    SupportDb :=
  { db with tickets := db.tickets.update (fun t => t.id = id) f hf }

end SupportDb

def insertTicket (t : SupportTicket) : SupportM Unit := do
  let db ← get
  if db.tickets.hasKey t.id then throw .uniqueViolation else set (db.withTicket t)

/-- `INSERT INTO support_messages`; its ticket must be there. -/
def insertMessage (m : SupportMessage) : SupportM Unit := do
  let db ← get
  if db.tickets.hasKey m.ticketId then set (db.withMessage m) else throw .foreignKeyViolation

def insertAttachment (a : SupportAttachment) : SupportM Unit :=
  modify fun db => db.withAttachment a

/-- `UPDATE support_tickets SET … WHERE id = …`. -/
def updateTicket (id : Id) (f : SupportTicket → SupportTicket) (hf : ∀ t, (f t).id = t.id) :
    SupportM Unit :=
  modify fun db => db.setTicket id f hf

/-! ## The agents -/

namespace SupportService

structure CreateTicketDto where
  ownerId : Option Id := none
  propertyId : Option Id := none
  subject : String
  category : Option String := none
  priority : Option String := none
  body : Option String := none

structure MessageDto where
  body : String
  isInternalNote : Option Bool := none

def create (dto : CreateTicketDto) (adminId : Option Id) (id messageId : Id) (now : ℤ) :
    SupportM Unit := do
  insertTicket
    { id
      ownerId := dto.ownerId
      propertyId := dto.propertyId
      subject := dto.subject
      category := dto.category
      priority := dto.priority.getD "NORMAL"
      createdAt := now
      updatedAt := now }
  dto.body.filter (· ≠ "") |>.forM fun body =>
    insertMessage
      { id := messageId, ticketId := id, authorType := .ADMIN, authorId := adminId, body
        createdAt := now }

/-- The ticket that `get` selects. -/
def requireTicket (id : Id) : SupportM Unit := do
  let db ← get
  if db.tickets.hasKey id then return () else throw .ticketNotFound

variable (ticketId : Id)

/-- An attachment hangs off a message of its own. -/
def addAttachment (file : Option UploadedAttachment) (adminId : Option Id)
    (messageId attachmentId : Id) (uuid : String) (now : ℤ) : SupportM Unit := do
  let file ← liftM (assertValidAttachment file)
  requireTicket ticketId
  insertMessage
    { id := messageId, ticketId, authorType := .ADMIN, authorId := adminId,
      body := "Shared an attachment: " ++ file.originalname.getD "file", createdAt := now }
  insertAttachment
    { id := attachmentId, messageId, filename := file.originalname.getD "file",
      url := attachmentObjectKey ticketId messageId file.originalname uuid,
      mimeType := some file.mimetype, size := some file.size }
  updateTicket ticketId (fun t => { t with updatedAt := now }) fun _ => rfl

/-- A reply or a note; either is the first response if there is none yet. -/
def postMessage (dto : MessageDto) (adminId : Option Id) (id : Id) (now : ℤ) :
    SupportM Unit := do
  insertMessage
    { id, ticketId, authorType := .ADMIN, authorId := adminId, body := dto.body,
      isInternalNote := dto.isInternalNote.getD false, createdAt := now }
  updateTicket ticketId
    (fun t => { t with updatedAt := now, firstResponseAt := t.firstResponseAt.or (some now) })
    fun _ => rfl

def assign (adminId : Id) (now : ℤ) : SupportM Unit := do
  updateTicket ticketId
    (fun t => { t with assignedAdminId := some adminId, updatedAt := now }) fun _ => rfl
  requireTicket ticketId

def setStatus (status : TicketStatus) (now : ℤ) : SupportM Unit := do
  updateTicket ticketId
    (fun t => { t with
      status
      updatedAt := now
      resolvedAt := if status = .RESOLVED then some now else t.resolvedAt })
    fun _ => rfl
  requireTicket ticketId

end SupportService

/-! ## The owner -/

namespace OwnerSupportService

structure CreateTicketDto where
  subject : String
  message : String
  priority : Option String := none
  propertyId : Option Id := none

structure TicketFilterDto where
  status : Option TicketStatus := none
  q : Option String := none
  limit : Option ℕ := none
  offset : Option ℕ := none

structure TicketDto where
  id : Id
  subject : String
  category : Option String
  priority : String
  status : TicketStatus
  propertyId : Option Id
  propertyName : Option String
  firstResponseAt : Option ℤ
  resolvedAt : Option ℤ
  createdAt : ℤ
  updatedAt : ℤ
  deriving DecidableEq

structure AttachmentDto where
  id : Id
  filename : String
  mimeType : Option String
  size : Option ℕ
  url : String

structure MessageDto where
  id : Id
  body : String
  mine : Bool
  authorLabel : String
  createdAt : ℤ
  attachments : List AttachmentDto

structure TicketPage where
  items : List TicketDto
  total : ℕ
  limit : ℕ
  offset : ℕ
  deriving DecidableEq

structure TicketView where
  ticket : TicketDto
  messages : List MessageDto

def ticketDto (t : SupportTicket) (propertyName : Option String) : TicketDto where
  id := t.id
  subject := t.subject
  category := t.category
  priority := t.priority
  status := t.status
  propertyId := t.propertyId
  propertyName
  firstResponseAt := t.firstResponseAt
  resolvedAt := t.resolvedAt
  createdAt := t.createdAt
  updatedAt := t.updatedAt

variable (sign : String → ℕ → String)

/-- What is attached to a message, with a signed link to each file. -/
def attachmentsOf (attachments : List SupportAttachment) (messageId : Id) : List AttachmentDto :=
  (attachments.filter fun a => a.messageId = messageId).map fun a =>
    { id := a.id, filename := a.filename, mimeType := a.mimeType, size := a.size,
      url := sign a.url ATTACHMENT_URL_TTL_SECONDS }

/-- "Mine", or from the desk; the agent's id is dropped. -/
def messageDto (attachments : List SupportAttachment) (m : SupportMessage) : MessageDto :=
  let mine : Bool := m.authorType = .OWNER
  { id := m.id
    body := m.body
    mine
    authorLabel := if mine then "You" else "Tavelo Support"
    createdAt := m.createdAt
    attachments := attachmentsOf sign attachments m.id }

def propertyNameOf (db : SupportDb) (t : SupportTicket) : Option String :=
  (t.propertyId.bind db.properties.find?).map (·.name)

variable (ownerId : Id)

/-- The tickets of the owner that match, the newest first. -/
def matching (filter : TicketFilterDto) (db : SupportDb) : List SupportTicket :=
  (db.tickets.rows.filter fun t =>
    t.ownerId = some ownerId && (filter.status.map fun s => decide (t.status = s)).getD true &&
      (filter.q.map fun q => q.isEmpty || contains q t.subject).getD true).insertionSort
    fun a b => b.createdAt ≤ a.createdAt

def list (filter : TicketFilterDto) (db : SupportDb) : TicketPage :=
  let limit := min (filter.limit.getD 50) 100
  let offset := filter.offset.getD 0
  let rows := matching ownerId filter db
  { items := ((rows.drop offset).take limit).map fun t => ticketDto t (propertyNameOf db t)
    total := rows.length
    limit
    offset }

variable (ticketId : Id)

/-- The ticket, if it is the owner's. -/
def ownedTicket (db : SupportDb) : Option SupportTicket :=
  (db.tickets.find? ticketId).filter fun t => t.ownerId = some ownerId

/-- The messages of a ticket that are no notes, the oldest first. -/
def thread (db : SupportDb) : List SupportMessage :=
  (db.messages.filter fun m => m.ticketId = ticketId && !m.isInternalNote).insertionSort
    fun a b => a.createdAt ≤ b.createdAt

def get (db : SupportDb) :
    Except SupportErr TicketView :=
  match ownedTicket ownerId ticketId db with
  | none => .error .ticketNotFound
  | some ticket => .ok
    { ticket := ticketDto ticket none
      messages := (thread ticketId db).map (messageDto sign db.attachments) }

def loadOwnedTicket : SupportM Unit := do
  let db ← MonadState.get
  if (ownedTicket ownerId ticketId db).isSome then return () else throw .ticketNotFound

def assertOwnedProperty (propertyId : Id) : SupportM Unit := do
  let db ← MonadState.get
  if db.properties.rows.any fun p =>
    p.id = propertyId && p.ownerId = ownerId && p.deletedAt.isNone
  then return () else throw .propertyNotFound

/-- A ticket and its first message. -/
def create (dto : CreateTicketDto) (id messageId : Id) (now : ℤ) :
    SupportM Unit := do
  dto.propertyId.forM (assertOwnedProperty ownerId)
  insertTicket
    { id
      ownerId := some ownerId
      propertyId := dto.propertyId
      subject := trim dto.subject
      priority := dto.priority.getD "NORMAL"
      status := .OPEN
      createdAt := now
      updatedAt := now }
  insertMessage
    { id := messageId, ticketId := id, authorType := .OWNER, authorId := some ownerId,
      body := trim dto.message, createdAt := now }

def addMessage (body : String) (id : Id) (now : ℤ) : SupportM Unit := do
  loadOwnedTicket ownerId ticketId
  insertMessage
    { id, ticketId, authorType := .OWNER, authorId := some ownerId, body := trim body,
      createdAt := now }
  updateTicket ticketId (fun t => { t with updatedAt := now }) fun _ => rfl

def addAttachment (file : Option UploadedAttachment) (messageId attachmentId : Id) (uuid : String)
    (now : ℤ) : SupportM Unit := do
  let file ← liftM (assertValidAttachment file)
  loadOwnedTicket ownerId ticketId
  insertMessage
    { id := messageId, ticketId, authorType := .OWNER, authorId := some ownerId,
      body := "Shared an attachment: " ++ file.originalname.getD "file", createdAt := now }
  insertAttachment
    { id := attachmentId, messageId, filename := file.originalname.getD "file",
      url := attachmentObjectKey ticketId messageId file.originalname uuid,
      mimeType := some file.mimetype, size := some file.size }
  updateTicket ticketId (fun t => { t with updatedAt := now }) fun _ => rfl

end OwnerSupportService

end Travelo.Support

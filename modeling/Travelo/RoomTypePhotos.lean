import Mathlib.Data.List.Sort
import Travelo.ReadCommitted.Guarded
import Travelo.Reservations.Service

/-!
# The photos of a room type

`RoomTypePhotosService`: the bytes are in an object store, the rows here. One photo of a type is its
thumbnail: a partial unique index lets no second one be marked, and it is for the service to see
that one is.
-/

namespace Travelo.RoomTypePhotos

open ReadCommitted

/-! ## State -/

inductive RoomTypePhotoCategory where
  | ROOM
  | BATHROOM
  | EXTERIOR
  | VIEW
  | AMENITIES
  | OTHER
  deriving DecidableEq

structure RoomTypePhoto where
  id : Id
  propertyId : Id
  roomTypeId : Id
  storageKey : String
  contentType : String
  sizeBytes : ℕ
  category : RoomTypePhotoCategory := .ROOM
  isPrimary : Bool := false
  sortOrder : ℕ := 0
  createdAt : ℤ := 0
  deriving DecidableEq

structure RoomTypeRow where
  id : Id
  propertyId : Id
  deletedAt : Option ℤ := none

structure PhotoDb where
  roomTypes : Table RoomTypeRow.id := ∅
  photos : Table RoomTypePhoto.id := ∅

instance : Inhabited PhotoDb := ⟨{}⟩

/-- What a statement reads. -/
inductive PhotoLook where
  | roomType
  | photos
  /-- The rows an `UPDATE … WHERE is_primary` finds. -/
  | primaries
  deriving DecidableEq

/-- A row, or the entry of a type in the index of the primary photos. -/
inductive PhotoLock where
  | photo (id : Id)
  | primaryOf (roomTypeId : Id)
  deriving DecidableEq

inductive PhotoErr where
  | noFile
  | unsupportedMediaType
  | fileTooLarge
  | roomTypeNotFound
  | photoLimitReached
  | photoNotFound
  | photoOrderMismatch
  /-- SQLSTATE 23505. -/
  | uniqueViolation
  | internal (message : String)

instance : Faults PhotoErr := ⟨.internal⟩

abbrev PhotoOp := Prog PhotoDb PhotoLock PhotoLook PhotoErr

abbrev PhotoTrace := List (Obs PhotoDb PhotoLook)

/-! ## Files -/

def MAX_PHOTO_BYTES : ℕ := 5 * 1024 * 1024

def MAX_PHOTOS_PER_ROOM_TYPE : ℕ := 20

def ALLOWED_PHOTO_MIME : List String := ["image/jpeg", "image/jpg", "image/png", "image/webp"]

structure UploadedRoomTypePhoto where
  originalname : Option String := none
  mimetype : String
  size : ℕ

/-- A conservative, path-safe rendering of a client-supplied filename. -/
def safePhotoName (name : Option String) : String :=
  let base := ((name.getD "photo").toList.reverse.takeWhile fun c => c ≠ '/' && c ≠ '\\').reverse
  let cleaned := base.map fun c => if c.isAlphanum || "._-".toList.contains c then c else '_'
  let short := (cleaned.dropWhile (· = '.')).take 120
  if short.isEmpty then "photo" else String.ofList short

/-- Never a path that the client built. -/
def objectKey (roomTypeId : Id) (filename : Option String) (uuid : String) : String :=
  s!"room-types/{roomTypeId}/{uuid}-" ++ safePhotoName filename

/-- A file that is there, of a type that can be rendered, and small enough. -/
def assertValidFile : Option UploadedRoomTypePhoto → Except PhotoErr UploadedRoomTypePhoto
  | none => .error .noFile
  | some file =>
    if ¬ALLOWED_PHOTO_MIME.contains file.mimetype then .error .unsupportedMediaType
    else if MAX_PHOTO_BYTES < file.size then .error .fileTooLarge
    else .ok file

namespace RoomTypePhotosService

/-! ## Reading -/

variable (propertyId roomTypeId : Id)

def requireRoomType : PhotoOp Unit := do
  let row ← select .roomType fun db => (db.roomTypes.find? roomTypeId).filter fun r =>
    r.propertyId = propertyId && r.deletedAt.isNone
  let _ ← orThrow row .roomTypeNotFound

variable (db : PhotoDb)

/-- The photos of the type, as they are stored. -/
def gallery : List RoomTypePhoto :=
  db.photos.rows.filter fun p => p.roomTypeId = roomTypeId

variable (p : RoomTypePhoto)

/-- By `sort_order`, then by `created_at`. -/
def listedBefore (q : RoomTypePhoto) : Prop :=
  p.sortOrder < q.sortOrder ∨ p.sortOrder = q.sortOrder ∧ p.createdAt ≤ q.createdAt

instance : DecidableRel listedBefore := fun p q =>
  inferInstanceAs (Decidable (_ ∨ _))

def inOrder : List RoomTypePhoto :=
  (gallery roomTypeId db).insertionSort listedBefore

def rowsFor : PhotoOp (List RoomTypePhoto) :=
  select .photos (inOrder roomTypeId)

def list : PhotoOp (List RoomTypePhoto) := do
  requireRoomType propertyId roomTypeId
  rowsFor roomTypeId

/-! ## Writing -/

/-- The partial unique index `room_type_photos_primary_unique`. -/
def OnePrimary : Prop :=
  ∀ p ∈ db.photos, ∀ q ∈ db.photos, p.isPrimary = true → q.isPrimary = true →
    p.roomTypeId = q.roomTypeId → p.id = q.id

instance : Decidable (OnePrimary db) := by
  unfold OnePrimary
  infer_instance

/-- The rows as a statement would leave them, if the index allows them. -/
def indexed : Except PhotoErr PhotoDb :=
  if OnePrimary db then .ok db else .error .uniqueViolation

def insertPhoto (row : RoomTypePhoto) (db : PhotoDb) : Except PhotoErr PhotoDb :=
  if db.photos.hasKey row.id then .error .uniqueViolation
  else indexed { db with photos := db.photos.insert row }

/-- The row `upload` inserts, after it has counted the photos there are. -/
def newPhoto (file : UploadedRoomTypePhoto) (category : Option RoomTypePhotoCategory) (count : ℕ)
    (id : Id) (uuid : String) (now : ℤ) :
    RoomTypePhoto where
  id
  propertyId
  roomTypeId
  storageKey := objectKey roomTypeId file.originalname uuid
  contentType := file.mimetype
  sizeBytes := file.size
  category := category.getD .ROOM
  -- The first photo a type ever gets IS its thumbnail
  isPrimary := count = 0
  sortOrder := count
  createdAt := now

/-- A new photo, whose id is drawn by the database; its bytes are put between the two statements. -/
def upload (file : Option UploadedRoomTypePhoto) (category : Option RoomTypePhotoCategory) (id : Id)
    (uuid : String) (now : ℤ) :
    PhotoOp RoomTypePhoto := do
  let file ← lift (assertValidFile file)
  requireRoomType propertyId roomTypeId
  let existing ← rowsFor roomTypeId
  throwIf (MAX_PHOTOS_PER_ROOM_TYPE ≤ existing.length) .photoLimitReached
  let row := newPhoto propertyId roomTypeId file category existing.length id uuid now
  writeChecked
    (fun _ => if row.isPrimary then [.photo id, .primaryOf roomTypeId] else [.photo id])
    (insertPhoto row) fun _ => row

/-- `UPDATE room_type_photos SET … WHERE id = …`. -/
def setPhoto (id : Id) (f : RoomTypePhoto → RoomTypePhoto) (hf : ∀ p, (f p).id = p.id)
    (db : PhotoDb) : PhotoDb :=
  { db with photos := db.photos.update (fun p => p.id = id) f hf }

def isPrimaryOf : Bool :=
  p.roomTypeId = roomTypeId && p.isPrimary

def primaryIds : List Id :=
  (db.photos.rows.filter (isPrimaryOf roomTypeId)).map (·.id)

/-- The rows that were found lose the mark, if they still have it. -/
def clear (ids : List Id) (db : PhotoDb) : PhotoDb :=
  let photos := db.photos.update (fun p => ids.contains p.id && isPrimaryOf roomTypeId p)
    fun p => { p with isPrimary := false }
  { db with photos }

/-- `UPDATE … SET is_primary = false WHERE room_type_id AND is_primary`: it finds the rows of its
snapshot, and tests each again once it has the lock. -/
def clearPrimary : PhotoOp Unit := do
  let ids ← select .primaries (primaryIds roomTypeId)
  write (fun _ => ids.map .photo) (clear roomTypeId ids) fun _ => ()

def marked : RoomTypePhoto := { p with isPrimary := true }

variable (photoId : Id)

def markPhoto (db : PhotoDb) : Except PhotoErr PhotoDb :=
  indexed (setPhoto photoId marked (fun _ => rfl) db)

def setPrimary : PhotoOp RoomTypePhoto := do
  requireRoomType propertyId roomTypeId
  let rows ← rowsFor roomTypeId
  let target ← orThrow (rows.find? fun r => r.id = photoId) .photoNotFound
  transaction do
    -- Clear FIRST, in the same transaction
    clearPrimary roomTypeId
    writeChecked (fun _ => [.photo photoId, .primaryOf roomTypeId]) (markPhoto photoId)
      fun db => ((db.photos.find? photoId).map marked).getD (marked target)

/-- The place of a photo becomes its index. -/
def setSortOrder (id : Id) (i : ℕ) (db : PhotoDb) : PhotoDb :=
  let photos := db.photos.update (fun p => p.id = id && p.roomTypeId = roomTypeId)
    fun p => { p with sortOrder := i }
  { db with photos }

def reorder (ids : List Id) : PhotoOp (List RoomTypePhoto) := do
  requireRoomType propertyId roomTypeId
  let rows ← rowsFor roomTypeId
  let owned := rows.map (·.id)
  throwIf (¬ids.Nodup ∨ ids.any fun id => !owned.contains id) .photoOrderMismatch
  let _ ← transaction <| all (fun place : Id × ℕ =>
    write (fun _ => [.photo place.1]) (setSortOrder roomTypeId place.1 place.2) fun _ => ())
    ids.zipIdx
  rowsFor roomTypeId

def deletePhoto (db : PhotoDb) : PhotoDb :=
  { db with photos := db.photos.delete fun p => p.id = photoId && p.roomTypeId = roomTypeId }

/-- The mark for the photo that is left first, if it still is there. -/
def promotePhoto (db : PhotoDb) : Except PhotoErr PhotoDb :=
  let photos := db.photos.update (fun p => p.id = photoId && p.roomTypeId = roomTypeId) marked
    fun _ => rfl
  indexed { db with photos }

/-- Removing the thumbnail must not leave the type without one. -/
def remove : PhotoOp Id := do
  requireRoomType propertyId roomTypeId
  let rows ← rowsFor roomTypeId
  let target ← orThrow (rows.find? fun r => r.id = photoId) .photoNotFound
  write (fun _ => [.photo photoId]) (deletePhoto roomTypeId photoId) fun _ => ()
  forSome ((rows.find? fun r => r.id ≠ photoId).filter fun _ => target.isPrimary) fun first =>
    writeChecked (fun _ => [.photo first.id, .primaryOf roomTypeId])
      (promotePhoto roomTypeId first.id) fun _ => ()
  return photoId

end RoomTypePhotosService

open RoomTypePhotosService

/-! ## The index -/

theorem indexed_ok {db db' : PhotoDb} (h : indexed db = .ok db') : db' = db ∧ OnePrimary db' := by
  unfold indexed at h
  split at h
  · cases h
    exact ⟨rfl, ‹_›⟩
  · cases h

theorem indexed_error {db : PhotoDb} {e : PhotoErr} (h : indexed db = .error e) :
    ¬OnePrimary db := by
  unfold indexed at h
  split at h
  · cases h
  · assumption

/-! ## What a gallery is after each write -/

section Galleries

variable {roomTypeId : Id} {db : PhotoDb}

theorem mem_gallery {p : RoomTypePhoto} :
    p ∈ gallery roomTypeId db ↔ p ∈ db.photos ∧ p.roomTypeId = roomTypeId := by
  simp [gallery, mem_rows]

theorem length_inOrder : (inOrder roomTypeId db).length = (gallery roomTypeId db).length :=
  List.length_insertionSort _ _

theorem gallery_insert {row : RoomTypePhoto} (hkey : db.photos.hasKey row.id = false)
    (htype : row.roomTypeId = roomTypeId) :
    gallery roomTypeId { db with photos := db.photos.insert row } =
      gallery roomTypeId db ++ [row] := by
  simp [gallery, rows_insert hkey, htype]

theorem gallery_update {p : RoomTypePhoto → Bool} {f : RoomTypePhoto → RoomTypePhoto}
    {hf : ∀ a, (f a).id = a.id} (htype : ∀ a, (f a).roomTypeId = a.roomTypeId) :
    gallery roomTypeId { db with photos := db.photos.update p f hf } =
      (gallery roomTypeId db).map fun a => if p a then f a else a := by
  simp only [gallery, Table.update, List.filter_map]
  congr 1
  apply List.filter_congr
  intro a _
  show decide ((if p a = true then f a else a).roomTypeId = roomTypeId) = _
  cases p a with
  | true => rw [if_pos rfl, htype]
  | false => rfl

theorem gallery_deletePhoto (photoId : Id) :
    gallery roomTypeId (deletePhoto roomTypeId photoId db) =
      (gallery roomTypeId db).filter fun p => p.id ≠ photoId := by
  simp only [gallery, deletePhoto, Table.delete, List.filter_filter]
  apply List.filter_congr
  intro p _
  by_cases htype : p.roomTypeId = roomTypeId <;> simp [htype]

end Galleries

end Travelo.RoomTypePhotos

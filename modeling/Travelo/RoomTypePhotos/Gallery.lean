import Travelo.ReadCommitted.Fragments
import Travelo.ReadCommitted.Watched
import Travelo.RoomTypePhotos.Listing

/-!
# A gallery has one thumbnail

The index keeps a second photo from being marked. That one is marked rests on reads: an upload has
counted the photos, the deletion of the thumbnail is followed by a promotion in another statement,
and a new thumbnail was there before the transaction that marks it. `one_thumbnail`: while these
still hold when they are used, a gallery at rest has one thumbnail, and no more photos than it may.
-/

namespace Travelo.RoomTypePhotos

open ReadCommitted RoomTypePhotosService

/-! ## Calls -/

/-- A call on the photos of a room type, with the clock and what is drawn for a new row. -/
inductive PhotoCall where
  | upload (propertyId : Id) (file : Option UploadedRoomTypePhoto)
      (category : Option RoomTypePhotoCategory) (id : Id) (uuid : String) (now : ℤ)
  | setPrimary (propertyId photoId : Id)
  | reorder (propertyId : Id) (ids : List Id)
  | remove (propertyId photoId : Id)

def PhotoCall.prog (roomTypeId : Id) : PhotoCall → PhotoOp Unit
  | .upload propertyId file category id uuid now => do
    let _ ← RoomTypePhotosService.upload propertyId roomTypeId file category id uuid now
  | .setPrimary propertyId photoId => do
    let _ ← RoomTypePhotosService.setPrimary propertyId roomTypeId photoId
  | .reorder propertyId ids => do
    let _ ← RoomTypePhotosService.reorder propertyId roomTypeId ids
  | .remove propertyId photoId => do
    let _ ← RoomTypePhotosService.remove propertyId roomTypeId photoId

abbrev PhotoConfig := Config PhotoDb PhotoLock PhotoLook PhotoErr Unit

/-! ## The index -/

theorem onePrimary_of_marks {db db' : PhotoDb} (hone : OnePrimary db)
    (h : ∀ p' ∈ db'.photos, p'.isPrimary = true →
      ∃ p ∈ db.photos, p.id = p'.id ∧ p.roomTypeId = p'.roomTypeId ∧ p.isPrimary = true) :
    OnePrimary db' := by
  intro p' hp' q' hq' hpm hqm htype
  rcases h p' hp' hpm with ⟨p, hp, hpid, hptype, hpmark⟩
  rcases h q' hq' hqm with ⟨q, hq, hqid, hqtype, hqmark⟩
  have hids := hone p hp q hq hpmark hqmark (hptype.trans (htype.trans hqtype.symm))
  exact hpid.symm.trans (hids.trans hqid)

theorem length_marked {roomTypeId : Id} {db : PhotoDb} (hone : OnePrimary db)
    (hsome : ∃ p ∈ gallery roomTypeId db, p.isPrimary = true) :
    ((gallery roomTypeId db).filter fun p => p.isPrimary).length = 1 := by
  rcases hsome with ⟨p, hp, hmark⟩
  have hle : ((gallery roomTypeId db).filter fun p => p.isPrimary).length ≤ 1 := by
    rw [gallery, List.filter_filter, length_filter_le_one]
    intro a ha b hb hpa hpb
    simp only [and_decide_eq] at hpa hpb
    exact eq_of_key_eq ha hb (hone a ha b hb hpa.1 hpb.1 (hpa.2.trans hpb.2.symm))
  have hpos : 0 < ((gallery roomTypeId db).filter fun p => p.isPrimary).length :=
    List.length_pos_of_mem (List.mem_filter.mpr ⟨hp, hmark⟩)
  omega

/-! ## The laws -/

/-- One photo is marked, if there is one at all, and there are not too many. -/
def WellFormed (roomTypeId : Id) (db : PhotoDb) : Prop :=
  (gallery roomTypeId db ≠ [] →
    ((gallery roomTypeId db).filter fun p => p.isPrimary).length = 1) ∧
  (gallery roomTypeId db).length ≤ MAX_PHOTOS_PER_ROOM_TYPE

/-- No call is in progress. -/
def AtRest (c : PhotoConfig) : Prop := ∀ s ∈ c.sessions, s.running = false

/-! ## What must not happen meanwhile -/

/-- The photo that a removal marks after it has deleted the thumbnail. -/
def heir (roomTypeId photoId : Id) (db : PhotoDb) : Option RoomTypePhoto :=
  let rows := inOrder roomTypeId db
  (rows.find? fun r => r.id = photoId).bind fun target =>
    (rows.find? fun r => r.id ≠ photoId).filter fun _ => target.isPrimary

/-- The same, by what the removal has read. -/
def heirOf (roomTypeId photoId : Id) (h : PhotoTrace) : Option Id :=
  (reads h).findSome? fun r =>
    if r.1 = .photos then (heir roomTypeId photoId r.2).map (·.id) else none

/-- The photo that the session is about to mark, having deleted the thumbnail. -/
def promotes (roomTypeId : Id) (call : PhotoCall)
    (s : Session PhotoDb PhotoLock PhotoLook PhotoErr Unit) : Option Id :=
  match call with
  | .remove _ photoId =>
    if s.running && writes s.trace = 1 then heirOf roomTypeId photoId s.trace else none
  | _ => none

/-- Session `j` is about to mark one of the photos. -/
def Promoting (roomTypeId : Id) (calls : List PhotoCall) (c : PhotoConfig)
    (photos : List RoomTypePhoto) (j : ℕ) : Prop :=
  ∃ call ∈ calls[j]?, ∃ s ∈ c.sessions[j]?, ∃ t ∈ promotes roomTypeId call s,
    ∃ p ∈ photos, p.id = t

/-- There is no photo, or a marked one. -/
def Settled (photos : List RoomTypePhoto) : Prop :=
  photos = [] ∨ ∃ p ∈ photos, p.isPrimary = true

/-- The photos need no mark, or a session other than `i` is about to set it. -/
def Minded (roomTypeId : Id) (calls : List PhotoCall) (c : PhotoConfig)
    (photos : List RoomTypePhoto) (i : ℕ) : Prop :=
  Settled photos ∨ ∃ j < calls.length, j ≠ i ∧ Promoting roomTypeId calls c photos j

/-- The photos that there are once the removal has deleted its own. -/
def remaining (roomTypeId photoId : Id) (h : PhotoTrace) (db : PhotoDb) : List RoomTypePhoto :=
  (gallery roomTypeId db).filter fun p => p.id ≠ photoId ∨ writes h ≠ 0

/-- What a call that commits a write must find. -/
def StillHolds (roomTypeId : Id) (calls : List PhotoCall) (c : PhotoConfig) (i : ℕ)
    (h : PhotoTrace) : PhotoCall → Prop
  -- there is room, and a gallery that was not empty is not empty now
  | .upload .. =>
    (gallery roomTypeId c.db).length < MAX_PHOTOS_PER_ROOM_TYPE ∧
      ∀ r ∈ reads h, r.1 = .photos → gallery roomTypeId r.2 ≠ [] → gallery roomTypeId c.db ≠ []
  -- the new thumbnail is there, or no mark is taken away
  | .setPrimary _ photoId =>
    (∃ p ∈ gallery roomTypeId c.db, p.id = photoId) ∨
      (∀ r ∈ reads h, r.1 = .primaries → ∀ p ∈ gallery roomTypeId c.db, p.isPrimary = true →
        p.id ∉ primaryIds roomTypeId r.2) ∨
      ∃ j < calls.length, j ≠ i ∧ Promoting roomTypeId calls c (gallery roomTypeId c.db) j
  | .reorder .. => True
  -- of the photos that remain one is marked, or will be
  | .remove _ photoId =>
    (∃ t ∈ heirOf roomTypeId photoId h, ∃ p ∈ remaining roomTypeId photoId h c.db, p.id = t) ∨
      Minded roomTypeId calls c (remaining roomTypeId photoId h c.db) i

/-- A commit finds what it needs, and a removal does not stop before the mark it owes. -/
def Careful (roomTypeId : Id) (calls : List PhotoCall) (c : PhotoConfig) : Event → Prop
  | .step i => ∀ call ∈ calls[i]?, ∀ s ∈ c.sessions[i]?, s.published c.db ≠ [] →
      StillHolds roomTypeId calls c i s.trace call
  | .fault i _ | .crash i => ∀ call ∈ calls[i]?, ∀ s ∈ c.sessions[i]?,
      promotes roomTypeId call s ≠ none → Minded roomTypeId calls c (gallery roomTypeId c.db) i

/-! ## What a call does -/

/-- The rows keep their ids, their types and their marks. -/
def FlagsKept (db db' : PhotoDb) : Prop :=
  ∃ f : RoomTypePhoto → RoomTypePhoto, db'.photos.rows = db.photos.rows.map f ∧
    ∀ p, (f p).id = p.id ∧ (f p).roomTypeId = p.roomTypeId ∧ (f p).isPrimary = p.isPrimary

theorem FlagsKept.refl (db : PhotoDb) : FlagsKept db db :=
  ⟨id, by simp, fun _ => ⟨rfl, rfl, rfl⟩⟩

theorem FlagsKept.trans {db db' db'' : PhotoDb} (h : FlagsKept db db') (h' : FlagsKept db' db'') :
    FlagsKept db db'' := by
  rcases h with ⟨f, hf, hkept⟩
  rcases h' with ⟨g, hg, hkept'⟩
  refine ⟨g ∘ f, by rw [hg, hf, List.map_map], fun p => ?_⟩
  rcases hkept p with ⟨hid, htype, hmark⟩
  rcases hkept' (f p) with ⟨hid', htype', hmark'⟩
  exact ⟨hid'.trans hid, htype'.trans htype, hmark'.trans hmark⟩

theorem flagsKept_setSortOrder (roomTypeId id : Id) (i : ℕ) (db : PhotoDb) :
    FlagsKept db (setSortOrder roomTypeId id i db) := by
  refine ⟨_, rfl, fun p => ?_⟩
  dsimp only
  split <;> exact ⟨rfl, rfl, rfl⟩

/-- What a call other than a removal publishes. -/
inductive PhotoWrite (roomTypeId : Id) : PhotoCall → PhotoTrace → (PhotoDb → PhotoDb) → Prop where
  | uploaded {propertyId file file' category id uuid now h b} (hread : (.photos, b) ∈ reads h) :
      PhotoWrite roomTypeId (.upload propertyId file category id uuid now) h
        (applied (insertPhoto (newPhoto propertyId roomTypeId file' category
          (inOrder roomTypeId b).length id uuid now)))
  | marked {propertyId photoId h b} (hread : (.primaries, b) ∈ reads h) :
      PhotoWrite roomTypeId (.setPrimary propertyId photoId) h
        (applied (markPhoto photoId) ∘ clear roomTypeId (primaryIds roomTypeId b))
  | reordered {propertyId ids h w} (hw : ∀ db, FlagsKept db (w db)) :
      PhotoWrite roomTypeId (.reorder propertyId ids) h w

/-- What a removal does at a statement: the deletion, and the promotion that it owes then, which is
refused when there is a thumbnail. -/
def RemovalStep (roomTypeId photoId : Id) (h : PhotoTrace) (o : Option (Obs PhotoDb PhotoLook))
    (db : PhotoDb) (q : PhotoOp Unit) : Prop :=
  match o with
  | some (.saw _ _) => writes h = 0
  | some (.wrote w) =>
    (writes h = 0 ∧ w = deletePhoto roomTypeId photoId ∧
      (q.running = (heirOf roomTypeId photoId h).isSome)) ∨
    (writes h = 1 ∧ ∃ t ∈ heirOf roomTypeId photoId h, w = applied (promotePhoto roomTypeId t))
  | none => ∃ t e, promotePhoto roomTypeId t db = .error e

/-- What a call does at a statement. -/
def PhotoStep (roomTypeId : Id) (call : PhotoCall) (h : PhotoTrace)
    (o : Option (Obs PhotoDb PhotoLook)) (db : PhotoDb) (q : PhotoOp Unit) : Prop :=
  match call with
  | .remove _ photoId => RemovalStep roomTypeId photoId h o db q
  | call => ∀ w, o = some (.wrote w) → PhotoWrite roomTypeId call h w

theorem PhotoCall.wp_prog (roomTypeId : Id) (call : PhotoCall)
    (hcall : ∀ propertyId photoId, call ≠ .remove propertyId photoId) :
    (call.prog roomTypeId).wp (PhotoWrite roomTypeId call) (fun _ _ _ => True)
      (fun _ _ _ => True) [] .idle := by
  cases call with
  | upload propertyId file category id uuid now =>
    simp only [prog, RoomTypePhotosService.upload, requireRoomType, rowsFor, wp_simps,
      Prog.wp_writeChecked_idle]
    intro file' _ a _ _ b _ db db' _
    exact .uploaded (mem_reads.mpr List.mem_cons_self)
  | setPrimary propertyId photoId =>
    simp only [prog, RoomTypePhotosService.setPrimary, requireRoomType, rowsFor, clearPrimary,
      wp_simps]
    intro a _ _ b target _ b' _ db db' _
    exact .marked (mem_reads.mpr List.mem_cons_self)
  | reorder propertyId ids =>
    have hbody : (all (fun place : Id × ℕ =>
        (write (fun _ => [.photo place.1]) (setSortOrder roomTypeId place.1 place.2)
          fun _ => () : PhotoOp Unit)) ids.zipIdx).Keeps FlagsKept :=
      .all (fun place => .write _ _ fun db => flagsKept_setSortOrder _ _ _ db) _
    simp only [prog, RoomTypePhotosService.reorder, requireRoomType, rowsFor, wp_simps]
    intro a _ _ b _
    refine hbody.wp_active .refl (fun _ _ _ => .trans) _ _ ?_ ?_ ?_
    · intro _ o w' _ hw'
      exact .reordered hw'
    · intros
      trivial
    · intros
      trivial
  | remove propertyId photoId => exact absurd rfl (hcall propertyId photoId)

theorem heirOf_read {roomTypeId photoId : Id} {a b : PhotoDb} :
    heirOf roomTypeId photoId [.saw .photos b, .saw .roomType a] =
      (heir roomTypeId photoId b).map (·.id) := by
  simp only [heirOf, reads, List.filterMap_cons, List.filterMap_nil, List.findSome?_cons,
    List.findSome?_nil, if_true]
  cases heir roomTypeId photoId b <;> rfl

theorem PhotoCall.watch_prog (roomTypeId : Id) (call : PhotoCall) :
    (call.prog roomTypeId).watch (PhotoStep roomTypeId call) (fun _ _ _ => True)
      (fun _ _ _ => True) [] .idle := by
  cases call with
  | remove propertyId photoId =>
    simp only [prog, RoomTypePhotosService.remove, requireRoomType, rowsFor, watch_simps]
    intro a
    refine ⟨rfl, fun _ _ b => ⟨rfl, fun target hfound d => ?_⟩⟩
    have hheir : heir roomTypeId photoId b =
        ((inOrder roomTypeId b).find? fun r => r.id ≠ photoId).filter
          fun _ => target.isPrimary := by
      simp only [heir, hfound, Option.bind_some]
    rw [← hheir]
    have hof : heirOf roomTypeId photoId [.saw .photos b, .saw .roomType a] =
        (heir roomTypeId photoId b).map (·.id) := heirOf_read
    cases hnext : heir roomTypeId photoId b with
    | none =>
      rw [hnext] at hof
      exact ⟨.inl ⟨rfl, rfl, by rw [hof]; rfl⟩, trivial⟩
    | some first =>
      rw [hnext] at hof
      refine ⟨.inl ⟨rfl, rfl, by rw [hof]; rfl⟩, ?_⟩
      refine Prog.watch_writeChecked_idle _ _ _ (fun db db' _ => ⟨.inr ⟨rfl, first.id, ?_, rfl⟩,
        trivial⟩) (fun db e he => ⟨first.id, e, he⟩) fun _ => trivial
      exact Option.mem_def.mpr hof
  | upload propertyId file category id uuid now =>
    exact watch_of_wp _ _ _ (wp_prog roomTypeId _ (by simp))
  | setPrimary propertyId photoId =>
    exact watch_of_wp _ _ _ (wp_prog roomTypeId _ (by simp))
  | reorder propertyId ids => exact watch_of_wp _ _ _ (wp_prog roomTypeId _ (by simp))

/-! ## What a write leaves -/

/-- The photos of `g` are among those of `g'`. -/
def Covers (g g' : List RoomTypePhoto) : Prop := ∀ p ∈ g, ∃ p' ∈ g', p'.id = p.id

section Effects

variable {roomTypeId : Id} {db : PhotoDb}

theorem applied_insertPhoto (row : RoomTypePhoto) :
    (db.photos.hasKey row.id = false ∧ OnePrimary { db with photos := db.photos.insert row } ∧
      applied (insertPhoto row) db = { db with photos := db.photos.insert row }) ∨
    applied (insertPhoto row) db = db := by
  unfold applied insertPhoto
  cases hkey : db.photos.hasKey row.id with
  | true => exact .inr rfl
  | false =>
    simp only [Bool.false_eq_true, if_false]
    cases hindex : indexed { db with photos := db.photos.insert row } with
    | error e => exact .inr rfl
    | ok db' =>
      rcases indexed_ok hindex with ⟨rfl, hone⟩
      exact .inl ⟨trivial, hone, rfl⟩

theorem marked_of_refused {test : RoomTypePhoto → Bool} {photoId : Id} {e : PhotoErr}
    (htest : ∀ q ∈ db.photos, test q = true → q.id = photoId ∧ q.roomTypeId = roomTypeId)
    (hone : OnePrimary db)
    (herror : indexed { db with photos := db.photos.update test marked fun _ => rfl } = .error e) :
    ∃ p ∈ gallery roomTypeId db, p.isPrimary = true := by
  by_contra hnone
  have hunmarked : ∀ q ∈ db.photos, q.roomTypeId = roomTypeId → q.isPrimary ≠ true :=
    fun q hq htype hmark => hnone ⟨q, mem_gallery.mpr ⟨hq, htype⟩, hmark⟩
  have hrow : ∀ x ∈ Table.update db.photos test marked (fun _ => rfl), x.isPrimary = true →
      (x.id = photoId ∧ x.roomTypeId = roomTypeId) ∨ (x ∈ db.photos ∧ x.isPrimary = true) := by
    intro x hx hmx
    rcases Table.mem_update.mp hx with ⟨q, hq, rfl⟩
    cases htq : test q with
    | true =>
      rw [if_pos rfl]
      exact .inl (htest q hq htq)
    | false =>
      rw [htq] at hmx
      exact .inr ⟨hq, hmx⟩
  refine indexed_error herror fun a ha b hb hma hmb htype => ?_
  rcases hrow a ha hma with ⟨haid, hatype⟩ | ⟨hadb, hamark⟩
  · rcases hrow b hb hmb with ⟨hbid, -⟩ | ⟨hbdb, hbmark⟩
    · exact haid.trans hbid.symm
    · exact absurd hbmark (hunmarked b hbdb (htype.symm.trans hatype))
  · rcases hrow b hb hmb with ⟨-, hbtype⟩ | ⟨hbdb, hbmark⟩
    · exact absurd hamark (hunmarked a hadb (htype.trans hbtype))
    · exact hone a hadb b hbdb hamark hbmark htype

theorem applied_mark (roomTypeId : Id) (test : RoomTypePhoto → Bool) {photoId : Id}
    (htest : ∀ p, test p = true → p.id = photoId) (hone : OnePrimary db)
    {f : PhotoDb → Except PhotoErr PhotoDb} (hf : f db = indexed
      { db with photos := db.photos.update test marked fun _ => rfl }) :
    OnePrimary (applied f db) ∧
      (gallery roomTypeId (applied f db)).length = (gallery roomTypeId db).length ∧
      Covers (gallery roomTypeId db) (gallery roomTypeId (applied f db)) ∧
      ((∃ p ∈ gallery roomTypeId db, p.isPrimary = true ∨ test p = true) →
        ∃ p ∈ gallery roomTypeId (applied f db), p.isPrimary = true) := by
  have hupdate : gallery roomTypeId
      { db with photos := db.photos.update test marked fun _ => rfl } =
        (gallery roomTypeId db).map fun a => if test a then marked a else a :=
    gallery_update fun _ => rfl
  unfold applied
  rw [hf]
  cases hindex : indexed { db with photos := db.photos.update test marked fun _ => rfl } with
  | ok db' =>
    rcases indexed_ok hindex with ⟨rfl, hafter⟩
    refine ⟨hafter, by rw [hupdate, List.length_map], ?_, ?_⟩
    · intro p hp
      refine ⟨_, by rw [hupdate]; exact List.mem_map_of_mem hp, ?_⟩
      split <;> rfl
    · rintro ⟨p, hp, hmark⟩
      refine ⟨_, by rw [hupdate]; exact List.mem_map_of_mem hp, ?_⟩
      split
      · rfl
      · exact hmark.resolve_right ‹_›
  | error e =>
    refine ⟨hone, rfl, fun p hp => ⟨p, hp, rfl⟩, ?_⟩
    rintro ⟨p, hp, hmark | hp'⟩
    · exact ⟨p, hp, hmark⟩
    · rcases mem_gallery.mp hp with ⟨hpmem, hptype⟩
      refine marked_of_refused (fun q hq htq => ⟨htest q htq, ?_⟩) hone hindex
      obtain rfl : q = p := eq_of_key_eq hq hpmem ((htest q htq).trans (htest p hp').symm)
      exact hptype

theorem clear_gallery (ids : List Id) (hone : OnePrimary db) :
    OnePrimary (clear roomTypeId ids db) ∧
      (gallery roomTypeId (clear roomTypeId ids db)).length = (gallery roomTypeId db).length ∧
      Covers (gallery roomTypeId db) (gallery roomTypeId (clear roomTypeId ids db)) ∧
      ∀ p ∈ gallery roomTypeId db, p.id ∉ ids →
        p ∈ gallery roomTypeId (clear roomTypeId ids db) := by
  have hupdate : gallery roomTypeId (clear roomTypeId ids db) = (gallery roomTypeId db).map
      fun p => if ids.contains p.id && isPrimaryOf roomTypeId p then { p with isPrimary := false }
        else p :=
    gallery_update fun _ => rfl
  refine ⟨onePrimary_of_marks hone fun p' hp' hmark => ?_, by rw [hupdate, List.length_map], ?_, ?_⟩
  · have hmem : p' ∈ Table.update db.photos
        (fun p => ids.contains p.id && isPrimaryOf roomTypeId p)
        (fun p => { p with isPrimary := false }) (fun _ => rfl) := hp'
    rcases Table.mem_update.mp hmem with ⟨p, hp, rfl⟩
    refine ⟨p, hp, ?_⟩
    split at hmark
    · cases hmark
    · rw [if_neg ‹_›]
      exact ⟨rfl, rfl, hmark⟩
  · intro p hp
    refine ⟨_, by rw [hupdate]; exact List.mem_map_of_mem hp, ?_⟩
    split <;> rfl
  · intro p hp hid
    rw [hupdate, List.mem_map]
    refine ⟨p, hp, if_neg ?_⟩
    simp [hid]

theorem flagsKept_gallery {db' : PhotoDb} (hkept : FlagsKept db db') (hone : OnePrimary db) :
    OnePrimary db' ∧ (gallery roomTypeId db').length = (gallery roomTypeId db).length ∧
      ∀ p ∈ gallery roomTypeId db, ∃ p' ∈ gallery roomTypeId db',
        p'.id = p.id ∧ p'.isPrimary = p.isPrimary := by
  rcases hkept with ⟨f, hf, hflags⟩
  have hgallery : gallery roomTypeId db' = (gallery roomTypeId db).map f := by
    rw [gallery, hf, List.filter_map, gallery]
    congr 1
    apply List.filter_congr
    intro p _
    show decide ((f p).roomTypeId = roomTypeId) = _
    rw [(hflags p).2.1]
  refine ⟨onePrimary_of_marks hone fun p' hp' hmark => ?_, by rw [hgallery, List.length_map], ?_⟩
  · have hmem : p' ∈ db'.photos.rows := hp'
    rw [hf, List.mem_map] at hmem
    rcases hmem with ⟨p, hp, rfl⟩
    exact ⟨p, hp, (hflags p).1.symm, (hflags p).2.1.symm, (hflags p).2.2.symm.trans hmark⟩
  · intro p hp
    exact ⟨f p, by rw [hgallery]; exact List.mem_map_of_mem hp, (hflags p).1, (hflags p).2.2⟩

end Effects

/-! ## Runs -/

/-- Every session does what its call may, and a gallery without a mark is minded. -/
structure Kept (roomTypeId : Id) (calls : List PhotoCall) (c : PhotoConfig) : Prop where
  steps : Config.Watching (fun i h o db q =>
    ∃ call, calls[i]? = some call ∧ PhotoStep roomTypeId call h o db q) (fun _ _ _ _ => True) c
  length : c.sessions.length = calls.length
  one : OnePrimary c.db
  few : (gallery roomTypeId c.db).length ≤ MAX_PHOTOS_PER_ROOM_TYPE
  minded : Settled (gallery roomTypeId c.db) ∨
    ∃ j < calls.length, Promoting roomTypeId calls c (gallery roomTypeId c.db) j

section Runs

variable {roomTypeId : Id} {calls : List PhotoCall} {c c' : PhotoConfig}
  {g g' : List RoomTypePhoto} {i j : ℕ} {call : PhotoCall}
  {s s' : Session PhotoDb PhotoLock PhotoLook PhotoErr Unit}

theorem kept_start {db : PhotoDb} (hone : OnePrimary db) (hstart : WellFormed roomTypeId db) :
    Kept roomTypeId calls (Config.start db (calls.map (PhotoCall.prog roomTypeId))) := by
  refine ⟨Config.watching_start fun i p hp => ?_, by simp [Config.start], hone, hstart.2, .inl ?_⟩
  · rw [List.getElem?_map, Option.map_eq_some_iff] at hp
    rcases hp with ⟨call, hcall, rfl⟩
    exact watch_mono (fun _ _ _ _ h => ⟨call, hcall, h⟩) (fun _ _ _ h => h)
      (fun _ _ _ h => h) _ _ _ (call.watch_prog roomTypeId)
  · by_cases hempty : gallery roomTypeId db = []
    · exact .inl hempty
    · right
      have hlen := hstart.1 hempty
      rcases List.exists_mem_of_length_pos (by omega : 0 < ((gallery roomTypeId db).filter
        fun p => p.isPrimary).length) with ⟨p, hp⟩
      rw [List.mem_filter] at hp
      exact ⟨p, hp.1, hp.2⟩

theorem promoting_elsewhere (hset : c'.sessions = c.sessions.set i s') (hj : j ≠ i)
    (hcovers : Covers g g') (h : Promoting roomTypeId calls c g j) :
    Promoting roomTypeId calls c' g' j := by
  rcases h with ⟨call, hcall, s, hs, t, ht, p, hp, hid⟩
  rcases hcovers p hp with ⟨p', hp', hid'⟩
  refine ⟨call, hcall, s, ?_, t, ht, p', hp', hid'.trans hid⟩
  rw [hset, List.getElem?_set_ne (Ne.symm hj)]
  exact hs

theorem minded_elsewhere (hset : c'.sessions = c.sessions.set i s') (hcovers : Covers g g')
    (hsettled : Settled g → Settled g') (h : Minded roomTypeId calls c g i) :
    Settled g' ∨ ∃ j < calls.length, Promoting roomTypeId calls c' g' j := by
  rcases h with hs | ⟨j, hlt, hj, hp⟩
  · exact .inl (hsettled hs)
  · exact .inr ⟨j, hlt, promoting_elsewhere hset hj hcovers hp⟩

theorem covers_refl (g : List RoomTypePhoto) : Covers g g := fun p hp => ⟨p, hp, rfl⟩

/-- A gallery that is minded by nobody but the session is minded by what the session promotes. -/
theorem Kept.minded_or (hkept : Kept roomTypeId calls c) (hcall : calls[i]? = some call)
    (hs : c.sessions[i]? = some s) :
    Minded roomTypeId calls c (gallery roomTypeId c.db) i ∨
      ∃ t ∈ promotes roomTypeId call s, ∃ p ∈ gallery roomTypeId c.db, p.id = t := by
  rcases hkept.minded with hsettled | ⟨j, hlt, hp⟩
  · exact .inl (.inl hsettled)
  · by_cases hj : j = i
    · subst hj
      rcases hp with ⟨call', hcall', s', hs', hphoto⟩
      cases Option.some.inj (hcall.symm.trans hcall')
      cases Option.some.inj (hs.symm.trans hs')
      exact .inr hphoto
    · exact .inl (.inr ⟨j, hlt, hj, hp⟩)

theorem PhotoWrite.kept {h : PhotoTrace} {w : PhotoDb → PhotoDb}
    (hw : PhotoWrite roomTypeId call h w) (hone : OnePrimary c.db)
    (hfew : (gallery roomTypeId c.db).length ≤ MAX_PHOTOS_PER_ROOM_TYPE)
    (hholds : StillHolds roomTypeId calls c i h call)
    (hminded : Minded roomTypeId calls c (gallery roomTypeId c.db) i)
    (hset : c'.sessions = c.sessions.set i s') (hdb : c'.db = w c.db) :
    OnePrimary c'.db ∧ (gallery roomTypeId c'.db).length ≤ MAX_PHOTOS_PER_ROOM_TYPE ∧
      (Settled (gallery roomTypeId c'.db) ∨
        ∃ j < calls.length, Promoting roomTypeId calls c' (gallery roomTypeId c'.db) j) := by
  rw [hdb]
  cases hw with
  | @uploaded propertyId file file' category id uuid now _ b hread =>
    rcases applied_insertPhoto (newPhoto propertyId roomTypeId file' category
      (inOrder roomTypeId b).length id uuid now) with ⟨hkey, hafter, hinsert⟩ | hsame
    · rcases hholds with ⟨hroom, hnonempty⟩
      have hgallery : gallery roomTypeId _ = gallery roomTypeId c.db ++ [_] :=
        gallery_insert hkey rfl
      rw [hinsert]
      refine ⟨hafter, ?_, ?_⟩
      · rw [hgallery, List.length_append]
        exact hroom
      · rw [hgallery]
        refine minded_elsewhere hset (fun p hp => ⟨p, List.mem_append_left _ hp, rfl⟩) ?_ hminded
        rintro (hempty | ⟨p, hp, hmark⟩)
        · -- The gallery was empty for the count too, so the new photo is marked.
          right
          refine ⟨_, List.mem_append_right _ List.mem_cons_self, ?_⟩
          have hcount : gallery roomTypeId b = [] := by
            by_contra hsome
            exact hnonempty _ hread rfl hsome hempty
          simp [newPhoto, length_inOrder, hcount]
        · exact .inr ⟨p, List.mem_append_left _ hp, hmark⟩
    · rw [hsame]
      exact ⟨hone, hfew, minded_elsewhere hset (covers_refl _) (fun h => h) hminded⟩
  | @marked propertyId photoId _ b hread =>
    rcases clear_gallery (primaryIds roomTypeId b) hone with ⟨hone₁, hlen₁, hcovers₁, hkept₁⟩
    rcases applied_mark roomTypeId (fun p => p.id = photoId) (fun p hp => by simpa using hp) hone₁
      (f := markPhoto photoId) rfl with ⟨hone₂, hlen₂, hcovers₂, hmark₂⟩
    have hcovers : Covers (gallery roomTypeId c.db) (gallery roomTypeId
        (applied (markPhoto photoId) (clear roomTypeId (primaryIds roomTypeId b) c.db))) := by
      intro p hp
      rcases hcovers₁ p hp with ⟨p₁, hp₁, hid₁⟩
      rcases hcovers₂ p₁ hp₁ with ⟨p₂, hp₂, hid₂⟩
      exact ⟨p₂, hp₂, hid₂.trans hid₁⟩
    refine ⟨hone₂, ?_, ?_⟩
    · show (gallery roomTypeId (applied (markPhoto photoId) _)).length ≤ _
      omega
    · rcases hholds with ⟨p, hp, hid⟩ | huncleared | ⟨j, hlt, hj, hp⟩
      · -- The new thumbnail is there to be marked.
        rcases hcovers₁ p hp with ⟨p₁, hp₁, hid₁⟩
        exact .inl (.inr (hmark₂ ⟨p₁, hp₁, .inr (by simpa using hid₁.trans hid)⟩))
      · refine minded_elsewhere hset hcovers ?_ hminded
        rintro (hempty | ⟨p, hp, hmark⟩)
        · left
          rw [← List.length_eq_zero_iff] at hempty ⊢
          show (gallery roomTypeId (applied (markPhoto photoId) _)).length = 0
          omega
        · -- The mark that stands was not among those that are cleared.
          have hnot := huncleared _ hread rfl p hp hmark
          exact .inr (hmark₂ ⟨p, hkept₁ p hp hnot, .inl hmark⟩)
      · exact .inr ⟨j, hlt, promoting_elsewhere hset hj hcovers hp⟩
  | reordered hw =>
    rcases flagsKept_gallery (hw c.db) hone with ⟨hafter, hlen, hflags⟩
    refine ⟨hafter, hlen.trans_le hfew, ?_⟩
    refine minded_elsewhere hset (fun p hp => ?_) ?_ hminded
    · rcases hflags p hp with ⟨p', hp', hid, -⟩
      exact ⟨p', hp', hid⟩
    · rintro (hempty | ⟨p, hp, hmark⟩)
      · left
        rw [← List.length_eq_zero_iff] at hempty ⊢
        exact hlen.trans hempty
      · rcases hflags p hp with ⟨p', hp', -, hmark'⟩
        exact .inr ⟨p', hp', hmark'.trans hmark⟩

theorem heirOf_wrote {photoId : Id} {h : PhotoTrace} {w : PhotoDb → PhotoDb} :
    heirOf roomTypeId photoId (.wrote w :: h) = heirOf roomTypeId photoId h := rfl

theorem removal_kept {propertyId photoId : Id} {w : PhotoDb → PhotoDb}
    (hstep : RemovalStep roomTypeId photoId s.trace (some (.wrote w)) c.db s'.prog)
    (hone : OnePrimary c.db) (hfew : (gallery roomTypeId c.db).length ≤ MAX_PHOTOS_PER_ROOM_TYPE)
    (hcall : calls[i]? = some (.remove propertyId photoId)) (hs : c.sessions[i]? = some s)
    (hholds : StillHolds roomTypeId calls c i s.trace (.remove propertyId photoId))
    (hset : c'.sessions = c.sessions.set i s') (htrace : s'.trace = .wrote w :: s.trace)
    (hdb : c'.db = w c.db) :
    OnePrimary c'.db ∧ (gallery roomTypeId c'.db).length ≤ MAX_PHOTOS_PER_ROOM_TYPE ∧
      (Settled (gallery roomTypeId c'.db) ∨
        ∃ j < calls.length, Promoting roomTypeId calls c' (gallery roomTypeId c'.db) j) := by
  have hlt : i < calls.length := (List.getElem?_eq_some_iff.mp hcall).1
  have hself : c'.sessions[i]? = some s' := by
    rw [hset, List.getElem?_set_self (List.getElem?_eq_some_iff.mp hs).1]
  rw [hdb]
  rcases hstep with ⟨hfirst, rfl, hrunning⟩ | ⟨hsecond, t, ht, rfl⟩
  · -- The deletion: the session goes on to mark the heir, if it has one.
    have hrest : remaining roomTypeId photoId s.trace c.db =
        gallery roomTypeId (deletePhoto roomTypeId photoId c.db) := by
      rw [gallery_deletePhoto]
      simp [remaining, hfirst]
    simp only [StillHolds, hrest] at hholds
    refine ⟨onePrimary_of_marks hone fun p hp hmark => ?_, ?_, ?_⟩
    · exact ⟨p, (Table.mem_delete.mp hp).1, rfl, rfl, hmark⟩
    · rw [gallery_deletePhoto]
      exact (List.length_filter_le _ _).trans hfew
    · rcases hholds with ⟨t, ht, p, hp, hid⟩ | hminded
      · refine .inr ⟨i, hlt, _, hcall, s', hself, t, ?_, p, hp, hid⟩
        have hgoes : s'.running = true := by
          unfold Session.running
          rw [hrunning, Option.mem_def.mp ht]
          rfl
        have hone' : writes s'.trace = 1 := by rw [htrace, writes_wrote, hfirst]
        have howed : promotes roomTypeId (.remove propertyId photoId) s' =
            heirOf roomTypeId photoId s'.trace := by
          simp [promotes, hgoes, hone']
        rw [howed, htrace, heirOf_wrote]
        exact ht
      · exact minded_elsewhere hset (covers_refl _) (fun h => h) hminded
  · -- The promotion: the heir is marked if it still is there, or another photo is.
    have hrest : remaining roomTypeId photoId s.trace c.db = gallery roomTypeId c.db := by
      rw [remaining, List.filter_eq_self]
      intro p _
      simp [hsecond]
    simp only [StillHolds, hrest] at hholds
    rcases applied_mark roomTypeId (fun p => p.id = t && p.roomTypeId = roomTypeId)
      (fun p hp => by simp only [and_decide_eq] at hp; exact hp.1) hone
      (f := promotePhoto roomTypeId t) rfl with ⟨hafter, hlen, hcovers, hmark⟩
    refine ⟨hafter, hlen.trans_le hfew, ?_⟩
    rcases hholds with ⟨t', ht', p, hp, hid⟩ | hminded
    · obtain rfl : t' = t := Option.some.inj (Option.mem_def.mp ht' ▸ Option.mem_def.mp ht)
      refine .inl (.inr (hmark ⟨p, hp, .inr ?_⟩))
      simp [hid, (mem_gallery.mp hp).2]
    · refine minded_elsewhere hset hcovers ?_ hminded
      rintro (hempty | ⟨p, hp, hmarked⟩)
      · left
        rw [← List.length_eq_zero_iff] at hempty ⊢
        exact hlen.trans hempty
      · exact .inr (hmark ⟨p, hp, .inl hmarked⟩)

/-- Only a removal that has deleted, and nothing else, is about to mark a photo. -/
theorem promotes_eq_some {t : Id} (h : promotes roomTypeId call s = some t) :
    ∃ propertyId photoId, call = .remove propertyId photoId ∧ writes s.trace = 1 := by
  unfold promotes at h
  split at h
  · split at h
    · rename_i hand
      simp only [and_decide_eq] at hand
      exact ⟨_, _, rfl, hand.2⟩
    · cases h
  · cases h

theorem Kept.next (hkept : Kept roomTypeId calls c) {ev : Event}
    (hcareful : Careful roomTypeId calls c ev) (hn : c.next ev = some c') :
    Kept roomTypeId calls c' := by
  rcases hkept.steps.observed hn with ⟨i, s, s', hs, hset, hobs⟩
  have hlen : c'.sessions.length = calls.length := by
    rw [hset, List.length_set, hkept.length]
  have hlt : i < calls.length := hkept.length ▸ (List.getElem?_eq_some_iff.mp hs).1
  have hcall : calls[i]? = some calls[i] := List.getElem?_eq_getElem hlt
  generalize calls[i] = call at hcall
  -- An event that writes nothing, of a session that owes no mark after it.
  have hquiet : c'.db = c.db →
      Minded roomTypeId calls c (gallery roomTypeId c.db) i → Kept roomTypeId calls c' := by
    intro hdb hminded
    refine ⟨hkept.steps.next hn, hlen, hdb ▸ hkept.one, hdb ▸ hkept.few, ?_⟩
    rw [hdb]
    exact minded_elsewhere hset (covers_refl _) (fun h => h) hminded
  have hunowed : promotes roomTypeId call s = none →
      Minded roomTypeId calls c (gallery roomTypeId c.db) i := by
    intro hnone
    rcases hkept.minded_or hcall hs with hminded | ⟨t, ht, -⟩
    · exact hminded
    · rw [hnone] at ht
      cases ht
  have hstopped : (promotes roomTypeId call s ≠ none →
      Minded roomTypeId calls c (gallery roomTypeId c.db) i) →
      Minded roomTypeId calls c (gallery roomTypeId c.db) i := by
    intro h
    by_cases hnone : promotes roomTypeId call s = none
    · exact hunowed hnone
    · exact h hnone
  cases hobs with
  | fault hrunning hdb htrace => exact hquiet hdb (hstopped (hcareful call hcall s hs))
  | crash hrunning hdb htrace => exact hquiet hdb (hstopped (hcareful call hcall s hs))
  | silent hrunning ho hdb htrace =>
    rcases ho with ⟨call', hcall', hstep⟩
    cases Option.some.inj (hcall.symm.trans hcall')
    refine hquiet hdb (hstopped fun howes => ?_)
    rcases Option.ne_none_iff_exists'.mp howes with ⟨t, ht⟩
    rcases promotes_eq_some ht with ⟨propertyId, photoId, rfl, -⟩
    -- The mark was refused, so there is one.
    rcases hstep with ⟨t', e, herror⟩
    have htest : ∀ p ∈ c.db.photos, (p.id = t' && p.roomTypeId = roomTypeId : Bool) = true →
        p.id = t' ∧ p.roomTypeId = roomTypeId := fun p _ hp => by simpa using hp
    exact .inl (.inr (marked_of_refused htest hkept.one herror))
  | saw hrunning hlooks ho hdb htrace =>
    rcases ho with ⟨call', hcall', hstep⟩
    cases Option.some.inj (hcall.symm.trans hcall')
    refine hquiet hdb (hunowed ?_)
    by_contra howes
    rcases Option.ne_none_iff_exists'.mp howes with ⟨t, ht⟩
    rcases promotes_eq_some ht with ⟨propertyId, photoId, rfl, hwrites⟩
    have hnone : writes s.trace = 0 := hstep
    omega
  | wrote hrunning hpublishes ho hdb htrace =>
    rcases ho with ⟨call', hcall', hstep⟩
    cases Option.some.inj (hcall.symm.trans hcall')
    have hholds : StillHolds roomTypeId calls c i s.trace call :=
      hcareful call hcall s hs (List.ne_nil_of_mem (Session.mem_published.mpr hpublishes))
    have hsteps := hkept.steps.next hn
    cases call with
    | remove propertyId photoId =>
      rcases removal_kept hstep hkept.one hkept.few hcall hs hholds hset htrace hdb with
        ⟨hone, hfew, hminded⟩
      exact ⟨hsteps, hlen, hone, hfew, hminded⟩
    | _ =>
      rcases PhotoWrite.kept (hstep _ rfl) hkept.one hkept.few hholds (hunowed rfl) hset hdb with
        ⟨hone, hfew, hminded⟩
      exact ⟨hsteps, hlen, hone, hfew, hminded⟩

end Runs

theorem Kept.wellFormed {roomTypeId : Id} {calls : List PhotoCall} {c : PhotoConfig}
    (hkept : Kept roomTypeId calls c) (hrest : AtRest c) : WellFormed roomTypeId c.db := by
  refine ⟨fun hsome => ?_, hkept.few⟩
  rcases hkept.minded with (hempty | hmark) | ⟨j, -, call, -, s, hs, t, ht, -⟩
  · exact absurd hempty hsome
  · exact length_marked hkept.one hmark
  · -- A session that is about to mark a photo is in progress.
    have hstopped : s.running = false := hrest s (List.mem_of_getElem? hs)
    have hnone : promotes roomTypeId call s = none := by
      unfold promotes
      rw [hstopped]
      cases call <;> rfl
    rw [hnone] at ht
    cases ht

/-- A gallery at rest is well formed, whatever was in progress before. -/
def ThumbnailKept : Prop :=
  ∀ (roomTypeId : Id) (calls : List PhotoCall) (db : PhotoDb) (evs : List Event) (c : PhotoConfig),
    OnePrimary db → WellFormed roomTypeId db →
    (Config.start db (calls.map (PhotoCall.prog roomTypeId))).run evs = some c → AtRest c →
      WellFormed roomTypeId c.db

/-- In every order that `list` can give, the photo that was uploaded is last. -/
def UploadsLast : Prop :=
  ∀ propertyId roomTypeId file category id uuid now φ db row,
    ((upload propertyId roomTypeId file category id uuid now).runWith φ db).res = .ok row →
    ∀ l, Listed roomTypeId
      ((upload propertyId roomTypeId file category id uuid now).runWith φ db).db l →
        l.getLast? = some row

/-- In every such order the photos that were named come first. -/
def ReordersFirst : Prop :=
  ∀ propertyId roomTypeId ids φ db rows,
    ((reorder propertyId roomTypeId ids).runWith φ db).res = .ok rows →
    ∀ l, Listed roomTypeId ((reorder propertyId roomTypeId ids).runWith φ db).db l →
      ids <+: l.map (·.id)

/-- **A gallery at rest has one thumbnail and room for its photos**, while what the calls have read
still holds when they use it and no removal stops before the mark that it owes; a new photo is
listed last, and named photos first, exactly when the others have such places. -/
theorem one_thumbnail (roomTypeId : Id) (calls : List PhotoCall) (db : PhotoDb) (evs : List Event)
    (c : PhotoConfig) (hone : OnePrimary db) (hstart : WellFormed roomTypeId db)
    (hcareful : (Config.start db (calls.map (PhotoCall.prog roomTypeId))).Throughout
      (Careful roomTypeId calls) evs)
    (hrun : (Config.start db (calls.map (PhotoCall.prog roomTypeId))).run evs = some c) :
    (AtRest c → WellFormed roomTypeId c.db) ∧
    (∀ propertyId file category id uuid now φ db row,
      ((upload propertyId roomTypeId file category id uuid now).runWith φ db).res = .ok row →
      ((∀ l, Listed roomTypeId
        ((upload propertyId roomTypeId file category id uuid now).runWith φ db).db l →
          l.getLast? = some row) ↔
        ∀ p ∈ gallery roomTypeId db, p.sortOrder < (gallery roomTypeId db).length ∨
          p.sortOrder = (gallery roomTypeId db).length ∧ p.createdAt < now)) ∧
    ∀ propertyId ids φ db rows,
      ((reorder propertyId roomTypeId ids).runWith φ db).res = .ok rows →
      ((∀ l, Listed roomTypeId ((reorder propertyId roomTypeId ids).runWith φ db).db l →
          ids <+: l.map (·.id)) ↔
        ∀ p ∈ gallery roomTypeId db, p.id ∉ ids → ∀ last ∈ gallery roomTypeId db,
          ids.getLast? = some last.id → ids.length ≤ p.sortOrder ∨
            p.sortOrder + 1 = ids.length ∧ last.createdAt < p.createdAt) := by
  refine ⟨fun hrest => ?_, fun _ _ _ _ _ _ _ _ _ h => upload_last_iff h,
    fun _ _ _ _ _ h => reorder_first_iff h⟩
  have hkept : Kept roomTypeId calls c :=
    Config.run_throughout (Kept roomTypeId calls) (fun _ _ _ hc hq hn => hc.next hq hn) evs _
      (kept_start hone hstart) hcareful hrun
  exact hkept.wellFormed hrest

/-! ## A gallery without a thumbnail -/

section Check

variable (roomTypeId : Id) (calls : List PhotoCall) (c : PhotoConfig)

instance (photos : List RoomTypePhoto) (j : ℕ) :
    Decidable (Promoting roomTypeId calls c photos j) := by
  unfold Promoting
  infer_instance

instance (photos : List RoomTypePhoto) : Decidable (Settled photos) := by
  unfold Settled
  infer_instance

instance (photos : List RoomTypePhoto) (i : ℕ) :
    Decidable (Minded roomTypeId calls c photos i) := by
  unfold Minded
  infer_instance

instance (i : ℕ) (h : PhotoTrace) (call : PhotoCall) :
    Decidable (StillHolds roomTypeId calls c i h call) := by
  unfold StillHolds
  split <;> infer_instance

instance (ev : Event) : Decidable (Careful roomTypeId calls c ev) := by
  apply Event.casesOn (motive := fun ev => Decidable (Careful roomTypeId calls c ev)) ev
  all_goals intros; unfold Careful; infer_instance

instance (db : PhotoDb) : Decidable (WellFormed roomTypeId db) := by
  unfold WellFormed
  infer_instance

instance : Decidable (AtRest c) := by
  unfold AtRest
  infer_instance

end Check

def photoOf (id : Id) (isPrimary : Bool) (sortOrder : ℕ) : RoomTypePhoto where
  id
  propertyId := 1
  roomTypeId := 5
  storageKey := ""
  contentType := "image/png"
  sizeBytes := 1
  isPrimary
  sortOrder

/-- One photo, the thumbnail, whose number is `sortOrder`. -/
def onePhoto (sortOrder : ℕ) : PhotoDb where
  roomTypes := (∅ : Table RoomTypeRow.id).insert { id := 5, propertyId := 1 }
  photos := (∅ : Table RoomTypePhoto.id).insert (photoOf 10 true sortOrder)

def secondUpload : PhotoCall := .upload 1 (some { mimetype := "image/png", size := 1 }) none 11 "" 7

/-- The upload has counted the thumbnail, which is removed before it inserts. -/
def removedMeanwhile : List Event :=
  [.step 0, .step 0, .step 1, .step 1, .step 1, .step 0]

theorem thumbnail_lost : ¬ThumbnailKept ∧ ¬UploadsLast ∧ ¬ReordersFirst := by
  refine ⟨fun hlaw => ?_, fun hlaw => ?_, fun hlaw => ?_⟩
  · have hformed := hlaw 5 [secondUpload, .remove 1 10] (onePhoto 0) removedMeanwhile _
      (by decide +kernel) (by decide +kernel) rfl (by decide +kernel)
    revert hformed
    decide +kernel
  · -- The one photo that is left has the number 2, and the next one is given 1.
    have hlast := hlaw 1 5 (some { mimetype := "image/png", size := 1 }) none 11 "" 7
      noFaults (onePhoto 2) _ rfl _ (listed_inOrder _ _)
    revert hlast
    decide +kernel
  · -- The other photo keeps the number that the named one is given.
    have hfirst := hlaw 1 5 [11] noFaults
      { onePhoto 0 with photos := (onePhoto 0).photos.insert (photoOf 11 false 1) } _ rfl _
      (listed_inOrder _ _)
    revert hfirst
    decide +kernel

/-- An upload, a new thumbnail and the removal of the old one, the last two begun together. -/
def replaced : List PhotoCall := [secondUpload, .setPrimary 1 11, .remove 1 10]

def replacing : List Event :=
  [.step 0, .step 0, .step 0, .step 1, .step 2, .step 1, .step 2, .step 1, .step 1, .step 1,
    .step 1, .step 1, .step 2, .step 2]

theorem one_thumbnail_in_turn :
    ∃ c, (Config.start (onePhoto 0) (replaced.map (PhotoCall.prog 5))).run replacing = some c ∧
      AtRest c ∧ WellFormed 5 c.db := by
  have hrest : ((Config.start (onePhoto 0) (replaced.map (PhotoCall.prog 5))).run replacing).any
      (fun c => AtRest c) = true := by
    decide +kernel
  rcases (Option.any_eq_true _ _).mp hrest with ⟨c, hrun, hend⟩
  have hstopped : AtRest c := by simpa using hend
  have hwell := (one_thumbnail 5 replaced (onePhoto 0) replacing c (by decide +kernel)
    (by decide +kernel) (by decide +kernel) hrun).1
  exact ⟨c, hrun, hstopped, hwell hstopped⟩

end Travelo.RoomTypePhotos

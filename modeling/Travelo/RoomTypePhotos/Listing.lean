import Travelo.Claims.Arranged
import Travelo.ReadCommitted.Solo
import Travelo.RoomTypePhotos

/-!
# The order of a gallery

The place of a new photo is the number of photos there are, and `reorder` numbers the photos that
it is given. After a removal the number may be taken, and photos that are not named keep theirs, so
neither says by itself where a photo is listed: `upload_last_iff` and `reorder_first_iff` say when
it does.
-/

namespace Travelo.RoomTypePhotos

open ReadCommitted Claims RoomTypePhotosService

/-! ## The order -/

instance : Std.Total listedBefore := ⟨fun p q => by unfold listedBefore; omega⟩

instance : IsTrans RoomTypePhoto listedBefore := ⟨fun p q r => by unfold listedBefore; omega⟩

/-- The photos of the type in an order that `list` can give. -/
def Listed (roomTypeId : Id) (db : PhotoDb) (l : List RoomTypePhoto) : Prop :=
  Arranged listedBefore (gallery roomTypeId db) l

theorem listed_inOrder (roomTypeId : Id) (db : PhotoDb) :
    Listed roomTypeId db (inOrder roomTypeId db) :=
  arranged_insertionSort _

variable {propertyId roomTypeId : Id} {db : PhotoDb}

theorem nodup_ids (roomTypeId : Id) (db : PhotoDb) :
    ((gallery roomTypeId db).map (·.id)).Nodup :=
  db.photos.nodup.sublist (List.filter_sublist.map _)

theorem nodup_gallery (roomTypeId : Id) (db : PhotoDb) : (gallery roomTypeId db).Nodup :=
  .of_map _ (nodup_ids roomTypeId db)

/-! ## A new photo -/

variable {φ : ℕ → Option String}

variable {category : Option RoomTypePhotoCategory} {file : Option UploadedRoomTypePhoto}

theorem upload_ok {id : Id} {uuid : String} {now : ℤ} {row : RoomTypePhoto}
    (h : ((upload propertyId roomTypeId file category id uuid now).runWith φ db).res = .ok row) :
    row.sortOrder = (gallery roomTypeId db).length ∧ row.createdAt = now ∧
      row ∉ gallery roomTypeId db ∧
      gallery roomTypeId
        ((upload propertyId roomTypeId file category id uuid now).runWith φ db).db =
          gallery roomTypeId db ++ [row] := by
  have hends : (upload propertyId roomTypeId file category id uuid now).ends
      (fun row _ s => row.sortOrder = (gallery roomTypeId db).length ∧ row.createdAt = now ∧
        row ∉ gallery roomTypeId db ∧ gallery roomTypeId s = gallery roomTypeId db ++ [row])
      (fun _ _ _ => True) .idle db := by
    simp only [upload, requireRoomType, rowsFor, ends_simps, Prog.ends_writeChecked_idle]
    intro file' _ _ _ _ db' hinsert
    unfold insertPhoto at hinsert
    split at hinsert
    · cases hinsert
    · rename_i htaken
      have hkey : db.photos.hasKey id = false := Bool.eq_false_of_not_eq_true htaken
      rcases indexed_ok hinsert with ⟨rfl, -⟩
      refine ⟨length_inOrder, rfl, fun hmem => ?_, gallery_insert hkey rfl⟩
      exact Table.hasKey_eq_false.mp hkey _ (mem_gallery.mp hmem).1 rfl
  rcases ends_runFrom _ φ .idle db [] hends with ⟨hok, -⟩
  rcases hok row h with ⟨-, hrow⟩
  exact hrow

/-- **A new photo is listed last exactly when no photo has a later place**: neither a higher number
than it was given, nor the same one and a later creation. -/
theorem upload_last_iff {id : Id} {uuid : String} {now : ℤ} {row : RoomTypePhoto}
    (h : ((upload propertyId roomTypeId file category id uuid now).runWith φ db).res = .ok row) :
    (∀ l, Listed roomTypeId
      ((upload propertyId roomTypeId file category id uuid now).runWith φ db).db l →
        l.getLast? = some row) ↔
      ∀ p ∈ gallery roomTypeId db, p.sortOrder < (gallery roomTypeId db).length ∨
        p.sortOrder = (gallery roomTypeId db).length ∧ p.createdAt < now := by
  rcases upload_ok h with ⟨hplace, hcreated, hnew, hafter⟩
  unfold Listed
  rw [hafter, forall_getLast?_iff hnew]
  refine forall_congr' fun p => imp_congr_right fun _ => ?_
  unfold listedBefore
  rw [hplace, hcreated]
  omega

/-! ## A new order -/

/-- The photo with its new place, if it is named. -/
def placed (ids : List Id) (k : ℕ) (p : RoomTypePhoto) : RoomTypePhoto :=
  if p.id ∈ ids then { p with sortOrder := k + ids.idxOf p.id } else p

def setSortOrders (roomTypeId : Id) (places : List (Id × ℕ)) (db : PhotoDb) : PhotoDb :=
  places.foldl (fun db place => setSortOrder roomTypeId place.1 place.2 db) db

theorem placed_id (ids : List Id) (k : ℕ) (p : RoomTypePhoto) : (placed ids k p).id = p.id := by
  unfold placed
  split <;> rfl

theorem gallery_setSortOrder (id : Id) (i : ℕ) (db : PhotoDb) :
    gallery roomTypeId (setSortOrder roomTypeId id i db) =
      (gallery roomTypeId db).map fun p => if p.id = id then { p with sortOrder := i } else p := by
  have hupdate : gallery roomTypeId (setSortOrder roomTypeId id i db) =
      (gallery roomTypeId db).map fun p =>
        if p.id = id && p.roomTypeId = roomTypeId then { p with sortOrder := i } else p :=
    gallery_update fun _ => rfl
  rw [hupdate]
  apply List.map_congr_left
  intro p hp
  have htype := (mem_gallery.mp hp).2
  by_cases hid : p.id = id <;> simp [hid, htype]

variable {ids : List Id}

theorem gallery_setSortOrders : ∀ (k : ℕ) (db : PhotoDb), ids.Nodup →
    gallery roomTypeId (setSortOrders roomTypeId (ids.zipIdx k) db) =
      (gallery roomTypeId db).map (placed ids k) := by
  induction ids with
  | nil =>
    intro k db _
    exact (List.map_id'' (fun _ => rfl) _).symm
  | cons id ids ih =>
    intro k db hnodup
    rcases List.nodup_cons.mp hnodup with ⟨hnew, hrest⟩
    have hfold : setSortOrders roomTypeId ((id :: ids).zipIdx k) db =
        setSortOrders roomTypeId (ids.zipIdx (k + 1)) (setSortOrder roomTypeId id k db) := rfl
    rw [hfold, ih (k + 1) _ hrest, gallery_setSortOrder, List.map_map]
    apply List.map_congr_left
    intro p _
    by_cases hid : p.id = id
    · -- The first of the names is not named again.
      subst hid
      simp [placed, hnew]
    · have hidx : (id :: ids).idxOf p.id = ids.idxOf p.id + 1 :=
        List.idxOf_cons_ne _ (Ne.symm hid)
      by_cases hmem : p.id ∈ ids
      · simp [placed, hid, hmem, hidx]
        omega
      · simp [placed, hid, hmem]

theorem reorder_ok {rows : List RoomTypePhoto}
    (h : ((reorder propertyId roomTypeId ids).runWith φ db).res = .ok rows) :
    ids.Nodup ∧ (∀ id ∈ ids, ∃ p ∈ gallery roomTypeId db, p.id = id) ∧
      gallery roomTypeId ((reorder propertyId roomTypeId ids).runWith φ db).db =
        (gallery roomTypeId db).map (placed ids 0) := by
  -- Inside the transaction either every place is set or the call fails.
  have hbody : ∀ (places : List (Id × ℕ)) (w : PhotoDb → PhotoDb)
      {P : List Unit → Tx PhotoDb → PhotoDb → Prop},
      (∀ as, P as (.active (setSortOrders roomTypeId places ∘ w)) db) →
      (all (fun place : Id × ℕ => (write (fun _ => [.photo place.1])
        (setSortOrder roomTypeId place.1 place.2) fun _ => () : PhotoOp Unit)) places).ends
          P (fun _ _ _ => True) (.active w) db := by
    intro places
    induction places with
    | nil => exact fun w P hP => hP []
    | cons place places ih =>
      intro w P hP
      rw [all, Prog.ends_bind', ends_write_active]
      refine ⟨?_, fun _ => trivial⟩
      rw [Prog.ends_bind']
      exact ih _ fun as => hP (() :: as)
  have hends : (reorder propertyId roomTypeId ids).ends
      (fun _ _ s => ids.Nodup ∧ (∀ id ∈ ids, ∃ p ∈ gallery roomTypeId db, p.id = id) ∧
        gallery roomTypeId s = (gallery roomTypeId db).map (placed ids 0))
      (fun _ _ _ => True) .idle db := by
    simp only [reorder, requireRoomType, rowsFor, ends_simps]
    intro _ _ hvalid
    rw [not_or, not_not, List.any_eq_true] at hvalid
    rcases hvalid with ⟨hnodup, howned⟩
    refine hbody _ _ fun _ => ⟨hnodup, fun id hid => ?_, ?_⟩
    · by_contra hnone
      refine howned ⟨id, hid, ?_⟩
      simp only [Bool.not_eq_true', List.contains_eq_mem, decide_eq_false_iff_not, List.mem_map,
        not_exists, not_and]
      intro p hp hpid
      exact hnone ⟨p, (List.mem_insertionSort _).mp hp, hpid⟩
    · exact gallery_setSortOrders 0 db hnodup
  rcases ends_runFrom _ φ .idle db [] hends with ⟨hok, -⟩
  rcases hok rows h with ⟨-, hrows⟩
  exact hrows

/-- The photos that are named, in the order of the names. -/
def named (ids : List Id) (g : List RoomTypePhoto) : List RoomTypePhoto :=
  ids.filterMap fun id => g.find? fun p => p.id = id

section Named

variable {g : List RoomTypePhoto} {ids : List Id}

theorem find?_id (hids : (g.map (·.id)).Nodup) {p : RoomTypePhoto} (hp : p ∈ g) :
    (g.find? fun q => q.id = p.id) = some p := by
  refine find?_eq_some_of_unique hp (by simp) fun q hq hid => ?_
  exact List.inj_on_of_nodup_map hids hq hp (by simpa using hid)

theorem map_id_named (howned : ∀ id ∈ ids, ∃ p ∈ g, p.id = id) :
    (named ids g).map (·.id) = ids := by
  unfold named
  induction ids with
  | nil => rfl
  | cons id ids ih =>
    rcases howned id List.mem_cons_self with ⟨p, hp, hid⟩
    have hfound : (g.find? fun q => q.id = id).isSome := by
      rw [List.find?_isSome]
      exact ⟨p, hp, by simpa using hid⟩
    rcases Option.isSome_iff_exists.mp hfound with ⟨q, hq⟩
    have hqid : q.id = id := by simpa using List.find?_some hq
    rw [List.filterMap_cons, hq, List.map_cons, hqid,
      ih fun id hid => howned id (List.mem_cons_of_mem _ hid)]

theorem mem_named (hids : (g.map (·.id)).Nodup) {p : RoomTypePhoto} :
    p ∈ named ids g ↔ p ∈ g ∧ p.id ∈ ids := by
  unfold named
  rw [List.mem_filterMap]
  constructor
  · rintro ⟨id, hid, hfound⟩
    have hpid : p.id = id := by simpa using List.find?_some hfound
    exact ⟨List.mem_of_find?_eq_some hfound, hpid ▸ hid⟩
  · rintro ⟨hp, hid⟩
    exact ⟨p.id, hid, find?_id hids hp⟩

/-- A list of the photos starts with the names exactly when it starts with the named photos. -/
theorem ids_prefix_iff (hids : (g.map (·.id)).Nodup) (howned : ∀ id ∈ ids, ∃ p ∈ g, p.id = id)
    {l : List RoomTypePhoto} (hl : l.Perm g) :
    ids <+: l.map (·.id) ↔ named ids g <+: l := by
  constructor
  · intro h
    rcases List.prefix_map_iff.mp h with ⟨l', hl', rfl⟩
    have hself : l' = named (l'.map (·.id)) g := by
      unfold named
      rw [List.filterMap_map]
      have hsome : ∀ p ∈ l', ((fun id => g.find? fun q => q.id = id) ∘ (·.id)) p = some p :=
        fun p hp => find?_id hids (hl.subset (hl'.subset hp))
      rw [List.filterMap_congr hsome, List.filterMap_some]
    exact hself ▸ hl'
  · intro h
    have hmap := h.map (·.id)
    rwa [map_id_named howned] at hmap

theorem perm_named (hids : (g.map (·.id)).Nodup) (howned : ∀ id ∈ ids, ∃ p ∈ g, p.id = id)
    (hnodup : ids.Nodup) : g.Perm (named ids g ++ g.filter fun p => p.id ∉ ids) := by
  have hg : g.Nodup := .of_map _ hids
  have hnamed : (named ids g).Nodup := by
    refine .of_map (·.id) ?_
    rwa [map_id_named howned]
  refine (List.perm_ext_iff_of_nodup hg ?_).mpr fun p => ?_
  · rw [List.nodup_append]
    refine ⟨hnamed, hg.filter _, fun p hp q hq heq => ?_⟩
    have hnot : q.id ∉ ids := by simpa using (List.mem_filter.mp hq).2
    exact hnot (heq ▸ ((mem_named hids).mp hp).2)
  · rw [List.mem_append, mem_named hids, List.mem_filter, decide_eq_true_eq]
    tauto

theorem idxOf_of_getElem? {i : ℕ} {id : Id} (hnodup : ids.Nodup) (h : ids[i]? = some id) :
    ids.idxOf id = i := by
  rcases List.getElem?_eq_some_iff.mp h with ⟨hi, rfl⟩
  exact hnodup.idxOf_getElem i hi

theorem named_strict {g₀ : List RoomTypePhoto}
    (hids : ((g₀.map (placed ids 0)).map (·.id)).Nodup)
    (howned : ∀ id ∈ ids, ∃ p ∈ g₀.map (placed ids 0), p.id = id) (hnodup : ids.Nodup) :
    (named ids (g₀.map (placed ids 0))).Pairwise fun p q =>
      listedBefore p q ∧ ¬listedBefore q p := by
  have hmap := map_id_named howned
  have hplace : ∀ (i : ℕ) (hi : i < (named ids (g₀.map (placed ids 0))).length),
      ((named ids (g₀.map (placed ids 0)))[i]).sortOrder = i := by
    intro i hi
    have hat : ids[i]? = some ((named ids (g₀.map (placed ids 0)))[i]).id := by
      have hmapped := congrArg (·[i]?) hmap
      simp only [List.getElem?_map, List.getElem?_eq_getElem hi, Option.map_some] at hmapped
      exact hmapped.symm
    rcases (mem_named hids).mp (List.getElem_mem hi) with ⟨hmem, hid⟩
    rcases List.mem_map.mp hmem with ⟨p, -, hp⟩
    rw [← hp, placed_id] at hid hat
    rw [← hp, placed, if_pos hid]
    show 0 + ids.idxOf p.id = i
    rw [idxOf_of_getElem? hnodup hat, Nat.zero_add]
  rw [List.pairwise_iff_getElem]
  intro i j hi hj hij
  have hp := hplace i hi
  have hq := hplace j hj
  unfold listedBefore
  omega

end Named

/-- **The named photos are listed first exactly when every other photo has a later place** than the
last of them was given: a higher number, or the same one and a later creation. -/
theorem reorder_first_iff {rows : List RoomTypePhoto}
    (h : ((reorder propertyId roomTypeId ids).runWith φ db).res = .ok rows) :
    (∀ l, Listed roomTypeId ((reorder propertyId roomTypeId ids).runWith φ db).db l →
        ids <+: l.map (·.id)) ↔
      ∀ p ∈ gallery roomTypeId db, p.id ∉ ids → ∀ last ∈ gallery roomTypeId db,
        ids.getLast? = some last.id → ids.length ≤ p.sortOrder ∨
          p.sortOrder + 1 = ids.length ∧ last.createdAt < p.createdAt := by
  rcases reorder_ok h with ⟨hnodup, howned, hafter⟩
  have hids := nodup_ids roomTypeId
    ((reorder propertyId roomTypeId ids).runWith φ db).db
  have hgnodup := nodup_gallery roomTypeId
    ((reorder propertyId roomTypeId ids).runWith φ db).db
  unfold Listed
  rw [hafter] at hids hgnodup ⊢
  have howned' : ∀ id ∈ ids, ∃ p ∈ (gallery roomTypeId db).map (placed ids 0), p.id = id := by
    intro id hid
    rcases howned id hid with ⟨p, hp, hpid⟩
    exact ⟨_, List.mem_map_of_mem hp, (placed_id ids 0 p).trans hpid⟩
  have hstart : (∀ l, Arranged listedBefore ((gallery roomTypeId db).map (placed ids 0)) l →
        ids <+: l.map (·.id)) ↔
      ∀ l, Arranged listedBefore ((gallery roomTypeId db).map (placed ids 0)) l →
        named ids ((gallery roomTypeId db).map (placed ids 0)) <+: l :=
    forall_congr' fun l => imp_congr_right fun hl => ids_prefix_iff hids howned' hl.1
  rw [hstart, forall_prefix_iff (perm_named hids howned' hnodup) hgnodup
    (named_strict hids howned' hnodup)]
  constructor
  · intro hstrict p hp hnot last hlast hend
    have hmem : last.id ∈ ids := List.mem_of_getLast? hend
    have hx : placed ids 0 last ∈ named ids ((gallery roomTypeId db).map (placed ids 0)) :=
      (mem_named hids).mpr ⟨List.mem_map_of_mem hlast, by rw [placed_id]; exact hmem⟩
    have hidx : ids.idxOf last.id = ids.length - 1 :=
      idxOf_of_getElem? hnodup (List.getLast?_eq_getElem? ▸ hend)
    have hpos : 0 < ids.length := List.length_pos_of_mem hmem
    have hself : placed ids 0 p = p := if_neg hnot
    have hafter := hstrict _ hx p (List.mem_filter.mpr
      ⟨List.mem_map.mpr ⟨p, hp, hself⟩, by simpa using hnot⟩)
    simp only [listedBefore, placed, if_pos hmem, hidx] at hafter
    omega
  · intro hlater x hx y hy
    rcases (mem_named hids).mp hx with ⟨hxg, hxid⟩
    rcases List.mem_map.mp hxg with ⟨q, hq, rfl⟩
    rcases List.mem_filter.mp hy with ⟨hyg, hyid⟩
    rcases List.mem_map.mp hyg with ⟨p, hp, rfl⟩
    rw [placed_id] at hxid
    simp only [placed_id, decide_not, Bool.not_eq_true', decide_eq_false_iff_not] at hyid
    have hpos : 0 < ids.length := List.length_pos_of_mem hxid
    have hlt : ids.idxOf q.id < ids.length := List.idxOf_lt_length_of_mem hxid
    rcases howned _ (List.getLast_mem (List.ne_nil_of_length_pos hpos)) with ⟨last, hlast, hlastid⟩
    have hend : ids.getLast? = some last.id := by
      rw [hlastid]
      exact List.getLast?_eq_some_getLast _
    have hcases := hlater p hp hyid last hlast hend
    simp only [listedBefore, placed, if_pos hxid, if_neg hyid]
    by_cases heq : ids.idxOf q.id = ids.length - 1
    · -- The photo that was named last.
      have hidx : ids.idxOf last.id = ids.length - 1 :=
        idxOf_of_getElem? hnodup (List.getLast?_eq_getElem? ▸ hend)
      have hsame : q.id = last.id := (List.idxOf_inj hxid).mp (heq.trans hidx.symm)
      obtain rfl : q = last := List.inj_on_of_nodup_map (nodup_ids roomTypeId db) hq hlast hsame
      omega
    · omega

end Travelo.RoomTypePhotos

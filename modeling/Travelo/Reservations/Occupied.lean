import Travelo.Claims.Lodging
import Travelo.Reservations.Deeds

/-!
# Guests and room statuses

`Board.lodging` says which guest in house has which room. The rooms carry a mark of their
own, the status, written by hand in each method; `marked P` is the set of rooms whose status
satisfies `P`.

The first half follows both through the shuffles and turns of a call, for any mark that an
OCCUPIED room has and an assignable one has not. `rooms_match` is about the mark OCCUPIED.
-/

namespace Travelo

open ReadCommitted Relation Function Claims

/-- The room of a guest in house. -/
def Reservation.lodged (r : Reservation) : Option Id :=
  if r.deletedAt = none ∧ r.status = .CHECKED_IN then r.roomId else none

namespace Board

/-- Which reservation has which room. -/
def lodging (b : Board) (id : Id) : Option Id :=
  (b.reservations.find? id).bind Reservation.lodged

def roomStatus (b : Board) (roomId : Id) : Option RoomStatus :=
  (b.rooms.find? roomId).map (·.status)

/-- The rooms whose status satisfies `P`. -/
def marked (P : Option RoomStatus → Prop) (b : Board) : Set Id := {k | P (b.roomStatus k)}

variable {b : Board} {P : Option RoomStatus → Prop}

variable {r : Reservation}

theorem lodging_of_mem (hr : r ∈ b.reservations) :
    b.lodging r.id = r.lodged := by
  simp [lodging, find?_key hr]

theorem lodging_eq_some {id k : Id} :
    b.lodging id = some k ↔ ∃ r ∈ b.reservations, r.id = id ∧ r.lodged = some k := by
  simp only [lodging, Option.bind_eq_some_iff, find?_eq_some, and_assoc]

variable {room : Room}

theorem roomStatus_of_mem (hr : room ∈ b.rooms) :
    b.roomStatus room.id = some room.status := by
  simp [roomStatus, find?_key hr]

/-! ### The reservations -/

variable {f : Reservation → Reservation} {hf : ∀ r, (f r).id = r.id}

theorem lodging_update_of_keep {k : Id}
    (hkeep : ∀ r ∈ b.reservations, r.id = k → (f r).lodged = r.lodged) :
    (b.update k f hf).lodging = b.lodging := by
  funext id
  simp only [lodging, update, find?_update]
  cases hfind : b.reservations.find? id with
  | none => rfl
  | some r =>
    obtain ⟨hr, hid⟩ := Table.find?_eq_some.mp hfind
    by_cases hk : r.id = k
    · simp [hk, hkeep r hr hk]
    · simp [hk]

theorem lodging_update (hr : r ∈ b.reservations) :
    (b.update r.id f hf).lodging = Function.update b.lodging r.id (f r).lodged := by
  funext id
  simp only [lodging, update, find?_update]
  by_cases hid : id = r.id
  · subst hid
    simp [find?_key hr]
  · rw [Function.update_of_ne hid, lodging]
    cases hfind : b.reservations.find? id with
    | none => rfl
    | some r' =>
      have hne : r'.id ≠ r.id := key_of_find? hfind ▸ hid
      simp [hne]

theorem mem_update_of_ne {k : Id} (hr : r ∈ b.reservations) (hne : r.id ≠ k) :
    r ∈ (b.update k f hf).reservations := by
  simp only [update, mem_update]
  exact ⟨r, hr, by simp [hne]⟩

theorem lodging_insert {row : Reservation} (hfree : ∀ r ∈ b.reservations, r.id ≠ row.id)
    (hrow : row.lodged = none) : (b.insert row).lodging = b.lodging := by
  have hkey : b.reservations.hasKey row.id = false := Table.hasKey_eq_false.mpr hfree
  funext id
  simp only [lodging, insert, find?_insert hkey]
  by_cases hid : row.id = id
  · have hnone : b.reservations.find? id = none := by
      simpa [Table.find?, List.find?_eq_none, mem_rows, ← hid] using hfree
    simp [hid, hrow, hnone]
  · simp [hid]

@[simp] theorem lodging_setStatus (k : Id) (status : RoomStatus) (now : ℤ) :
    (b.setStatus k status now).lodging = b.lodging := rfl

@[simp] theorem lodging_vacate (o : Option Id) (now : ℤ) :
    (b.vacate o now).lodging = b.lodging := by
  cases o <;> rfl

@[simp] theorem lodging_record (e : ReservationEvent) : (b.record e).lodging = b.lodging := rfl

/-! ### The rooms -/

@[simp] theorem marked_update (k : Id) (f : Reservation → Reservation)
    (hf : ∀ r, (f r).id = r.id) : marked P (b.update k f hf) = marked P b := rfl

@[simp] theorem marked_insert (row : Reservation) : marked P (b.insert row) = marked P b := rfl

@[simp] theorem marked_record (e : ReservationEvent) : marked P (b.record e) = marked P b := rfl

theorem marked_congr {b' : Board} (h : b'.rooms = b.rooms) : marked P b' = marked P b := by
  simp only [marked, roomStatus, h]

theorem roomStatus_setStatus (k : Id) (status : RoomStatus) (now : ℤ) (j : Id) :
    (b.setStatus k status now).roomStatus j =
      if j = k then (b.roomStatus j).map fun _ => status else b.roomStatus j := by
  simp only [roomStatus, setStatus, find?_update, Option.map_map]
  cases hfind : b.rooms.find? j with
  | none => simp
  | some room =>
    have hid : room.id = j := key_of_find? hfind
    by_cases hj : j = k
    · simp [hid, hj]
    · simp [hid, hj]

theorem marked_occupy (hP : P (some .OCCUPIED)) (hr : room ∈ b.rooms) (now : ℤ) :
    marked P (b.setStatus room.id .OCCUPIED now) = Insert.insert room.id (marked P b) := by
  ext j
  simp only [marked, roomStatus_setStatus, Set.mem_ofPred_eq, Set.mem_insert_iff]
  by_cases hj : j = room.id
  · simp [hj, roomStatus_of_mem hr, hP]
  · simp [hj]

theorem mem_rooms_vacate {o : Option Id} (hr : room ∈ b.rooms) (hne : o ≠ some room.id) (now : ℤ) :
    room ∈ (b.vacate o now).rooms := by
  cases o with
  | none => exact hr
  | some k =>
    have hk : room.id ≠ k := fun h => hne (by rw [h])
    simp only [vacate, setStatus, mem_update]
    exact ⟨room, hr, by simp [hk]⟩

theorem not_marked_of_ready (hfree : ∀ s ∈ ASSIGNABLE_ROOM_STATUSES, ¬ P (some s))
    (hr : room ∈ b.rooms) (hready : room.status ∈ ASSIGNABLE_ROOM_STATUSES) :
    room.id ∉ marked P b := by
  intro hm
  rw [marked, Set.mem_ofPred_eq, roomStatus_of_mem hr] at hm
  exact hfree _ hready hm

theorem diff_subset_marked_vacate (o : Option Id) (now : ℤ) :
    marked P b \ {k | o = some k} ⊆ marked P (b.vacate o now) := by
  intro j hj
  cases o with
  | none => exact hj.1
  | some k =>
    have hne : j ≠ k := fun h => hj.2 (by rw [h]; rfl)
    simpa [marked, vacate, roomStatus_setStatus, hne] using hj.1

theorem marked_vacate (hP : ∀ o : Option RoomStatus, ¬ P (o.map fun _ => .DIRTY)) (o : Option Id)
    (now : ℤ) : marked P (b.vacate o now) ⊆ marked P b \ {k | o = some k} := by
  intro j hj
  cases o with
  | none => exact ⟨hj, by simp⟩
  | some k =>
    by_cases hjk : j = k
    · subst hjk
      simp only [marked, vacate, roomStatus_setStatus, Set.mem_ofPred_eq, if_true] at hj
      exact absurd hj (hP _)
    · simp only [marked, vacate, roomStatus_setStatus, Set.mem_ofPred_eq, if_neg hjk] at hj
      exact ⟨hj, fun h => hjk (Option.some.inj h).symm⟩

end Board

variable {r : Reservation}

theorem lodged_of_inHouse (hl : r.deletedAt = none) (hs : r.status = .CHECKED_IN) :
    r.lodged = r.roomId := by
  simp [Reservation.lodged, hl, hs]

theorem lodged_of_not (hs : r.status ≠ .CHECKED_IN) : r.lodged = none := by
  simp [Reservation.lodged, hs]

theorem Reservation.lodged_eq_some {k : Id} :
    r.lodged = some k ↔ (r.deletedAt = none ∧ r.status = .CHECKED_IN) ∧ r.roomId = some k := by
  unfold Reservation.lodged
  split <;> simp_all

/-! ## What a step does to the guests and the rooms -/

/-- A guest moves into a ready room, leaves, or trades with another; `takes` is the swap of a
guest in house with a booking that is not. -/
inductive Change (c : Call) (start : Board) : Board → Board → Prop where
  | stays {b b' : Board} (hl : b'.lodging = b.lodging) (hr : b'.rooms = b.rooms) : Change c start b b'
  | moves {b b' : Board} {g : Id} {room : Room} {now : ℤ} (hroom : room ∈ b.rooms)
      (hready : room.status ∈ ASSIGNABLE_ROOM_STATUSES) (hne : b.lodging g ≠ some room.id)
      (hl : b'.lodging = update b.lodging g (some room.id))
      (hr : b'.rooms = ((b.vacate (b.lodging g) now).setStatus room.id .OCCUPIED now).rooms) :
      Change c start b b'
  | leaves {b b' : Board} {g : Id} {now : ℤ} (hl : b'.lodging = update b.lodging g none)
      (hr : b'.rooms = (b.vacate (b.lodging g) now).rooms) : Change c start b b'
  | trades {b b' : Board} {g g' k k' : Id} (hg : b.lodging g = some k) (hg' : b.lodging g' = some k')
      (hl : b'.lodging = update (update b.lodging g (some k')) g' (some k))
      (hr : b'.rooms = b.rooms) : Change c start b b'
  | takes {b' : Board} {guest other : Reservation} {k : Id} (hg : guest ∈ start.reservations)
      (ho : other ∈ start.reservations)
      (hk : c.action = .swapRooms guest.id other.id ∨ c.action = .swapRooms other.id guest.id)
      (hin : guest.lodged.isSome) (hout : other.lodged = none) (hroom : other.roomId = some k)
      (hl : b'.lodging = update start.lodging guest.id (some k)) (hr : b'.rooms = start.rooms) :
      Change c start start b'

section Steps

variable {b b' start : Board} {c : Call}

theorem update_eq_of_eq {g : Id → Option Id} {x : Id} {v : Option Id} (h : g x = v) :
    update g x v = g := by
  rw [← h, update_eq_self]

theorem lodging_swap {guest other : Reservation} (ra rb : Id) (now : ℤ) (e₁ e₂ : ReservationEvent)
    (ha : guest ∈ b.reservations) (hb : other ∈ b.reservations)
    (hla : guest.deletedAt = none) (hlb : other.deletedAt = none) (hne : guest.id ≠ other.id) :
    ((((b.update guest.id fun r => { r with roomId := some rb, updatedAt := now }).update other.id
      fun r => { r with roomId := some ra, updatedAt := now }).record e₁).record e₂).lodging =
      update (update b.lodging guest.id (if guest.status = .CHECKED_IN then some rb else none))
        other.id (if other.status = .CHECKED_IN then some ra else none) := by
  have hkept : other ∈ (b.update guest.id fun r =>
      { r with roomId := some rb, updatedAt := now }).reservations :=
    Board.mem_update_of_ne hb (Ne.symm hne)
  rw [Board.lodging_record, Board.lodging_record, Board.lodging_update hkept,
    Board.lodging_update ha]
  simp [Reservation.lodged, hla, hlb]

theorem Shuffle.change (h : Shuffle c start b b') : Change c start b b' := by
  cases h with
  | edited hid hkeep he =>
    refine .stays ?_ rfl
    rw [Board.lodging_record, Board.lodging_update_of_keep fun r _ _ => ?_]
    simp [Reservation.lodged, (hkeep r).1, (hkeep r).2.1, (hkeep r).2.2]
  | paid =>
    refine .stays ?_ rfl
    rw [Board.lodging_update_of_keep fun r _ _ => by rfl]
  | @housed _ before roomId now e hmem hs he =>
    refine .stays ?_ rfl
    rw [Board.lodging_record, Board.lodging_update_of_keep fun r hr hid => ?_]
    obtain rfl : r = before := eq_of_key_eq hr hmem hid
    rw [lodged_of_not, lodged_of_not]
    · rcases hs with hs | hs <;> simp [hs]
    · rcases hs with hs | hs <;> simp [hs]
  | @swapped guest other ra rb now e₁ e₂ hk ha ho hla hlb hne hra hrb he₁ he₂ =>
    have hlodging := lodging_swap ra rb now e₁ e₂ ha ho hla hlb hne
    have hg : b.lodging guest.id = guest.lodged := Board.lodging_of_mem ha
    have ho' : b.lodging other.id = other.lodged := Board.lodging_of_mem ho
    have hstays : guest.status ≠ .CHECKED_IN → update b.lodging guest.id none = b.lodging :=
      fun hgs => update_eq_of_eq (hg.trans (lodged_of_not hgs))
    by_cases hgs : guest.status = .CHECKED_IN <;> by_cases hos : other.status = .CHECKED_IN
    · -- both are in house
      rw [if_pos hgs, if_pos hos] at hlodging
      rw [lodged_of_inHouse hla hgs, hra] at hg
      rw [lodged_of_inHouse hlb hos, hrb] at ho'
      exact .trades hg ho' hlodging rfl
    · -- the guest takes the room of a booking
      rw [if_pos hgs, if_neg hos, update_eq_of_eq (by rw [update_of_ne (Ne.symm hne), ho',
        lodged_of_not hos])] at hlodging
      exact .takes ha ho (.inl hk) (by simp [lodged_of_inHouse hla hgs, hra]) (lodged_of_not hos)
        hrb hlodging rfl
    · -- the other way round
      rw [if_neg hgs, if_pos hos, hstays hgs] at hlodging
      exact .takes ho ha (.inr hk) (by simp [lodged_of_inHouse hlb hos, hrb]) (lodged_of_not hgs)
        hra hlodging rfl
    · -- neither has arrived
      rw [if_neg hgs, if_neg hos, hstays hgs, update_eq_of_eq (ho'.trans (lodged_of_not hos))]
        at hlodging
      exact .stays hlodging rfl
  | @moved _ before room ratePaise totalPaise now e hmem hl hs hroom hready hne he =>
    have hlodging : b.lodging before.id = before.roomId :=
      (Board.lodging_of_mem hmem).trans (lodged_of_inHouse hl hs)
    refine @Change.moves _ _ _ _ before.id room now hroom hready (hlodging ▸ hne) ?_ ?_
    · rw [Board.lodging_record, Board.lodging_setStatus, Board.lodging_vacate,
        Board.lodging_update hmem]
      simp only [Reservation.lodged, hl, hs, and_self, if_true]
    · rw [hlodging]
      cases before.roomId <;> rfl

theorem Turn.change (h : Turn b b') : Change c start b b' := by
  cases h with
  | created hnew hs hl =>
    refine .stays (Board.lodging_insert hnew (lodged_of_not ?_)) rfl
    rcases hs with hs | hs <;> simp [hs]
  | @turned before status f e hid hmem hl ht hnot hin hf he =>
    refine .stays ?_ rfl
    rw [Board.lodging_record, Board.lodging_update_of_keep fun r hr hrid => ?_]
    obtain rfl : r = before := eq_of_key_eq hr hmem hrid
    rw [lodged_of_not, lodged_of_not hin]
    rw [(hf r).1]
    exact hnot
  | @checkedIn before room now e guest hmem hl ht hroom hready he =>
    have hnone : b.lodging before.id = none := by
      rw [Board.lodging_of_mem hmem, lodged_of_not]
      intro hs
      simp [hs, canTransition, RESERVATION_TRANSITIONS] at ht
    refine @Change.moves _ _ _ _ before.id room now hroom hready (by simp [hnone]) ?_ ?_
    · rw [Board.lodging_record, Board.lodging_setStatus, Board.lodging_update hmem]
      simp only [Reservation.lodged, hl, and_self, if_true]
    · rw [hnone]
      rfl
  | @checkedOut before now e hmem hl ht he =>
    have hlodging : b.lodging before.id = before.roomId := by
      rw [Board.lodging_of_mem hmem, lodged_of_inHouse hl]
      cases hs : before.status <;> simp_all [canTransition, RESERVATION_TRANSITIONS]
    refine @Change.leaves _ _ _ _ before.id now ?_ ?_
    · rw [Board.lodging_record, Board.lodging_vacate, Board.lodging_update hmem,
        lodged_of_not (by simp)]
    · rw [hlodging]
      cases before.roomId <;> rfl

theorem Does.invariant {I : Board → Prop} {s : HotelDb} (h : Does c start s)
    (hstep : ∀ b b', Change c start b b' → I b → I b') (hstart : I start) : I s.board := by
  obtain ⟨mid, hshuffles, hlast⟩ := h
  have hmid : I mid := by
    clear hlast
    induction hshuffles with
    | refl => exact hstart
    | tail _ hs ih => exact hstep _ _ hs.change ih
  rcases hlast with hsame | hturn
  · exact hsame ▸ hmid
  · exact hstep _ _ hturn.change hmid

/-! ## Nobody shares a room -/

/-- A guest in house that is swapped with a booking gets a room that is marked and that nobody
has. -/
def SafeSwap (P : Option RoomStatus → Prop) (c : Call) (b : Board) : Prop :=
  ∀ guest ∈ b.reservations, ∀ other ∈ b.reservations,
    c.action = .swapRooms guest.id other.id ∨ c.action = .swapRooms other.id guest.id →
    guest.lodged.isSome → other.lodged = none → ∀ k, other.roomId = some k →
      k ∈ b.marked P ∧ ∀ r ∈ b.reservations, r.lodged ≠ some k

variable {P : Option RoomStatus → Prop}

theorem Change.lodged (h : Change c start b b') (hocc : P (some .OCCUPIED))
    (hfree : ∀ s ∈ ASSIGNABLE_ROOM_STATUSES, ¬ P (some s)) (hswap : SafeSwap P c start)
    (hb : Lodged b.lodging (b.marked P)) :
    Lodged b'.lodging (b'.marked P) := by
  cases h with
  | stays hl hr => rwa [hl, Board.marked_congr hr]
  | @moves _ _ g room now hroom hready hne hl hr =>
    rw [hl, Board.marked_congr hr, Board.marked_occupy hocc (Board.mem_rooms_vacate hroom hne now)]
    exact (hb.move (Board.not_marked_of_ready hfree hroom hready)).mono
      (Set.insert_subset_insert (Board.diff_subset_marked_vacate _ now))
  | @leaves _ _ g now hl hr =>
    rw [hl, Board.marked_congr hr]
    exact (hb.leave g).mono (Board.diff_subset_marked_vacate _ now)
  | trades hg hg' hl hr =>
    rw [hl, Board.marked_congr hr]
    exact hb.trade hg hg'
  | takes hg ho hk hin hout hroom hl hr =>
    rw [hl, Board.marked_congr hr]
    obtain ⟨hmarked, hnobody⟩ := hswap _ hg _ ho hk hin hout _ hroom
    refine hb.take hmarked fun x hx => ?_
    obtain ⟨r, hr, -, hlodged⟩ := Board.lodging_eq_some.mp hx
    exact hnobody r hr hlodged

/-! ## Occupied rooms are held -/

/-- A guest in house is swapped with another guest in house only. -/
def EvenSwap (c : Call) (b : Board) : Prop :=
  match c.action with
  | .swapRooms id otherId =>
    ∀ guest ∈ b.reservations, ∀ other ∈ b.reservations, guest.id = id → other.id = otherId →
      guest.lodged.isSome = other.lodged.isSome
  | _ => True

instance (c : Call) (b : Board) : Decidable (EvenSwap c b) := by
  obtain ⟨env, propertyId, actorStaffId, action⟩ := c
  apply Action.casesOn (motive := fun action =>
    Decidable (EvenSwap ⟨env, propertyId, actorStaffId, action⟩ b)) action
  all_goals intros; unfold EvenSwap; infer_instance

theorem EvenSwap.not_uneven (h : EvenSwap c b) {guest other : Reservation}
    (hg : guest ∈ b.reservations) (ho : other ∈ b.reservations)
    (hk : c.action = .swapRooms guest.id other.id ∨ c.action = .swapRooms other.id guest.id)
    (hin : guest.lodged.isSome) : other.lodged ≠ none := by
  intro hout
  rcases hk with hk | hk
  · simp only [EvenSwap, hk] at h
    have heven := h guest hg other ho rfl rfl
    simp [hin, hout] at heven
  · simp only [EvenSwap, hk] at h
    have heven := h other ho guest hg rfl rfl
    simp [hin, hout] at heven

theorem EvenSwap.safe (h : EvenSwap c b) : SafeSwap P c b :=
  fun _ hg _ ho hk hin hout => absurd hout (h.not_uneven hg ho hk hin)

theorem Change.full (h : Change c start b b') (hocc : P (some .OCCUPIED))
    (hdirty : ∀ o : Option RoomStatus, ¬ P (o.map fun _ => .DIRTY)) (heven : EvenSwap c start)
    (hb : Full b.lodging (b.marked P)) :
    Full b'.lodging (b'.marked P) := by
  cases h with
  | stays hl hr => rwa [hl, Board.marked_congr hr]
  | @moves _ _ g room now hroom hready hne hl hr =>
    rw [hl, Board.marked_congr hr, Board.marked_occupy hocc (Board.mem_rooms_vacate hroom hne now)]
    exact hb.move.mono (Set.insert_subset_insert (Board.marked_vacate hdirty _ now))
  | @leaves _ _ g now hl hr =>
    rw [hl, Board.marked_congr hr]
    exact (hb.leave g).mono (Board.marked_vacate hdirty _ now)
  | trades hg hg' hl hr =>
    rw [hl, Board.marked_congr hr]
    exact hb.trade hg hg'
  | takes hg ho hk hin hout hroom hl hr => exact absurd hout (heven.not_uneven hg ho hk hin)

end Steps

/-- The mark this is about. -/
def Occupied (o : Option RoomStatus) : Prop := o = some .OCCUPIED

/-- Every guest in house with a room has an OCCUPIED one, and every OCCUPIED room has a guest. -/
structure RoomsMatch (b : Board) : Prop where
  guests : ∀ r ∈ b.reservations, r.deletedAt = none → r.status = .CHECKED_IN →
    ∀ k, r.roomId = some k → ∃ room ∈ b.rooms, room.id = k ∧ room.status = .OCCUPIED
  rooms : ∀ room ∈ b.rooms, room.status = .OCCUPIED →
    ∃ r ∈ b.reservations, r.deletedAt = none ∧ r.status = .CHECKED_IN ∧ r.roomId = some room.id

theorem RoomsMatch.of_lodged {b : Board} (hl : Lodged b.lodging (b.marked Occupied))
    (hf : Full b.lodging (b.marked Occupied)) : RoomsMatch b := by
  constructor
  · intro r hr hlive hs k hk
    have hmarked := hl.held r.id k (by rw [Board.lodging_of_mem hr, lodged_of_inHouse hlive hs, hk])
    obtain ⟨room, hfind, hstatus⟩ := Option.map_eq_some_iff.mp hmarked
    obtain ⟨hroom, hid⟩ := Table.find?_eq_some.mp hfind
    exact ⟨room, hroom, hid, hstatus⟩
  · intro room hroom hs
    obtain ⟨id, hid⟩ := hf room.id (by
      rw [Board.marked, Set.mem_ofPred_eq, Board.roomStatus_of_mem hroom, hs]
      rfl)
    obtain ⟨r, hr, -, hlodged⟩ := Board.lodging_eq_some.mp hid
    obtain ⟨hin, hk⟩ := Reservation.lodged_eq_some.mp hlodged
    exact ⟨r, hr, hin.1, hin.2, hk⟩

/-- From a house with no guest and no OCCUPIED room, the rooms match the guests after every
call of a run whose swaps are even. -/
theorem rooms_match {db : HotelDb} (hrooms : ∀ room ∈ db.rooms, room.status ≠ .OCCUPIED)
    (hguests : ∀ r ∈ db.reservations, r.lodged = none)
    (calls : List (Call × (ℕ → Option String)))
    (heven : EachStep Call.prog (fun c s _ => EvenSwap c s.board) calls db) :
    EachStep Call.prog (fun _ _ s => RoomsMatch s.board) calls db := by
  have hstart : Lodged db.board.lodging (db.board.marked Occupied) ∧
      Full db.board.lodging (db.board.marked Occupied) := by
    have hnone : ∀ id k, db.board.lodging id ≠ some k := by
      intro id k hk
      obtain ⟨r, hr, -, hlodged⟩ := Board.lodging_eq_some.mp hk
      simp [hguests r hr] at hlodged
    refine ⟨⟨fun g k hg => absurd hg (hnone g k), fun g _ k hg => absurd hg (hnone g k)⟩, ?_⟩
    intro k hk
    obtain ⟨room, hfind, hs⟩ := Option.map_eq_some_iff.mp hk
    exact absurd hs (hrooms room (mem_of_find? hfind))
  refine EachStep.mono (I := fun s => Lodged s.board.lodging (s.board.marked Occupied) ∧
    Full s.board.lodging (s.board.marked Occupied)) (fun c s φ hs hc => ?_) calls db heven hstart
  have hkept := (c.does_runWith φ s).invariant (I := fun b =>
    Lodged b.lodging (b.marked Occupied) ∧ Full b.lodging (b.marked Occupied))
    (fun b b' hstep hb => ⟨?_, ?_⟩) hs
  · exact ⟨.of_lodged hkept.1 hkept.2, hkept⟩
  · exact hstep.lodged rfl (by simp [ASSIGNABLE_ROOM_STATUSES, Occupied]) hc.safe hb.1
  · exact hstep.full rfl (by simp [Occupied]) hc hb.2

/-! ### A swap across the door -/

/-- Two rooms and no bookings. -/
def swapDb : HotelDb where
  rooms := ((∅ : Table Room.id).insert
    { id := 101, propertyId := 1, roomTypeId := 7, number := "101", status := .AVAILABLE }).insert
    { id := 102, propertyId := 1, roomTypeId := 7, number := "102", status := .AVAILABLE }
  roomTypes := (∅ : Table RoomType.id).insert
    { id := 7, propertyId := 1, name := "Deluxe", baseRate := 100000 }

def bookRoom (id roomId : Id) : Call where
  env := { now := 0, uuid := fun n => id + n, rates := false }
  propertyId := 1
  action := .create {
    roomTypeId := 7, roomId := some roomId
    guest := { guestName := "Guest", guestPhone := "0" }
    checkIn := 10, checkOut := 12, ratePaise := some 100000, status := some .CONFIRMED }

/-- The action on the day of the arrivals. -/
def onDayTen (action : Action) : Call where
  env := { now := 10 * 86400000 }
  propertyId := 1
  action

/-- Two bookings, the first of which arrives. -/
def oneArrived : List (Call × (ℕ → Option String)) :=
  [(bookRoom 10 101, noFaults), (bookRoom 20 102, noFaults),
    (onDayTen (.checkIn 10 {}), noFaults)]

/-- The guest is now in room 102, which is AVAILABLE, and nobody is in room 101, which is
OCCUPIED. -/
theorem swap_leaves_occupied :
    let s := runAll Call.prog (oneArrived ++ [(onDayTen (.swapRooms 10 20), noFaults)]) swapDb
    s.reservations.rows.map (fun r => (r.id, r.status, r.roomId)) =
        [(10, .CHECKED_IN, some 102), (20, .CONFIRMED, some 101)] ∧
      s.rooms.rows.map (fun r => (r.id, r.status)) = [(101, .OCCUPIED), (102, .AVAILABLE)] ∧
      ¬ RoomsMatch s.board := by
  refine ⟨by decide, by decide, fun h => ?_⟩
  have hrooms := h.rooms
  revert hrooms
  decide

/-- The same run with the swap after both have arrived. -/
theorem even_swap_matches :
    EachStep Call.prog (fun _ _ s => RoomsMatch s.board)
      (oneArrived ++ [(onDayTen (.checkIn 20 {}), noFaults),
        (onDayTen (.swapRooms 10 20), noFaults)]) swapDb :=
  rooms_match (by decide) (by decide) _ (by decide)

end Travelo

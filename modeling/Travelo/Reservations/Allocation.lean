import Mathlib.Data.List.Pairwise
import Travelo.Claims.FirstFit
import Travelo.Reservations.Checks
import Travelo.Reservations.Commit

/-!
# The rooms of the arrivals

`autoAllocate` carries two records of what is taken: the rows of the database and what the run has
claimed. `Blocks` says that together they are the rooms taken at the start and by the items placed so
far, so that a run and a dry run are both `Claims.FirstFit.place`.
-/

namespace Travelo

open ReadCommitted Claims
open FirstFit (place choose claim claim_some map_fst_place place_sound)

namespace ReservationsService

/-- Two stays share a night. -/
def sharesNight (a b : Reservation) : Bool := a.checkIn < b.checkOut && b.checkIn < a.checkOut

/-- A committed stay of the property is in the room for a night of the reservation. -/
def takenIn (propertyId : Id) (db : HotelDb) (res : Reservation) (room : Room) : Bool :=
  db.reservations.rows.any (RoomProbe.clashes
    { propertyId, roomId := room.id, checkIn := res.checkIn, checkOut := res.checkOut,
      excludeId := some res.id })

/-- Claimed earlier in the run for a stay that shares a night. -/
def claimedIn (pending : List Reservation) (assigned : List (Id × Id)) (res : Reservation)
    (room : Room) : Bool :=
  assigned.any fun a => a.2 = room.id && overlapsPool pending a.1 res

/-- The same room, for stays that share a night. -/
def inTheWay (a : Reservation) (k : Room) (b : Reservation) (l : Room) : Bool :=
  k.id = l.id && sharesNight a b

/-- The rooms of the type. -/
def offered (offerable : List Room) (res : Reservation) : List Room :=
  offerable.filter fun r => r.roomTypeId = res.roomTypeId

def lineOf (p : Reservation × Option Room) : PlanLine :=
  ⟨p.1.id, p.1.reservationNumber, p.2.map (·.id), p.2.map (·.number)⟩

theorem assigned_id (env : Env) (room : Room) (r : Reservation) :
    { r with roomId := some room.id, updatedAt := env.now }.id = r.id := rfl

/-- A placement is written. -/
def housed (env : Env) (actorStaffId : Option Id) (db : HotelDb) (p : Reservation × Option Room) :
    HotelDb :=
  match p.2 with
  | none => db
  | some room =>
    (db.updateReservation p.1.id (fun r => { r with roomId := some room.id, updatedAt := env.now })
      (assigned_id env room)).recordEvent ⟨p.1.id, "room_auto_assigned", actorStaffId,
        .roomAutoAssigned room.id room.number⟩

/-- The row a placement leaves of a row. -/
def withRoom (env : Env) (p : Reservation × Option Room) (a : Reservation) : Reservation :=
  match p.2 with
  | none => a
  | some room => if a.id = p.1.id then { a with roomId := some room.id, updatedAt := env.now } else a

section Allocation

variable {env : Env} {propertyId : Id} {actorStaffId : Option Id} {pending : List Reservation}
  {offerable : List Room} {assigned : List (Id × Id)} {res : Reservation} {db s : HotelDb}
  {w : HotelDb → HotelDb}

variable {room : Room}

theorem clear_iff_takenIn :
    (RoomProbe.mk propertyId room.id res.checkIn res.checkOut (some res.id) none).Clear s ↔
      takenIn propertyId s res room = false := by
  rw [takenIn, List.any_eq_false]
  unfold RoomProbe.Clear
  exact ⟨fun h r hr => by simpa using h r hr, fun h r hr => by simpa using h r hr⟩

theorem eval_firstFreeRoom (rooms : List Room) :
    (firstFreeRoom propertyId pending assigned res rooms).eval (.active w) db =
      (.ok (rooms.find? fun room =>
        !(claimedIn pending assigned res room || takenIn propertyId (w db) res room)), .active w,
        db) := by
  induction rooms with
  | nil => rfl
  | cons room rest ih =>
    have hany : (assigned.any fun a => decide (a.2 = room.id) && overlapsPool pending a.1 res) =
        claimedIn pending assigned res room := rfl
    rw [firstFreeRoom, hany, List.find?_cons]
    cases hclaimed : claimedIn pending assigned res room with
    | true =>
      simp only [if_true, ih]
      rfl
    | false =>
      simp only [eval_ite, eval_simps, eval_tryCatch, eval_assertRoomFree, clear_iff_takenIn,
        Bool.false_or]
      cases htaken : takenIn propertyId (w db) res room with
      | true => simp [ih]
      | false => simp

/-- A reservation that waits for a room, as the run read it. -/
structure Waiting (propertyId : Id) (s : HotelDb) (res : Reservation) : Prop where
  found : s.reservations.find? res.id = some res
  property : res.propertyId = propertyId
  occupies : res.occupies = true
  roomless : res.roomId = none

variable {p : Reservation × Option Room}

theorem mem_housed {r : Reservation} :
    r ∈ (housed env actorStaffId s p).reservations ↔
      ∃ a ∈ s.reservations, r = withRoom env p a := by
  obtain ⟨res, c⟩ := p
  cases c with
  | none => exact ⟨fun h => ⟨r, h, rfl⟩, fun ⟨a, ha, heq⟩ => heq ▸ ha⟩
  | some room =>
    simp only [housed, HotelDb.recordEvent, HotelDb.updateReservation, mem_update,
      decide_eq_true_eq]
    exact Iff.rfl

variable {other : Reservation}

theorem takenIn_housed {room l : Room} (hwaiting : Waiting propertyId s res)
    (hne : other.id ≠ res.id) :
    takenIn propertyId (housed env actorStaffId s (res, some room)) other l =
      (takenIn propertyId s other l || inTheWay res room other l) := by
  obtain ⟨hmem, -⟩ := Table.find?_eq_some.mp hwaiting.found
  rw [Bool.eq_iff_iff, Bool.or_eq_true]
  have hrows : ∀ r, r ∈ (housed env actorStaffId s (res, some room)).reservations.rows ↔
      ∃ a ∈ s.reservations.rows, r =
        if a.id = res.id then { a with roomId := some room.id, updatedAt := env.now } else a :=
    fun r => mem_housed
  have hsame : ∀ a ∈ s.reservations.rows, a.id = res.id → a = res := fun a ha hid =>
    eq_of_key_eq ha hmem hid
  simp only [takenIn, List.any_eq_true, RoomProbe.clashes_iff, inTheWay, sharesNight, and_decide_eq]
  constructor
  · rintro ⟨r, hr, hplace, hroom, hoccupies, hlo, hhi, hnot, -⟩
    obtain ⟨a, ha, rfl⟩ := (hrows r).mp hr
    by_cases haid : a.id = res.id
    · obtain rfl := hsame a ha haid
      simp only [if_true, Option.some.injEq] at hroom hlo hhi
      exact .inr ⟨hroom, hlo, hhi⟩
    · rw [if_neg haid] at hplace hroom hoccupies hlo hhi hnot
      exact .inl ⟨a, ha, hplace, hroom, hoccupies, hlo, hhi, hnot, by simp⟩
  · rintro (⟨a, ha, hplace, hroom, hoccupies, hlo, hhi, hnot, -⟩ | ⟨hroom, hlo, hhi⟩)
    · refine ⟨a, (hrows a).mpr ⟨a, ha, ?_⟩, hplace, hroom, hoccupies, hlo, hhi, hnot, by simp⟩
      rw [if_neg]
      intro haid
      obtain rfl := hsame a ha haid
      rw [hwaiting.roomless] at hroom
      cases hroom
    · refine ⟨_, (hrows _).mpr ⟨res, hmem, rfl⟩, ?_⟩
      rw [if_pos rfl]
      refine ⟨hwaiting.property, congrArg some hroom, hwaiting.occupies, hlo, hhi, ?_, by simp⟩
      intro heq
      exact hne (Option.some.inj heq)

theorem find?_housed {id : Id} (hne : id ≠ p.1.id) :
    (housed env actorStaffId s p).reservations.find? id = s.reservations.find? id := by
  obtain ⟨res, c⟩ := p
  cases c with
  | none => rfl
  | some room =>
    simp only [housed, HotelDb.recordEvent, HotelDb.updateReservation]
    exact find?_update_ne _ _ hne

theorem Waiting.housed (h : Waiting propertyId s other) (hne : other.id ≠ p.1.id) :
    Waiting propertyId (housed env actorStaffId s p) other :=
  ⟨(find?_housed hne).trans h.found, h.property, h.occupies, h.roomless⟩

theorem claimedIn_append {room l : Room}
    (hfind : pending.find? (fun r => decide (r.id = res.id)) = some res) :
    claimedIn pending (assigned ++ [(res.id, room.id)]) other l =
      (claimedIn pending assigned other l || inTheWay res room other l) := by
  simp only [claimedIn, List.any_append, List.any_cons, List.any_nil, Bool.or_false, inTheWay,
    overlapsPool, hfind, sharesNight]

/-- The search of the run and the table: the placement of the arrivals that are left. -/
theorem eval_placeArrivals (dryRun : Bool) : ∀ (todo : List Reservation)
    (assigned : List (Id × Id)) (plan : List PlanLine) (w : HotelDb → HotelDb)
    (blocked : Reservation → Room → Bool), (todo.map (·.id)).Nodup →
    (∀ res ∈ todo, pending.find? (fun r => decide (r.id = res.id)) = some res) →
    (∀ res ∈ todo, Waiting propertyId (w db) res) →
    (∀ res ∈ todo, ∀ room, blocked res room =
      (claimedIn pending assigned res room || takenIn propertyId (w db) res room)) →
    ∃ w', (placeArrivals env propertyId dryRun actorStaffId pending offerable todo assigned
        plan).eval (.active w) db = (.ok (plan ++
          (place (offered offerable) inTheWay blocked todo).map lineOf), .active w', db) ∧
      w' db = if dryRun then w db else
        (place (offered offerable) inTheWay blocked todo).foldl (housed env actorStaffId)
          (w db) := by
  intro todo
  induction todo with
  | nil =>
    intro assigned plan w blocked _ _ _ _
    refine ⟨w, ?_, ?_⟩
    · simp [placeArrivals, place]
    · simp [place]
  | cons res rest ih =>
    intro assigned plan w blocked hnodup hpending hwaiting hblocked
    obtain ⟨hnew, hnodup'⟩ := List.nodup_cons.mp hnodup
    have hne : ∀ other ∈ rest, other.id ≠ res.id := fun other hother heq =>
      hnew (List.mem_map.mpr ⟨other, hother, heq⟩)
    have hchoose : ((offered offerable res).find? fun room =>
        !(claimedIn pending assigned res room || takenIn propertyId (w db) res room)) =
        choose (offered offerable) blocked res := by
      unfold choose
      refine List.find?_congr fun room _ => ?_
      rw [hblocked res List.mem_cons_self]
    have hsearch : (firstFreeRoom propertyId pending assigned res (offerable.filter fun r =>
        r.roomTypeId = res.roomTypeId)).eval (.active w) db =
        (.ok (choose (offered offerable) blocked res), .active w, db) := by
      rw [eval_firstFreeRoom, ← hchoose]
      rfl
    rw [placeArrivals, eval_bind, hsearch, place]
    cases hchosen : choose (offered offerable) blocked res with
    | none =>
      obtain ⟨w', heval, hw'⟩ := ih assigned (plan ++ [lineOf (res, none)]) w blocked hnodup'
        (fun other hother => hpending other (List.mem_cons_of_mem _ hother))
        (fun other hother => hwaiting other (List.mem_cons_of_mem _ hother))
        fun other hother => hblocked other (List.mem_cons_of_mem _ hother)
      refine ⟨w', ?_, hw'⟩
      rw [List.append_assoc] at heval
      exact heval
    | some room =>
      have hrest := fun (w₁ : HotelDb → HotelDb) (hwait : ∀ other ∈ rest,
          Waiting propertyId (w₁ db) other) hblock =>
        ih (assigned ++ [(res.id, room.id)]) (plan ++ [lineOf (res, some room)]) w₁
          (claim inTheWay blocked res (some room)) hnodup'
          (fun other hother => hpending other (List.mem_cons_of_mem _ hother)) hwait hblock
      have hclaim := hpending res List.mem_cons_self
      cases dryRun with
      | true =>
        obtain ⟨w', heval, hw'⟩ := hrest w
          (fun other hother => hwaiting other (List.mem_cons_of_mem _ hother))
          fun other hother l => by
            rw [claimedIn_append hclaim, claim_some,
              hblocked other (List.mem_cons_of_mem _ hother) l, Bool.or_right_comm]
        refine ⟨w', ?_, hw'⟩
        rw [List.append_assoc] at heval
        exact heval
      | false =>
        obtain ⟨w', heval, hw'⟩ := hrest
          (fun s => housed env actorStaffId (w s) (res, some room))
          (fun other hother =>
            (hwaiting other (List.mem_cons_of_mem _ hother)).housed (hne other hother))
          fun other hother l => by
            rw [claimedIn_append hclaim, claim_some,
              hblocked other (List.mem_cons_of_mem _ hother) l,
              takenIn_housed (hwaiting res List.mem_cons_self) (hne other hother)]
            cases claimedIn pending assigned other l <;> cases takenIn propertyId (w db) other l <;>
              cases inTheWay res room other l <;> rfl
        refine ⟨w', ?_, hw'⟩
        rw [List.append_assoc] at heval
        exact heval

/-! ## A run -/

/-- The rooms that may be offered, by number. -/
def offerableRooms (propertyId : Id) (db : HotelDb) : List Room :=
  ((db.rooms.rows.filter fun r => r.propertyId = propertyId && r.deletedAt.isNone).insertionSort
    fun a b => a.number ≤ b.number).filter fun r =>
      r.status ≠ .OUT_OF_ORDER && r.status ≠ .MAINTENANCE

/-- The arrivals of the window with their rooms. -/
def placements (propertyId : Id) (input : AutoAllocateDto) (db : HotelDb) :
    List (Reservation × Option Room) :=
  place (offered (offerableRooms propertyId db)) inTheWay (takenIn propertyId db)
    (arrivalsOf propertyId input.fromDate input.toDate db)

/-- What the run answers. -/
def planOf (input : AutoAllocateDto) (lines : List PlanLine) : AllocationPlan where
  fromDate := input.fromDate
  toDate := input.toDate
  dryRun := input.dryRun
  considered := lines.length
  assigned := (lines.filter fun p => p.roomId.isSome).length
  unplaced := (lines.filter fun p => p.roomId.isNone).length
  plan := lines

variable {fromDate toDate : ℤ}

theorem nodup_arrivals :
    ((arrivalsOf propertyId fromDate toDate db).map (·.id)).Nodup := by
  have hperm := (List.perm_insertionSort (fun a b : Reservation => a.checkIn < b.checkIn ∨
    a.checkIn = b.checkIn ∧ a.createdAt ≤ b.createdAt)
    (db.reservations.rows.filter fun r => r.propertyId = propertyId && r.status = .CONFIRMED &&
      r.roomId = none && r.deletedAt.isNone && fromDate ≤ r.checkIn && r.checkIn ≤ toDate)).map
        Reservation.id
  exact hperm.nodup_iff.mpr (List.Nodup.sublist (List.filter_sublist.map _) db.reservations.nodup)

theorem find?_arrivals (hres : res ∈ arrivalsOf propertyId fromDate toDate db) :
    (arrivalsOf propertyId fromDate toDate db).find? (fun r => decide (r.id = res.id)) =
      some res := by
  refine find?_eq_some_of_unique hres (by simp) fun r hr hid => ?_
  exact eq_of_key_eq (mem_arrivalsOf.mp hr).1 (mem_arrivalsOf.mp hres).1
    (of_decide_eq_true hid)

theorem waiting_arrivals (hres : res ∈ arrivalsOf propertyId fromDate toDate db) :
    Waiting propertyId db res := by
  obtain ⟨hmem, hproperty, hstatus, hroom, hlive, -, -⟩ := mem_arrivalsOf.mp hres
  refine ⟨find?_key hmem, hproperty, ?_, hroom⟩
  simp [Reservation.occupies, hstatus, hlive, OCCUPYING_STATUSES]

theorem eval_autoAllocate (input : AutoAllocateDto) (hwindow : input.fromDate ≤ input.toDate) :
    (autoAllocate env propertyId input actorStaffId).eval .idle db =
      (.ok (planOf input ((placements propertyId input db).map lineOf)), .idle,
        if input.dryRun then db
        else (placements propertyId input db).foldl (housed env actorStaffId) db) := by
  have hkeys : (placements propertyId input db).map Prod.fst =
      arrivalsOf propertyId input.fromDate input.toDate db := map_fst_place _ _
  have hconsidered : (arrivalsOf propertyId input.fromDate input.toDate db).length =
      ((placements propertyId input db).map lineOf).length := by
    rw [← hkeys, List.length_map, List.length_map]
  obtain ⟨w', heval, hw'⟩ := @eval_placeArrivals env propertyId actorStaffId
    (arrivalsOf propertyId input.fromDate input.toDate db) (offerableRooms propertyId db) db
    input.dryRun (arrivalsOf propertyId input.fromDate input.toDate db) [] [] id
    (takenIn propertyId db) nodup_arrivals (fun _ hres => find?_arrivals hres)
    (fun _ hres => waiting_arrivals hres) fun _ _ _ => rfl
  have hplace : (placeArrivals env propertyId input.dryRun actorStaffId
      (arrivalsOf propertyId input.fromDate input.toDate db) (offerableRooms propertyId db)
      (arrivalsOf propertyId input.fromDate input.toDate db) [] []).eval (.active id) db =
      (.ok ((placements propertyId input db).map lineOf), .active w', db) := heval
  have hdates : ¬input.toDate < input.fromDate := not_lt.mpr hwindow
  rw [autoAllocate, eval_bind, eval_throwIf, if_neg hdates]
  dsimp only
  rw [eval_bind, eval_select_idle]
  dsimp only
  rw [eval_bind, eval_select_idle]
  dsimp only
  rw [eval_bind]
  have hoffer : offerableRooms propertyId db = ((db.rooms.rows.filter fun r =>
      r.propertyId = propertyId && r.deletedAt.isNone).insertionSort fun a b =>
        a.number ≤ b.number).filter fun r => r.status ≠ .OUT_OF_ORDER && r.status ≠ .MAINTENANCE := rfl
  rw [hoffer] at hplace
  cases hdry : input.dryRun with
  | true =>
    rw [hdry] at hplace
    simp only [if_true, Prog.eval_rolledBack, hplace, eval_pure, planOf, hconsidered, hdry]
  | false =>
    rw [hdry] at hplace hw'
    simp only [Bool.false_eq_true, if_false] at hw' ⊢
    simp only [eval_simps, hplace, planOf, hconsidered, hdry]
    exact congrArg _ (congrArg _ hw')

/-! ## What the placements leave -/

/-- The row after some placements is the row, but for its room. -/
structure SameStay (a b : Reservation) : Prop where
  id : b.id = a.id
  propertyId : b.propertyId = a.propertyId
  roomTypeId : b.roomTypeId = a.roomTypeId
  checkIn : b.checkIn = a.checkIn
  checkOut : b.checkOut = a.checkOut
  occupies : b.occupies = a.occupies

theorem SameStay.trans {a b c : Reservation} (h : SameStay a b) (h' : SameStay b c) :
    SameStay a c :=
  ⟨h'.id.trans h.id, h'.propertyId.trans h.propertyId, h'.roomTypeId.trans h.roomTypeId,
    h'.checkIn.trans h.checkIn, h'.checkOut.trans h.checkOut, h'.occupies.trans h.occupies⟩

theorem SameStay.sharesNight {a b c d : Reservation} (h : SameStay a b) (h' : SameStay c d) :
    sharesNight b d = sharesNight a c := by
  unfold ReservationsService.sharesNight
  rw [h.checkIn, h.checkOut, h'.checkIn, h'.checkOut]

theorem withRoom_same (env : Env) (p : Reservation × Option Room) (a : Reservation) :
    SameStay a (withRoom env p a) := by
  unfold withRoom
  split
  · exact ⟨rfl, rfl, rfl, rfl, rfl, rfl⟩
  · split_ifs <;> exact ⟨rfl, rfl, rfl, rfl, rfl, rfl⟩

/-- The row after all placements. -/
def withRooms (env : Env) (ls : List (Reservation × Option Room)) (a : Reservation) : Reservation :=
  ls.foldl (fun a p => withRoom env p a) a

theorem mem_foldl_housed : ∀ (ls : List (Reservation × Option Room)) (s : HotelDb)
    (r : Reservation), r ∈ (ls.foldl (housed env actorStaffId) s).reservations ↔
      ∃ a ∈ s.reservations, r = withRooms env ls a := by
  intro ls
  induction ls with
  | nil => exact fun s r => ⟨fun h => ⟨r, h, rfl⟩, fun ⟨a, ha, heq⟩ => heq ▸ ha⟩
  | cons p ls ih =>
    intro s r
    rw [List.foldl_cons, ih]
    constructor
    · rintro ⟨b, hb, rfl⟩
      obtain ⟨a, ha, rfl⟩ := mem_housed.mp hb
      exact ⟨a, ha, rfl⟩
    · rintro ⟨a, ha, rfl⟩
      exact ⟨withRoom env p a, mem_housed.mpr ⟨a, ha, rfl⟩, rfl⟩

theorem rooms_foldl_housed : ∀ (ls : List (Reservation × Option Room)) (s : HotelDb),
    (ls.foldl (housed env actorStaffId) s).rooms = s.rooms := by
  intro ls
  induction ls with
  | nil => exact fun _ => rfl
  | cons p ls ih =>
    intro s
    rw [List.foldl_cons, ih]
    obtain ⟨res, c⟩ := p
    cases c <;> rfl

theorem withRooms_same (env : Env) : ∀ (ls : List (Reservation × Option Room)) (a : Reservation),
    SameStay a (withRooms env ls a) := by
  intro ls
  induction ls with
  | nil => exact fun a => ⟨rfl, rfl, rfl, rfl, rfl, rfl⟩
  | cons p ls ih => exact fun a => (withRoom_same env p a).trans (ih _)

theorem withRooms_other (env : Env) : ∀ (ls : List (Reservation × Option Room)) (a : Reservation),
    (∀ p ∈ ls, p.1.id = a.id → p.2 = none) → (withRooms env ls a).roomId = a.roomId := by
  intro ls
  induction ls with
  | nil => exact fun _ _ => rfl
  | cons p ls ih =>
    intro a hnone
    have hstep : withRoom env p a = a := by
      unfold withRoom
      split
      · rfl
      · rename_i room hroom
        refine if_neg fun hid => ?_
        have hp := hnone p List.mem_cons_self hid.symm
        rw [hroom] at hp
        cases hp
    show (withRooms env ls (withRoom env p a)).roomId = a.roomId
    rw [hstep]
    exact ih a fun q hq => hnone q (List.mem_cons_of_mem _ hq)

theorem withRooms_placed (env : Env) : ∀ (ls : List (Reservation × Option Room))
    (a : Reservation), (ls.map (·.1.id)).Nodup → (res, some room) ∈ ls → res.id = a.id →
      (withRooms env ls a).roomId = some room.id := by
  intro ls
  induction ls with
  | nil => exact fun _ _ h => by cases h
  | cons p ls ih =>
    intro a hnodup hmem hid
    obtain ⟨hnew, hnodup'⟩ := List.nodup_cons.mp hnodup
    have hstep : withRooms env (p :: ls) a = withRooms env ls (withRoom env p a) := rfl
    rw [hstep]
    rcases List.mem_cons.mp hmem with rfl | hmem
    · -- no later placement is for this row
      rw [withRooms_other env]
      · unfold withRoom
        dsimp only
        rw [if_pos hid.symm]
      · intro q hq hqid
        refine absurd (List.mem_map.mpr ⟨q, hq, ?_⟩) hnew
        rw [hqid, (withRoom_same env _ a).id]
        exact hid.symm
    · exact ih _ hnodup' hmem (hid.trans (withRoom_same env p a).id.symm)

/-- A room that the reservation may have. -/
def ValidRoom (propertyId : Id) (r : Reservation) (room : Room) : Prop :=
  room.propertyId = propertyId ∧ room.deletedAt = none ∧ room.roomTypeId = r.roomTypeId ∧
    room.status ≠ .OUT_OF_ORDER ∧ room.status ≠ .MAINTENANCE

theorem mem_offered : room ∈ offered (offerableRooms propertyId db) res ↔
    room ∈ db.rooms ∧ ValidRoom propertyId res room := by
  simp only [offered, offerableRooms, List.mem_filter, List.mem_insertionSort, mem_rows,
    and_decide_eq, Option.isNone_iff_eq_none, ValidRoom]
  tauto

/-- No other committed stay of the room shares a night. -/
def Alone (propertyId : Id) (s : HotelDb) (r : Reservation) (roomId : Id) : Prop :=
  ∀ q ∈ s.reservations, q.id ≠ r.id → q.propertyId = propertyId → q.occupies = true →
    q.roomId = some roomId → sharesNight r q = false

theorem sharesNight_comm (a b : Reservation) : sharesNight a b = sharesNight b a := by
  unfold sharesNight
  rw [Bool.and_comm]

theorem takenIn_iff : takenIn propertyId db res room = true ↔
    ∃ q ∈ db.reservations, q.propertyId = propertyId ∧ q.roomId = some room.id ∧
      q.occupies = true ∧ sharesNight q res = true ∧ q.id ≠ res.id := by
  simp only [takenIn, List.any_eq_true, RoomProbe.clashes_iff, sharesNight, and_decide_eq]
  constructor
  · rintro ⟨q, hq, hproperty, hroom, hoccupies, hlo, hhi, hnot, -⟩
    exact ⟨q, hq, hproperty, hroom, hoccupies, ⟨hlo, hhi⟩, fun heq => hnot (congrArg some heq.symm)⟩
  · rintro ⟨q, hq, hproperty, hroom, hoccupies, ⟨hlo, hhi⟩, hne⟩
    exact ⟨q, hq, hproperty, hroom, hoccupies, hlo, hhi, fun heq => hne (Option.some.inj heq).symm,
      nofun⟩

variable {input : AutoAllocateDto}

theorem nodup_placements : ((placements propertyId input db).map (·.1.id)).Nodup := by
  have hkeys : (placements propertyId input db).map Prod.fst =
      arrivalsOf propertyId input.fromDate input.toDate db := map_fst_place _ _
  have hids := @nodup_arrivals propertyId db input.fromDate input.toDate
  rw [← hkeys, List.map_map] at hids
  exact hids

theorem arrival_of_placed (hp : p ∈ placements propertyId input db) :
    p.1 ∈ arrivalsOf propertyId input.fromDate input.toDate db := by
  have hkeys : (placements propertyId input db).map Prod.fst =
      arrivalsOf propertyId input.fromDate input.toDate db := map_fst_place _ _
  rw [← hkeys]
  exact List.mem_map_of_mem hp

theorem placed_apart {room l : Room} (hres : (res, some room) ∈ placements propertyId input db)
    (hother : (other, some l) ∈ placements propertyId input db) (hne : other.id ≠ res.id)
    (hsame : l.id = room.id) : sharesNight res other = false := by
  have hpairs : (placements propertyId input db).Pairwise fun p q =>
      ∀ k ∈ p.2, ∀ l ∈ q.2, inTheWay p.1 k q.1 l = false := FirstFit.place_pairwise _ _
  have hboth : (placements propertyId input db).Pairwise fun p q =>
      ∀ k ∈ p.2, ∀ l ∈ q.2, k.id = l.id → sharesNight p.1 q.1 = false := by
    refine hpairs.imp fun h k hk l hl hkl => ?_
    have hway := h k hk l hl
    rw [inTheWay, decide_eq_true hkl, Bool.true_and] at hway
    exact hway
  have hsymm : Std.Symm fun p q : Reservation × Option Room =>
      ∀ k ∈ p.2, ∀ l ∈ q.2, k.id = l.id → sharesNight p.1 q.1 = false := by
    constructor
    intro p q h k hk l hl hkl
    rw [sharesNight_comm]
    exact h l hl k hk hkl.symm
  have hdistinct : (res, some room) ≠ (other, some l) := by
    intro heq
    simp only [Prod.mk.injEq] at heq
    exact hne (heq.1 ▸ rfl)
  exact hboth.forall hres hother hdistinct room rfl l rfl hsame.symm

theorem alone_of_placed (hres : (res, some room) ∈ placements propertyId input db) :
    Alone propertyId ((placements propertyId input db).foldl (housed env actorStaffId) db)
      (withRooms env (placements propertyId input db) res) room.id := by
  intro q hq hne hproperty hoccupies hroom
  obtain ⟨a, ha, rfl⟩ := (mem_foldl_housed _ _ _).mp hq
  have hrow := withRooms_same env (placements propertyId input db) res
  have hother := withRooms_same env (placements propertyId input db) a
  rw [hother.id, hrow.id] at hne
  rw [hrow.sharesNight hother]
  by_cases hplaced : ∃ p ∈ placements propertyId input db, p.1.id = a.id ∧ p.2 ≠ none
  · -- another arrival of the run
    obtain ⟨⟨other, c⟩, hp, hid, hsome⟩ := hplaced
    obtain ⟨l, rfl⟩ := Option.ne_none_iff_exists'.mp hsome
    have hl := withRooms_placed env _ a nodup_placements hp hid
    rw [hroom] at hl
    obtain rfl : other = a := by
      obtain ⟨hmem, -⟩ := mem_arrivalsOf.mp (arrival_of_placed hp)
      exact eq_of_key_eq hmem ha hid
    exact placed_apart hres hp hne (Option.some.inj hl).symm
  · -- a stay that was in the room before the run
    have hkept := withRooms_other env (placements propertyId input db) a
      fun p hp hid => by
        by_contra hsome
        exact hplaced ⟨p, hp, hid, hsome⟩
    obtain ⟨-, hfree⟩ := place_sound _ _ hres
    by_contra hshares
    rw [sharesNight_comm, Bool.not_eq_false] at hshares
    have htaken : takenIn propertyId db res room = true := takenIn_iff.mpr
      ⟨a, ha, hother.propertyId.symm.trans hproperty, hkept.symm.trans hroom,
        hother.occupies.symm.trans hoccupies, hshares, hne⟩
    rw [htaken] at hfree
    cases hfree

end Allocation

/-- A confirmed booking for the nights 100 and 101, with no room yet. -/
def unplacedBooking (id : Id) : Reservation where
  id
  propertyId := 1
  roomTypeId := 7
  roomId := none
  reservationNumber := id
  guest := { guestName := "Guest", guestPhone := "0" }
  checkIn := 100
  checkOut := 102
  ordered := by decide
  status := .CONFIRMED
  ratePaise := 100000
  totalPaise := 200000

/-- Two arrivals; of the two rooms one is out of order. -/
def twoArrivals : HotelDb where
  rooms := ((∅ : Table Room.id).insert
      { id := 1, propertyId := 1, roomTypeId := 7, number := "101", status := .OUT_OF_ORDER }).insert
    { id := 2, propertyId := 1, roomTypeId := 7, number := "102", status := .AVAILABLE }
  reservations := ((∅ : Table Reservation.id).insert (unplacedBooking 1)).insert (unplacedBooking 2)

example : ((placements 1 ⟨100, 100, false⟩ twoArrivals).map fun p =>
    (p.1.id, p.2.map Room.id)) = [(1, some 2), (2, none)] := by decide +kernel

end ReservationsService

end Travelo

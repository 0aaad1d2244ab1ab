import Travelo.Folio.Balance
import Travelo.Housekeeping
import Travelo.ReadCommitted.Straight
import Travelo.Reservations.Deeds
import Travelo.WorkOrders

/-!
# Broken rooms

An order that takes its room out of service holds it until the order is completed or cancelled.
Four services write the status of a room and one of them knows about the orders: a second order
that is closed, a housekeeping task and a departing guest put a broken room back on the board
(`repair_outlived`).

`broken_rooms_stay_off_sale`: while no call gives back a room that an order still holds, every
held room is OUT_OF_ORDER or in MAINTENANCE.
-/

namespace Travelo

open ReadCommitted
open ReservationsService (reservationOf requireRoom hydrateRoom recordEvent)
open FolioService (paymentOf keyTaken recorded recordPayment winnerOf addPayment paymentRow
  balancePaise roomTaxOf)

/-- The statuses of a room nobody can be given. -/
def OFF_SALE : List RoomStatus := [.OUT_OF_ORDER, .MAINTENANCE]

/-- The order has taken the room out of service and is not closed. -/
def WorkOrder.holds (w : WorkOrder) (roomId : Id) : Prop :=
  w.takesRoomOutOfService = true ∧ w.roomId = some roomId ∧ w.deletedAt = none ∧
    w.status ≠ .COMPLETED ∧ w.status ≠ .CANCELLED

instance (w : WorkOrder) (roomId : Id) : Decidable (w.holds roomId) :=
  inferInstanceAs (Decidable (_ ∧ _ ∧ _ ∧ _ ∧ _))

/-- No order but `closed` holds the room. -/
def HeldByNone (db : HotelDb) (closed : Option Id) (roomId : Id) : Prop :=
  ∀ w ∈ db.workOrders.rows, w.holds roomId → some w.id = closed

instance (db : HotelDb) (closed : Option Id) (roomId : Id) :
    Decidable (HeldByNone db closed roomId) :=
  inferInstanceAs (Decidable (∀ w ∈ db.workOrders.rows, _))

/-- Every room an order holds is off sale. -/
def BrokenOffSale (db : HotelDb) : Prop :=
  ∀ room ∈ db.rooms.rows, room.status ∈ OFF_SALE ∨ HeldByNone db none room.id

instance (db : HotelDb) : Decidable (BrokenOffSale db) :=
  inferInstanceAs (Decidable (∀ room ∈ db.rooms.rows, _))

/-! ## The calls -/

inductive BoardAction where
  | createOrder (dto : CreateWorkOrderDto) (reporterId : Id) (now : ℤ)
  | acceptOrder (id : Id) (actor : WorkOrderActor) (now : ℤ)
  | startOrder (id : Id) (now : ℤ)
  | pauseOrder (id : Id) (now : ℤ)
  | resumeOrder (id : Id) (now : ℤ)
  | completeOrder (id : Id) (dto : CompleteWorkOrderDto) (now : ℤ)
  | cancelOrder (id : Id) (dto : CancelWorkOrderDto) (now : ℤ)
  | startTask (id : Id) (actor : TaskActor) (now : ℤ)
  | completeTask (id : Id) (dto : CompleteTaskDto) (actor : TaskActor) (now : ℤ)
  | inspect (id : Id) (dto : InspectTaskDto) (actor : TaskActor) (now : ℤ)
  | checkIn (env : Env) (id : Id) (dto : CheckInDto) (actorStaffId : Option Id)
  | checkOut (env : Env) (id : Id) (dto : CheckOutDto) (actorStaffId : Option Id)
  | moveRoom (env : Env) (id : Id) (dto : MoveRoomDto) (actorStaffId : Option Id)

/-- A call of the work-order, the housekeeping or the reservation service. -/
structure BoardCall where
  propertyId : Id
  action : BoardAction

def BoardCall.prog (c : BoardCall) : Op Unit :=
  match c.action with
  | .createOrder dto reporterId now => do
    let _ ← WorkOrdersService.create c.propertyId dto reporterId now
  | .acceptOrder id actor now => do
    let _ ← WorkOrdersService.accept c.propertyId id actor now
  | .startOrder id now => do
    let _ ← WorkOrdersService.start c.propertyId id now
  | .pauseOrder id now => do
    let _ ← WorkOrdersService.pause c.propertyId id now
  | .resumeOrder id now => do
    let _ ← WorkOrdersService.resume c.propertyId id now
  | .completeOrder id dto now => do
    let _ ← WorkOrdersService.complete c.propertyId id dto now
  | .cancelOrder id dto now => do
    let _ ← WorkOrdersService.cancel c.propertyId id dto now
  | .startTask id actor now => do
    let _ ← HousekeepingService.start c.propertyId id actor now
  | .completeTask id dto actor now => do
    let _ ← HousekeepingService.complete c.propertyId id dto actor now
  | .inspect id dto actor now => do
    let _ ← HousekeepingService.inspect c.propertyId id dto actor now
  | .checkIn env id dto actorStaffId => do
    let _ ← ReservationsService.checkIn env c.propertyId id dto actorStaffId
  | .checkOut env id dto actorStaffId => do
    let _ ← ReservationsService.checkOut env c.propertyId id dto actorStaffId
  | .moveRoom env id dto actorStaffId => do
    let _ ← ReservationsService.moveRoom env c.propertyId id dto actorStaffId

/-! ## The room a call gives back -/

/-- The money of a departing guest on record; nothing if its key is refused. -/
def collectedFrom (propertyId id : Id) (dto : CheckOutDto) (actorStaffId : Option Id) (now : ℤ)
    (db : HotelDb) : Option HotelDb :=
  let input : RecordPaymentInput :=
    { reservationId := id
      propertyId
      method := dto.paymentMethod.getD .CASH
      amountPaise := dto.collectedPaise.getD 0
      reference := dto.reference
      collectedBy := actorStaffId
      idempotencyKey := dto.idempotencyKey }
  if 0 < dto.collectedPaise.getD 0 then
    if (paymentOf input db).isSome then some db
    else if keyTaken input db then none
    else some (recorded input now db)
  else some db

/-- The room of an order that may be closed. -/
def roomOfClosed (propertyId id : Id) (text : String) (target : WorkOrderStatus) (db : HotelDb) :
    Option Id := do
  let before ← WorkOrdersService.workOrderOf propertyId id db
  guard (trim text ≠ "" ∧ canWorkOrderTransition before.status target)
  guard (before.takesRoomOutOfService = true)
  before.roomId

/-- The room of a task that may be worked. -/
def roomOfTask (propertyId id : Id) (actor : TaskActor) (target : HousekeepingTaskStatus)
    (db : HotelDb) : Option Id := do
  let before ← HousekeepingService.taskOf propertyId id db
  guard ((HousekeepingService.assertMayWork before actor).isOk ∧
    canTaskTransition before.status target)
  before.roomId

/-- The room whose status the call lets go of: of an order it closes, of a task it works on, of a
guest who leaves or moves. A call that is refused lets go of none. -/
def BoardCall.givesBack (c : BoardCall) (db : HotelDb) : Option Id :=
  match c.action with
  | .completeOrder id dto _ => roomOfClosed c.propertyId id dto.resolution .COMPLETED db
  | .cancelOrder id dto _ => roomOfClosed c.propertyId id dto.reason .CANCELLED db
  | .startTask id actor _ => roomOfTask c.propertyId id actor .IN_PROGRESS db
  | .completeTask id _ actor _ => roomOfTask c.propertyId id actor .COMPLETED db
  | .inspect id dto _ _ =>
    -- an inspection is open to every supervisor
    roomOfTask c.propertyId id ⟨0, true⟩ (if dto.pass then .INSPECTED else .REJECTED) db
  | .checkOut env id dto actorStaffId => do
    let before ← reservationOf c.propertyId id db
    guard (canTransition before.status .CHECKED_OUT)
    let paid ← collectedFrom c.propertyId id dto actorStaffId env.now db
    guard (¬(0 < Folio.balance id paid ∧ dto.allowOutstanding = false))
    before.roomId
  | .moveRoom _ id dto _ => do
    let before ← reservationOf c.propertyId id db
    guard (before.status = .CHECKED_IN ∧ before.roomId ≠ some dto.roomId)
    let room ← ReservationsService.roomOf c.propertyId dto.roomId db
    guard (ASSIGNABLE_ROOM_STATUSES.contains room.status)
    guard (room.roomTypeId = before.roomTypeId ∨
      (ReservationsService.roomTypeOf c.propertyId room.roomTypeId db).isSome)
    guard (RoomProbe.Clear
      { propertyId := c.propertyId, roomId := room.id, checkIn := before.checkIn,
        checkOut := before.checkOut, excludeId := some id } db)
    before.roomId
  | _ => none

/-- The order the call closes. -/
def BoardCall.closes (c : BoardCall) : Option Id :=
  match c.action with
  | .completeOrder id _ _ => some id
  | .cancelOrder id _ _ => some id
  | _ => none

/-- No order holds the room the call gives back, the one it closes apart. -/
def Spared (c : BoardCall) (db _ : HotelDb) : Prop :=
  ∀ roomId ∈ c.givesBack db, HeldByNone db c.closes roomId

instance (c : BoardCall) (db db' : HotelDb) : Decidable (Spared c db db') :=
  inferInstanceAs (Decidable (∀ _ ∈ _, _))

/-! ## The changes -/

section Changes

variable {db : HotelDb}

theorem BrokenOffSale.of_eq {db' : HotelDb} (h : BrokenOffSale db) (hrooms : db'.rooms = db.rooms)
    (horders : db'.workOrders = db.workOrders) : BrokenOffSale db' := by
  unfold BrokenOffSale HeldByNone at *
  rw [hrooms, horders]
  exact h

theorem BrokenOffSale.setRoomStatus (h : BrokenOffSale db) {roomId : Id} {status : RoomStatus}
    (now : ℤ) (hk : status ∈ OFF_SALE ∨ HeldByNone db none roomId) :
    BrokenOffSale (db.setRoomStatus roomId status now) := by
  intro room hroom
  simp only [HotelDb.setRoomStatus, mem_rows, mem_update] at hroom
  rcases hroom with ⟨r, hr, rfl⟩
  by_cases hid : r.id = roomId
  · rw [if_pos (by simpa using hid)]
    rcases hk with hstatus | hnone
    · exact .inl hstatus
    · exact .inr (by rw [hid]; exact hnone)
  · rw [if_neg (by simpa using hid)]
    exact h r hr

variable {f : WorkOrder → WorkOrder}

theorem mem_updateWorkOrder {before w : WorkOrder} {hf : ∀ w, (f w).id = w.id}
    (hb : before ∈ db.workOrders) (hw : w ∈ (db.updateWorkOrder before.id f hf).workOrders.rows) :
    w = f before ∨ w ∈ db.workOrders ∧ w.id ≠ before.id := by
  simp only [HotelDb.updateWorkOrder, mem_rows, mem_update] at hw
  rcases hw with ⟨w', hw', rfl⟩
  by_cases hid : w'.id = before.id
  · rw [if_pos (by simpa using hid), eq_of_key_eq hw' hb hid]
    exact .inl rfl
  · rw [if_neg (by simpa using hid)]
    exact .inr ⟨hw', hid⟩

theorem BrokenOffSale.updateWorkOrder (h : BrokenOffSale db) {before : WorkOrder}
    {hf : ∀ w, (f w).id = w.id} (hb : before ∈ db.workOrders)
    (hholds : ∀ k, (f before).holds k → before.holds k) :
    BrokenOffSale (db.updateWorkOrder before.id f hf) := by
  intro room hroom
  rcases h room hroom with hstatus | hnone
  · exact .inl hstatus
  · refine .inr fun w hw hk => ?_
    rcases mem_updateWorkOrder hb hw with rfl | ⟨hmem, -⟩
    · exact absurd (hnone before hb (hholds _ hk)) (by simp)
    · exact hnone w hmem hk

theorem heldByNone_close {before : WorkOrder} {hf : ∀ w, (f w).id = w.id} {roomId : Id}
    (hb : before ∈ db.workOrders) (hclosed : ¬(f before).holds roomId)
    (honly : HeldByNone db (some before.id) roomId) :
    HeldByNone (db.updateWorkOrder before.id f hf) none roomId := by
  intro w hw hk
  rcases mem_updateWorkOrder hb hw with rfl | ⟨hmem, hne⟩
  · exact absurd hk hclosed
  · exact absurd (Option.some.inj (honly w hmem hk)) hne

theorem BrokenOffSale.insertWorkOrder (h : BrokenOffSale db) {row : WorkOrder}
    (hrow : ∀ room ∈ db.rooms.rows, row.holds room.id → room.status ∈ OFF_SALE) :
    BrokenOffSale { db with workOrders := db.workOrders.insert row } := by
  intro room hroom
  by_cases hk : row.holds room.id
  · exact .inl (hrow room hroom hk)
  · rcases h room hroom with hstatus | hnone
    · exact .inl hstatus
    · refine .inr fun w hw hholds => ?_
      rcases mem_or_eq_of_mem_insert hw with hmem | rfl
      · exact hnone w hmem hholds
      · exact absurd hholds hk

end Changes

/-! ## The calls, each on its own -/

/-- Alone on `db`, and whichever of its statements fail, the program leaves the broken rooms off
sale. -/
def LeavesOffSale {α : Type} (p : Op α) (db : HotelDb) : Prop :=
  p.ends (fun _ _ s => BrokenOffSale s) (fun _ _ s => BrokenOffSale s) .idle db

section Orders

open WorkOrdersService

variable {propertyId id : Id} {db : HotelDb} {now : ℤ}

theorem workOrderOf_eq_some {w : WorkOrder} (h : workOrderOf propertyId id db = some w) :
    w ∈ db.workOrders ∧ w.id = id := by
  simp only [workOrderOf, Option.filter_eq_some_iff, find?_eq_some] at h
  exact h.1

theorem ends_requireWorkOrder {P : WorkOrder → Tx HotelDb → HotelDb → Prop}
    {E : Err → Tx HotelDb → HotelDb → Prop} (hE : ∀ e, E e .idle db)
    (hP : ∀ w, workOrderOf propertyId id db = some w → P w .idle db) :
    (requireWorkOrder propertyId id).ends P E .idle db := by
  simp only [requireWorkOrder, ends_simps, hE]
  exact hP

theorem leaves_hydrate {s : HotelDb} (row : Option WorkOrder) (h : BrokenOffSale s) :
    LeavesOffSale (hydrate row) s := by
  have hread : (hydrate row).ReadOnly := by
    refine .bind (.orThrow _ _) fun w => .bind ?_ fun _ => .pure _
    cases w.roomId with
    | none => exact .pure _
    | some roomId => exact .select _ _
  exact hread.ends_idle (fun _ => h) fun _ => h

/-- The status the order gives its room. -/
def statusOfRoom (before : WorkOrder) (status : RoomStatus) (now : ℤ) (db : HotelDb) : HotelDb :=
  match if before.takesRoomOutOfService = true then before.roomId else none with
  | some roomId => db.setRoomStatus roomId status now
  | none => db

variable {f : WorkOrder → WorkOrder} {before : WorkOrder} {hf : ∀ w, (f w).id = w.id}

theorem ends_updateWithRoom {status : RoomStatus} (h : BrokenOffSale db)
    (hafter : BrokenOffSale (statusOfRoom before status now (db.updateWorkOrder before.id f hf))) :
    (updateWithRoom before f status now hf).ends
      (fun row t s => (hydrate row).ends (fun _ _ s => BrokenOffSale s)
        (fun _ _ s => BrokenOffSale s) t s) (fun _ _ s => BrokenOffSale s) .idle db := by
  simp only [updateWithRoom, updateWorkOrder, WorkOrdersService.setRoomStatus, ends_simps,
    ends_when, ends_forSome, h]
  unfold statusOfRoom at hafter
  constructor
  · intro htakes
    rw [if_pos htakes] at hafter
    constructor
    · intro roomId hroom
      rw [hroom] at hafter
      exact leaves_hydrate _ hafter
    · intro hroom
      rw [hroom] at hafter
      exact leaves_hydrate _ hafter
  · intro htakes
    rw [if_neg htakes] at hafter
    exact leaves_hydrate _ hafter

variable {fromStatus toStatus : WorkOrderStatus}

theorem open_of_transition (h : canWorkOrderTransition fromStatus toStatus = true) :
    fromStatus ≠ .COMPLETED ∧ fromStatus ≠ .CANCELLED := by
  cases fromStatus <;> simp_all [canWorkOrderTransition, WORK_ORDER_TRANSITIONS]

theorem assertWorkOrderTransition_ok {u : Unit} :
    assertWorkOrderTransition fromStatus toStatus = .ok u ↔
      canWorkOrderTransition fromStatus toStatus = true := by
  unfold assertWorkOrderTransition
  split <;> simp_all

theorem BrokenOffSale.keepOff (h : BrokenOffSale db) {status : RoomStatus}
    (hb : before ∈ db.workOrders) (hstatus : status ∈ OFF_SALE)
    (hholds : ∀ k, (f before).holds k → before.holds k) :
    BrokenOffSale (statusOfRoom before status now (db.updateWorkOrder before.id f hf)) := by
  have hupdated : BrokenOffSale (db.updateWorkOrder before.id f hf) := h.updateWorkOrder hb hholds
  unfold statusOfRoom
  split
  · exact hupdated.setRoomStatus now (.inl hstatus)
  · exact hupdated

theorem accept_leaves (h : BrokenOffSale db) (actor : WorkOrderActor) :
    LeavesOffSale (accept propertyId id actor now) db := by
  refine (ends_bind _ _).mpr (ends_requireWorkOrder (fun _ => h) fun before hfound => ?_)
  rcases workOrderOf_eq_some hfound with ⟨hb, rfl⟩
  simp only [ends_simps, assertWorkOrderTransition_ok, h]
  intro _ ht
  exact ends_updateWithRoom h (h.keepOff hb (by decide) fun k hk =>
    ⟨hk.1, hk.2.1, hk.2.2.1, open_of_transition ht⟩)

theorem simpleTransition_leaves (h : BrokenOffSale db) (target : WorkOrderStatus)
    (startedAt : Option ℤ) :
    LeavesOffSale (simpleTransition propertyId id target startedAt now) db := by
  refine (ends_bind _ _).mpr (ends_requireWorkOrder (fun _ => h) fun before hfound => ?_)
  rcases workOrderOf_eq_some hfound with ⟨hb, rfl⟩
  simp only [ends_simps, assertWorkOrderTransition_ok, h]
  intro _ ht
  simp only [updateWorkOrder, ends_write_idle, h, trivially]
  exact leaves_hydrate _ (h.updateWorkOrder hb fun k hk =>
    ⟨hk.1, hk.2.1, hk.2.2.1, open_of_transition ht⟩)

theorem BrokenOffSale.close (h : BrokenOffSale db) (hb : before ∈ db.workOrders)
    (hclosed : ∀ k, ¬(f before).holds k)
    (honly : ∀ k, before.takesRoomOutOfService = true → before.roomId = some k →
      HeldByNone db (some before.id) k) :
    BrokenOffSale (statusOfRoom before .DIRTY now (db.updateWorkOrder before.id f hf)) := by
  have hupdated : BrokenOffSale (db.updateWorkOrder before.id f hf) :=
    h.updateWorkOrder hb fun k hk => absurd hk (hclosed k)
  unfold statusOfRoom
  split
  next roomId hroom =>
    rcases Option.ite_none_right_eq_some.mp hroom with ⟨htakes, hroom⟩
    exact hupdated.setRoomStatus now
      (.inr (heldByNone_close hb (hclosed roomId) (honly roomId htakes hroom)))
  next => exact hupdated

theorem complete_leaves (h : BrokenOffSale db) (dto : CompleteWorkOrderDto)
    (hspared : ∀ k ∈ roomOfClosed propertyId id dto.resolution .COMPLETED db,
      HeldByNone db (some id) k) : LeavesOffSale (complete propertyId id dto now) db := by
  refine (ends_bind _ _).mpr (ends_requireWorkOrder (fun _ => h) fun before hfound => ?_)
  rcases workOrderOf_eq_some hfound with ⟨hb, rfl⟩
  simp only [ends_simps, assertWorkOrderTransition_ok, h]
  intro htext _ ht
  refine ends_updateWithRoom h (h.close hb (fun k hk => hk.2.2.2.1 rfl)
    fun k htakes hroom => hspared k ?_)
  simp [roomOfClosed, hfound, htext, ht, htakes, hroom]

theorem cancel_leaves (h : BrokenOffSale db) (dto : CancelWorkOrderDto)
    (hspared : ∀ k ∈ roomOfClosed propertyId id dto.reason .CANCELLED db,
      HeldByNone db (some id) k) : LeavesOffSale (cancel propertyId id dto now) db := by
  refine (ends_bind _ _).mpr (ends_requireWorkOrder (fun _ => h) fun before hfound => ?_)
  rcases workOrderOf_eq_some hfound with ⟨hb, rfl⟩
  simp only [ends_simps, assertWorkOrderTransition_ok, h]
  intro htext _ ht
  refine ends_updateWithRoom h (h.close hb (fun k hk => hk.2.2.2.2 rfl)
    fun k htakes hroom => hspared k ?_)
  simp [roomOfClosed, hfound, htext, ht, htakes, hroom]

theorem createTx_leaves (h : BrokenOffSale db) (dto : CreateWorkOrderDto) (reporterId : Id)
    (attempt : ℕ) :
    (createTx propertyId dto reporterId now attempt).ends
      (fun _ t s => t = .idle ∧ BrokenOffSale s) (fun _ t s => t = .idle ∧ s = db) .idle db := by
  simp only [createTx, WorkOrdersService.setRoomStatus, ends_simps, ends_when, ends_forSome,
    and_self, id_eq]
  intro db' hinsert
  generalize hrow : newWorkOrder propertyId dto reporterId (formatWorkOrderNumber _) = row
    at hinsert ⊢
  have happlied : applied (insertWorkOrder row) db = db' := by simp [applied, hinsert]
  simp only [Tx.view_active, Function.comp_apply, id_eq, happlied]
  have hdb : db' = { db with workOrders := db.workOrders.insert (drawn row db) } := by
    unfold insertWorkOrder at hinsert
    split at hinsert
    · cases hinsert
    · exact (Except.ok.inj hinsert).symm
  have hfields : (drawn row db).roomId = dto.roomId ∧
      (drawn row db).takesRoomOutOfService = dto.takesRoomOutOfService.getD false := by
    rw [← hrow]
    exact ⟨rfl, rfl⟩
  -- an order that holds no room
  have hfree : (∀ k, ¬(drawn row db).holds k) → BrokenOffSale db' := by
    intro hno
    rw [hdb]
    exact h.insertWorkOrder fun room _ hk => absurd hk (hno room.id)
  refine ⟨fun htakes => ⟨fun roomId hroom => ?_, fun hroom => ?_⟩, fun htakes => ?_⟩
  · have hswap : db'.setRoomStatus roomId .OUT_OF_ORDER now =
        { db.setRoomStatus roomId .OUT_OF_ORDER now with
          workOrders := db.workOrders.insert (drawn row db) } := by
      rw [hdb]
      rfl
    rw [hswap]
    refine (h.setRoomStatus now (.inl (by decide))).insertWorkOrder fun room hmem hk => ?_
    have hid : roomId = room.id := by
      have := hk.2.1
      rw [hfields.1, hroom] at this
      exact Option.some.inj this
    simp only [HotelDb.setRoomStatus, mem_rows, mem_update] at hmem
    rcases hmem with ⟨r, _, rfl⟩
    split
    · show RoomStatus.OUT_OF_ORDER ∈ OFF_SALE
      decide
    next hne =>
      rw [if_neg hne] at hid
      exact absurd (decide_eq_true hid.symm) hne
  · exact hfree fun k hk => by simpa [hfields.1, hroom] using hk.2.1
  · exact hfree fun k hk => htakes (by rw [← hfields.2]; exact hk.1)

theorem ends_createAttempts {body : ℕ → Op WorkOrderDto} (h : BrokenOffSale db)
    (hbody : ∀ attempt, (body attempt).ends (fun _ _ s => BrokenOffSale s)
      (fun e t s => BrokenOffSale s ∧ (e = .uniqueViolation → t = .idle ∧ s = db)) .idle db) :
    ∀ left attempt, LeavesOffSale (createAttempts body left attempt) db := by
  intro left
  induction left with
  | zero => exact fun _ => h
  | succ left ih =>
    intro attempt
    rw [LeavesOffSale, createAttempts, ends_tryCatch]
    refine ends_mono (fun _ _ _ hP => hP) (fun e t s he => ?_) _ _ _ (hbody attempt)
    rw [ends_ite]
    refine ⟨fun hretry => ?_, fun _ => he.1⟩
    rcases he.2 hretry.1 with ⟨rfl, rfl⟩
    exact ih (attempt + 1)

theorem create_leaves (h : BrokenOffSale db) (dto : CreateWorkOrderDto) (reporterId : Id) :
    LeavesOffSale (create propertyId dto reporterId now) db := by
  have hroom : (forSome dto.roomId fun roomId => do
      let _ ← requireRoom propertyId roomId : Op Unit).ReadOnly := by
    cases dto.roomId with
    | none => exact .pure _
    | some roomId => exact .bind (.bind (.select _ _) fun _ => .orThrow _ _) fun _ => .pure _
  refine (ends_bind _ _).mpr (hroom.ends_idle (fun _ => ?_) fun _ => h)
  refine ends_createAttempts h (fun attempt => ?_) NUMBER_ATTEMPTS 0
  rw [ends_bind]
  refine ends_mono (fun row t s hs => ?_) (fun e t s hs => ?_) _ _ _
    (createTx_leaves h dto reporterId attempt)
  · rcases hs with ⟨rfl, hs⟩
    -- reading the row back fails with no error that is retried
    simp only [hydrate, hydrateRoom, ends_simps, reduceCtorEq, false_implies, Option.some.injEq,
      forall_eq']
    cases row.roomId with
    | none => exact hs
    | some roomId => exact ⟨hs, fun m => ⟨hs, fun hm => by cases hm⟩⟩
  · rcases hs with ⟨rfl, rfl⟩
    exact ⟨h, fun _ => ⟨rfl, rfl⟩⟩

end Orders

section Tasks

open HousekeepingService

variable {propertyId id : Id} {db : HotelDb} {now : ℤ}

theorem assertTaskTransition_ok {fromStatus toStatus : HousekeepingTaskStatus} {u : Unit} :
    assertTaskTransition fromStatus toStatus = .ok u ↔
      canTaskTransition fromStatus toStatus = true := by
  unfold assertTaskTransition
  split <;> simp_all

theorem hydrateRow_readOnly (row : Option HousekeepingTask) : (hydrate row).ReadOnly := by
  refine .bind (.orThrow _ _) fun t => .bind ?_ fun _ => .pure _
  cases t.roomId with
  | none => exact .pure _
  | some roomId => exact .select _ _

theorem leaves_hydrateTask {s : HotelDb} (row : Option HousekeepingTask) (h : BrokenOffSale s) :
    LeavesOffSale (hydrate row) s :=
  (hydrateRow_readOnly row).ends_idle (fun _ => h) fun _ => h

theorem BrokenOffSale.workTask (h : BrokenOffSale db) {f : HousekeepingTask → HousekeepingTask}
    {hf : ∀ t, (f t).id = t.id} {roomId : Id} {status : RoomStatus}
    (hnone : HeldByNone db none roomId) :
    BrokenOffSale ((db.updateTask id f hf).setRoomStatus roomId status now) :=
  (h.of_eq rfl rfl : BrokenOffSale (db.updateTask id f hf)).setRoomStatus now (.inr hnone)

theorem startTask_leaves (h : BrokenOffSale db) (actor : TaskActor)
    (hspared : ∀ k ∈ roomOfTask propertyId id actor .IN_PROGRESS db, HeldByNone db none k) :
    LeavesOffSale (HousekeepingService.start propertyId id actor now) db := by
  simp only [LeavesOffSale, HousekeepingService.start, requireTask, updateTask,
    HousekeepingService.setRoomStatus, ends_simps, ends_forSome, assertTaskTransition_ok, h]
  intro before hfound u hwork _ ht
  constructor
  · intro roomId hroom
    refine leaves_hydrateTask _ (h.workTask (hspared roomId ?_))
    simp [roomOfTask, hfound, hwork, ht, hroom, Except.isOk, Except.toBool]
  · exact fun _ => leaves_hydrateTask _ (h.of_eq rfl rfl)

theorem completeTask_leaves (h : BrokenOffSale db) (dto : CompleteTaskDto) (actor : TaskActor)
    (hspared : ∀ k ∈ roomOfTask propertyId id actor .COMPLETED db, HeldByNone db none k) :
    LeavesOffSale (HousekeepingService.complete propertyId id dto actor now) db := by
  simp only [LeavesOffSale, HousekeepingService.complete, requireTask, updateTask,
    HousekeepingService.setRoomStatus, ends_simps, ends_forSome, assertTaskTransition_ok, h]
  intro before hfound u hwork _ ht
  constructor
  · intro roomId hroom
    refine leaves_hydrateTask _ (h.workTask (hspared roomId ?_))
    simp [roomOfTask, hfound, hwork, ht, hroom, Except.isOk, Except.toBool]
  · exact fun _ => leaves_hydrateTask _ (h.of_eq rfl rfl)

theorem inspect_leaves (h : BrokenOffSale db) (dto : InspectTaskDto) (actor : TaskActor)
    (hspared : ∀ k ∈ roomOfTask propertyId id ⟨0, true⟩
      (if dto.pass then .INSPECTED else .REJECTED) db, HeldByNone db none k) :
    LeavesOffSale (HousekeepingService.inspect propertyId id dto actor now) db := by
  simp only [LeavesOffSale, HousekeepingService.inspect, requireTask, updateTask, insertRedo,
    HousekeepingService.setRoomStatus, ends_simps, ends_forSome, ends_ite, assertTaskTransition_ok,
    h]
  intro before hfound _ ht
  have hroom : ∀ k, before.roomId = some k → HeldByNone db none k := by
    intro k hk
    refine hspared k ?_
    simp [roomOfTask, hfound, ht, hk, assertMayWork, Except.isOk, Except.toBool]
  refine ⟨fun _ => ⟨fun roomId hk => ?_, fun _ => ?_⟩, fun _ => ⟨fun roomId hk => ?_, fun _ => ?_⟩⟩
  · exact leaves_hydrateTask _ (h.workTask (hroom roomId hk))
  · exact leaves_hydrateTask _ (h.of_eq rfl rfl)
  · have hafter : BrokenOffSale
        (db.setRoomStatus roomId (ROOM_STATUS_FOR_TASK .INSPECT_FAIL) now) :=
      h.setRoomStatus now (.inr (hroom roomId hk))
    refine (hydrateRow_readOnly _).ends_idle (fun _ => ?_) fun _ => hafter.of_eq rfl rfl
    exact leaves_hydrateTask _ (hafter.of_eq rfl rfl)
  · refine (hydrateRow_readOnly _).ends_idle (fun _ => ?_) fun _ => h.of_eq rfl rfl
    exact leaves_hydrateTask _ (h.of_eq rfl rfl)

end Tasks

section Stays

open ReservationsService

variable {propertyId id : Id} {actorStaffId : Option Id} {env : Env} {db : HotelDb}

theorem BrokenOffSale.assignable (h : BrokenOffSale db) {roomId : Id} {room : Room}
    (hfound : roomOf propertyId roomId db = some room)
    (hready : room.status ∈ ASSIGNABLE_ROOM_STATUSES) : HeldByNone db none room.id := by
  rcases h room (roomOf_eq_some.mp hfound).1 with hoff | hnone
  · have hdisjoint : ∀ s ∈ ASSIGNABLE_ROOM_STATUSES, s ∉ OFF_SALE := by decide
    exact absurd hoff (hdisjoint _ hready)
  · exact hnone

theorem checkIn_leaves (h : BrokenOffSale db) (dto : CheckInDto) :
    LeavesOffSale (checkIn env propertyId id dto actorStaffId) db := by
  simp only [LeavesOffSale, checkIn, updateReservation, ReservationsService.setRoomStatus,
    recordEvent, ends_simps, ends_requireReservation, ends_requireRoom, ends_assertRoomFree, h]
  intro before _ _ _ _ roomId _ room hroom _ hready _
  refine ends_hydrate (P := BrokenOffSale) _ ?_
  have hnone := h.assignable hroom (by simpa using hready)
  rw [(roomOf_eq_some.mp hroom).2.1] at hnone
  have hafter : BrokenOffSale (db.setRoomStatus roomId .OCCUPIED env.now) :=
    h.setRoomStatus env.now (.inr hnone)
  exact hafter.of_eq rfl rfl

variable {E : Err → Tx HotelDb → HotelDb → Prop}

variable {P : ℤ → Tx HotelDb → HotelDb → Prop}

theorem ends_movedRate {before : Reservation} {room : Room} {ratePaise : Option ℤ}
    (hE : ∀ e, E e .idle db) (hP : ∀ rate, room.roomTypeId = before.roomTypeId ∨
      (roomTypeOf propertyId room.roomTypeId db).isSome → P rate .idle db) :
    (movedRate propertyId before room ratePaise).ends P E .idle db := by
  simp only [movedRate, requireRoomType, ends_ite, ends_simps, hE]
  constructor
  · exact fun _ type htype => hP _ (.inr (by simp [htype]))
  · exact fun hsame => hP _ (.inl (not_not.mp hsame))

theorem moveRoom_leaves (h : BrokenOffSale db) (dto : MoveRoomDto)
    (hspared : ∀ k ∈ (BoardCall.mk propertyId (.moveRoom env id dto actorStaffId)).givesBack db,
      HeldByNone db none k) : LeavesOffSale (moveRoom env propertyId id dto actorStaffId) db := by
  simp only [LeavesOffSale, moveRoom, updateReservation, ReservationsService.setRoomStatus,
    recordEvent, ends_simps, ends_requireReservation, ends_requireRoom, h]
  intro before hfound hin hother room hroom hready
  refine ends_movedRate (fun _ => h) fun rate htype => ?_
  simp only [ends_simps, ends_assertRoomFree, ends_forSome, h]
  intro hclear
  have hnone := h.assignable hroom (by simpa using hready)
  constructor
  · intro left hleft
    refine ends_hydrate (P := BrokenOffSale) _ ?_
    -- the room that is left, then the room that is taken
    have hvacated : BrokenOffSale (db.setRoomStatus left .DIRTY env.now) := by
      refine h.setRoomStatus env.now (.inr (hspared left ?_))
      have hcontains : room.status ∈ ASSIGNABLE_ROOM_STATUSES := by simpa using hready
      have hdifferent : left ≠ dto.roomId := fun heq => hother (by rw [hleft, heq])
      have hfree : RoomProbe.Clear
          { propertyId, roomId := room.id, checkIn := before.checkIn, checkOut := before.checkOut,
            excludeId := some id } db := hclear
      simp [BoardCall.givesBack, hfound, not_not.mp hin, hdifferent, hroom, hcontains, htype, hleft,
        hfree]
    have htaken : BrokenOffSale
        ((db.setRoomStatus left .DIRTY env.now).setRoomStatus room.id .OCCUPIED env.now) :=
      hvacated.setRoomStatus env.now (.inr hnone)
    exact htaken.of_eq rfl rfl
  · intro _
    refine ends_hydrate (P := BrokenOffSale) _ ?_
    have htaken : BrokenOffSale (db.setRoomStatus room.id .OCCUPIED env.now) :=
      h.setRoomStatus env.now (.inr hnone)
    exact htaken.of_eq rfl rfl

theorem ends_recordPayment_exact {P : FolioPayment × ℤ → Tx HotelDb → HotelDb → Prop}
    {input : RecordPaymentInput} {now : ℤ}
    (hE : ∀ e s, s.rooms = db.rooms → s.workOrders = db.workOrders → E e .idle s)
    (hold : ∀ a, (paymentOf input db).isSome → P a .idle db)
    (hnew : ∀ a, paymentOf input db = none → keyTaken input db = false →
      P a .idle (recorded input now db)) :
    (recordPayment input now).ends P E .idle db := by
  have hstay : ∀ e, E e .idle db := fun e => hE e db rfl rfl
  simp only [recordPayment, ends_simps, hstay]
  cases hrow : paymentOf input db with
  | some payment =>
    simp only [ends_simps, hstay]
    exact hold _ (by simp [hrow])
  | none =>
    simp only [ends_simps, hstay]
    cases hkey : keyTaken input db with
    | true =>
      rw [FolioService.insertPayment_of_taken hkey]
      simp [winnerOf, hrow, hstay]
    | false =>
      rw [FolioService.insertPayment_of_free hkey]
      have hadded : ∀ e, E e .idle (addPayment (paymentRow input) db) :=
        fun e => hE e _ rfl rfl
      simp only [winnerOf, ends_simps, hadded, reduceCtorEq]
      exact fun _ _ => hnew _ hrow hkey

theorem balancePaise_straight : (balancePaise id).Straight fun _ _ => False := by
  have hroom : ∀ r look, (roomTaxOf r look).Straight fun _ _ => False := by
    intro r look
    cases r with
    | none => exact .pure _
    | some r =>
      exact .bind (.ite _ (.pure _) (.bind (.select _ _) fun _ => .pure _)) fun _ =>
        .bind (.select _ _) fun _ => .pure _
  exact .bind (.bind (.select _ _) fun _ => .bind (.select _ _) fun _ =>
    .bind (.select _ _) fun _ => .bind (hroom _ _) fun _ => .pure _) fun _ => .pure _

theorem ends_balance (hE : ∀ e, E e .idle db) (hP : P (Folio.balance id db) .idle db) :
    (balancePaise id).ends P E .idle db := by
  refine balancePaise_straight.ends_idle (fun b hb => ?_) hE
  rw [FolioService.eval_balancePaise] at hb
  exact Except.ok.inj hb ▸ hP

theorem ends_collectedFrom {P : Unit → Tx HotelDb → HotelDb → Prop} {dto : CheckOutDto} {now : ℤ}
    (hE : ∀ e s, s.rooms = db.rooms → s.workOrders = db.workOrders → E e .idle s)
    (hP : ∀ s, collectedFrom propertyId id dto actorStaffId now db = some s →
      s.rooms = db.rooms → s.workOrders = db.workOrders → P () .idle s) :
    (when (0 < dto.collectedPaise.getD 0) do
      let _ ← recordPayment
        { reservationId := id
          propertyId
          method := dto.paymentMethod.getD .CASH
          amountPaise := dto.collectedPaise.getD 0
          reference := dto.reference
          collectedBy := actorStaffId
          idempotencyKey := dto.idempotencyKey } now).ends P E .idle db := by
  unfold collectedFrom at hP
  simp only [ends_when, ends_simps]
  constructor
  · intro hpos
    simp only [if_pos hpos] at hP
    refine ends_recordPayment_exact hE (fun _ hold => ?_) fun _ hnone hfree => ?_
    · exact hP db (by rw [if_pos hold]) rfl rfl
    · exact hP _ (by simp [hnone, hfree]) rfl rfl
  · intro hpos
    exact hP db (by rw [if_neg hpos]) rfl rfl

theorem checkOut_leaves (h : BrokenOffSale db) (dto : CheckOutDto)
    (hspared : ∀ k ∈ (BoardCall.mk propertyId (.checkOut env id dto actorStaffId)).givesBack db,
      HeldByNone db none k) : LeavesOffSale (checkOut env propertyId id dto actorStaffId) db := by
  simp only [LeavesOffSale, checkOut, ends_simps, ends_requireReservation, assertTransition_ok, h]
  intro before hfound _ ht
  refine ends_collectedFrom (fun _ s => h.of_eq) fun s hpaid hrooms horders => ?_
  have hs : BrokenOffSale s := h.of_eq hrooms horders
  refine ends_balance (fun _ => hs) ?_
  simp only [updateReservation, ReservationsService.setRoomStatus, createCheckoutCleanForRoom,
    recordEvent, ends_simps, ends_forSome, ends_when, hs]
  intro hgate
  constructor
  · intro roomId hroom
    have hnone : HeldByNone s none roomId := by
      unfold HeldByNone
      rw [horders]
      refine hspared roomId ?_
      simp only [BoardCall.givesBack, hfound, ht, hpaid, hroom, guard, Option.bind_eq_bind,
        Option.bind_some, Option.pure_def, Option.mem_def, if_true, if_pos hgate]
    have hvacated : BrokenOffSale (s.setRoomStatus roomId .DIRTY env.now) :=
      hs.setRoomStatus env.now (.inr hnone)
    exact ⟨fun _ => ends_hydrate (P := BrokenOffSale) _ (hvacated.of_eq rfl rfl),
      fun _ => ends_hydrate (P := BrokenOffSale) _ (hvacated.of_eq rfl rfl)⟩
  · exact fun _ => ends_hydrate (P := BrokenOffSale) _ (hs.of_eq rfl rfl)

end Stays

theorem LeavesOffSale.quietly {α : Type} {p : Op α} {db : HotelDb} (h : LeavesOffSale p db) :
    LeavesOffSale (do let _ ← p : Op Unit) db :=
  (ends_bind _ _).mpr h

/-- The step lemma: a call that spares the held rooms leaves the broken rooms off sale. -/
theorem BoardCall.prog_leaves (c : BoardCall) {db : HotelDb} (h : BrokenOffSale db)
    (hspared : ∀ k ∈ c.givesBack db, HeldByNone db c.closes k) : LeavesOffSale c.prog db := by
  rcases c with ⟨propertyId, action⟩
  cases action with
  | createOrder dto reporterId now => exact (create_leaves h dto reporterId).quietly
  | acceptOrder id actor now => exact (accept_leaves h actor).quietly
  | startOrder id now => exact (simpleTransition_leaves h _ _).quietly
  | pauseOrder id now => exact (simpleTransition_leaves h _ _).quietly
  | resumeOrder id now => exact (simpleTransition_leaves h _ _).quietly
  | completeOrder id dto now => exact (complete_leaves h dto hspared).quietly
  | cancelOrder id dto now => exact (cancel_leaves h dto hspared).quietly
  | startTask id actor now => exact (startTask_leaves h actor hspared).quietly
  | completeTask id dto actor now => exact (completeTask_leaves h dto actor hspared).quietly
  | inspect id dto actor now => exact (inspect_leaves h dto actor hspared).quietly
  | checkIn env id dto actorStaffId => exact (checkIn_leaves h dto).quietly
  | checkOut env id dto actorStaffId => exact (checkOut_leaves h dto hspared).quietly
  | moveRoom env id dto actorStaffId => exact (moveRoom_leaves h dto hspared).quietly

/-- In any run of calls one after another, whatever statements fail: while no call gives back a
room that an order still holds, every room that an order holds is off sale. -/
theorem broken_rooms_stay_off_sale (steps : List (BoardCall × (ℕ → Option String))) (db : HotelDb)
    (hoff : BrokenOffSale db) (hspared : EachStep BoardCall.prog Spared steps db) :
    BrokenOffSale (runAll BoardCall.prog steps db) := by
  have hsteps : EachStep BoardCall.prog (fun _ _ s' => BrokenOffSale s') steps db :=
    EachStep.mono (fun c s φ hs hc =>
      have hafter := ends_runWith (c.prog_leaves hs hc) φ
      ⟨hafter, hafter⟩) steps db hspared hoff
  exact EachStep.invariant (I := BrokenOffSale) (fun _ _ _ hs' _ => hs') steps db hsteps hoff

/-! ## A leak and a broken lamp -/

/-- A hotel with one room, free. -/
def freeRoomHotel : HotelDb where
  rooms := (∅ : Table Room.id).insert
    { id := 101, propertyId := 1, roomTypeId := 7, number := "101", status := .READY }

def leak : CreateWorkOrderDto where
  roomId := some 101
  title := "Leaking pipe"
  takesRoomOutOfService := some true

def lamp : CreateWorkOrderDto where
  roomId := some 101
  title := "Broken lamp"
  takesRoomOutOfService := some true

/-- Both are raised, and the lamp is called off. -/
def lampCalledOff : List (BoardCall × (ℕ → Option String)) :=
  [(⟨1, .createOrder leak 5 0⟩, fun _ => none), (⟨1, .createOrder lamp 5 0⟩, fun _ => none),
    (⟨1, .cancelOrder 2 { reason := "It works again" } 0⟩, fun _ => none)]

/-- The leak is repaired first. -/
def leakRepaired : List (BoardCall × (ℕ → Option String)) :=
  [(⟨1, .createOrder leak 5 0⟩, fun _ => none), (⟨1, .acceptOrder 1 ⟨6, false⟩ 0⟩, fun _ => none),
    (⟨1, .startOrder 1 0⟩, fun _ => none),
    (⟨1, .completeOrder 1 { resolution := "New pipe" } 0⟩, fun _ => none)]

/-- The room with the leak is DIRTY, for the attendant to clean and the desk to sell. -/
theorem repair_outlived : BrokenOffSale freeRoomHotel ∧
    ((runAll BoardCall.prog lampCalledOff freeRoomHotel).rooms.find? 101).map (·.status) =
      some .DIRTY ∧
    ¬BrokenOffSale (runAll BoardCall.prog lampCalledOff freeRoomHotel) := by
  decide +kernel

theorem repaired_in_turn : EachStep BoardCall.prog Spared leakRepaired freeRoomHotel ∧
    BrokenOffSale (runAll BoardCall.prog leakRepaired freeRoomHotel) :=
  have hspared : EachStep BoardCall.prog Spared leakRepaired freeRoomHotel := by decide +kernel
  ⟨hspared, broken_rooms_stay_off_sale leakRepaired freeRoomHotel (by decide +kernel) hspared⟩

end Travelo

import Travelo.Reservations.Writes

/-!
# Calls

Every method of the reservation service with its arguments, as one type, so that calls
of different methods can run one after another (`runCalls`) or interleaved
(`ReadCommitted.Config.start`).
-/

namespace Travelo

open ReadCommitted ReservationsService

namespace Call

/-- The call as a program; its answer is dropped. -/
def prog (c : Call) : Op Unit :=
  match c.action with
  | .create dto => do
    let _ ← ReservationsService.create c.env c.propertyId dto c.actorStaffId
  | .update id dto => do
    let _ ← ReservationsService.update c.env c.propertyId id dto c.actorStaffId
  | .extendStay id dto => do
    let _ ← ReservationsService.extendStay c.env c.propertyId id dto c.actorStaffId
  | .moveRoom id dto => do
    let _ ← ReservationsService.moveRoom c.env c.propertyId id dto c.actorStaffId
  | .assignRoom id roomId => do
    let _ ← ReservationsService.assignRoom c.env c.propertyId id roomId c.actorStaffId
  | .lockRoom id locked => do
    let _ ← ReservationsService.lockRoom c.env c.propertyId id locked c.actorStaffId
  | .swapRooms id otherId => do
    let _ ← ReservationsService.swapRooms c.env c.propertyId id otherId c.actorStaffId
  | .autoAllocate input => do
    let _ ← ReservationsService.autoAllocate c.env c.propertyId input c.actorStaffId
  | .confirm id => do
    let _ ← ReservationsService.confirm c.env c.propertyId id c.actorStaffId
  | .checkIn id dto => do
    let _ ← ReservationsService.checkIn c.env c.propertyId id dto c.actorStaffId
  | .checkOut id dto => do
    let _ ← ReservationsService.checkOut c.env c.propertyId id dto c.actorStaffId
  | .collectPayment id input => do
    let _ ← ReservationsService.collectPayment c.env c.propertyId id input c.actorStaffId
  | .cancel id reason => do
    let _ ← ReservationsService.cancel c.env c.propertyId id reason c.actorStaffId
  | .noShow id => do
    let _ ← ReservationsService.noShow c.env c.propertyId id c.actorStaffId

theorem writes (c : Call) : c.prog.WritesUnder (Commit c) := by
  obtain ⟨env, propertyId, actorStaffId, action⟩ := c
  simp only [Prog.WritesUnder, prog]
  cases action with
  | create dto => exact wp_bind _ _ |>.mpr (create_writes env propertyId actorStaffId dto)
  | update id dto => exact wp_bind _ _ |>.mpr (update_writes env propertyId id actorStaffId dto)
  | extendStay id dto =>
    exact wp_bind _ _ |>.mpr (extendStay_writes env propertyId id actorStaffId dto)
  | moveRoom id dto =>
    exact wp_bind _ _ |>.mpr (moveRoom_writes env propertyId id actorStaffId dto)
  | assignRoom id roomId =>
    exact wp_bind _ _ |>.mpr (assignRoom_writes env propertyId id actorStaffId roomId)
  | lockRoom id locked =>
    exact wp_bind _ _ |>.mpr (lockRoom_writes env propertyId id actorStaffId locked)
  | swapRooms id otherId =>
    exact wp_bind _ _ |>.mpr (swapRooms_writes env propertyId id actorStaffId otherId)
  | autoAllocate input =>
    exact wp_bind _ _ |>.mpr (autoAllocate_writes env propertyId actorStaffId input)
  | confirm id => exact wp_bind _ _ |>.mpr (confirm_writes env propertyId id actorStaffId)
  | checkIn id dto =>
    exact wp_bind _ _ |>.mpr (checkIn_writes env propertyId id actorStaffId dto)
  | checkOut id dto =>
    exact wp_bind _ _ |>.mpr (checkOut_writes env propertyId id actorStaffId dto)
  | collectPayment id input =>
    exact wp_bind _ _ |>.mpr (collectPayment_writes env propertyId id actorStaffId input)
  | cancel id reason =>
    exact wp_bind _ _ |>.mpr (cancel_writes env propertyId id actorStaffId reason)
  | noShow id => exact wp_bind _ _ |>.mpr (noShow_writes env propertyId id actorStaffId)

end Call

/-- Calls carried out one after another, each with the faults that befall it. -/
def runCalls (calls : List (Call × (ℕ → Option String))) (db : HotelDb) : HotelDb :=
  calls.foldl (fun db c => (c.1.prog.runWith c.2 db).db) db

/-- A condition on each call and the state it starts from. -/
def EachCall (P : Call → HotelDb → Prop) : List (Call × (ℕ → Option String)) → HotelDb → Prop
  | [], _ => True
  | c :: calls, db => P c.1 db ∧ EachCall P calls (c.1.prog.runWith c.2 db).db

instance decidableEachCall (P : Call → HotelDb → Prop) [∀ c db, Decidable (P c db)] :
    (calls : List (Call × (ℕ → Option String))) → (db : HotelDb) →
      Decidable (EachCall P calls db)
  | [], _ => .isTrue trivial
  | c :: calls, db =>
    have := decidableEachCall P calls (c.1.prog.runWith c.2 db).db
    inferInstanceAs (Decidable (_ ∧ _))

theorem eachCall_true (calls : List (Call × (ℕ → Option String))) :
    ∀ db, EachCall (fun _ _ => True) calls db := by
  induction calls with
  | nil => exact fun _ => trivial
  | cons c calls ih => exact fun _ => ⟨trivial, ih _⟩

/-- The run rule for calls one after another: a call that has published nothing yet has read
nothing but the state it started from, and lands on it. -/
theorem runCalls_invariant {P : Call → HotelDb → Prop} {I : HotelDb → Prop}
    (hC : ∀ (c : Call) h w now, Commit c h w →
      (Quiet h → P c now ∧ ∀ l b, .saw l b ∈ h → b = now) → I now → I (w now)) :
    ∀ calls db, EachCall P calls db → I db → I (runCalls calls db) := by
  intro calls
  induction calls with
  | nil => exact fun db _ hI => hI
  | cons c calls ih =>
    intro db hP hI
    refine ih _ hP.2 ?_
    obtain ⟨htrail, hjust, -, -⟩ := wp_runWith c.1.writes c.2 db
    refine htrail.invariant hjust (fun h w now hw ht _ hnow => ?_) hI
    refine hC c.1 h w now hw (fun hq => ?_) hnow
    obtain ⟨rfl, hall⟩ := ht.quiet hq
    exact ⟨hP.1, hall⟩

end Travelo

import Travelo.Claims.Machine
import Travelo.KeyCards.Successors
import Travelo.Reservations.Deeds

/-!
# Cards and stays

A card keeps a copy of the check-out of its stay, and the reservation service knows nothing of
cards. `cards_die`: a card that opens belongs to a committed or in-house stay and expires at eleven
on its last day, while no operation ends or moves a stay that has such a card, and none is replaced
for a stay that has ended.
-/

namespace Travelo.KeyCards

open ReadCommitted ReservationsService
open Reservation (rescheduled withDates)

/-! ## Operations of the reservation service -/

/-- The operations that stays go through. -/
inductive StayOp where
  | confirm (id : Id)
  | checkIn (id : Id) (dto : CheckInDto)
  | checkOut (id : Id) (dto : CheckOutDto)
  | cancel (id : Id) (reason : String)
  | noShow (id : Id)
  | extendStay (id : Id) (dto : ExtendStayDto)
  | update (id : Id) (dto : UpdateReservationDto)
  | moveRoom (id : Id) (dto : MoveRoomDto)

def StayOp.action : StayOp → Action
  | .confirm id => .confirm id
  | .checkIn id dto => .checkIn id dto
  | .checkOut id dto => .checkOut id dto
  | .cancel id reason => .cancel id reason
  | .noShow id => .noShow id
  | .extendStay id dto => .extendStay id dto
  | .update id dto => .update id dto
  | .moveRoom id dto => .moveRoom id dto

/-- The row that the operation finds. -/
def isRow (propertyId id : Id) (r : Reservation) : Prop :=
  r.id = id ∧ r.propertyId = propertyId ∧ r.deletedAt = none

/-- The operation would end the stay, or move its check-out. -/
def Disturbs (propertyId : Id) (now : ℤ) (r : Reservation) : StayOp → Prop
  | .checkOut id _ => isRow propertyId id r ∧ canTransition r.status .CHECKED_OUT = true
  | .cancel id _ => isRow propertyId id r ∧ canTransition r.status .CANCELLED = true
  | .noShow id => isRow propertyId id r ∧ canTransition r.status .NO_SHOW = true ∧
      r.checkIn < today now
  | .extendStay id dto => isRow propertyId id r ∧
      (r.status = .CHECKED_IN ∨ r.status = .CONFIRMED) ∧ r.checkOut < dto.checkOut
  | .update id dto => isRow propertyId id r ∧ (r.status = .PENDING ∨ r.status = .CONFIRMED) ∧
      ∃ checkOut ∈ dto.checkOut, checkOut ≠ r.checkOut
  | .confirm _ => False
  | .checkIn _ _ => False
  | .moveRoom _ _ => False

/-- Every reservation is still there; one that `D` does not hold of keeps its check-out, and stays
committed or in house. -/
def KeepsStays (D : Reservation → Prop) (db s : HotelDb) : Prop :=
  ∀ r ∈ db.reservations, ∃ r' ∈ s.reservations, r'.id = r.id ∧ r'.deletedAt = r.deletedAt ∧
    (¬D r → r'.checkOut = r.checkOut ∧
      (KeyCardsService.eligible r.status → KeyCardsService.eligible r'.status))

section Keeping

variable {D : Reservation → Prop} {db s s' : HotelDb} {id : Id}

theorem KeepsStays.refl (D : Reservation → Prop) (db : HotelDb) : KeepsStays D db db :=
  fun r hr => ⟨r, hr, rfl, rfl, fun _ => ⟨rfl, fun h => h⟩⟩

/-- One row is updated: it keeps its check-out and its place, unless `D` holds of it. -/
theorem KeepsStays.update (h : KeepsStays D db s) {f : Reservation → Reservation}
    (hrows : s'.reservations.rows =
      s.reservations.rows.map fun r => if decide (r.id = id) = true then f r else r)
    (hid : ∀ r, (f r).id = r.id ∧ (f r).deletedAt = r.deletedAt)
    (hkeep : ∀ r ∈ db.reservations, r.id = id → ¬D r → ∀ r', r'.checkOut = r.checkOut →
      (f r').checkOut = r.checkOut ∧
        (KeyCardsService.eligible r'.status → KeyCardsService.eligible (f r').status)) :
    KeepsStays D db s' := by
  intro r hr
  rcases h r hr with ⟨r', hr', hid', hdel, hstay⟩
  have hmem : (if decide (r'.id = id) = true then f r' else r') ∈ s'.reservations := by
    rw [← mem_rows, hrows]
    exact List.mem_map.mpr ⟨r', hr', rfl⟩
  by_cases hrow : r'.id = id
  · rw [if_pos (by simpa using hrow)] at hmem
    refine ⟨f r', hmem, (hid r').1.trans hid', (hid r').2.trans hdel, fun hD => ?_⟩
    have hnow := hkeep r hr (hid'.symm.trans hrow) hD r' (hstay hD).1
    exact ⟨hnow.1, fun he => hnow.2 ((hstay hD).2 he)⟩
  · rw [if_neg (by simpa using hrow)] at hmem
    exact ⟨r', hmem, hid', hdel, hstay⟩

theorem row_of_found {propertyId : Id} {before r : Reservation}
    (hfound : reservationOf propertyId id db = some before) (hr : r ∈ db.reservations)
    (hid : r.id = id) : r = before ∧ isRow propertyId id r := by
  rcases reservationOf_eq_some.mp hfound with ⟨hb, hbid, hprop, hlive⟩
  have heq : r = before := eq_of_key_eq hr hb (hid.trans hbid.symm)
  subst heq
  exact ⟨rfl, hid, hprop, hlive⟩

/-- The program, alone on `db`, keeps the stays that `D` does not hold of. -/
def EndsKeeping {α : Type} (p : Op α) (D : Reservation → Prop) (db : HotelDb) : Prop :=
  p.ends (fun _ _ s => KeepsStays D db s) (fun _ _ s => KeepsStays D db s) .idle db

end Keeping

section Methods

variable {dates : Reservation → ℤ × ℤ} {f : Reservation → Reservation}

theorem rescheduled_same
    (hf : ∀ r, (f r).id = r.id ∧ (f r).deletedAt = r.deletedAt ∧ (f r).status = r.status)
    (r : Reservation) : (rescheduled dates f r).id = r.id ∧
      (rescheduled dates f r).deletedAt = r.deletedAt ∧
      (rescheduled dates f r).status = r.status := by
  unfold rescheduled withDates
  split
  · exact hf r
  · exact hf r

theorem rescheduled_checkOut {r : Reservation} (hf : (f r).checkOut = r.checkOut)
    (hdates : (dates r).2 = r.checkOut) :
    (rescheduled dates f r).checkOut = r.checkOut := by
  unfold rescheduled withDates
  split
  · exact hdates
  · exact hf

variable (env : Env) (propertyId id : Id) (actorStaffId : Option Id) (db : HotelDb)

theorem cancel_keeps (reason : String) :
    EndsKeeping (cancel env propertyId id reason actorStaffId)
      (fun r => Disturbs propertyId env.now r (.cancel id reason)) db := by
  have hstay := KeepsStays.refl (fun r => Disturbs propertyId env.now r (.cancel id reason)) db
  simp only [EndsKeeping, cancel, updateReservation, recordEvent, ends_simps,
    ends_requireReservation, assertTransition_ok, hstay]
  intro before hfound _ ht
  refine ends_hydrate _ (hstay.update rfl (fun _ => ⟨rfl, rfl⟩) fun r hr hid hD => ?_)
  rcases row_of_found hfound hr hid with ⟨rfl, hrow⟩
  exact absurd ⟨hrow, ht⟩ hD

theorem noShow_keeps : EndsKeeping (noShow env propertyId id actorStaffId)
    (fun r => Disturbs propertyId env.now r (.noShow id)) db := by
  have hstay := KeepsStays.refl (fun r => Disturbs propertyId env.now r (.noShow id)) db
  simp only [EndsKeeping, noShow, updateReservation, recordEvent, ends_simps,
    ends_requireReservation, assertTransition_ok, hstay]
  intro before hfound _ ht hday
  refine ends_hydrate _ (hstay.update rfl (fun _ => ⟨rfl, rfl⟩) fun r hr hid hD => ?_)
  rcases row_of_found hfound hr hid with ⟨rfl, hrow⟩
  exact absurd ⟨hrow, ht, not_le.mp hday⟩ hD

theorem confirm_keeps : EndsKeeping (confirm env propertyId id actorStaffId)
    (fun r => Disturbs propertyId env.now r (.confirm id)) db := by
  have hstay := KeepsStays.refl (fun r => Disturbs propertyId env.now r (.confirm id)) db
  simp only [EndsKeeping, confirm, ends_simps, ends_requireReservation, assertTransition_ok, hstay]
  intro before hfound _ ht
  refine ends_checkMovedBooking (fun _ _ => hstay) ?_
  simp only [updateReservation, recordEvent, ends_write_active, hstay, trivially]
  refine ends_hydrate _ (hstay.update rfl (fun _ => ⟨rfl, rfl⟩) fun r hr hid hD r' hout => ?_)
  exact ⟨hout, fun _ => .inl rfl⟩

theorem checkIn_keeps (dto : CheckInDto) :
    EndsKeeping (checkIn env propertyId id dto actorStaffId)
      (fun r => Disturbs propertyId env.now r (.checkIn id dto)) db := by
  have hstay := KeepsStays.refl (fun r => Disturbs propertyId env.now r (.checkIn id dto)) db
  simp only [EndsKeeping, checkIn, updateReservation, setRoomStatus, recordEvent, ends_simps,
    ends_requireReservation, ends_requireRoom, ends_assertRoomFree, assertTransition_ok, hstay]
  intro before hfound _ ht _ roomId _ room hroom _ hready _
  refine ends_hydrate _ (hstay.update rfl (fun _ => ⟨rfl, rfl⟩) fun r hr hid hD r' hout => ?_)
  exact ⟨hout, fun _ => .inr rfl⟩

theorem ends_reschedule_keeps {D : Reservation → Prop} (hid : ∀ r, (f r).id = r.id)
    (hf : ∀ r, (f r).id = r.id ∧ (f r).deletedAt = r.deletedAt ∧ (f r).status = r.status)
    (hkeep : ∀ r ∈ db.reservations, r.id = id → ¬D r → ∀ r', r'.checkOut = r.checkOut →
      (rescheduled dates f r').checkOut = r.checkOut) (type : String)
    (payload : EventPayload) :
    (rescheduleReservation id dates f hid).ends
      (fun row t db' => (recordEvent id type actorStaffId payload).ends
        (fun _ t db' => (hydrate row).ends (fun _ _ s => KeepsStays D db s)
          (fun _ _ s => KeepsStays D db s) .idle (t.view db') ∧ ∀ _ : String, KeepsStays D db db')
        (fun _ _ s => KeepsStays D db s) t db')
      (fun _ _ s => KeepsStays D db s) (.active fun s => s) db := by
  have hstay := KeepsStays.refl D db
  simp only [rescheduleReservation, recordEvent, ends_simps, hstay]
  intro db' hok
  have hedit : db' = db.updateReservation id (rescheduled dates f)
      (rescheduled_id hid) := by
    unfold HotelDb.rescheduleReservation at hok
    split at hok
    · exact (Except.ok.inj hok).symm
    · cases hok
  have happlied : applied (fun db => HotelDb.rescheduleReservation db id dates f hid) db = db' := by
    simp only [applied, hok]
  have hrows : ((Tx.active ((fun db => db.recordEvent ⟨id, type, actorStaffId, payload⟩) ∘
      applied (fun db => HotelDb.rescheduleReservation db id dates f hid) ∘ fun s => s)).view
        db).reservations.rows = db.reservations.rows.map fun r =>
          if decide (r.id = id) = true then rescheduled dates f r else r := by
    simp only [Tx.view_active, Function.comp_apply, happlied, hedit]
    rfl
  refine ends_hydrate _ (hstay.update hrows (fun r => ?_) fun r hr hrow hD r' hout => ?_)
  · exact ⟨(rescheduled_same hf r).1, (rescheduled_same hf r).2.1⟩
  · refine ⟨hkeep r hr hrow hD r' hout, fun he => ?_⟩
    rw [(rescheduled_same hf r').2.2]
    exact he

theorem extendStay_keeps (dto : ExtendStayDto) :
    EndsKeeping (extendStay env propertyId id dto actorStaffId)
      (fun r => Disturbs propertyId env.now r (.extendStay id dto)) db := by
  have hstay := KeepsStays.refl (fun r => Disturbs propertyId env.now r (.extendStay id dto)) db
  simp only [EndsKeeping, extendStay, ends_simps, ends_requireReservation, hstay]
  intro before hfound hs hlater horder _
  have hcheck : ∀ {P : Unit → Tx HotelDb → HotelDb → Prop} {E : Err → Tx HotelDb → HotelDb → Prop},
      (∀ e t, E e t db) → P () (.active fun s => s) db →
      (checkExtension propertyId id before dto.checkOut).ends P E (.active fun s => s) db := by
    intro P E hE hP
    unfold checkExtension
    cases before.roomId with
    | some roomId => simp [hE, hP]
    | none => exact ends_assertTypeCapacity hE hP
  refine hcheck (fun _ _ => hstay) ?_
  refine ends_reschedule_keeps id actorStaffId db ?_ ?_ ?_ "stay_extended" _
  · exact fun _ => ⟨rfl, rfl, rfl⟩
  intro r hr hid hD
  rcases row_of_found hfound hr hid with ⟨rfl, hrow⟩
  have hstatus : r.status = .CHECKED_IN ∨ r.status = .CONFIRMED := by
    by_contra hnot
    rw [not_or] at hnot
    exact hs hnot
  exact absurd ⟨hrow, hstatus, not_le.mp hlater⟩ hD

theorem update_keeps (dto : UpdateReservationDto) :
    EndsKeeping (update env propertyId id dto actorStaffId)
      (fun r => Disturbs propertyId env.now r (.update id dto)) db := by
  have hstay := KeepsStays.refl (fun r => Disturbs propertyId env.now r (.update id dto)) db
  have hrules : ∀ roomTypeId checkIn checkOut moving,
      (rulesIfMoving env propertyId roomTypeId checkIn checkOut moving).ReadOnly := by
    intro roomTypeId checkIn checkOut moving
    exact .ite _ (rulesFor_readOnly env propertyId _ _ _) (.pure _)
  simp only [EndsKeeping, update, ends_simps, ends_requireReservation, ends_when, hstay]
  intro before hfound hs
  -- a check-out that moves is one of a booking that may still move
  have hkeep : ∀ total, ∀ r ∈ db.reservations, r.id = id →
      ¬Disturbs propertyId env.now r (.update id dto) → ∀ r', r'.checkOut = r.checkOut →
        (rescheduled
          (fun r => (dto.checkIn.getD r.checkIn, dto.checkOut.getD r.checkOut))
          (applyPatch dto total env.now) r').checkOut = r.checkOut := by
    intro total r hr hid hD r' hout
    rcases row_of_found hfound hr hid with ⟨rfl, hrow⟩
    rw [← hout]
    refine rescheduled_checkOut rfl ?_
    cases hnew : dto.checkOut with
    | none => rfl
    | some checkOut =>
      by_contra hmoved
      have hstatus : r.status = .PENDING ∨ r.status = .CONFIRMED := by
        by_contra hnot
        rw [not_or] at hnot
        exact hs ⟨by simp [hnew], hnot⟩
      exact hD ⟨hrow, hstatus, checkOut, hnew, fun heq => hmoved (heq.trans hout.symm)⟩
  have hedit : ∀ rules total fields, (transaction do
      when ((dto.checkIn.isSome || dto.checkOut.isSome) = true ∧ before.status = .CONFIRMED) <|
        checkMovedBooking propertyId id before (dto.checkIn.getD before.checkIn)
          (dto.checkOut.getD before.checkOut) rules
      let updated ← rescheduleReservation id
        (fun r => (dto.checkIn.getD r.checkIn, dto.checkOut.getD r.checkOut))
        (applyPatch dto total env.now)
      recordEvent id "updated" actorStaffId (.updated fields)
      return updated).ends
        (fun row t db' => (hydrate row).ends
          (fun _ _ s => KeepsStays (fun r => Disturbs propertyId env.now r (.update id dto)) db s)
          (fun _ _ s => KeepsStays (fun r => Disturbs propertyId env.now r (.update id dto)) db s)
            t db')
        (fun _ _ s => KeepsStays (fun r => Disturbs propertyId env.now r (.update id dto)) db s)
        .idle db := by
    intro rules total fields
    simp only [ends_simps, ends_when, hstay]
    have hdone := ends_reschedule_keeps id actorStaffId db
      (D := fun r => Disturbs propertyId env.now r (.update id dto))
      (f := applyPatch dto total env.now) (fun _ => rfl) (fun _ => ⟨rfl, rfl, rfl⟩) (hkeep total)
      "updated" (.updated fields)
    exact ⟨fun _ => ends_checkMovedBooking (fun _ _ => hstay) hdone, fun _ => hdone⟩
  refine ⟨fun hmoving ordered _ _ => ?_, fun hstill _ => ?_⟩
  · exact (hrules _ _ _ _).ends_idle (fun _ => hedit _ _ _) fun _ => hstay
  · exact (hrules _ _ _ _).ends_idle (fun _ => hedit _ _ _) fun _ => hstay

theorem moveRoom_keeps (dto : MoveRoomDto) :
    EndsKeeping (moveRoom env propertyId id dto actorStaffId)
      (fun r => Disturbs propertyId env.now r (.moveRoom id dto)) db := by
  have hstay := KeepsStays.refl (fun r => Disturbs propertyId env.now r (.moveRoom id dto)) db
  simp only [EndsKeeping, moveRoom, ends_simps, ends_requireReservation, ends_requireRoom, hstay]
  intro before hfound hs hne room hroom hready
  refine (movedRate_readOnly propertyId before room dto.ratePaise).ends_idle (fun rate => ?_)
    fun _ => hstay
  simp only [updateReservation, setRoomStatus, recordEvent, ends_simps, ends_assertRoomFree, hstay]
  intro _
  cases hroomId : before.roomId with
  | some left =>
    simp only [forSome, ends_write_active, hstay, trivially]
    refine ends_hydrate _ (hstay.update rfl (fun _ => ⟨rfl, rfl⟩) fun r hr hid hD r' hout => ?_)
    exact ⟨hout, fun he => he⟩
  | none =>
    simp only [forSome, ends_ret, ends_write_active, hstay, trivially]
    refine ends_hydrate _ (hstay.update rfl (fun _ => ⟨rfl, rfl⟩) fun r hr hid hD r' hout => ?_)
    exact ⟨hout, fun he => he⟩

theorem KeepsStays.paid {D : Reservation → Prop} {db s : HotelDb} {id : Id} {now : ℤ}
    (hpaid : Paid id now db.board s.board) : KeepsStays D db s := by
  rcases hpaid with hsame | ⟨net, hnet⟩
  · have hrows : s.reservations = db.reservations := congrArg Board.reservations hsame
    intro r hr
    exact ⟨r, hrows ▸ hr, rfl, rfl, fun _ => ⟨rfl, fun he => he⟩⟩
  · have hrows := congrArg (fun b => (Board.reservations b).rows) hnet
    exact (KeepsStays.refl D db).update hrows (fun _ => ⟨rfl, rfl⟩)
      fun r hr hid hD r' hout => ⟨hout, fun he => he⟩

theorem checkOut_keeps (dto : CheckOutDto) :
    EndsKeeping (checkOut env propertyId id dto actorStaffId)
      (fun r => Disturbs propertyId env.now r (.checkOut id dto)) db := by
  have hstay := KeepsStays.refl (fun r => Disturbs propertyId env.now r (.checkOut id dto)) db
  simp only [EndsKeeping, checkOut, ends_simps, ends_requireReservation, assertTransition_ok, hstay]
  intro before hfound _ ht
  refine ends_collect db (fun _ s hs => .paid hs) fun s hs => ?_
  -- from here on the call stands on `s`
  have hpaid : KeepsStays (fun r => Disturbs propertyId env.now r (.checkOut id dto)) db s :=
    .paid hs
  have hout : ∀ {t : HotelDb}, t.reservations.rows = (s.reservations.rows.map fun r =>
      if decide (r.id = id) = true then
        { r with status := .CHECKED_OUT, checkedOutAt := some env.now, updatedAt := env.now }
      else r) → KeepsStays (fun r => Disturbs propertyId env.now r (.checkOut id dto)) db t := by
    intro t hrows
    refine hpaid.update hrows (fun _ => ⟨rfl, rfl⟩) fun r hr hid hD => ?_
    rcases row_of_found hfound hr hid with ⟨rfl, hrow⟩
    exact absurd ⟨hrow, ht⟩ hD
  refine (balancePaise_readOnly id).ends_idle (fun balance => ?_) fun _ => hpaid
  simp only [updateReservation, setRoomStatus, recordEvent, ends_simps, ends_forSome, hpaid]
  intro _
  refine ⟨fun roomId hroom => ?_, fun hroom => ?_⟩
  · refine ends_createCheckoutClean propertyId actorStaffId s roomId env.now (fun _ _ => hpaid)
      fun v hv => ?_
    simp only [ends_write_active, hpaid, trivially]
    refine ends_hydrate _ (hout ?_)
    have hclean := congrArg (fun b => (Board.reservations b).rows) (hv (HotelDb.setRoomStatus
      (HotelDb.updateReservation s id fun r =>
        { r with status := .CHECKED_OUT, checkedOutAt := some env.now, updatedAt := env.now })
      roomId .DIRTY env.now))
    exact hclean
  · exact ends_hydrate _ (hout rfl)

end Methods

theorem StayOp.keeps (env : Env) (propertyId : Id) (actorStaffId : Option Id) (op : StayOp)
    (db : HotelDb) : EndsKeeping (Call.prog ⟨env, propertyId, actorStaffId, op.action⟩)
      (fun r => Disturbs propertyId env.now r op) db := by
  cases op with
  | confirm id => exact (ends_bind _ _).mpr (confirm_keeps env propertyId id actorStaffId db)
  | checkIn id dto =>
    exact (ends_bind _ _).mpr (checkIn_keeps env propertyId id actorStaffId db dto)
  | checkOut id dto =>
    exact (ends_bind _ _).mpr (checkOut_keeps env propertyId id actorStaffId db dto)
  | cancel id reason =>
    exact (ends_bind _ _).mpr (cancel_keeps env propertyId id actorStaffId db reason)
  | noShow id => exact (ends_bind _ _).mpr (noShow_keeps env propertyId id actorStaffId db)
  | extendStay id dto =>
    exact (ends_bind _ _).mpr (extendStay_keeps env propertyId id actorStaffId db dto)
  | update id dto =>
    exact (ends_bind _ _).mpr (update_keeps env propertyId id actorStaffId db dto)
  | moveRoom id dto =>
    exact (ends_bind _ _).mpr (moveRoom_keeps env propertyId id actorStaffId db dto)

/-! ## Operations on cards -/

open KeyCardsService

/-- The reservation a call cuts a card for: one that is committed or in house, or the one of the
active card that is replaced. -/
def CutsFor (call : CardCall) (db : KeyDb) (r : Reservation) : Prop :=
  r ∈ db.hotel.reservations ∧ r.deletedAt = none ∧
    match call with
    | .issue .. => eligible r.status
    | .deactivate .. => False
    | .replace propertyId id _ => r.propertyId = propertyId ∧
        ∃ k ∈ db.keyCards, k.id = id ∧ k.propertyId = propertyId ∧ k.status = .ACTIVE ∧
          r.id = k.reservationId

/-- The hotel is as it was; every card is an old one, active only if it was, or cut for a
reservation that `R` holds of. -/
structure CardsFrom (offset : ℤ → ℤ) (R : Reservation → Prop) (db s : KeyDb) : Prop where
  hotel : s.hotel = db.hotel
  cards : ∀ k' ∈ s.keyCards,
    (∃ k ∈ db.keyCards, k'.reservationId = k.reservationId ∧ k'.expiresAt = k.expiresAt ∧
      (k'.status = .ACTIVE → k.status = .ACTIVE)) ∨
    ∃ r, R r ∧ k'.reservationId = r.id ∧ k'.expiresAt = elevenOn offset r.checkOut

section Cutting

variable {offset : ℤ → ℤ} {R : Reservation → Prop} {db s : KeyDb} {propertyId id : Id} {now : ℤ}

theorem CardsFrom.refl : CardsFrom offset R db db :=
  ⟨rfl, fun k hk => .inl ⟨k, hk, rfl, rfl, fun h => h⟩⟩

theorem CardsFrom.kill (h : CardsFrom offset R db s) {status : KeyCardStatus}
    (hstatus : status ≠ .ACTIVE) :
    CardsFrom offset R db (KeyCardsService.kill propertyId id status now s) := by
  refine ⟨h.hotel, fun k' hk' => ?_⟩
  have hrow : ∃ k ∈ s.keyCards,
      k' = if k.id = id && k.propertyId = propertyId then dead status now k else k := by
    have hmem : k' ∈ Table.update s.keyCards (fun k => k.id = id && k.propertyId = propertyId)
      (dead status now) (fun _ => rfl) := hk'
    exact Table.mem_update.mp hmem
  rcases hrow with ⟨k, hk, rfl⟩
  have hold := h.cards k hk
  split
  · rcases hold with ⟨k₀, hk₀, hres, hexp, -⟩ | hcut
    · exact .inl ⟨k₀, hk₀, hres, hexp, fun hactive => absurd hactive hstatus⟩
    · exact .inr hcut
  · exact hold

variable {r : Reservation}

theorem CardsFrom.insert (h : CardsFrom offset R db s) {card : KeyCard} (hr : R r)
    (hres : card.reservationId = r.id) (hexp : card.expiresAt = elevenOn offset r.checkOut) :
    CardsFrom offset R db { s with keyCards := s.keyCards.insert card } := by
  refine ⟨h.hotel, fun k' hk' => ?_⟩
  rcases mem_or_eq_of_mem_insert hk' with hold | rfl
  · exact h.cards k' hold
  · exact .inr ⟨r, hr, hres, hexp⟩

/-- The program, alone on `db` from a state `s` on, cuts cards for `R` only. -/
def EndsCutting {α : Type} (offset : ℤ → ℤ) (p : KeyOp α) (R : Reservation → Prop) (db s : KeyDb) :
    Prop :=
  p.ends (fun _ _ s' => CardsFrom offset R db s') (fun _ _ s' => CardsFrom offset R db s') .idle s

theorem roomNumberFor_readOnly (roomId : Option Id) : (roomNumberFor roomId).ReadOnly := by
  cases roomId with
  | none => exact .pure _
  | some roomId => exact .select _ _

theorem ends_cut (hr : R r) (h : CardsFrom offset R db s) (staffId : Option Id) (count : ℕ) :
    ∀ tries bump, (cut offset propertyId r staffId now count tries bump).ends
      (fun _ t s' => t = .idle ∧ CardsFrom offset R db s') (fun _ _ s' => CardsFrom offset R db s')
      .idle s := by
  intro tries
  induction tries with
  | zero => exact fun _ => h
  | succ tries ih =>
    intro bump
    have herror : ∀ e, (if e = KeyErr.uniqueViolation then
        cut offset propertyId r staffId now count tries (bump + 1) else throw e).ends
          (fun _ t s' => t = .idle ∧ CardsFrom offset R db s')
          (fun _ _ s' => CardsFrom offset R db s') .idle s := by
      intro e
      rw [ends_ite]
      exact ⟨fun _ => ih (bump + 1), fun _ => h⟩
    simp only [cut, ends_tryCatch, Prog.ends_writeChecked_idle]
    refine ⟨⟨fun s' hok => ⟨trivial, ?_⟩, fun e _ => herror e⟩, fun m => herror _⟩
    unfold insertRow at hok
    split at hok
    · cases hok
    · rw [← Except.ok.inj hok]
      exact h.insert hr rfl rfl

theorem ends_insertCard (hr : R r) (h : CardsFrom offset R db s) (staffId : Option Id) {α : Type}
    {rest : KeyCard → KeyOp α} (hrest : ∀ card, (rest card).ReadOnly) :
    EndsCutting offset (insertCard offset propertyId r staffId now >>= rest) R db s := by
  simp only [EndsCutting, insertCard, ends_simps]
  refine ⟨?_, fun _ => h⟩
  refine ends_mono (fun card t s' hend => ?_) (fun _ _ _ hend => hend) _ _ _
    (ends_cut hr h staffId _ NUMBER_RETRIES 0)
  rcases hend with ⟨rfl, hcut⟩
  exact (hrest card).ends_idle (fun _ => hcut) fun _ => hcut

theorem answerFor_readOnly (r : Reservation) (card : KeyCard) : (answerFor r now card).ReadOnly :=
  .bind (roomNumberFor_readOnly _) fun _ => .pure _

theorem CardCall.cuts (offset : ℤ → ℤ) (call : CardCall) (db : KeyDb) :
    EndsCutting offset (call.prog offset) (CutsFor call db) db db := by
  have hstay : CardsFrom offset (CutsFor call db) db db := .refl
  cases call with
  | issue propertyId reservationId staffId now =>
    simp only [EndsCutting, CardCall.prog, KeyCardsService.issue,
      KeyCardsService.requireReservation, reservationFor, ends_simps, hstay]
    intro r hfound heligible
    rcases stayOf_eq_some.mp hfound with ⟨hr, -, hlive, -⟩
    have hcuts : CutsFor (.issue propertyId reservationId staffId now) db r :=
      ⟨hr, hlive, not_not.mp heligible⟩
    exact (ends_bind _ _).mp
      (ends_insertCard hcuts hstay staffId fun card => answerFor_readOnly r card)
  | deactivate propertyId id lost now =>
    have hstatus : statusOf lost ≠ .ACTIVE := by cases lost <;> rintro ⟨⟩
    have hkill : CardsFrom offset (CutsFor (.deactivate propertyId id lost now) db) db
        (KeyCardsService.kill propertyId id (statusOf lost) now db) := hstay.kill hstatus
    simp only [EndsCutting, CardCall.prog, KeyCardsService.deactivate, finishDeactivate,
      requireCard, ends_simps, hstay, hkill]
    intro card _ _ updated _
    have hreads : (answerDead now updated).ReadOnly :=
      .bind (.select _ _) fun _ => .bind (roomNumberFor_readOnly _) fun _ => .pure _
    exact hreads.ends_idle (fun _ => hkill) fun _ => hkill
  | replace propertyId id now =>
    simp only [EndsCutting, CardCall.prog, KeyCardsService.replace, finishReplace, requireCard,
      KeyCardsService.requireReservation, reservationFor, ends_simps, hstay]
    intro old hold hactive r hfound
    rcases cardOf_eq_some.mp hold with ⟨hk, hid, hprop⟩
    rcases stayOf_eq_some.mp hfound with ⟨hr, hrid, hlive, hrprop⟩
    have hcuts : CutsFor (.replace propertyId id now) db r :=
      ⟨hr, hlive, hrprop, old, hk, hid, hprop, not_not.mp hactive, hrid⟩
    have hkill : CardsFrom offset (CutsFor (.replace propertyId id now) db) db
        (KeyCardsService.kill propertyId id .DEACTIVATED now db) :=
      hstay.kill (by rintro ⟨⟩)
    exact (ends_bind _ _).mp
      (ends_insertCard hcuts hkill old.issuedBy fun card => answerFor_readOnly r card)

end Cutting

/-! ## Runs -/

/-- An operation at the desk. -/
inductive DeskOp where
  | stay (env : Env) (propertyId : Id) (actorStaffId : Option Id) (op : StayOp)
  | card (call : CardCall)

def CardCall.now : CardCall → ℤ
  | .issue _ _ _ now => now
  | .deactivate _ _ _ now => now
  | .replace _ _ now => now

def DeskOp.now : DeskOp → ℤ
  | .stay env _ _ _ => env.now
  | .card call => call.now

/-- The database, and the latest time an operation has seen. -/
structure House where
  db : KeyDb
  clock : ℤ

/-- An operation, with the statements of it that fail. -/
abbrev DeskEvent := DeskOp × (ℕ → Option String)

/-- One operation after another. -/
def House.step (offset : ℤ → ℤ) (h : House) (e : DeskEvent) : Option House :=
  some
    { clock := max h.clock e.1.now
      db := match e.1 with
        | .stay env propertyId actorStaffId op =>
          { h.db with hotel := (Call.prog ⟨env, propertyId, actorStaffId, op.action⟩ |>.runWith e.2
              h.db.hotel).db }
        | .card call => ((call.prog offset).runWith e.2 h.db).db }

/-- A card that opens belongs to a live stay, committed or in house, and expires at eleven on its
last day. -/
def CardsDie (offset : ℤ → ℤ) (h : House) : Prop :=
  ∀ k ∈ h.db.keyCards, k.opens h.clock → ∃ r ∈ h.db.hotel.reservations, r.id = k.reservationId ∧
    r.deletedAt = none ∧ eligible r.status ∧ k.expiresAt = elevenOn offset r.checkOut

/-- No stay with a card that opens is ended or moved; no card is replaced for a stay that is
neither committed nor in house, unless the new card has expired too. -/
def MindsCards (offset : ℤ → ℤ) (h : House) (e : DeskEvent) : Prop :=
  match e.1 with
  | .stay env propertyId _ op => ∀ k ∈ h.db.keyCards, k.opens (max h.clock env.now) →
      ∀ r ∈ h.db.hotel.reservations, r.id = k.reservationId → ¬Disturbs propertyId env.now r op
  | .card (.replace propertyId id now) => ∀ k ∈ h.db.keyCards, k.id = id →
      k.propertyId = propertyId → k.status = .ACTIVE → ∀ r ∈ h.db.hotel.reservations,
        r.id = k.reservationId → r.deletedAt = none → r.propertyId = propertyId →
          eligible r.status ∨ elevenOn offset r.checkOut < max h.clock now
  | .card _ => True

/-- Every run of operations that satisfy `G` ends with cards that die with their stays. -/
def CardsDieUnder (G : (ℤ → ℤ) → House → DeskEvent → Prop) : Prop :=
  ∀ (offset : ℤ → ℤ) (h h' : House) (es : List DeskEvent), CardsDie offset h →
    Claims.Guarded (House.step offset) (G offset) h es →
    Claims.run (House.step offset) h es = some h' → CardsDie offset h'

section Steps

variable {offset : ℤ → ℤ} {h : House}

theorem KeyCard.opens.earlier {k : KeyCard} {now later : ℤ} (hk : k.opens later)
    (hle : now ≤ later) : k.opens now :=
  ⟨hk.1, fun hlt => hk.2 (lt_of_lt_of_le hlt hle)⟩

theorem CardsDie.stay (hdie : CardsDie offset h) {env : Env} {propertyId : Id}
    {actorStaffId : Option Id} {op : StayOp} {φ : ℕ → Option String} {s : HotelDb}
    (hguard : MindsCards offset h (.stay env propertyId actorStaffId op, φ))
    (hkeeps : KeepsStays (fun r => Disturbs propertyId env.now r op) h.db.hotel s) :
    CardsDie offset ⟨{ h.db with hotel := s }, max h.clock env.now⟩ := by
  intro k hk hopens
  have hnow := hopens.earlier (le_max_left h.clock env.now)
  rcases hdie k hk hnow with ⟨r, hr, hid, hlive, heligible, hexp⟩
  rcases hkeeps r hr with ⟨r', hr', hid', hdel, hstay⟩
  rcases hstay (hguard k hk hopens r hr hid) with ⟨hout, hkept⟩
  exact ⟨r', hr', hid'.trans hid, hdel.trans hlive, hkept heligible, by rw [hexp, hout]⟩

theorem CardsDie.card (hdie : CardsDie offset h) {call : CardCall} {φ : ℕ → Option String}
    {s : KeyDb} (hguard : MindsCards offset h (.card call, φ))
    (hfrom : CardsFrom offset (CutsFor call h.db) h.db s) :
    CardsDie offset ⟨s, max h.clock call.now⟩ := by
  intro k' hk' hopens
  rcases hfrom.cards k' hk' with ⟨k, hk, hres, hexp, hactive⟩ | ⟨r, ⟨hr, hlive, hcuts⟩, hres, hexp⟩
  · -- an old card
    have hold : k.opens h.clock := by
      refine ⟨hactive hopens.1, ?_⟩
      rw [← hexp]
      exact (hopens.earlier (le_max_left h.clock call.now)).2
    rcases hdie k hk hold with ⟨r, hr, hid, hlive, heligible, hout⟩
    refine ⟨r, ?_, hid.trans hres.symm, hlive, heligible, hexp.trans hout⟩
    show r ∈ s.hotel.reservations
    rw [hfrom.hotel]
    exact hr
  · -- a card that has just been cut
    have heligible : eligible r.status := by
      cases call with
      | issue propertyId reservationId staffId now => exact hcuts
      | deactivate propertyId id lost now => cases hcuts
      | replace propertyId id now =>
        rcases hcuts with ⟨hrprop, k, hk, hid, hprop, hactive, hrid⟩
        rcases hguard k hk hid hprop hactive r hr hrid hlive hrprop with heligible | hpast
        · exact heligible
        · rw [← hexp] at hpast
          exact absurd hpast hopens.2
    refine ⟨r, ?_, hres.symm, hlive, heligible, hexp⟩
    show r ∈ s.hotel.reservations
    rw [hfrom.hotel]
    exact hr

/-- **A key card dies with its stay**, while no stay with a card that opens is ended or moved and
none is replaced for a stay that has ended. -/
theorem cards_die (offset : ℤ → ℤ) (h h' : House) (es : List DeskEvent) (hdie : CardsDie offset h)
    (hguard : Claims.Guarded (House.step offset) (MindsCards offset) h es)
    (hrun : Claims.run (House.step offset) h es = some h') : CardsDie offset h' := by
  refine Claims.run_invariant ?_ hdie hguard hrun
  rintro h ⟨op, φ⟩ h' hdie hguard hstep
  cases Option.some.inj hstep
  cases op with
  | stay env propertyId actorStaffId op =>
    exact hdie.stay hguard (ends_runWith (op.keeps env propertyId actorStaffId _) φ)
  | card call => exact hdie.card hguard (ends_runWith (call.cuts offset _) φ)

end Steps

/-! ## A guest who leaves, and one who stays -/

instance (offset : ℤ → ℤ) (h : House) : Decidable (CardsDie offset h) :=
  inferInstanceAs (Decidable (∀ _ ∈ _, _))

instance (propertyId id : Id) (r : Reservation) : Decidable (isRow propertyId id r) :=
  inferInstanceAs (Decidable (_ ∧ _))

instance (propertyId : Id) (now : ℤ) (r : Reservation) (op : StayOp) :
    Decidable (Disturbs propertyId now r op) := by
  cases op <;> unfold Disturbs <;> infer_instance

instance (offset : ℤ → ℤ) (h : House) (e : DeskEvent) : Decidable (MindsCards offset h e) := by
  unfold MindsCards
  split <;> infer_instance

/-- The guest has a room and a card, on the morning before the last day. -/
def oneGuest : House :=
  { db := { oneCard with
      hotel := { reservations := ⟨[{ inRoom with roomId := some 1 }], by decide⟩ } }
    clock := 11 * 86400000 }

/-- An operation on the stay on that morning, none of whose statements fails. -/
def onStay (op : StayOp) : DeskEvent :=
  (.stay { now := 11 * 86400000 } 1 none op, fun _ => none)

def onCard (call : CardCall) : DeskEvent := (.card call, fun _ => none)

/-- The guest leaves a day early. -/
def leaves : DeskEvent := onStay (.checkOut 1 { allowOutstanding := true })

/-- The guest stays a night longer. -/
def staysOn : DeskEvent := onStay (.extendStay 1 { checkOut := 13 })

/-- The desk replaces a card. -/
def recut (id : Id) : DeskEvent := onCard (.replace 1 id (11 * 86400000))

/-- The desk takes a card back. -/
def handedIn (id : Id) : DeskEvent := onCard (.deactivate 1 id false (11 * 86400000))

/-- The run ends with a card that has outlived its stay, or died before it. -/
def Outlives (es : List DeskEvent) : Prop :=
  ∃ h', Claims.run (House.step fun _ => 0) oneGuest es = some h' ∧ ¬CardsDie (fun _ => 0) h'

/-- A card opens after its guest has left, and expires before a stay that was extended ends; it is
replaced by one that opens after the guest has left. -/
theorem cards_outlive : Outlives [leaves] ∧ Outlives [staysOn] ∧ Outlives [leaves, recut 1] ∧
    ¬CardsDieUnder fun _ _ _ => True := by
  have hleft : Outlives [leaves] := ⟨_, rfl, by decide +kernel⟩
  refine ⟨hleft, ⟨_, rfl, by decide +kernel⟩, ⟨_, rfl, by decide +kernel⟩, fun hlaw => ?_⟩
  rcases hleft with ⟨h', hrun, hnot⟩
  exact hnot (hlaw _ oneGuest h' [leaves] (by decide +kernel) ⟨trivial, trivial⟩ hrun)

/-- A guest whose card was replaced and handed in leaves no card that opens. -/
theorem cards_die_in_turn : ∃ h', Claims.run (House.step fun _ => 0) oneGuest
    [recut 1, handedIn 2, leaves] = some h' ∧ CardsDie (fun _ => 0) h' ∧
      h'.db.hotel.reservations.rows.map (·.status) = [.CHECKED_OUT] :=
  ⟨_, rfl, cards_die _ oneGuest _ [recut 1, handedIn 2, leaves] (by decide +kernel)
    (by decide +kernel) rfl, by decide +kernel⟩

end Travelo.KeyCards

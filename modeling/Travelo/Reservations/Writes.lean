import Travelo.Reservations.Commit

/-!
# The methods write what `Commit` says

One lemma for each helper of the service, then one theorem for each method.
-/

namespace Travelo

open ReadCommitted
open FolioService (roomTax summary insertPayment setPaid recordPayment paymentOf winnerOf netPaid)

namespace ReservationsService

section Helpers

variable {α : Type} {C : Trace → (HotelDb → HotelDb) → Prop}
  {P : α → Trace → Tx HotelDb → Prop} {PU : Unit → Trace → Tx HotelDb → Prop}
  {E : Err → Trace → Tx HotelDb → Prop} {h : Trace} {w : HotelDb → HotelDb}

@[simp] theorem wp_assertRoomFree (q : RoomProbe) :
    (assertRoomFree q).wp C PU E h (.active w) ↔
      (∀ b, (¬ q.Clear (w b) → E .roomUnavailable (.saw (.roomStays q) b :: h) (.active w)) ∧
        (q.Clear (w b) → PU () (.saw (.roomStays q) b :: h) (.active w))) ∧
      ∀ m, E (lost m) h .aborted := by
  simp [assertRoomFree, clear_iff, Nat.pos_iff_ne_zero]

variable {checkIn checkOut : ℤ}

theorem wp_countNights {propertyId roomTypeId : Id} {excludeId : Option Id}
    {rules : Option (List DayRules)} (hE : ∀ e o t, Quiet o → E e (o ++ h) t)
    (hP : ∀ b b', firstFullNight (typeRooms propertyId roomTypeId (w b)).length
        (typeStays propertyId roomTypeId checkIn checkOut excludeId (w b')) rules checkIn checkOut
          = none →
      PU () (.saw (.typeStays propertyId roomTypeId checkIn checkOut excludeId) b' ::
        .saw (.typeRooms propertyId roomTypeId) b :: h) (.active w)) :
    (do
      let rooms ← select (.typeRooms propertyId roomTypeId) fun db =>
        (typeRooms propertyId roomTypeId db).length
      let overlapping ← selectForUpdate
        (.typeStays propertyId roomTypeId checkIn checkOut excludeId)
        (fun db =>
          (typeStays propertyId roomTypeId checkIn checkOut excludeId db).map fun r =>
            .reservation r.id)
        (typeStays propertyId roomTypeId checkIn checkOut excludeId)
      forSome (firstFullNight rooms overlapping rules checkIn checkOut) fun night =>
        throw (.noAvailability night) : Op Unit).wp C PU E h (.active w) := by
  simp only [wp_simps, wp_forSome, Prog.wp_selectForUpdate_active, wp_throw]
  exact ⟨fun b => ⟨fun b' => ⟨fun night _ => hE _ [_, _] _ (by simp), fun hnone => hP b b' hnone⟩,
    fun m => hE _ [_] _ (by simp)⟩, fun m => hE _ [] _ (by simp)⟩

theorem wp_assertTypeCapacity {propertyId roomTypeId : Id} {excludeId : Option Id}
    {rules : Option (List DayRules)} (hE : ∀ e o t, Quiet o → E e (o ++ h) t)
    (hP : ∀ b b', (∀ rs, rules = some rs → assertRules rs checkIn checkOut = .ok ()) →
      firstFullNight (typeRooms propertyId roomTypeId (w b)).length
        (typeStays propertyId roomTypeId checkIn checkOut excludeId (w b')) rules checkIn checkOut
          = none →
      PU () (.saw (.typeStays propertyId roomTypeId checkIn checkOut excludeId) b' ::
        .saw (.typeRooms propertyId roomTypeId) b :: h) (.active w)) :
    (assertTypeCapacity propertyId roomTypeId checkIn checkOut excludeId rules).wp C PU E h
      (.active w) := by
  rw [assertTypeCapacity, wp_bind, wp_forSome]
  simp only [wp_lift]
  refine ⟨fun rs hrs => ⟨fun e _ => hE e [] _ quiet_nil, fun _ hok => ?_⟩, fun hnone => ?_⟩
  · refine wp_countNights hE fun b b' hfull => hP b b' (fun rs' hrs' => ?_) hfull
    obtain rfl : rs = rs' := by simpa [hrs] using hrs'
    exact hok
  · exact wp_countNights hE fun b b' hfull => hP b b' (by simp [hnone]) hfull

theorem wp_checkMovedBooking {propertyId id : Id} {before : Reservation}
    {rules : Option (List DayRules)} (hE : ∀ e h t, E e h t) (hP : ∀ o, Quiet o →
      (∀ roomId, before.roomId = some roomId →
        Cleared o ⟨propertyId, roomId, checkIn, checkOut, some id, none⟩) →
      HasRoom o propertyId before.roomTypeId checkIn checkOut (some id) rules →
      PU () (o ++ h) (.active fun db => db)) :
    (checkMovedBooking propertyId id before checkIn checkOut rules).wp C PU E h
      (.active fun db => db) := by
  simp only [checkMovedBooking, wp_bind, wp_forSome, wp_assertRoomFree]
  refine ⟨fun roomId hroom => ⟨fun b => ⟨fun _ => hE _ _ _, fun hclear => ?_⟩, fun _ => hE _ _ _⟩,
    fun hnone => ?_⟩
  · refine wp_assertTypeCapacity (fun _ _ _ _ => hE _ _ _) fun b₁ b₂ hrules hfull => ?_
    refine hP [_, _, .saw (.roomStays _) b] (by simp) (fun roomId' hroom' => ?_)
      ⟨hrules, b₁, b₂, by simp, by simp, hfull⟩
    obtain rfl : roomId = roomId' := by simpa [hroom] using hroom'
    exact ⟨b, by simp, hclear⟩
  · refine wp_assertTypeCapacity (fun _ _ _ _ => hE _ _ _) fun b₁ b₂ hrules hfull => ?_
    exact hP [_, _] (by simp) (by simp [hnone]) ⟨hrules, b₁, b₂, by simp, by simp, hfull⟩

@[simp] theorem wp_requireReservation (propertyId id : Id)
    {P : Reservation → Trace → Tx HotelDb → Prop} :
    (requireReservation propertyId id).wp C P E h .idle ↔
      (∀ b, (reservationOf propertyId id b = none →
          E .notFound (.saw (.reservation id) b :: h) .idle) ∧
        ∀ r, reservationOf propertyId id b = some r →
          P r (.saw (.reservation id) b :: h) .idle) ∧
      ∀ m, E (lost m) h .idle := by
  simp [requireReservation]

@[simp] theorem wp_requireRoom (propertyId id : Id) {P : Room → Trace → Tx HotelDb → Prop} :
    (requireRoom propertyId id).wp C P E h .idle ↔
      (∀ b, (roomOf propertyId id b = none → E .roomNotFound (.saw (.room id) b :: h) .idle) ∧
        ∀ r, roomOf propertyId id b = some r → P r (.saw (.room id) b :: h) .idle) ∧
      ∀ m, E (lost m) h .idle := by
  simp [requireRoom]

@[simp] theorem wp_requireRoomType (propertyId id : Id)
    {P : RoomType → Trace → Tx HotelDb → Prop} :
    (requireRoomType propertyId id).wp C P E h .idle ↔
      (∀ b, (roomTypeOf propertyId id b = none →
          E .roomTypeNotFound (.saw (.roomType id) b :: h) .idle) ∧
        ∀ t, roomTypeOf propertyId id b = some t → P t (.saw (.roomType id) b :: h) .idle) ∧
      ∀ m, E (lost m) h .idle := by
  simp [requireRoomType]

theorem hydrate_readOnly (row : Option Reservation) : (hydrate row).ReadOnly := by
  unfold hydrate
  refine .bind (.orThrow _ _) fun r => .bind (.select _ _) fun type => .bind ?_ fun room => .pure _
  unfold hydrateRoom
  cases r.roomId with
  | some roomId => exact .select _ _
  | none => exact .pure _

@[simp] theorem wp_hydrate (row : Option Reservation) :
    (hydrate row).wp C (fun _ _ _ => True) (fun _ _ _ => True) h .idle :=
  (hydrate_readOnly row).wp_idle h (fun _ _ _ => trivial) fun _ _ _ => trivial

theorem wp_rulesFor {env : Env} {propertyId roomTypeId : Id}
    {P : Option (List DayRules) → Trace → Tx HotelDb → Prop} (hE : ∀ e o, E e (o ++ h) .idle)
    (hP : ∀ rules o, Quiet o → RulesRead o env propertyId roomTypeId checkIn checkOut rules →
      P rules (o ++ h) .idle) :
    (rulesFor env propertyId roomTypeId checkIn checkOut).wp C P E h .idle := by
  simp only [rulesFor, RatesService.dayRules, wp_ite, wp_map, wp_simps]
  refine ⟨fun _ => ⟨fun b => ?_, fun m => hE _ []⟩, fun hnot => ?_⟩
  · exact hP _ [_] (by simp) fun _ => ⟨b, by simp, rfl⟩
  · exact hP _ [] quiet_nil fun hwired => absurd hwired hnot

theorem nightlyPrices_readOnly (propertyId roomTypeId : Id) (fromDate toDate : ℤ)
    (ratePlanId : Option Id) :
    (RatesService.nightlyPrices propertyId roomTypeId fromDate toDate ratePlanId).ReadOnly :=
  .bind (.lift _) fun _ => .bind (.select _ _) fun _ => .bind (.orThrow _ _) fun _ =>
    .bind (.select _ _) fun _ => .bind (.select _ _) fun _ => .pure _

theorem nightlyQuote_readOnly (env : Env) (propertyId roomTypeId : Id) (checkIn checkOut : ℤ)
    (ratePlanId : Option Id) (fallback : ℤ) :
    (nightlyQuote env propertyId roomTypeId checkIn checkOut ratePlanId fallback).ReadOnly :=
  .ite _ (.bind (nightlyPrices_readOnly _ _ _ _ _) fun _ => .pure _)
    (.bind (.bind (.select _ _) fun _ => .pure _) fun _ => .pure _)

theorem holdDeadline_readOnly (env : Env) (propertyId : Id) (minutes : Option ℤ) :
    (holdDeadline env propertyId minutes).ReadOnly := by
  unfold holdDeadline
  refine .bind ?_ fun m => .pure _
  cases minutes with
  | some m => exact .pure _
  | none => exact .select _ _

end Helpers

/-! ## The transitions -/

variable (env : Env) (propertyId id : Id) (actorStaffId : Option Id)

theorem cancel_writes (reason : String) :
    (cancel env propertyId id reason actorStaffId).WritesUnder
      (Commit ⟨env, propertyId, actorStaffId, .cancel id reason⟩) := by
  simp only [Prog.WritesUnder, cancel, updateReservation, recordEvent, wp_simps,
    wp_requireReservation, assertTransition_ok, wp_hydrate]
  intro b before hf _ ht b' db''
  exact .row (.cancelled (by simp) ⟨b, by simp, hf⟩ ht) (fun _ => rfl)
    fun db => ⟨.of_eq rfl rfl, .inr rfl⟩

theorem noShow_writes : (noShow env propertyId id actorStaffId).WritesUnder
      (Commit ⟨env, propertyId, actorStaffId, .noShow id⟩) := by
  simp only [Prog.WritesUnder, noShow, updateReservation, recordEvent, wp_simps,
    wp_requireReservation, assertTransition_ok, wp_hydrate]
  intro b before hf _ ht _ b' db''
  exact .row (.noShow (by simp) ⟨b, by simp, hf⟩ ht) (fun _ => rfl)
    fun db => ⟨.of_eq rfl rfl, .inr rfl⟩

theorem confirm_writes : (confirm env propertyId id actorStaffId).WritesUnder
      (Commit ⟨env, propertyId, actorStaffId, .confirm id⟩) := by
  simp only [Prog.WritesUnder, confirm, wp_simps, wp_requireReservation, assertTransition_ok,
    wp_hydrate]
  intro b before hf _ ht
  refine wp_checkMovedBooking (by simp) fun o ho hroom htype => ?_
  simp only [updateReservation, recordEvent, wp_write_active, trivially]
  intro _ _
  exact .row (.confirmed rfl (quiet_append.mpr ⟨ho, by simp⟩) ⟨b, by simp, hf⟩ ht
    (fun roomId hr => (hroom roomId hr).mono (by simp)) (htype.mono (by simp))) (fun _ => rfl)
    fun db => ⟨.of_eq rfl rfl, .inr rfl⟩

theorem lockRoom_writes (locked : Bool) :
    (lockRoom env propertyId id locked actorStaffId).WritesUnder
      (Commit ⟨env, propertyId, actorStaffId, .lockRoom id locked⟩) := by
  simp only [Prog.WritesUnder, lockRoom, updateReservation, recordEvent, wp_simps,
    wp_requireReservation, wp_hydrate]
  intro b before hf _ b' db''
  exact .row .locked (fun _ => rfl) fun db => ⟨.of_eq rfl rfl, .inr rfl⟩

theorem assignRoom_writes (roomId : Id) :
    (assignRoom env propertyId id roomId actorStaffId).WritesUnder
      (Commit ⟨env, propertyId, actorStaffId, .assignRoom id roomId⟩) := by
  simp only [Prog.WritesUnder, assignRoom, updateReservation, recordEvent, wp_simps,
    wp_requireReservation, wp_requireRoom, wp_assertRoomFree, wp_hydrate]
  intro b before hf _ b₁ room hroom htype b₂ hclear _ _
  exact .row (.assigned rfl (by simp) ⟨b, by simp, hf⟩ ⟨b₁, by simp, hroom⟩ (by simpa using htype)
    ⟨b₂, by simp, hclear⟩) (fun _ => rfl) fun db => ⟨.of_eq rfl rfl, .inr rfl⟩

theorem checkIn_writes (dto : CheckInDto) :
    (checkIn env propertyId id dto actorStaffId).WritesUnder
      (Commit ⟨env, propertyId, actorStaffId, .checkIn id dto⟩) := by
  simp only [Prog.WritesUnder, checkIn, updateReservation, setRoomStatus, recordEvent, wp_simps,
    wp_requireReservation, wp_requireRoom, wp_assertRoomFree, assertTransition_ok, wp_hydrate]
  intro b before hf _ ht _ roomId _ b₁ room hroom htype _ b₂ hclear _ _ _
  exact .row (.checkedIn rfl (by simp) ⟨b, by simp, hf⟩ ht ⟨b₁, by simp, hroom⟩ (by simpa using htype)
    ⟨b₂, by simp, hclear⟩) (fun _ => rfl)
    fun db => ⟨.setRoomStatus (by simp) rfl rfl, .inr rfl⟩

/-! ## Moving a stay -/

variable {before : Reservation}

variable {E : Err → Trace → Tx HotelDb → Prop} {C : Trace → (HotelDb → HotelDb) → Prop} {h : Trace}

theorem wp_movedRate {P : ℤ → Trace → Tx HotelDb → Prop} {room : Room} {ratePaise : Option ℤ}
    (hE : ∀ e h t, E e h t) (hP : ∀ rate o, Quiet o →
      (room.roomTypeId ≠ before.roomTypeId → TypeFound o propertyId room.roomTypeId) →
      P rate (o ++ h) .idle) :
    (movedRate propertyId before room ratePaise).wp C P E h .idle := by
  simp only [movedRate, wp_ite, wp_simps, wp_requireRoomType]
  refine ⟨fun _ => ⟨fun b => ⟨fun _ => hE _ _ _, fun type ht => ?_⟩, fun _ => hE _ _ _⟩,
    fun hsame => ?_⟩
  · exact hP _ [_] (by simp) fun _ => ⟨b, type, by simp, ht⟩
  · exact hP _ [] (by simp) fun hne => absurd hne hsame

theorem moveRoom_writes (dto : MoveRoomDto) :
    (moveRoom env propertyId id dto actorStaffId).WritesUnder
      (Commit ⟨env, propertyId, actorStaffId, .moveRoom id dto⟩) := by
  simp only [Prog.WritesUnder, moveRoom, wp_simps, wp_requireReservation, wp_requireRoom]
  intro b before hf hs _ b₁ room hroom hready
  refine wp_movedRate propertyId (by simp) fun rate o ho htype => ?_
  have hid : room.id = dto.roomId := key_of_find? (Option.eq_some_of_filter_eq_some hroom)
  simp only [updateReservation, setRoomStatus, recordEvent, wp_simps, wp_assertRoomFree, wp_forSome,
    wp_hydrate]
  intro b₂ hclear _
  -- the history when the transaction commits
  have hcommit : ∀ w, (∀ db, Frame db (w db) ∧ (w db).reservations =
      db.reservations.update (fun r => r.id = id) fun r =>
        { r with roomId := some room.id, roomTypeId := room.roomTypeId, ratePaise := rate,
                 totalPaise := totalPaise rate before.checkIn before.checkOut,
                 updatedAt := env.now }) →
      Commit ⟨env, propertyId, actorStaffId, .moveRoom id dto⟩
        (.saw (.roomStays ⟨propertyId, room.id, before.checkIn, before.checkOut, some id, none⟩)
          b₂ :: (o ++ [.saw (.room dto.roomId) b₁, .saw (.reservation id) b])) w := by
    intro w hw
    refine .row (.moved rfl hid (by simpa [quiet_append] using ho) ⟨b, by simp, hf⟩ (by simpa using hs)
      ⟨b₁, by simp [hid], by rw [hid]; exact hroom⟩ (by simpa using hready) (fun hne => ?_)
      ⟨b₂, by simp, hclear⟩) (fun _ => rfl) fun db => ⟨(hw db).1, .inr (hw db).2⟩
    obtain ⟨b₃, t, hb, ht⟩ := htype hne
    exact ⟨b₃, t, by simp [hb], ht⟩
  refine ⟨fun left _ _ _ _ => hcommit _ fun db => ⟨?_, rfl⟩,
    fun _ _ _ => hcommit _ fun db => ⟨.setRoomStatus (by simp) rfl rfl, rfl⟩⟩
  have hdirty : Frame db (db.setRoomStatus left .DIRTY env.now) :=
    .setRoomStatus (by simp) rfl rfl
  exact hdirty.trans (.setRoomStatus (by simp) rfl rfl)

variable {P : Unit → Trace → Tx HotelDb → Prop}

theorem wp_checkExtension {newOut : ℤ} (hE : ∀ e h t, E e h t) (hP : ∀ o, Quiet o →
      (∀ roomId, before.roomId = some roomId →
        Cleared o ⟨propertyId, roomId, before.checkIn, newOut, some id, none⟩) →
      (before.roomId = none →
        HasRoom o propertyId before.roomTypeId before.checkIn newOut (some id) none) →
      P () (o ++ h) (.active fun db => db)) :
    (checkExtension propertyId id before newOut).wp C P E h (.active fun db => db) := by
  cases hroom : before.roomId with
  | some roomId =>
    simp only [checkExtension, hroom, wp_assertRoomFree]
    refine ⟨fun b => ⟨fun _ => hE _ _ _, fun hclear => ?_⟩, fun _ => hE _ _ _⟩
    refine hP [_] (by simp) (fun roomId' hr => ?_) (by simp [hroom])
    obtain rfl : roomId = roomId' := by simpa [hroom] using hr
    exact ⟨b, by simp, hclear⟩
  | none =>
    simp only [checkExtension, hroom]
    refine wp_assertTypeCapacity (fun _ _ _ _ => hE _ _ _) fun b₁ b₂ hrules hfull => ?_
    exact hP [_, _] (by simp) (by simp [hroom]) fun _ => ⟨hrules, b₁, b₂, by simp, by simp, hfull⟩

theorem extendStay_writes (dto : ExtendStayDto) :
    (extendStay env propertyId id dto actorStaffId).WritesUnder
      (Commit ⟨env, propertyId, actorStaffId, .extendStay id dto⟩) := by
  simp only [Prog.WritesUnder, extendStay, wp_simps, wp_requireReservation, wp_hydrate]
  intro b before hf hs hlater horder _
  refine wp_checkExtension propertyId id (by simp) fun o ho hroom htype => ?_
  simp only [rescheduleReservation, recordEvent, wp_simps]
  intro _ _ _ _
  have hstatus : before.status = .CHECKED_IN ∨ before.status = .CONFIRMED := by
    by_contra hno
    exact hs (not_or.mp hno)
  have hrow : RowCommit ⟨env, propertyId, actorStaffId, .extendStay id dto⟩
      (o ++ [.saw (.reservation id) b]) id
      (Reservation.rescheduled (fun r => (r.checkIn, dto.checkOut)) fun r =>
        { r with
          ratePaise := dto.ratePaise.getD before.ratePaise
          totalPaise :=
            totalPaise (dto.ratePaise.getD before.ratePaise) before.checkIn dto.checkOut
          updatedAt := env.now }) :=
    .extended rfl (quiet_append.mpr ⟨ho, by simp⟩) ⟨b, by simp, hf⟩ hstatus
      (not_le.mp hlater) (fun roomId hr => (hroom roomId hr).mono (by simp))
      fun hn => (htype hn).mono (by simp)
  exact .row hrow (rescheduled_id fun _ => rfl) (reschedule_effect _)

variable {rules : Option (List DayRules)}

theorem wp_updateCheck {newIn newOut : ℤ} {moving : Prop} [Decidable moving] (hE : ∀ e h t, E e h t)
    (hP : ∀ o, Quiet o →
      (moving → before.status = .CONFIRMED →
        (∀ roomId, before.roomId = some roomId →
          Cleared o ⟨propertyId, roomId, newIn, newOut, some id, none⟩) ∧
        HasRoom o propertyId before.roomTypeId newIn newOut (some id) rules) →
      P () (o ++ h) (.active fun db => db)) :
    (when (moving ∧ before.status = .CONFIRMED)
      (checkMovedBooking propertyId id before newIn newOut rules)).wp C P E h
        (.active fun db => db) := by
  rw [wp_when]
  refine ⟨fun _ => ?_, fun hno => ?_⟩
  · exact wp_checkMovedBooking hE fun o ho hroom htype => hP o ho fun _ _ => ⟨hroom, htype⟩
  · exact hP [] (by simp) fun hm hs => absurd ⟨hm, hs⟩ hno

theorem wp_rulesIfMoving {P : Option (List DayRules) → Trace → Tx HotelDb → Prop} {roomTypeId : Id}
    {newIn newOut : ℤ} {moving : Bool} (hE : ∀ e o t, E e (o ++ h) t) (hP : ∀ rules o, Quiet o →
      (moving = true → RulesRead o env propertyId roomTypeId newIn newOut rules) →
      P rules (o ++ h) .idle) :
    (rulesIfMoving env propertyId roomTypeId newIn newOut moving).wp C P E h .idle := by
  simp only [rulesIfMoving, wp_ite, wp_pure]
  refine ⟨fun _ => ?_, fun hstill => ?_⟩
  · exact wp_rulesFor (fun e o => hE e o .idle) fun rules o ho hread => hP rules o ho fun _ => hread
  · exact hP _ [] quiet_nil fun hmoving => absurd hmoving hstill

theorem wp_updateTx {dto : UpdateReservationDto} {b : HotelDb} {total : Option ℤ} {o : Trace}
    (ho : Quiet o) (hf : reservationOf propertyId id b = some before)
    (hm : (dto.checkIn.isSome || dto.checkOut.isSome) = true →
      (before.status = .PENDING ∨ before.status = .CONFIRMED) ∧
        dto.checkIn.getD before.checkIn < dto.checkOut.getD before.checkOut)
    (hread : (dto.checkIn.isSome || dto.checkOut.isSome) = true →
      RulesRead o env propertyId before.roomTypeId (dto.checkIn.getD before.checkIn)
        (dto.checkOut.getD before.checkOut) rules) :
    (transaction do
      when ((dto.checkIn.isSome || dto.checkOut.isSome) = true ∧ before.status = .CONFIRMED) <|
        checkMovedBooking propertyId id before (dto.checkIn.getD before.checkIn)
          (dto.checkOut.getD before.checkOut) rules
      let updated ← rescheduleReservation id
        (fun r => (dto.checkIn.getD r.checkIn, dto.checkOut.getD r.checkOut))
        (applyPatch dto total env.now)
      recordEvent id "updated" actorStaffId
        (.updated (patchFields dto (dto.checkIn.isSome || dto.checkOut.isSome)))
      return updated).wp (Commit ⟨env, propertyId, actorStaffId, .update id dto⟩)
        (fun row h t => (hydrate row).wp (Commit ⟨env, propertyId, actorStaffId, .update id dto⟩)
          (fun _ _ _ => True) (fun _ _ _ => True) h t)
        (fun _ _ _ => True) (o ++ [.saw (.reservation id) b]) .idle := by
  simp only [wp_simps]
  refine wp_updateCheck propertyId id (by simp) fun o' ho' hchecked => ?_
  simp only [rescheduleReservation, recordEvent, wp_simps, wp_hydrate]
  intro _ _ _ _
  have hfound : Found (o' ++ (o ++ [.saw (.reservation id) b])) propertyId id before :=
    ⟨b, by simp, hf⟩
  have hrow : RowCommit ⟨env, propertyId, actorStaffId, .update id dto⟩
      (o' ++ (o ++ [.saw (.reservation id) b])) id
      (Reservation.rescheduled
        (fun r => (dto.checkIn.getD r.checkIn, dto.checkOut.getD r.checkOut))
        (applyPatch dto total env.now)) := by
    refine .updated rules (by simp [quiet_append, ho, ho']) hfound fun hmoving => ?_
    obtain ⟨hstatus, hordered⟩ := hm hmoving
    refine ⟨hmoving, hstatus, hordered, fun hconfirmed => ?_⟩
    obtain ⟨hroom, htype⟩ := hchecked hmoving hconfirmed
    exact ⟨fun roomId hr => (hroom roomId hr).mono (by simp), htype.mono (by simp),
      (hread hmoving).mono (by simp)⟩
  exact .row hrow (rescheduled_id fun _ => rfl) (reschedule_effect _)

theorem update_writes (dto : UpdateReservationDto) :
    (update env propertyId id dto actorStaffId).WritesUnder
      (Commit ⟨env, propertyId, actorStaffId, .update id dto⟩) := by
  simp only [Prog.WritesUnder, update, wp_simps, wp_requireReservation, wp_when]
  intro b before hf hs
  have hstatus : (dto.checkIn.isSome || dto.checkOut.isSome) = true →
      before.status = .PENDING ∨ before.status = .CONFIRMED := by
    intro hmoving
    by_contra hno
    exact hs ⟨hmoving, not_or.mp hno⟩
  refine ⟨fun hmoving ordered _ _ => ?_, fun hstill _ => ?_⟩
  · refine wp_rulesIfMoving env propertyId (fun _ _ _ => trivial) fun rules o ho hread => ?_
    exact wp_updateTx env propertyId id actorStaffId ho hf
      (fun _ => ⟨hstatus hmoving, ordered.down⟩) hread
  · refine wp_rulesIfMoving env propertyId (fun _ _ _ => trivial) fun rules o ho hread => ?_
    exact wp_updateTx env propertyId id actorStaffId ho hf (fun hmoving => absurd hmoving hstill)
      hread

theorem swapRooms_writes (otherId : Id) :
    (swapRooms env propertyId id otherId actorStaffId).WritesUnder
      (Commit ⟨env, propertyId, actorStaffId, .swapRooms id otherId⟩) := by
  simp only [Prog.WritesUnder, swapRooms, updateReservation, recordEvent, wp_simps,
    wp_requireReservation, wp_assertRoomFree]
  intro hne b a hfa b₁ partner hfb rooms hrooms _ htype _ b₂ hca b₃ hcb _ _ _ _
  have hida : a.id = id := key_of_find? (Option.eq_some_of_filter_eq_some hfa)
  have hidb : partner.id = otherId := key_of_find? (Option.eq_some_of_filter_eq_some hfb)
  obtain ⟨ra, hra, rb, hrb, rfl⟩ : ∃ ra, a.roomId = some ra ∧ ∃ rb, partner.roomId = some rb ∧
      (ra, rb) = rooms := by
    simpa [Option.bind_eq_some_iff] using hrooms
  rw [hida, hidb] at hca hcb
  refine ⟨.swapped env.now rfl (by simp) hne ⟨b, by simp, hfa⟩ ⟨b₁, by simp, hfb⟩ hra hrb
    (by simpa using htype) ⟨b₂, by simp [hida, hidb], hca⟩ ⟨b₃, by simp [hida, hidb], hcb⟩
    fun db => ⟨.of_eq rfl rfl, ?_⟩, ?_⟩
  · simp [HotelDb.updateReservation, HotelDb.recordEvent, hida, hidb]
  · exact (hydrate_readOnly _).wp_idle _ (fun _ _ _ => wp_hydrate _) fun _ _ _ => trivial

/-! ## Check-out -/

theorem roomTax_readOnly (res : Reservation) (look : Look) :
    (roomTax res look).ReadOnly :=
  .bind (.ite _ (.pure _) (.bind (.select _ _) fun _ => .pure _)) fun _ =>
    .bind (.select _ _) fun _ => .pure _

theorem summary_readOnly : (summary id).ReadOnly := by
  refine .bind (.select _ _) fun res => .bind (.select _ _) fun _ =>
    .bind (.select _ _) fun _ => .bind ?_ fun _ => .pure _
  cases res with
  | some r => exact roomTax_readOnly r _
  | none => exact .pure _

theorem balancePaise_readOnly : (FolioService.balancePaise id).ReadOnly := by
  exact .bind (summary_readOnly id) fun _ => .pure _

theorem wp_payment {P : FolioPayment × ℤ → Trace → Tx HotelDb → Prop} (input : RecordPaymentInput)
    (now : ℤ) (hinsert : ∀ h, C h fun db => (insertPayment input db).1)
    (hpaid : ∀ net h, C h (setPaid input.reservationId net now))
    (hE : ∀ e h t, E e h t) (hP : ∀ a o, P a (o ++ h) .idle) :
    (recordPayment input now).wp C P E h .idle := by
  simp only [recordPayment, wp_simps]
  refine ⟨fun b => ?_, fun m => hE _ _ _⟩
  cases paymentOf input b with
  | some payment =>
    simp only [wp_simps]
    exact ⟨fun b' => hP _ [_, _], fun m => hE _ _ _⟩
  | none =>
    simp only [wp_simps, hinsert]
    refine ⟨fun b' => ?_, fun m => hE _ _ _⟩
    have hwinner : (winnerOf input
        (insertPayment input b').2).ReadOnly := by
      cases (insertPayment input b').2 with
      | some p => exact .pure _
      | none => exact .select _ _
    refine hwinner.wp_idle _ (fun winner o _ => ?_) fun _ _ _ => hE _ _ _
    simp only [wp_simps, hpaid]
    refine ⟨fun _ => hE _ _ _, fun payment _ => ⟨fun b'' => ⟨fun b₃ => ?_, fun m => hE _ _ _⟩,
      fun m => hE _ _ _⟩⟩
    have hnet := hP (payment, netPaid input.reservationId b'')
      (.wrote (setPaid input.reservationId
          (netPaid input.reservationId b'') now) ::
        .saw (.folio input.reservationId) b'' :: (o ++ [.wrote fun db =>
          (insertPayment input db).1, .saw (.folio input.reservationId) b]))
    simpa using hnet

variable {c : Call}

theorem wp_recordPayment {P : FolioPayment × ℤ → Trace → Tx HotelDb → Prop}
    (input : RecordPaymentInput) (now : ℤ) (hE : ∀ e h t, E e h t)
    (hP : ∀ a o, P a (o ++ h) .idle) :
    (recordPayment input now).wp (Commit c) P E h .idle := by
  refine wp_payment input now (fun h => .other fun db => ?_)
    (fun net h => .row .paid (fun _ => rfl) fun db => ⟨.of_eq rfl rfl, .inr rfl⟩) hE hP
  unfold insertPayment
  cases input.idempotencyKey.bind fun k =>
    FolioService.findPaymentByKey input.reservationId k db <;> exact ⟨.of_eq rfl rfl, rfl⟩

theorem wp_collect {collected : ℤ} {input : RecordPaymentInput} {now : ℤ} (hE : ∀ e h t, E e h t)
    (hP : ∀ o, P () (o ++ h) .idle) :
    (when (0 < collected) do
      let _ ← recordPayment input now).wp (Commit c) P E h .idle := by
  simp only [wp_when, wp_simps]
  exact ⟨fun _ => wp_recordPayment input now hE fun _ o => hP o, fun _ => hP []⟩

theorem wp_createCheckoutClean {w : HotelDb → HotelDb} {roomId : Id} (hE : ∀ e h t, E e h t)
    (hP : ∀ o v, (∀ db, Frame db (v db) ∧ (v db).reservations = db.reservations) →
      P () (o ++ h) (.active (v ∘ w))) :
    (createCheckoutCleanForRoom propertyId roomId actorStaffId env.now).wp (Commit c) P E h
      (.active w) := by
  simp only [createCheckoutCleanForRoom, wp_simps, wp_when]
  refine ⟨fun b => ⟨fun _ => ⟨fun b' => ?_, fun m => hE _ _ _⟩, fun _ => ?_⟩, fun m => hE _ _ _⟩
  · exact hP [_] _ fun db => ⟨.of_eq rfl rfl, rfl⟩
  · exact hP [_] id fun db => ⟨.refl db, rfl⟩

theorem checkOut_writes (dto : CheckOutDto) :
    (checkOut env propertyId id dto actorStaffId).WritesUnder
      (Commit ⟨env, propertyId, actorStaffId, .checkOut id dto⟩) := by
  simp only [Prog.WritesUnder, checkOut, wp_simps, wp_requireReservation, assertTransition_ok]
  intro b before hf _ ht
  refine wp_collect (by simp) fun o => ?_
  refine (balancePaise_readOnly id).wp_idle _ (fun balance o' _ => ?_) fun _ _ _ => trivial
  intro _
  simp only [updateReservation, setRoomStatus, recordEvent, wp_simps, wp_forSome, wp_hydrate]
  intro _
  have hfound : ∀ o₁ : Trace, Found (o₁ ++ (o' ++ (o ++ [.saw (.reservation id) b]))) propertyId id
      before :=
    fun _ => ⟨b, by simp, hf⟩
  have hclosed : ∀ (o₁ : Trace) (w : HotelDb → HotelDb), (∀ db, Frame db (w db) ∧
      (w db).reservations = db.reservations.update (fun r => r.id = id) fun r =>
        { r with status := .CHECKED_OUT, checkedOutAt := some env.now, updatedAt := env.now }) →
      Commit ⟨env, propertyId, actorStaffId, .checkOut id dto⟩
        (o₁ ++ (o' ++ (o ++ [.saw (.reservation id) b]))) w :=
    fun o₁ w hw => .row (.checkedOut (hfound o₁) ht) (fun _ => rfl)
      fun db => ⟨(hw db).1, .inr (hw db).2⟩
  refine ⟨fun roomId _ _ => ?_, fun _ _ => ?_⟩
  · refine wp_createCheckoutClean env propertyId actorStaffId (by simp) fun o₁ v hv => ?_
    simp only [wp_write_active, trivially]
    refine fun _ => hclosed o₁ _ fun db => ⟨?_, (hv _).2⟩
    have hdirty : Frame db ((db.updateReservation id fun r =>
        { r with status := .CHECKED_OUT, checkedOutAt := some env.now,
                 updatedAt := env.now }).setRoomStatus roomId .DIRTY env.now) :=
      .setRoomStatus (by simp) rfl rfl
    exact hdirty.trans ((hv _).1.trans (.of_eq rfl rfl))
  · exact hclosed [] _ fun db => ⟨.of_eq rfl rfl, rfl⟩

theorem collectPayment_writes (input : CollectPaymentInput) :
    (collectPayment env propertyId id input actorStaffId).WritesUnder
      (Commit ⟨env, propertyId, actorStaffId, .collectPayment id input⟩) := by
  simp only [Prog.WritesUnder, collectPayment, folioAncillary, wp_bind, wp_requireReservation,
    trivially]
  intro b before hf
  refine wp_recordPayment _ _ (by simp) fun a o => ?_
  exact (summary_readOnly id).wp_idle _ (fun _ _ _ => trivial) fun _ _ _ => trivial

/-! ## Create -/

/-- What a new booking of the status has been checked for. -/
def Checked (o : Trace) (dto : CreateReservationDto) (status : BookingStatus)
    (rules : Option (List DayRules)) : Prop :=
  status = .PENDING ∨ status = .CONFIRMED ∧
    (∀ roomId, dto.roomId = some roomId →
      Cleared o ⟨propertyId, roomId, dto.checkIn, dto.checkOut, none, none⟩) ∧
    HasRoom o propertyId dto.roomTypeId dto.checkIn dto.checkOut none rules

variable {dto : CreateReservationDto}

theorem wp_checkNewBooking {status : BookingStatus} (hE : ∀ e o t, Quiet o → E e (o ++ h) t)
    (hP : ∀ o, Quiet o → Checked propertyId o dto status rules →
      P () (o ++ h) (.active fun db => db)) :
    (checkNewBooking propertyId dto status rules).wp C P E h (.active fun db => db) := by
  cases status with
  | PENDING => exact hP [] quiet_nil (.inl rfl)
  | CONFIRMED =>
    simp only [checkNewBooking, wp_bind, wp_forSome, wp_assertRoomFree]
    refine ⟨fun roomId hroom => ⟨fun b => ⟨fun _ => hE _ [_] _ (by simp), fun hclear => ?_⟩,
      fun m => hE _ [] _ quiet_nil⟩, fun hnone => ?_⟩
    · refine wp_assertTypeCapacity (fun e o t ho => ?_) fun b₁ b₂ hrules hfull => ?_
      · simpa using hE e (o ++ [.saw (.roomStays _) b]) t (quiet_append.mpr ⟨ho, by simp⟩)
      · refine hP [_, _, .saw (.roomStays _) b] (by simp)
          (.inr ⟨rfl, fun roomId' hr => ?_, hrules, b₁, b₂, by simp, by simp, hfull⟩)
        obtain rfl : roomId = roomId' := by simpa [hroom] using hr
        exact ⟨b, by simp, hclear⟩
    · refine wp_assertTypeCapacity hE fun b₁ b₂ hrules hfull => ?_
      exact hP [_, _] (by simp)
        (.inr ⟨rfl, by simp [hnone], hrules, b₁, b₂, by simp, by simp, hfull⟩)

theorem insert_effect (row : Reservation) (e : ReservationEvent) (db : HotelDb) :
    let db' := (applied (fun db : HotelDb => db.insertReservation row) db).recordEvent e
    Frame db db' ∧ (db'.reservations = db.reservations ∨
      db'.reservations = db.reservations.insert row) := by
  by_cases htaken : db.reservationTaken row = true
  · simp only [applied, HotelDb.insertReservation, htaken, if_true]
    exact ⟨.of_eq rfl rfl, .inl rfl⟩
  · simp only [applied, HotelDb.insertReservation, htaken]
    exact ⟨.of_eq rfl rfl, .inr rfl⟩

theorem wp_createTx {P : Reservation → Trace → Tx HotelDb → Prop}
    {ordered : dto.checkIn < dto.checkOut} {status : BookingStatus} {ratePaise total : ℤ}
    {currency : String} {hold : Option ℤ} {attempt : ℕ} (hq : Quiet h)
    (htype : TypeFound h propertyId dto.roomTypeId) (hroom : ∀ roomId, dto.roomId = some roomId →
      ∃ room, RoomFound h propertyId roomId room ∧ room.roomTypeId = dto.roomTypeId)
    (hread : RulesRead h env propertyId dto.roomTypeId dto.checkIn dto.checkOut rules)
    (hP : ∀ row h, P row h .idle) :
    (createTx propertyId dto status rules actorStaffId fun count =>
      newReservation env propertyId dto ordered status ratePaise total currency hold actorStaffId
        count attempt).wp (Commit ⟨env, propertyId, actorStaffId, .create dto⟩) P
      (fun _ h' t => t = .idle ∧ ∃ o, Quiet o ∧ h' = o ++ h) h .idle := by
  rw [createTx, wp_transaction]
  refine ⟨fun m => ⟨rfl, [], quiet_nil, rfl⟩, ?_⟩
  rw [wp_bind]
  refine wp_checkNewBooking propertyId (fun e o t ho => ⟨rfl, o, ho, rfl⟩) fun o ho hchecked => ?_
  simp only [recordEvent, wp_simps]
  -- until the commit an error leaves a quiet history
  refine ⟨fun b => ?_, fun m => ⟨o, ho, rfl⟩⟩
  have hquiet : ∃ o', Quiet o' ∧
      .saw (.stays propertyId) b :: (o ++ h) = o' ++ h := ⟨.saw (.stays propertyId) b :: o, ho, rfl⟩
  refine ⟨fun _ _ _ => ⟨fun _ => ⟨fun m => hquiet, ?_, hP _ _⟩, fun m => hquiet⟩,
    fun _ _ _ => hquiet, fun m => hquiet⟩
  have hsub : h ⊆ .saw (.stays propertyId) b :: (o ++ h) :=
    List.subset_cons_of_subset _ (List.subset_append_right o h)
  have hsub' : o ⊆ .saw (.stays propertyId) b :: (o ++ h) :=
    List.subset_cons_of_subset _ (List.subset_append_left o h)
  have hs : status.toStatus = .PENDING ∨ status.toStatus = .CONFIRMED ∧
      (∀ roomId, dto.roomId = some roomId →
        Cleared (.saw (.stays propertyId) b :: (o ++ h))
          ⟨propertyId, roomId, dto.checkIn, dto.checkOut, none, none⟩) ∧
      HasRoom (.saw (.stays propertyId) b :: (o ++ h)) propertyId dto.roomTypeId dto.checkIn
        dto.checkOut none rules ∧
      RulesRead (.saw (.stays propertyId) b :: (o ++ h)) env propertyId dto.roomTypeId dto.checkIn
        dto.checkOut rules := by
    rcases hchecked with rfl | ⟨rfl, hclear, hfull⟩
    · exact .inl rfl
    · exact .inr ⟨rfl, fun roomId hr => (hclear roomId hr).mono hsub', hfull.mono hsub',
        hread.mono hsub⟩
  refine .created rfl (quiet_append.mpr ⟨ho, hq⟩) (insert_effect _ _) (htype.mono hsub)
    (fun roomId hr => ?_) hs
  obtain ⟨room, hfound, hsame⟩ := hroom roomId hr
  exact ⟨room, hfound.mono hsub, hsame⟩

theorem wp_hydrate_error {h h₀ : Trace} (row : Option Reservation) :
    (hydrate row).wp (Commit c) (fun _ _ _ => True)
      (fun e h' t => e = .uniqueViolation → t = .idle ∧ ∃ o, Quiet o ∧ h' = o ++ h₀) h .idle := by
  simp only [hydrate, wp_simps]
  refine ⟨by simp, fun r _ => ⟨fun b => ?_, by simp [lost]⟩⟩
  cases hr : r.roomId with
  | some roomId => simp [hydrateRoom, lost]
  | none => simp [hydrateRoom]

theorem quoteUnlessGiven_readOnly (dto : CreateReservationDto) (type : RoomType) :
    (quoteUnlessGiven env propertyId dto type).ReadOnly :=
  .ite _ (.pure _) ((nightlyQuote_readOnly _ _ _ _ _ _ _).map some)

theorem deadlineIfPending_readOnly (status : BookingStatus) (minutes : Option ℤ) :
    (deadlineIfPending env propertyId status minutes).ReadOnly :=
  .ite _ (holdDeadline_readOnly _ _ _) (.pure _)

theorem wp_requestedRoom (hE : ∀ e h, E e h .idle) (hP : ∀ o, Quiet o →
      (∀ roomId, dto.roomId = some roomId →
        ∃ room, RoomFound o propertyId roomId room ∧ room.roomTypeId = dto.roomTypeId) →
      P () (o ++ h) .idle) :
    (forSome dto.roomId fun roomId => do
      let room ← requireRoom propertyId roomId
      throwIf (room.roomTypeId ≠ dto.roomTypeId) .roomTypeMismatch).wp C P E h .idle := by
  simp only [wp_forSome, wp_simps, wp_requireRoom]
  refine ⟨fun roomId hr => ⟨fun b => ⟨fun _ => hE _ _, fun room hroom => ⟨fun _ => hE _ _,
    fun hsame => ?_⟩⟩, fun m => hE _ _⟩, fun hnone => hP [] quiet_nil (by simp [hnone])⟩
  refine hP [_] (by simp) fun roomId' hr' => ?_
  obtain rfl : roomId = roomId' := by simpa [hr] using hr'
  exact ⟨room, ⟨b, by simp, hroom⟩, by simpa using hsame⟩

theorem wp_createAttempts {body : ℕ → Op ReservationDto}
    (hbody : ∀ attempt o, Quiet o → (body attempt).wp (Commit c) (fun _ _ _ => True)
      (fun e h' t => e = .uniqueViolation → t = .idle ∧ ∃ o', Quiet o' ∧ h' = o' ++ h)
      (o ++ h) .idle) :
    ∀ left attempt o, Quiet o → (createAttempts body left attempt).wp (Commit c) (fun _ _ _ => True)
      (fun _ _ _ => True) (o ++ h) .idle := by
  intro left
  induction left with
  | zero => exact fun _ _ _ => trivial
  | succ left ih =>
    intro attempt o ho
    rw [createAttempts, wp_tryCatch]
    refine wp_mono (fun _ _ hw => hw) (fun _ _ _ hP => hP) (fun e h' t he => ?_) _ _ _
      (hbody attempt o ho)
    rw [wp_ite]
    refine ⟨fun hretry => ?_, fun _ => trivial⟩
    obtain ⟨rfl, o', ho', rfl⟩ := he hretry.1
    exact ih _ o' ho'

theorem create_writes (dto : CreateReservationDto) :
    (create env propertyId dto actorStaffId).WritesUnder
      (Commit ⟨env, propertyId, actorStaffId, .create dto⟩) := by
  simp only [Prog.WritesUnder, create, wp_simps, wp_requireRoomType]
  intro ordered _ b type htype
  refine wp_requestedRoom propertyId (by simp) fun o ho hroom => ?_
  refine (quoteUnlessGiven_readOnly env propertyId dto type).wp_idle _ (fun nightly o₁ ho₁ => ?_)
    fun _ _ _ => trivial
  have htypeId : type.id = dto.roomTypeId :=
    key_of_find? (Option.eq_some_of_filter_eq_some htype)
  rw [htypeId]
  refine wp_rulesFor (fun _ _ => trivial) fun rules o₂ ho₂ hread => ?_
  refine (deadlineIfPending_readOnly env propertyId _ _).wp_idle _ (fun hold o₃ ho₃ => ?_)
    fun _ _ _ => trivial
  -- everything read so far, and nothing published
  refine wp_createAttempts (fun attempt o₄ ho₄ => ?_) NUMBER_ATTEMPTS 0 [] quiet_nil
  rw [wp_bind]
  refine wp_mono (fun _ _ hw => hw) (fun _ _ _ hP => hP) (fun e h' t he _ => ?_) _ _ _
    (wp_createTx env propertyId actorStaffId ?_ ?_ (fun roomId hr => ?_) ?_ fun row h => ?_)
  · obtain ⟨rfl, o₅, ho₅, rfl⟩ := he
    exact ⟨rfl, o₅ ++ o₄, quiet_append.mpr ⟨ho₅, ho₄⟩, by simp⟩
  · simp [quiet_append, ho, ho₁, ho₂, ho₃, ho₄]
  · exact ⟨b, type, by simp, htype⟩
  · obtain ⟨room, ⟨b', hb', hroom'⟩, hsame⟩ := hroom roomId hr
    exact ⟨room, ⟨b', by simp [hb'], hroom'⟩, hsame⟩
  · exact hread.mono fun x hx => by simp [hx]
  · exact wp_hydrate_error _

/-! ## Auto-allocation -/

section Allocation

variable {pending : List Reservation} {offerable : List Room} {assigned : List (Id × Id)}
  {res : Reservation}

theorem firstFreeRoom_body (rooms : List Room) :
    (firstFreeRoom propertyId pending assigned res rooms).Body := by
  induction rooms with
  | nil => exact .pure _
  | cons room rest ih =>
    rw [firstFreeRoom]
    refine .ite _ ih (.bind (.tryCatch (.bind ?_ fun _ => .pure _) fun _ => .pure _) fun free => ?_)
    · exact .bind (.selectForUpdate _ _ _) fun _ => .throwIf _ _
    · exact .ite _ (.pure _) ih

theorem placeArrivals_body (dryRun : Bool) (todo : List Reservation) :
    ∀ assigned plan, (placeArrivals env propertyId dryRun actorStaffId pending offerable todo
      assigned plan).Body := by
  induction todo with
  | nil => exact fun _ _ => .pure _
  | cons res rest ih =>
    intro assigned plan
    rw [placeArrivals]
    refine .bind (firstFreeRoom_body propertyId _) fun chosen => ?_
    cases chosen with
    | none => exact ih _ _
    | some room =>
      refine .bind (.ite _ ?_ (.pure _)) fun _ => ih _ _
      exact .bind (.write _ _ _) fun _ => .write _ _ _

/-- The room the search finds is offered, not claimed by this run, and was probed free. -/
theorem wp_firstFreeRoom {C : Trace → (HotelDb → HotelDb) → Prop}
    {P : Option Room → Trace → Tx HotelDb → Prop} {E : Err → Trace → Tx HotelDb → Prop}
    {w : HotelDb → HotelDb} (hE : ∀ e h t, E e h t) (rooms : List Room) :
    ∀ h, (∀ chosen o, Quiet o →
        (∀ room, chosen = some room → room ∈ rooms ∧
          (∀ a ∈ assigned, a.2 = room.id → overlapsPool pending a.1 res = false) ∧
          ∃ b, .saw (.roomStays ⟨propertyId, room.id, res.checkIn, res.checkOut, some res.id,
              none⟩) b ∈ o ∧
            RoomProbe.Clear ⟨propertyId, room.id, res.checkIn, res.checkOut, some res.id, none⟩
              (w b)) →
        P chosen (o ++ h) (.active w)) →
      (∀ chosen o, Quiet o → P chosen (o ++ h) .aborted) →
      (firstFreeRoom propertyId pending assigned res rooms).wp C P E h (.active w) := by
  induction rooms with
  | nil => exact fun h hP _ => hP none [] quiet_nil (by simp)
  | cons room rest ih =>
    intro h hP hA
    -- the search goes on past `room`, having read `o` about it
    have hnext : ∀ o : Trace, Quiet o →
        (firstFreeRoom propertyId pending assigned res rest).wp C P E (o ++ h) (.active w) := by
      intro o ho
      refine ih (o ++ h) (fun chosen o' ho' hfound => ?_) fun chosen o' ho' => ?_
      · rw [← List.append_assoc]
        refine hP chosen (o' ++ o) (quiet_append.mpr ⟨ho', ho⟩) fun r hr => ?_
        obtain ⟨hmem, hclaimed, b, hb, hclear⟩ := hfound r hr
        exact ⟨List.mem_cons_of_mem _ hmem, hclaimed, b, List.mem_append_left _ hb, hclear⟩
      · rw [← List.append_assoc]
        exact hA chosen (o' ++ o) (quiet_append.mpr ⟨ho', ho⟩)
    rw [firstFreeRoom, wp_ite]
    refine ⟨fun _ => hnext [] quiet_nil, fun hfree => ?_⟩
    simp only [wp_simps, wp_tryCatch, wp_assertRoomFree, Bool.false_eq_true, if_false, if_true]
    refine ⟨fun b => ⟨fun _ => hnext [_] (by simp), fun hclear => ?_⟩, fun m => ?_⟩
    · refine hP (some room) [_] (by simp) fun r hr => ?_
      obtain rfl : room = r := by simpa using hr
      refine ⟨List.mem_cons_self, fun a ha hroom => ?_, b, by simp, hclear⟩
      simp only [List.any_eq_true, and_decide_eq, not_exists, not_and, Bool.not_eq_true] at hfree
      exact hfree a ha hroom
    · -- a failed probe is caught, but it has aborted the transaction
      refine (firstFreeRoom_body propertyId rest).wp_open h .aborted (by simp)
        (fun chosen o t' ho hopen => ?_) fun e o t' ho hopen => ?_
      · obtain rfl : t' = .aborted := hopen
        exact hA chosen o ho
      · exact hE _ _ _

theorem wp_placeArrivals {C : Trace → (HotelDb → HotelDb) → Prop}
    {P : List PlanLine → Trace → Tx HotelDb → Prop} {E : Err → Trace → Tx HotelDb → Prop}
    (hE : ∀ e h t, E e h t) (todo : List Reservation) :
    ∀ assigned plan h w, (∀ r ∈ todo, r ∈ pending) →
      Placed h propertyId pending offerable assigned w →
      (∀ plan o assigned' w', Quiet o →
        Placed (o ++ h) propertyId pending offerable assigned' w' →
        P plan (o ++ h) (.active w')) →
      (∀ plan o, Quiet o → P plan (o ++ h) .aborted) →
      (placeArrivals env propertyId false actorStaffId pending offerable todo assigned plan).wp
        C P E h (.active w) := by
  induction todo with
  | nil => exact fun assigned plan h w _ hp hP _ => hP plan [] assigned w quiet_nil hp
  | cons res rest ih =>
    intro assigned plan h w hmem hp hP hA
    -- the arrivals after `res`, with what has been read for it
    have hnext : ∀ (o : Trace) assigned' w' plan', Quiet o →
        Placed (o ++ h) propertyId pending offerable assigned' w' →
        (placeArrivals env propertyId false actorStaffId pending offerable rest assigned' plan').wp
          C P E (o ++ h) (.active w') := by
      intro o assigned' w' plan' ho hp'
      refine ih _ _ _ _ (fun r hr => hmem r (List.mem_cons_of_mem _ hr)) hp'
        (fun plan'' o' assigned'' w'' ho' hp'' => ?_) fun plan'' o' ho' => ?_
      · rw [← List.append_assoc] at hp'' ⊢
        exact hP _ _ _ _ (quiet_append.mpr ⟨ho', ho⟩) hp''
      · rw [← List.append_assoc]
        exact hA _ _ (quiet_append.mpr ⟨ho', ho⟩)
    rw [placeArrivals, wp_bind]
    refine wp_firstFreeRoom propertyId hE _ h (fun chosen o ho hfound => ?_) fun chosen o ho => ?_
    · have hpo : Placed (o ++ h) propertyId pending offerable assigned w := hp.mono (by simp)
      cases chosen with
      | none => exact hnext o assigned w _ ho hpo
      | some room =>
        obtain ⟨hroom, hclaimed, b, hb, hclear⟩ := hfound room rfl
        obtain ⟨hoffer, htype⟩ := List.mem_filter.mp hroom
        simp only [updateReservation, recordEvent, wp_simps, wp_when, hE, not_true_eq_false,
          false_implies, true_implies]
        intro _ _
        exact hnext o _ _ _ ho (.snoc hpo (hmem res List.mem_cons_self) hoffer
          (by simpa using htype) hclaimed ⟨b, List.mem_append_left _ hb, hclear⟩)
    · refine Prog.Body.wp_open ?_ (o ++ h) .aborted (by simp) (fun plan' o' t' ho' hopen => ?_)
        fun _ _ _ _ _ => hE _ _ _
      · cases chosen with
        | none => exact placeArrivals_body env propertyId actorStaffId false rest _ _
        | some room =>
          refine .bind (.ite _ ?_ (.pure _)) fun _ =>
            placeArrivals_body env propertyId actorStaffId false rest _ _
          exact .bind (.write _ _ _) fun _ => .write _ _ _
      · obtain rfl : t' = .aborted := hopen
        rw [← List.append_assoc]
        exact hA _ _ (quiet_append.mpr ⟨ho', ho⟩)

theorem autoAllocate_writes (input : AutoAllocateDto) :
    (autoAllocate env propertyId input actorStaffId).WritesUnder
      (Commit ⟨env, propertyId, actorStaffId, .autoAllocate input⟩) := by
  simp only [Prog.WritesUnder, autoAllocate, wp_simps, wp_ite, Prog.wp_rolledBack]
  intro _ b₁ b₂
  refine ⟨fun _ => ?_, fun hrun => ?_⟩
  · exact (placeArrivals_body env propertyId actorStaffId _ _ _ _).wp_open _ _ (by simp)
      (fun _ _ _ _ _ => trivial) fun _ _ _ _ _ => trivial
  · rw [Bool.not_eq_true] at hrun
    rw [hrun]
    refine wp_placeArrivals env propertyId actorStaffId (by simp) _ [] [] _ id (fun _ hr => hr) .nil
      (fun plan o assigned w ho hp => ?_) fun _ _ _ => trivial
    refine .allocated rfl (quiet_append.mpr ⟨ho, by simp⟩) ⟨b₁, by simp, rfl⟩
      ⟨b₂, by simp, fun room hroom => ?_⟩ hp
    simp only [List.mem_filter, List.mem_insertionSort, and_decide_eq] at hroom
    exact ⟨hroom.1.1, hroom.1.2.1⟩

end Allocation

end ReservationsService

end Travelo

import Mathlib.Data.Fintype.Basic
import Travelo.Reservations.Capacity

/-!
# Selling restrictions

The rates grid closes days for sale, for arrival or for departure, bounds the length of a
stay and caps the rooms of a type. `NewStaysAllowed db db'` says that every committed stay
of `db'` on dates it did not already hold in `db` obeys the grid as it stands in `db`.

`create` and `update` read the rules and hand them to `assertTypeCapacity`; `confirm` and
`extendStay` run the same check without them. `call_newStaysAllowed_iff` says exactly when
a call keeps the restrictions: always, but for a confirmation or an extension that passes
its own checks and breaks a rule.
-/

namespace Travelo

open ReadCommitted ReservationsService
open Reservation (rescheduled withDates_eq)

/-- The capacity check, given the daily rules of the dates, lets the reservation `id` have
the stay. -/
def StayAllowed (db : HotelDb) (propertyId roomTypeId id : Id) (checkIn checkOut : ℤ) : Prop :=
  capacityVerdict propertyId roomTypeId checkIn checkOut (some id)
    (some (RatesService.dayRulesOf propertyId roomTypeId checkIn (addDays checkOut 1) db)) db
      = .ok ()

/-- The reservation was committed to these dates already. -/
def Reservation.HeldIn (db : HotelDb) (r : Reservation) : Prop :=
  ∃ r₀ ∈ db.reservations, r₀.id = r.id ∧ r₀.occupies = true ∧ r₀.checkIn = r.checkIn ∧
    r₀.checkOut = r.checkOut

/-- The committed stays that are new obey the restrictions of the state before. -/
def NewStaysAllowed (db db' : HotelDb) : Prop :=
  ∀ r ∈ db'.reservations, r.occupies = true →
    r.HeldIn db ∨ StayAllowed db r.propertyId r.roomTypeId r.id r.checkIn r.checkOut

/-- A confirmation and an extension that pass their own checks find the stay allowed. -/
def Call.RulesHold (c : Call) (db : HotelDb) : Prop :=
  match c.action with
  | .confirm id =>
    ∀ before ∈ (reservationOf c.propertyId id db).toList,
      canTransition before.status .CONFIRMED = true →
      (∀ roomId ∈ before.roomId.toList,
        RoomProbe.Clear ⟨c.propertyId, roomId, before.checkIn, before.checkOut, some id, none⟩
          db) →
      RoomLeft db c.propertyId before.roomTypeId id before.checkIn before.checkOut →
        StayAllowed db c.propertyId before.roomTypeId id before.checkIn before.checkOut
  | .extendStay id dto =>
    ∀ before ∈ (reservationOf c.propertyId id db).toList,
      before.status = .CHECKED_IN ∨ before.status = .CONFIRMED →
      before.checkOut < dto.checkOut →
      (∀ roomId ∈ before.roomId.toList,
        RoomProbe.Clear ⟨c.propertyId, roomId, before.checkIn, dto.checkOut, some id, none⟩ db) →
      (before.roomId = none →
        RoomLeft db c.propertyId before.roomTypeId id before.checkIn dto.checkOut) →
        StayAllowed db c.propertyId before.roomTypeId id before.checkIn dto.checkOut
  | _ => True

instance (db : HotelDb) (propertyId roomTypeId id : Id) (checkIn checkOut : ℤ) :
    Decidable (StayAllowed db propertyId roomTypeId id checkIn checkOut) := by
  unfold StayAllowed
  infer_instance

instance (db db' : HotelDb) : Decidable (NewStaysAllowed db db') := by
  unfold NewStaysAllowed Reservation.HeldIn
  infer_instance

instance (c : Call) (db : HotelDb) : Decidable (c.RulesHold db) := by
  obtain ⟨env, propertyId, actorStaffId, action⟩ := c
  apply Action.casesOn (motive := fun action =>
    Decidable (Call.RulesHold ⟨env, propertyId, actorStaffId, action⟩ db)) action
  all_goals intros; unfold Call.RulesHold; infer_instance

/-- However its statements fail, the call leaves no new stay that breaks a restriction. -/
def Call.ObeysRules (c : Call) (db : HotelDb) : Prop :=
  ∀ φ, (c.prog.runWith φ db).res = .ok () → NewStaysAllowed db (c.prog.runWith φ db).db

/-! ## Stays that are not new -/

/-- The change gives the row no dates, no type and no commitment it did not have. -/
structure KeepsStay (r r' : Reservation) : Prop where
  id : r'.id = r.id
  propertyId : r'.propertyId = r.propertyId
  roomTypeId : r'.roomTypeId = r.roomTypeId
  checkIn : r'.checkIn = r.checkIn
  checkOut : r'.checkOut = r.checkOut
  occupies : r'.occupies = true → r.occupies = true

theorem KeepsStay.refl (r : Reservation) : KeepsStay r r :=
  ⟨rfl, rfl, rfl, rfl, rfl, fun ho => ho⟩

theorem KeepsStay.trans {r r' r'' : Reservation} (h : KeepsStay r r') (h' : KeepsStay r' r'') :
    KeepsStay r r'' :=
  ⟨h'.id.trans h.id, h'.propertyId.trans h.propertyId, h'.roomTypeId.trans h.roomTypeId,
    h'.checkIn.trans h.checkIn, h'.checkOut.trans h.checkOut, fun ho => h.occupies (h'.occupies ho)⟩

variable {db now : HotelDb}

theorem KeepsStay.allowed {r r' : Reservation} (hk : KeepsStay r r')
    (hr : r.HeldIn db ∨ StayAllowed db r.propertyId r.roomTypeId r.id r.checkIn r.checkOut) :
    r'.HeldIn db ∨
      StayAllowed db r'.propertyId r'.roomTypeId r'.id r'.checkIn r'.checkOut := by
  obtain ⟨hid, hp, ht, hin, hout, -⟩ := hk
  unfold Reservation.HeldIn at *
  rwa [hid, hp, ht, hin, hout]

theorem NewStaysAllowed.of_keeps {db' : HotelDb} (hn : NewStaysAllowed db now)
    (hrows : ∀ r' ∈ db'.reservations, ∃ r ∈ now.reservations, KeepsStay r r') :
    NewStaysAllowed db db' := by
  intro r' hr' hocc
  obtain ⟨r, hr, hk⟩ := hrows r' hr'
  exact hk.allowed (hn r hr (hk.occupies hocc))

variable {f : Reservation → Reservation}

theorem keepsStay_of_mem_update {t : Table Reservation.id} {p : Reservation → Bool}
    (hf : ∀ r, (f r).id = r.id) {r' : Reservation} (hr' : r' ∈ t.update p f hf)
    (h : ∀ r ∈ t, p r = true → KeepsStay r (f r)) :
    ∃ r ∈ t, KeepsStay r r' := by
  obtain ⟨r, hr, rfl⟩ := Table.mem_update.mp hr'
  refine ⟨r, hr, ?_⟩
  by_cases hp : p r = true
  · rw [if_pos hp]
    exact h r hr hp
  · rw [if_neg hp]
    exact .refl r

variable {w : HotelDb → HotelDb} {h : Trace}

theorem Placed.keepsStay {propertyId : Id} {pending : List Reservation} {offerable : List Room}
    {assigned : List (Id × Id)} (hp : Placed h propertyId pending offerable assigned w) :
    ∀ r' ∈ (w now).reservations, ∃ r ∈ now.reservations, KeepsStay r r' := by
  induction hp with
  | nil => exact fun r hr => ⟨r, hr, .refl r⟩
  | @snoc assigned w res room t e _ _ _ _ _ _ ih =>
    intro r' hr'
    have hstep : ∃ r₁ ∈ (w now).reservations, KeepsStay r₁ r' := by
      refine keepsStay_of_mem_update ?_ hr' fun r _ _ => ⟨rfl, rfl, rfl, rfl, rfl, fun ho => ho⟩
      exact fun _ => rfl
    obtain ⟨r₁, hr₁, hk₁⟩ := hstep
    obtain ⟨r, hr, hk⟩ := ih r₁ hr₁
    exact ⟨r, hr, hk.trans hk₁⟩

/-! ## One write -/

/-- What a call and its start have to satisfy. -/
abbrev Call.Restricted (c : Call) (now db : HotelDb) : Prop :=
  c.env.rates = true ∧ c.RulesHold now ∧ now = db

variable {checkIn checkOut : ℤ}

variable {rules : Option (List DayRules)} {propertyId roomTypeId id : Id}

theorem HasRoom.allowed {env : Env} (hv : ∀ l b, .saw l b ∈ h → b = now) (hwired : env.rates = true)
    (hc : HasRoom h propertyId roomTypeId checkIn checkOut (some id) rules)
    (hread : RulesRead h env propertyId roomTypeId checkIn checkOut rules) :
    StayAllowed now propertyId roomTypeId id checkIn checkOut := by
  have hfull := hc.notFull hv
  obtain ⟨b, hb, rfl⟩ := hread hwired
  obtain rfl := hv _ _ hb
  exact capacityVerdict_ok.mpr ⟨hc.1, hfull⟩

theorem typeStays_of_new {id : Id} (hkey : now.reservations.hasKey id = false)
    (propertyId roomTypeId : Id) (checkIn checkOut : ℤ) :
    typeStays propertyId roomTypeId checkIn checkOut (some id) now =
      typeStays propertyId roomTypeId checkIn checkOut none now := by
  unfold typeStays
  apply List.filter_congr
  intro r hr
  have hne : id ≠ r.id := Ne.symm (Table.hasKey_eq_false.mp hkey r hr)
  simp [occupyingOverlap, hne]

theorem HasRoom.allowed_new {env : Env} (hv : ∀ l b, .saw l b ∈ h → b = now)
    (hwired : env.rates = true) (hkey : now.reservations.hasKey id = false)
    (hc : HasRoom h propertyId roomTypeId checkIn checkOut none rules)
    (hread : RulesRead h env propertyId roomTypeId checkIn checkOut rules) :
    StayAllowed now propertyId roomTypeId id checkIn checkOut := by
  have hfull := hc.notFull hv
  obtain ⟨b, hb, rfl⟩ := hread hwired
  obtain rfl := hv _ _ hb
  rw [← typeStays_of_new hkey] at hfull
  exact capacityVerdict_ok.mpr ⟨hc.1, hfull⟩

variable {c : Call}

theorem RowCommit.allowed {id : Id} (hc : RowCommit c h id f)
    (hv : Quiet h → c.Restricted now db ∧ ∀ l b, .saw l b ∈ h → b = now) {r : Reservation}
    (hr : r ∈ now.reservations) (hid : r.id = id) (hfid : (f r).id = r.id)
    (hocc : (f r).occupies = true) :
    KeepsStay r (f r) ∨ (f r).HeldIn db ∨
      StayAllowed db (f r).propertyId (f r).roomTypeId (f r).id (f r).checkIn (f r).checkOut := by
  cases hc with
  | @confirmed before t hact hq hf ht hroom hcap =>
    obtain ⟨⟨-, hrules, rfl⟩, hreads⟩ := hv hq
    have hread := hf.current hreads
    obtain ⟨rfl, hprop, -⟩ := eq_of_reservationOf hread hr hid
    simp only [Call.RulesHold, hact, Option.mem_toList] at hrules
    have hallowed := hrules r hread ht (fun roomId hr => (hroom roomId hr).current hreads)
      (hcap.notFull hreads)
    rw [← hprop, ← hid] at hallowed
    exact .inr (.inr hallowed)
  | @updated before t dto total rules hq hf hm =>
    obtain ⟨⟨hwired, -, rfl⟩, hreads⟩ := hv hq
    obtain ⟨rfl, hprop, -⟩ := eq_of_reservationOf (hf.current hreads) hr hid
    simp only [rescheduled] at hfid hocc ⊢
    cases hmoving : dto.checkIn.isSome || dto.checkOut.isSome with
    | false =>
      -- the dates stay
      simp only [Bool.or_eq_false_iff, Option.isSome_eq_false_iff, Option.isNone_iff_eq_none]
        at hmoving
      rw [withDates_eq (by simpa [hmoving] using r.ordered)]
      exact .inl ⟨rfl, rfl, rfl, by simp [hmoving], by simp [hmoving], fun ho => ho⟩
    | true =>
      obtain ⟨-, hstatus, hordered, hchecked⟩ := hm hmoving
      rw [withDates_eq hordered] at hocc ⊢
      rcases hstatus with hpending | hconfirmed
      · simp [Reservation.occupies, OCCUPYING_STATUSES, applyPatch, hpending] at hocc
      · obtain ⟨-, hcap, hread⟩ := hchecked hconfirmed
        have hallowed := hcap.allowed hreads hwired hread
        rw [← hprop, ← hid] at hallowed
        exact .inr (.inr hallowed)
  | @extended dto before ratePaise total t hact hq hf hs hlater hroom hcap =>
    obtain ⟨⟨-, hrules, rfl⟩, hreads⟩ := hv hq
    have hread := hf.current hreads
    obtain ⟨rfl, hprop, -⟩ := eq_of_reservationOf hread hr hid
    simp only [rescheduled]
    rw [withDates_eq (r.ordered.trans hlater)]
    simp only [Call.RulesHold, hact, Option.mem_toList] at hrules
    have hallowed := hrules r hread hs hlater (fun roomId hr => (hroom roomId hr).current hreads)
      fun hnone => (hcap hnone).notFull hreads
    rw [← hprop, ← hid] at hallowed
    exact .inr (.inr hallowed)
  | moved hact hroomId hq hf hs hroom hready htype hclear =>
    obtain ⟨⟨-, -, rfl⟩, hreads⟩ := hv hq
    obtain ⟨rfl, hprop, hlive⟩ := eq_of_reservationOf (hf.current hreads) hr hid
    -- the guest is in house on these dates
    exact .inr (.inl ⟨r, hr, rfl, by simp [Reservation.occupies, OCCUPYING_STATUSES, hlive, hs],
      rfl, rfl⟩)
  | assigned hk hq hf hroom htype hclear => exact .inl ⟨rfl, rfl, rfl, rfl, rfl, fun ho => ho⟩
  | locked => exact .inl ⟨rfl, rfl, rfl, rfl, rfl, fun ho => ho⟩
  | paid => exact .inl ⟨rfl, rfl, rfl, rfl, rfl, fun ho => ho⟩
  | checkedIn hk hq hf ht hroom htype hclear =>
    obtain ⟨-, hreads⟩ := hv hq
    obtain ⟨rfl, -, hlive⟩ := eq_of_reservationOf (hf.current hreads) hr hid
    refine .inl ⟨rfl, rfl, rfl, rfl, rfl, fun _ => ?_⟩
    -- only a confirmed stay can be checked in
    cases hs : r.status <;>
      simp_all [canTransition, RESERVATION_TRANSITIONS, Reservation.occupies, OCCUPYING_STATUSES]
  | checkedOut hf ht => simp [Reservation.occupies, OCCUPYING_STATUSES] at hocc
  | cancelled hq hf ht => simp [Reservation.occupies, OCCUPYING_STATUSES] at hocc
  | noShow hq hf ht => simp [Reservation.occupies, OCCUPYING_STATUSES] at hocc

theorem Commit.newStaysAllowed (hc : Commit c h w)
    (hv : Quiet h → c.Restricted now db ∧ ∀ l b, .saw l b ∈ h → b = now)
    (hn : NewStaysAllowed db now) : NewStaysAllowed db (w now) := by
  cases hc with
  | @row id f w hrow hfid hdb =>
    obtain ⟨-, hsame | hrows⟩ := hdb now
    · exact hn.of_keeps fun r hr => ⟨r, hsame ▸ hr, .refl r⟩
    · intro r' hr' hocc
      rw [hrows] at hr'
      obtain ⟨r, hr, rfl⟩ := Table.mem_update.mp hr'
      by_cases hid : r.id = id
      · simp only [hid, decide_true, if_true] at hocc ⊢
        rcases hrow.allowed hv hr hid (hfid r) hocc with hk | hnew
        · exact hk.allowed (hn r hr (hk.occupies hocc))
        · exact hnew
      · simp only [hid, decide_false, Bool.false_eq_true, if_false] at hocc ⊢
        exact hn r hr hocc
  | other hdb => exact hn.of_keeps fun r hr => ⟨r, (hdb now).2 ▸ hr, .refl r⟩
  | @created row w rules hk hq hdb htype hroom hs =>
    obtain ⟨⟨hwired, -, rfl⟩, hreads⟩ := hv hq
    obtain ⟨-, hsame | hrows⟩ := hdb now
    · exact hn.of_keeps fun r hr => ⟨r, hsame ▸ hr, .refl r⟩
    · intro r hr hocc
      rw [hrows] at hr
      cases hkey : now.reservations.hasKey row.id with
      | true =>
        -- the insert changed nothing
        rw [Table.insert, dif_pos hkey] at hr
        exact hn r hr hocc
      | false =>
        rcases (mem_insert hkey).mp hr with hold | rfl
        · exact hn r hold hocc
        · rcases hs with hpending | ⟨-, -, hcap, hread⟩
          · simp [Reservation.occupies, OCCUPYING_STATUSES, hpending] at hocc
          · exact .inr (hcap.allowed_new hreads hwired hkey hread)
  | swapped t hk hq hne hfa hfb hra hrb htype hca hcb hdb =>
    refine hn.of_keeps fun r' hr' => ?_
    rw [(hdb now).2] at hr'
    obtain ⟨r₁, hr₁, rfl⟩ := Table.mem_update.mp hr'
    obtain ⟨r, hr, rfl⟩ := Table.mem_update.mp hr₁
    refine ⟨r, hr, ?_⟩
    split_ifs <;> exact ⟨rfl, rfl, rfl, rfl, rfl, fun ho => ho⟩
  | allocated hk hq hpend hoff hp => exact hn.of_keeps hp.keepsStay

/-! ## Calls that succeed -/

variable {before : Reservation}

/-- The check of a committed booking passes when the room is free and the type has room. -/
theorem eval_checkMovedBooking {propertyId id : Id} (hroom : ∀ roomId, before.roomId = some roomId →
      RoomProbe.Clear ⟨propertyId, roomId, checkIn, checkOut, some id, none⟩ (w db))
    (hcap : RoomLeft (w db) propertyId before.roomTypeId id checkIn checkOut) :
    (checkMovedBooking propertyId id before checkIn checkOut none).eval (.active w) db =
      (.ok (), .active w, db) := by
  have hverdict : capacityVerdict propertyId before.roomTypeId checkIn checkOut (some id) none
      (w db) = .ok () := capacityVerdict_ok.mpr ⟨by simp, hcap⟩
  simp only [checkMovedBooking, eval_bind]
  cases hr : before.roomId with
  | none => simp [hverdict]
  | some roomId => simp [hroom roomId hr, hverdict]

theorem eval_confirm (env : Env) (actorStaffId : Option Id) {propertyId reservationId : Id}
    (hread : reservationOf propertyId reservationId db = some before)
    (ht : canTransition before.status .CONFIRMED = true)
    (hroom : ∀ roomId, before.roomId = some roomId →
      RoomProbe.Clear
        ⟨propertyId, roomId, before.checkIn, before.checkOut, some reservationId, none⟩ db)
    (hcap : RoomLeft db propertyId before.roomTypeId reservationId before.checkIn
      before.checkOut) :
    ∃ a e, (confirm env propertyId reservationId actorStaffId).eval .idle db = (.ok a, .idle,
      (db.updateReservation reservationId fun r =>
        { r with status := .CONFIRMED, updatedAt := env.now }).recordEvent e) := by
  obtain ⟨hmem, hid, -, -⟩ := reservationOf_eq_some.mp hread
  have hfind : db.reservations.find? reservationId = some before :=
    Table.find?_eq_some.mpr ⟨hmem, hid⟩
  have hcheck : (checkMovedBooking propertyId reservationId before before.checkIn before.checkOut
      none).eval (.active id) db = (.ok (), .active id, db) := eval_checkMovedBooking hroom hcap
  simp only [confirm, assertTransition, updateReservation, recordEvent, eval_simps,
    eval_requireReservation, hread, Option.elim_some, ht, if_true, hcheck, id, hfind,
    Option.map_some, eval_hydrate]
  exact ⟨_, _, rfl⟩

theorem eval_extendStay (env : Env) (actorStaffId : Option Id) {propertyId reservationId : Id}
    {dto : ExtendStayDto} (hread : reservationOf propertyId reservationId db = some before)
    (hs : before.status = .CHECKED_IN ∨ before.status = .CONFIRMED)
    (hlater : before.checkOut < dto.checkOut) (hroom : ∀ roomId, before.roomId = some roomId →
      RoomProbe.Clear
        ⟨propertyId, roomId, before.checkIn, dto.checkOut, some reservationId, none⟩ db)
    (hcap : before.roomId = none →
      RoomLeft db propertyId before.roomTypeId reservationId before.checkIn dto.checkOut) :
    ∃ a e ratePaise totalPaise,
      (extendStay env propertyId reservationId dto actorStaffId).eval .idle db =
        (.ok a, .idle, (db.updateReservation reservationId
          (rescheduled (fun r => (r.checkIn, dto.checkOut)) fun r =>
            { r with ratePaise, totalPaise, updatedAt := env.now })
          (rescheduled_id fun _ => rfl)).recordEvent e) := by
  obtain ⟨hmem, hid, -, -⟩ := reservationOf_eq_some.mp hread
  have hfind : db.reservations.find? reservationId = some before :=
    Table.find?_eq_some.mpr ⟨hmem, hid⟩
  have hordered : before.checkIn < dto.checkOut := before.ordered.trans hlater
  have hcheck : (checkExtension propertyId reservationId before dto.checkOut).eval (.active id) db
      = (.ok (), .active id, db) := by
    cases hr : before.roomId with
    | some roomId => simp [checkExtension, hr, hroom roomId hr]
    | none =>
      have hverdict : capacityVerdict propertyId before.roomTypeId before.checkIn dto.checkOut
          (some reservationId) none db = .ok () := capacityVerdict_ok.mpr ⟨by simp, hcap hr⟩
      simp [checkExtension, hr, hverdict]
  have hstatus : ¬(before.status ≠ .CHECKED_IN ∧ before.status ≠ .CONFIRMED) := by
    rcases hs with hs | hs <;> simp [hs]
  have hdates : assertDateOrder before.checkIn dto.checkOut = .ok ⟨hordered⟩ := by
    simp [assertDateOrder, hordered]
  have hwrite := fun f hf => show HotelDb.rescheduleReservation db reservationId
      (fun r => (r.checkIn, dto.checkOut)) f hf = .ok _ by
    rw [HotelDb.rescheduleReservation, if_pos (by simp [hfind, hordered])]
  simp only [extendStay, rescheduleReservation, recordEvent, eval_simps, eval_requireReservation,
    hread, Option.elim_some, hstatus, if_false, not_le.mpr hlater, hdates, hcheck,
    Prog.eval_writeChecked_active, hwrite, id, hfind, Option.map_some, eval_hydrate, applied,
    Function.comp_apply]
  exact ⟨_, _, _, _, rfl⟩

theorem NewStaysAllowed.changed {propertyId id : Id} {hf : ∀ r, (f r).id = r.id}
    {e : ReservationEvent} (hn : NewStaysAllowed db ((db.updateReservation id f hf).recordEvent e))
    (hread : reservationOf propertyId id db = some before) (hocc : (f before).occupies = true)
    (hnew : before.occupies = true → (f before).checkOut ≠ before.checkOut) :
    StayAllowed db (f before).propertyId (f before).roomTypeId id (f before).checkIn
      (f before).checkOut := by
  obtain ⟨hmem, hid, -, -⟩ := reservationOf_eq_some.mp hread
  have hrow : f before ∈ ((db.updateReservation id f hf).recordEvent e).reservations :=
    mem_update_of_mem hf hmem (by simp [hid])
  rcases hn _ hrow hocc with ⟨r₀, hr₀, hid₀, hocc₀, -, hout₀⟩ | hallowed
  · -- the only row with this id is the one that was read
    obtain rfl := eq_of_key_eq hr₀ hmem (hid₀.trans (hf before))
    exact absurd hout₀.symm (hnew hocc₀)
  · rwa [hf before, hid] at hallowed

/-! ## The exact condition -/

/-- A call whose confirmation or extension is allowed leaves no new stay that is not. -/
theorem Call.newStaysAllowed (hwired : c.env.rates = true) (hrules : c.RulesHold db)
    (φ : ℕ → Option String) : NewStaysAllowed db (c.prog.runWith φ db).db := by
  have hstart : NewStaysAllowed db db := fun r hr hocc => .inl ⟨r, hr, rfl, hocc, rfl, rfl⟩
  have hstep : ∀ (c : Call) h w now, Commit c h w →
      (Quiet h → c.Restricted now db ∧ ∀ l b, .saw l b ∈ h → b = now) →
      NewStaysAllowed db now → NewStaysAllowed db (w now) :=
    fun c h w now hw hv hn => hw.newStaysAllowed hv hn
  exact runCalls_invariant hstep [(c, φ)] db ⟨⟨hwired, hrules, rfl⟩, trivial⟩ hstart

/-- A call that leaves no new stay that breaks a restriction finds the stays it checks without
the rules allowed. -/
theorem Call.ObeysRules.rulesHold (h : c.ObeysRules db) : c.RulesHold db := by
  obtain ⟨env, propertyId, actorStaffId, action⟩ := c
  have hrun := h noFaults
  rw [show ∀ p : Op Unit, p.runWith noFaults db = p.run db from fun _ => rfl] at hrun
  rw [Prog.run_res, Prog.run_db] at hrun
  cases action with
  | confirm id =>
    intro before hread ht hroom hcap
    simp only [Option.mem_toList] at hread hroom
    obtain ⟨a, e, heval⟩ := eval_confirm env actorStaffId hread ht hroom hcap
    simp only [Call.prog, eval_simps, heval, true_implies] at hrun
    obtain ⟨-, -, hprop, hlive⟩ := reservationOf_eq_some.mp hread
    have hpending : before.occupies = false := by
      cases hs : before.status <;>
        simp_all [canTransition, RESERVATION_TRANSITIONS, Reservation.occupies, OCCUPYING_STATUSES]
    have hallowed := hrun.changed hread
      (by simp [Reservation.occupies, OCCUPYING_STATUSES, hlive])
      fun hocc => by simp [hpending] at hocc
    rwa [hprop] at hallowed
  | extendStay id dto =>
    intro before hread hs hlater hroom hcap
    simp only [Option.mem_toList] at hread hroom
    obtain ⟨a, e, rate, total, heval⟩ :=
      eval_extendStay env actorStaffId hread hs hlater hroom hcap
    simp only [Call.prog, eval_simps, heval, true_implies] at hrun
    obtain ⟨-, -, hprop, hlive⟩ := reservationOf_eq_some.mp hread
    have hallowed := hrun.changed hread
    simp only [rescheduled,
      withDates_eq (before.ordered.trans hlater)] at hallowed
    rw [hprop] at hallowed
    refine hallowed ?_ fun _ => hlater.ne'
    rcases hs with hs | hs <;> simp [Reservation.occupies, OCCUPYING_STATUSES, hlive, hs]
  | _ => trivial

/-- A call leaves only new stays that obey the daily rules exactly when its confirmation or
extension, if it is one and passes its own checks, obeys them. -/
theorem call_obeysRules_iff {c : Call} (hwired : c.env.rates = true) :
    c.ObeysRules db ↔ c.RulesHold db := by
  constructor
  · intro h
    exact h.rulesHold
  · intro hrules φ _
    exact Call.newStaysAllowed hwired hrules φ

/-- One room of the type, one enquiry for night 10, and the daily rules `days`. -/
def enquiryDb (days : List RateInventoryDay) : HotelDb :=
  { oneRoomDb with
    rateInventoryDays := days.foldl Table.insert ∅
    reservations := (∅ : Table Reservation.id).insert
      { id := 1, propertyId := 1, roomTypeId := 7, roomId := none, reservationNumber := 1,
        guest := { guestName := "Guest", guestPhone := "0" }, checkIn := 10, checkOut := 11,
        ordered := oneNight_ordered, status := .PENDING, ratePaise := 100000, totalPaise := 100000 } }

def confirmCall (id : Id) : Call where
  env := { now := 0 }
  propertyId := 1
  action := .confirm id

/-- Night 10 closed for sale. -/
def closedNight : RateInventoryDay :=
  { propertyId := 1, roomTypeId := 7, ratePlanId := none, date := 10, stopSell := true }

/-- The enquiry is confirmed for a night that is closed for sale. -/
theorem confirm_ignores_stopSell :
    ((confirmCall 1).prog.run (enquiryDb [closedNight])).res = .ok () ∧
      ¬NewStaysAllowed (enquiryDb [closedNight])
        ((confirmCall 1).prog.run (enquiryDb [closedNight])).db := by
  constructor <;> decide

/-- Open nights can be confirmed under the rules, a closed one cannot. -/
theorem confirm_obeysRules :
    (confirmCall 1).ObeysRules (enquiryDb []) ∧
      ¬(confirmCall 1).ObeysRules (enquiryDb [closedNight]) :=
  ⟨(call_obeysRules_iff rfl).mpr (by decide),
    fun h => absurd ((call_obeysRules_iff rfl).mp h) (by decide)⟩

end Travelo

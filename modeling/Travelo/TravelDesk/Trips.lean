import Travelo.Claims.Machine
import Travelo.ReadCommitted.Guarded
import Travelo.ReadCommitted.Solo
import Travelo.TravelDesk

/-!
# The two machines of a trip

The desk may set any status its table allows, ASSIGNED and IN_PROGRESS among them, which leaves
the driver and the stage as they are; and every write is by id alone. `machines_coupled`: the two
machines stay coupled while the desk sets neither, and every step follows the tables while a write
finds the columns it sets as its call has read them.
-/

namespace Travelo.TravelDesk

open ReadCommitted TransportService
open TripCall (prog)

/-! ## One call -/

/-- The first state a call has read. -/
def firstRead (h : DeskTrace) : DeskDb := (statesRead h).headD {}

/-- A call has read the request in `b`, and nothing before it. -/
structure ReadFirst (id : Id) (h : DeskTrace) (b : DeskDb) : Prop where
  first : firstRead h = b
  saw : .saw (.request id) b ∈ h

/-- What a call writes, and what it has read before. -/
inductive TripWrite : TripCall → DeskTrace → (DeskDb → DeskDb) → Prop where
  | created {propertyId dto createdBy now h} :
    TripWrite (.create propertyId dto createdBy now) h (insertRequest propertyId dto createdBy now)
  | edited {propertyId id dto now h} :
    TripWrite (.update propertyId id dto now) h (setRequest id (edited dto now) fun _ => rfl)
  | assigned {propertyId id driverStaffId vehicleId now h b s r d} (hb : ReadFirst id h b)
    (hread : requestOf propertyId id b = some r) (hstatus : r.status = .REQUESTED)
    (hs : .saw (.staff driverStaffId) s ∈ h) (hstaff : d ∈ s.hotelStaff)
    (hid : d.id = driverStaffId) (hprop : d.propertyId = propertyId) :
    TripWrite (.assign propertyId id driverStaffId vehicleId now) h
      (setRequest id (assigned driverStaffId vehicleId now) fun _ => rfl)
  | moved {propertyId id target now h b r} (hb : ReadFirst id h b)
    (hread : requestOf propertyId id b = some r)
    (hcan : canTransitionTransport r.status target = true) :
    TripWrite (.setStatus propertyId id target now) h
      (setRequest id (TransportService.moved target now) (moved_id target now))
  | stepped {propertyId driverStaffId id driverStep now h b r patch} (hb : ReadFirst id h b)
    (hread : tripOf propertyId driverStaffId id b = some r)
    (hpatch : stepPatch r driverStep = .ok patch) :
    TripWrite (.step propertyId driverStaffId id driverStep now) h
      (setRequest id (stepped patch now) fun _ => rfl)
  | removed {propertyId id now h} :
    TripWrite (.remove propertyId id now) h (setRequest id (removed now) fun _ => rfl)

section Reading

variable {propertyId driverStaffId id : Id} {db : DeskDb} {r : TransportRequest}

theorem requestOf_some (h : requestOf propertyId id db = some r) :
    r ∈ db.transportRequests ∧ r.id = id ∧ r.propertyId = propertyId := by
  unfold requestOf at h
  rw [Option.filter_eq_some_iff] at h
  rcases h with ⟨hfind, hcond⟩
  rcases Table.find?_eq_some.mp hfind with ⟨hmem, hid⟩
  simp only [and_decide_eq] at hcond
  exact ⟨hmem, hid, hcond.1⟩

theorem tripOf_some (h : tripOf propertyId driverStaffId id db = some r) :
    requestOf propertyId id db = some r ∧ r.driverStaffId = some driverStaffId := by
  unfold tripOf at h
  rw [Option.filter_eq_some_iff] at h
  exact ⟨h.1, of_decide_eq_true h.2⟩

theorem readOnly_hydrate (r : TransportRequest) : (hydrate r).ReadOnly := by
  unfold hydrate
  refine .bind ?_ fun driverName => .bind ?_ fun vehicleName => .ret _
  · unfold driverNameOf
    cases r.driverStaffId with
    | none => exact .ret _
    | some staffId => exact .select _ _
  · unfold vehicleNameOf
    cases r.vehicleId with
    | none => exact .ret _
    | some vehicleId => exact .select _ _

theorem readOnly_requireRequest (propertyId id : Id) : (requireRequest propertyId id).ReadOnly :=
  .bind (.select _ _) fun _ => .orThrow _ _

theorem readOnly_reread (propertyId id : Id) (before : TransportRequest) :
    (do let after ← requireRequest propertyId id
        let dto ← hydrate after
        return ({ row := before }, dto) : DeskOp TransportService.Change).ReadOnly :=
  .bind (readOnly_requireRequest propertyId id) fun after =>
    .bind (readOnly_hydrate after) fun _ => .ret _

theorem readOnly_assertVehicle (propertyId : Id) (vehicleId : Option Id) :
    (assertVehicleInProperty propertyId vehicleId).ReadOnly := by
  unfold assertVehicleInProperty
  cases vehicleId with
  | none => exact .ret _
  | some vehicleId => exact .bind (.select _ _) fun _ => .ite _ (.throw _) (.ret _)

theorem staffOf_some {db : DeskDb} {d : Staff} {staffId : Id}
    (h : (db.hotelStaff.find? staffId).filter
      (fun s => s.propertyId = propertyId && s.deletedAt.isNone) = some d) :
    d ∈ db.hotelStaff ∧ d.id = staffId ∧ d.propertyId = propertyId := by
  rw [Option.filter_eq_some_iff] at h
  rcases h with ⟨hfind, hcond⟩
  rcases Table.find?_eq_some.mp hfind with ⟨hmem, hid⟩
  simp only [and_decide_eq] at hcond
  exact ⟨hmem, hid, hcond.1⟩

theorem assertTransportTransition_ok {source target : TransportStatus} :
    assertTransportTransition source target = .ok () ↔
      canTransitionTransport source target = true := by
  unfold assertTransportTransition
  split <;> simp_all

end Reading

section Publishing

variable {C : DeskTrace → (DeskDb → DeskDb) → Prop} {h : DeskTrace} {α : Type}

theorem publishes_require {propertyId id : Id} {k : TransportRequest → DeskOp α}
    (hk : ∀ b r, requestOf propertyId id b = some r →
      (k r).Publishes C (.saw (.request id) b :: h)) :
    (requireRequest propertyId id >>= k).Publishes C h := by
  unfold Prog.Publishes requireRequest
  simp only [wp_simps]
  exact hk

theorem publishes_lift {x : Except TransportErr Unit} {k : Unit → DeskOp α}
    (hk : x = .ok () → (k ()).Publishes C h) : (lift x >>= k).Publishes C h := by
  unfold Prog.Publishes
  simp only [wp_simps]
  exact fun _ => hk

theorem publishes_change {propertyId id : Id} {before : TransportRequest}
    {patch : TransportRequest → TransportRequest} {hkey : ∀ r, (patch r).id = r.id}
    (hw : C h (setRequest id patch hkey)) :
    (change propertyId id before patch hkey).Publishes C h := by
  unfold change Prog.Publishes
  rw [wp_bind, wp_write_idle]
  refine ⟨hw, fun _ => ?_, fun _ => trivial⟩
  exact Prog.Publishes.of_readOnly (readOnly_reread propertyId id before)

end Publishing

/-- The writes of a call, of which it makes one. -/
def TripWrites (call : TripCall) (h : DeskTrace) (w : DeskDb → DeskDb) : Prop :=
  TripWrite call h w ∧ Quiet h

theorem publishes_assign (propertyId id driverStaffId : Id) (vehicleId : Option Id) (now : ℤ) :
    (assign propertyId id driverStaffId vehicleId now).Publishes
      (TripWrites (.assign propertyId id driverStaffId vehicleId now)) [] := by
  unfold assign
  refine publishes_require fun b r hread => ?_
  unfold Prog.Publishes
  simp only [wp_simps]
  intro _ _ hcan
  have hstatus : r.status = .REQUESTED := by
    have hcan := assertTransportTransition_ok.mp hcan
    cases hs : r.status <;> simp [hs, canTransitionTransport, TRANSPORT_TRANSITIONS] at hcan ⊢
  unfold assertStaffInProperty
  simp only [wp_simps]
  intro s hfound
  rcases Option.ne_none_iff_exists'.mp (mt Option.isNone_iff_eq_none.mpr hfound) with ⟨d, hd⟩
  rcases staffOf_some hd with ⟨hmem, hid, hprop⟩
  -- the vehicle is read in between, or not
  refine (readOnly_assertVehicle propertyId vehicleId).wp_idle _ (fun _ o ho => ?_)
    fun _ _ _ => trivial
  have hfirst : firstRead (o ++ [.saw (.staff driverStaffId) s, .saw (.request id) b]) = b := by
    unfold firstRead
    rw [statesRead_append]
    rfl
  have hquiet : Quiet (o ++ [.saw (.staff driverStaffId) s, .saw (.request id) b]) :=
    quiet_append.mpr ⟨ho, trivial⟩
  refine publishes_change ⟨?_, hquiet⟩
  exact .assigned ⟨hfirst, by simp⟩ hread hstatus (by simp) hmem hid hprop

theorem publishes_step (propertyId driverStaffId id : Id) (driverStep : DriverStep) (now : ℤ) :
    (step propertyId driverStaffId id driverStep now).Publishes
      (TripWrites (.step propertyId driverStaffId id driverStep now)) [] := by
  unfold step
  refine Prog.Publishes.transaction ?_
  unfold requireMyTrip
  simp only [wp_simps, forall_const]
  intro b r hread patch hpatch b' r' _ w hw
  cases hw
  exact ⟨.stepped (b := b) ⟨rfl, by simp⟩ hread hpatch, trivial⟩

theorem TripCall.publishes_prog (call : TripCall) :
    call.prog.Publishes (TripWrites call) [] := by
  cases call with
  | create propertyId dto createdBy now =>
    refine Prog.Publishes.discard ?_
    unfold TransportService.create Prog.Publishes
    rw [wp_bind, wp_write_idle]
    refine ⟨⟨.created, trivial⟩, fun _ => ?_, fun _ => trivial⟩
    exact Prog.Publishes.of_readOnly (readOnly_hydrate _)
  | update propertyId id dto now =>
    refine Prog.Publishes.discard ?_
    unfold TransportService.update
    exact publishes_require fun b r _ => publishes_change ⟨.edited, trivial⟩
  | assign propertyId id driverStaffId vehicleId now =>
    exact (publishes_assign propertyId id driverStaffId vehicleId now).discard
  | setStatus propertyId id target now =>
    refine Prog.Publishes.discard ?_
    unfold TransportService.setStatus
    refine publishes_require fun b r hread => publishes_lift fun hcan => ?_
    have hcan := assertTransportTransition_ok.mp hcan
    exact publishes_change ⟨.moved (b := b) ⟨rfl, by simp⟩ hread hcan, trivial⟩
  | step propertyId driverStaffId id driverStep now =>
    exact (publishes_step propertyId driverStaffId id driverStep now).discard
  | remove propertyId id now =>
    refine Prog.Publishes.discard ?_
    unfold TransportService.remove
    refine publishes_require fun b r _ => ?_
    unfold Prog.Publishes
    rw [wp_bind, wp_write_idle]
    exact ⟨⟨.removed, trivial⟩, fun _ => rfl, fun _ => trivial⟩

/-! ## The tables -/

/-- The same request later: its status and its stage follow the tables, unless it is unassigned,
and a closed request stays as it is. -/
@[mk_iff] structure Walks (r r' : TransportRequest) : Prop where
  follows : r'.status = r.status ∨ canTransitionTransport r.status r'.status = true
  final : r.status = .COMPLETED ∨ r.status = .CANCELLED → r'.status = r.status
  stage : r'.driverStage = r.driverStage ∨
    (∃ stage ∈ r'.driverStage, canTransitionDriverStage r.driverStage stage = true) ∨
      (r'.status = .REQUESTED ∧ r'.driverStaffId = none ∧ r'.driverStage = none)

/-- Every request walks. -/
def TripsWalk (db db' : DeskDb) : Prop :=
  ∀ r ∈ db.transportRequests, ∃ r' ∈ db'.transportRequests, r'.id = r.id ∧ Walks r r'

/-- The request has the status in `now` that it had in `b`. -/
def SameStatus (id : Id) (b now : DeskDb) : Prop :=
  ∀ r ∈ b.transportRequests.find? id, ∀ r' ∈ now.transportRequests.find? id,
    r'.status = r.status

/-- It has the stage that it had. -/
def SameStage (id : Id) (b now : DeskDb) : Prop :=
  ∀ r ∈ b.transportRequests.find? id, ∀ r' ∈ now.transportRequests.find? id,
    r'.driverStage = r.driverStage

instance (id : Id) (b now : DeskDb) : Decidable (SameStatus id b now) :=
  inferInstanceAs (Decidable (∀ _ ∈ _, _))

instance (id : Id) (b now : DeskDb) : Decidable (SameStage id b now) :=
  inferInstanceAs (Decidable (∀ _ ∈ _, _))

/-- Of the status and the stage, those that the call sets are what they were as it read them. -/
def StillAsRead : TripCall → (DeskDb → DeskDb) → DeskTrace → DeskDb → Prop
  | .assign _ id _ _ _, _, h, now => SameStatus id (firstRead h) now
  | .setStatus _ id _ _, _, h, now => SameStatus id (firstRead h) now
  | .step _ _ id .accept _, _, h, now =>
    SameStatus id (firstRead h) now ∧ SameStage id (firstRead h) now
  | .step _ _ id .complete _, _, h, now => SameStatus id (firstRead h) now
  | .step _ _ id _ _, _, h, now => SameStage id (firstRead h) now
  | _, _, _, _ => True

instance : ∀ call w h now, Decidable (StillAsRead call w h now) := by
  intro call w h now
  unfold StillAsRead
  split <;> infer_instance

section Walking

variable {r r' : TransportRequest} {now : ℤ} {db : DeskDb} {id : Id}

theorem walks_of_same (hstatus : r'.status = r.status) (hstage : r'.driverStage = r.driverStage) :
    Walks r r' :=
  ⟨.inl hstatus, fun _ => hstatus, .inl hstage⟩

theorem walks_refl (r : TransportRequest) : Walks r r := walks_of_same rfl rfl

theorem walks_of_follows (hcan : canTransitionTransport r.status r'.status = true)
    (hstage : r'.driverStage = r.driverStage ∨
      (∃ stage ∈ r'.driverStage, canTransitionDriverStage r.driverStage stage = true) ∨
        (r'.status = .REQUESTED ∧ r'.driverStaffId = none ∧ r'.driverStage = none)) :
    Walks r r' := by
  refine ⟨.inr hcan, fun hfinal => ?_, hstage⟩
  -- nothing leads out of a closed request
  rcases hfinal with hs | hs <;> simp [hs, canTransitionTransport, TRANSPORT_TRANSITIONS] at hcan

theorem tripsWalk_refl (db : DeskDb) : TripsWalk db db := fun r hr => ⟨r, hr, rfl, walks_refl r⟩

theorem tripsWalk_set {patch : TransportRequest → TransportRequest}
    {hkey : ∀ r, (patch r).id = r.id}
    (hwalk : ∀ r ∈ db.transportRequests.find? id, Walks r (patch r)) :
    TripsWalk db (setRequest id patch hkey db) := by
  intro r hr
  have hmem : (if r.id = id then patch r else r) ∈
      (setRequest id patch hkey db).transportRequests :=
    List.mem_map.mpr ⟨r, hr, by simp⟩
  by_cases hid : r.id = id
  · rw [if_pos hid] at hmem
    exact ⟨patch r, hmem, hkey r, hwalk r (Table.find?_eq_some.mpr ⟨hr, hid⟩)⟩
  · rw [if_neg hid] at hmem
    exact ⟨r, hmem, rfl, walks_refl r⟩

theorem walks_assigned {driverStaffId : Id} {vehicleId : Option Id}
    (hstatus : r.status = .REQUESTED) : Walks r (assigned driverStaffId vehicleId now r) := by
  refine walks_of_follows ?_ (.inl rfl)
  rw [hstatus]
  rfl

theorem walks_moved {target : TransportStatus}
    (hcan : canTransitionTransport r.status target = true) :
    Walks r (TransportService.moved target now r) := by
  by_cases htarget : target = .REQUESTED
  · have hmoved : TransportService.moved target now r = { r with
        status := target, updatedAt := now, driverStaffId := none, vehicleId := none,
        driverStage := none } := if_pos htarget
    rw [hmoved]
    exact walks_of_follows hcan (.inr (.inr ⟨htarget, rfl, rfl⟩))
  · have hmoved : TransportService.moved target now r =
        { r with status := target, updatedAt := now } := if_neg htarget
    rw [hmoved]
    exact walks_of_follows hcan (.inl rfl)

theorem stepPatch_ok {driverStep : DriverStep} {patch : StepPatch}
    (h : stepPatch r driverStep = .ok patch) :
    (driverStep = .accept ∧ r.status = .ASSIGNED ∧ r.driverStage = none ∧
        patch = { status := some .IN_PROGRESS, driverStage := some .ACCEPTED }) ∨
      (driverStep = .complete ∧ r.status = .IN_PROGRESS ∧ r.driverStage = some .PICKED_UP ∧
        patch = { status := some .COMPLETED }) ∨
      (driverStep ≠ .accept ∧ driverStep ≠ .complete ∧ r.status = .IN_PROGRESS ∧
        ∃ stage, canTransitionDriverStage r.driverStage stage = true ∧
          patch = { driverStage := some stage }) := by
  have hmiddle : ∀ stage, stepPatch.middle r stage = .ok patch → r.status = .IN_PROGRESS ∧
      canTransitionDriverStage r.driverStage stage = true ∧
        patch = { driverStage := some stage } := by
    intro stage hm
    unfold stepPatch.middle assertDriverStage at hm
    by_cases hs : r.status = .IN_PROGRESS
    · by_cases hc : canTransitionDriverStage r.driverStage stage = true
      · simp only [hs, hc, ne_eq, not_true_eq_false, if_false, if_true] at hm
        exact ⟨hs, hc, (Except.ok.inj hm).symm⟩
      · simp only [hs, hc, ne_eq, not_true_eq_false, if_false] at hm
        cases hm
    · simp only [hs, ne_eq, not_false_eq_true, if_true] at hm
      cases hm
  cases driverStep with
  | accept =>
    left
    unfold stepPatch assertTransportTransition assertDriverStage at h
    cases hs : r.status <;>
      simp [hs, canTransitionTransport, TRANSPORT_TRANSITIONS, bind, Except.bind] at h
    cases hd : r.driverStage with
    | none =>
      simp [hd, canTransitionDriverStage, pure, Except.pure] at h
      exact ⟨rfl, rfl, rfl, h.symm⟩
    | some stage =>
      cases stage <;>
        simp [hd, canTransitionDriverStage, DRIVER_STAGE_TRANSITIONS] at h
  | complete =>
    right
    left
    unfold stepPatch assertTransportTransition at h
    cases hs : r.status <;>
      simp [hs, canTransitionTransport, TRANSPORT_TRANSITIONS, bind, Except.bind] at h
    by_cases hd : r.driverStage = some .PICKED_UP
    · simp [hd, pure, Except.pure] at h
      exact ⟨rfl, rfl, hd, h.symm⟩
    · simp [hd, throw, throwThe, MonadExceptOf.throw] at h
  | onTheWay =>
    have hm := hmiddle .EN_ROUTE h
    exact .inr (.inr ⟨by decide, by decide, hm.1, _, hm.2⟩)
  | arrived =>
    have hm := hmiddle .ARRIVED h
    exact .inr (.inr ⟨by decide, by decide, hm.1, _, hm.2⟩)
  | pickedUp =>
    have hm := hmiddle .PICKED_UP h
    exact .inr (.inr ⟨by decide, by decide, hm.1, _, hm.2⟩)

end Walking

variable {r r' : TransportRequest}

theorem sameStatus_row {b now : DeskDb} {propertyId id : Id} (h : SameStatus id b now)
    (hread : requestOf propertyId id b = some r) (hr' : r' ∈ now.transportRequests.find? id) :
    r'.status = r.status := by
  rcases requestOf_some hread with ⟨hmem, hid, -⟩
  exact h r (Table.find?_eq_some.mpr ⟨hmem, hid⟩) r' hr'

theorem sameStage_row {b now : DeskDb} {propertyId id : Id} (h : SameStage id b now)
    (hread : requestOf propertyId id b = some r) (hr' : r' ∈ now.transportRequests.find? id) :
    r'.driverStage = r.driverStage := by
  rcases requestOf_some hread with ⟨hmem, hid, -⟩
  exact h r (Table.find?_eq_some.mpr ⟨hmem, hid⟩) r' hr'

theorem walks_stepped {propertyId driverStaffId id : Id} {driverStep : DriverStep} {at' : ℤ}
    {w : DeskDb → DeskDb} {h : DeskTrace} {now : DeskDb} {patch : StepPatch}
    (hread : tripOf propertyId driverStaffId id (firstRead h) = some r)
    (hpatch : stepPatch r driverStep = .ok patch)
    (hstill : StillAsRead (.step propertyId driverStaffId id driverStep at') w h now)
    (hr' : r' ∈ now.transportRequests.find? id) : Walks r' (stepped patch at' r') := by
  have hrequest := (tripOf_some hread).1
  rcases stepPatch_ok hpatch with ⟨rfl, hstatus, hstage, rfl⟩ | ⟨rfl, hstatus, -, rfl⟩ |
    ⟨hno, hno', -, stage, hcan, rfl⟩
  · -- accept: both machines move
    have hs := (sameStatus_row hstill.1 hrequest hr').trans hstatus
    have hd := (sameStage_row hstill.2 hrequest hr').trans hstage
    refine walks_of_follows ?_ (.inr (.inl ⟨.ACCEPTED, rfl, ?_⟩))
    · rw [hs]
      rfl
    · rw [hd]
      rfl
  · -- complete: the status moves
    have hs := (sameStatus_row hstill hrequest hr').trans hstatus
    refine walks_of_follows ?_ (.inl rfl)
    rw [hs]
    rfl
  · -- the steps between: the stage moves
    have hsame : SameStage id (firstRead h) now := by
      cases driverStep with
      | accept => exact absurd rfl hno
      | complete => exact absurd rfl hno'
      | onTheWay => exact hstill
      | arrived => exact hstill
      | pickedUp => exact hstill
    have hd := sameStage_row hsame hrequest hr'
    exact ⟨.inl rfl, fun _ => rfl, .inr (.inl ⟨stage, rfl, hd ▸ hcan⟩)⟩

theorem TripWrite.walks {call : TripCall} {h : DeskTrace} {now : DeskDb} {w : DeskDb → DeskDb}
    (hw : TripWrite call h w) (hstill : StillAsRead call w h now) :
    TripsWalk now (w now) := by
  cases hw with
  | created =>
    intro r hr
    exact ⟨r, mem_insert_of_mem hr, rfl, walks_refl r⟩
  | edited => exact tripsWalk_set fun r _ => walks_of_same rfl rfl
  | assigned hb hread hstatus hs hstaff hid hprop =>
    rcases hb with ⟨rfl, -⟩
    refine tripsWalk_set fun r' hr' => walks_assigned ?_
    exact (sameStatus_row hstill hread hr').trans hstatus
  | moved hb hread hcan =>
    rcases hb with ⟨rfl, -⟩
    refine tripsWalk_set fun r' hr' => walks_moved ?_
    rw [sameStatus_row hstill hread hr']
    exact hcan
  | stepped hb hread hpatch =>
    rcases hb with ⟨rfl, -⟩
    exact tripsWalk_set fun r' hr' => walks_stepped hread hpatch hstill hr'
  | removed => exact tripsWalk_set fun r _ => walks_of_same rfl rfl

/-- Every step of a run follows the tables, while each write finds the columns it sets as they
were read. -/
theorem steps_walk (db : DeskDb) (calls : List TripCall) (evs : List Event)
    (hstill : (Config.start db (calls.map prog)).Throughout
      (GuardedCalls calls StillAsRead) evs) :
    (Config.start db (calls.map prog)).EveryStep TripsWalk evs := by
  have hsteps := Config.calls_steps (I := fun _ => True) (R := TripsWalk)
    (fun call => call.publishes_prog.writesUnder) tripsWalk_refl
    (fun call h w now hw _ hguard _ => ⟨trivial, hw.1.walks hguard⟩)
    trivial evs hstill
  exact hsteps.mono fun _ _ h => h.2

/-! ## Calls one after another -/

/-- The two machines agree. -/
@[mk_iff] structure Coupled (db : DeskDb) (r : TransportRequest) : Prop where
  requested : r.status = .REQUESTED →
    r.driverStaffId = none ∧ r.vehicleId = none ∧ r.driverStage = none
  assigned : r.status = .ASSIGNED → r.driverStage = none ∧
    ∃ d ∈ db.hotelStaff, r.driverStaffId = some d.id ∧ d.propertyId = r.propertyId
  inProgress : r.status = .IN_PROGRESS → r.driverStaffId ≠ none ∧ r.driverStage ≠ none

/-- The tables, and the requests that a driver has completed. -/
structure Desk where
  db : DeskDb
  driven : List Id := []

/-- The request that a call has completed for its driver. -/
def completedBy (call : TripCall) (db db' : DeskDb) : List Id :=
  match call with
  | .step _ _ id _ _ =>
    if (db'.transportRequests.find? id).map (·.status) = some .COMPLETED ∧
        (db.transportRequests.find? id).map (·.status) ≠ some .COMPLETED then [id]
    else []
  | _ => []

/-- A call from its start to its end, with the statements that fail in it. -/
def Desk.call (s : Desk) (e : TripCall × (ℕ → Option String)) : Option Desk :=
  let db := (e.1.prog.runWith e.2 s.db).db
  some { db, driven := s.driven ++ completedBy e.1 s.db db }

/-- The machines of every request agree, and a trip that a driver has completed is COMPLETED with
the guest picked up. -/
@[mk_iff] structure Desk.AllCoupled (s : Desk) : Prop where
  rows : ∀ r ∈ s.db.transportRequests, Coupled s.db r
  driven : ∀ id ∈ s.driven, ∃ r ∈ s.db.transportRequests, r.id = id ∧ r.status = .COMPLETED ∧
    r.driverStage = some .PICKED_UP

/-- The desk does not move a request to ASSIGNED, nor an assigned one to IN_PROGRESS. -/
def NotForcedByDesk (s : Desk) (e : TripCall × (ℕ → Option String)) : Prop :=
  match e.1 with
  | .setStatus propertyId id target _ => ∀ r ∈ requestOf propertyId id s.db,
      ¬(r.status = .REQUESTED ∧ target = .ASSIGNED) ∧
        ¬(r.status = .ASSIGNED ∧ target = .IN_PROGRESS)
  | _ => True

instance : ∀ s e, Decidable (NotForcedByDesk s e) := by
  intro s e
  unfold NotForcedByDesk
  split <;> infer_instance

section Sequential

variable {db : DeskDb} {id : Id} {r : TransportRequest}

/-- What a call leaves when nobody else writes: the state it found, or its write on it. -/
theorem TripCall.run_cases (call : TripCall) (φ : ℕ → Option String) (db : DeskDb) :
    (call.prog.runWith φ db).db = db ∨ ∃ h w, TripWrite call h w ∧
      (∀ l b, .saw l b ∈ h → b = db) ∧ (call.prog.runWith φ db).db = w db := by
  have hwrites : call.prog.WritesUnder (TripWrites call) := call.publishes_prog.writesUnder
  rcases wp_runWith hwrites φ db with ⟨htrail, hjust, -, -⟩
  refine htrail.invariant (I := fun s => s = db ∨ ∃ h w, TripWrite call h w ∧
    (∀ l b, .saw l b ∈ h → b = db) ∧ s = w db) hjust ?_ (.inl rfl)
  intro h w now hw ht _ _
  rcases ht.quiet hw.2 with ⟨rfl, hsaw⟩
  exact .inr ⟨h, w, hw.1, hsaw, rfl⟩

variable {patch : TransportRequest → TransportRequest} {hkey : ∀ r, (patch r).id = r.id}

theorem mem_setRequest
    :
    r ∈ (setRequest id patch hkey db).transportRequests ↔
      ∃ r₀ ∈ db.transportRequests, r = if r₀.id = id then patch r₀ else r₀ := by
  show r ∈ db.transportRequests.update (fun r => r.id = id) patch hkey ↔ _
  rw [mem_update]
  simp

theorem Coupled.same {r' : TransportRequest} (h : Coupled db r) (hstatus : r'.status = r.status)
    (hstage : r'.driverStage = r.driverStage) (hdriver : r'.driverStaffId = r.driverStaffId)
    (hvehicle : r'.vehicleId = r.vehicleId) (hprop : r'.propertyId = r.propertyId) :
    Coupled db r' := by
  constructor
  · rw [hstatus, hstage, hdriver, hvehicle]
    exact h.requested
  · rw [hstatus, hstage, hdriver, hprop]
    exact h.assigned
  · rw [hstatus, hstage, hdriver]
    exact h.inProgress

theorem coupled_set (h : ∀ r ∈ db.transportRequests, Coupled db r)
    (hpatch : ∀ r ∈ db.transportRequests, r.id = id → Coupled db (patch r)) :
    ∀ r ∈ (setRequest id patch hkey db).transportRequests,
      Coupled (setRequest id patch hkey db) r := by
  intro r hr
  have hrow : Coupled db r := by
    rcases mem_setRequest.mp hr with ⟨r₀, hr₀, rfl⟩
    by_cases hid : r₀.id = id
    · rw [if_pos hid]
      exact hpatch r₀ hr₀ hid
    · rw [if_neg hid]
      exact h r₀ hr₀
  -- the staff are the same
  exact ⟨hrow.requested, hrow.assigned, hrow.inProgress⟩

theorem Coupled.moved {target : TransportStatus} {now : ℤ}
    (hcan : canTransitionTransport r.status target = true)
    (hdesk : ¬(r.status = .REQUESTED ∧ target = .ASSIGNED) ∧
      ¬(r.status = .ASSIGNED ∧ target = .IN_PROGRESS)) :
    Coupled db (TransportService.moved target now r) := by
  by_cases htarget : target = .REQUESTED
  · have hmoved : TransportService.moved target now r = { r with
        status := target, updatedAt := now, driverStaffId := none, vehicleId := none,
        driverStage := none } := if_pos htarget
    rw [hmoved, htarget]
    exact ⟨fun _ => ⟨rfl, rfl, rfl⟩, (fun hs => by cases hs), (fun hs => by cases hs)⟩
  · have hmoved : TransportService.moved target now r =
        { r with status := target, updatedAt := now } := if_neg htarget
    rw [hmoved]
    -- only ASSIGNED and IN_PROGRESS ask for anything, and each has one way in
    refine ⟨fun hs => absurd hs htarget, fun hs => ?_, fun hs => ?_⟩
    · have hs : target = .ASSIGNED := hs
      refine absurd ⟨?_, hs⟩ hdesk.1
      cases hr : r.status <;>
        simp [hr, hs, canTransitionTransport, TRANSPORT_TRANSITIONS] at hcan ⊢
    · have hs : target = .IN_PROGRESS := hs
      refine absurd ⟨?_, hs⟩ hdesk.2
      cases hr : r.status <;>
        simp [hr, hs, canTransitionTransport, TRANSPORT_TRANSITIONS] at hcan ⊢

theorem Coupled.stepped {driverStaffId : Id} {driverStep : DriverStep} {patch : StepPatch}
    {now : ℤ} (hdriver : r.driverStaffId = some driverStaffId)
    (hpatch : stepPatch r driverStep = .ok patch) : Coupled db (stepped patch now r) := by
  rcases stepPatch_ok hpatch with ⟨-, -, -, rfl⟩ | ⟨-, -, -, rfl⟩ | ⟨-, -, hstatus, stage, -, rfl⟩
  · refine ⟨(fun hs => by cases hs), (fun hs => by cases hs), fun _ => ⟨?_, ?_⟩⟩
    swap
    · simp [TransportService.stepped]
    show r.driverStaffId ≠ none
    rw [hdriver]
    exact Option.some_ne_none _
  · exact ⟨(fun hs => by cases hs), (fun hs => by cases hs), (fun hs => by cases hs)⟩
  · have hs : (TransportService.stepped { driverStage := some stage } now r).status =
        .IN_PROGRESS := hstatus
    refine ⟨fun hno => ?_, fun hno => ?_, fun _ => ⟨?_, by simp [TransportService.stepped]⟩⟩
    · rw [hs] at hno
      cases hno
    · rw [hs] at hno
      cases hno
    · show r.driverStaffId ≠ none
      rw [hdriver]
      exact Option.some_ne_none _

theorem row_of_requestOf {propertyId : Id} {r₀ : TransportRequest}
    (hread : requestOf propertyId id db = some r) (hr₀ : r₀ ∈ db.transportRequests)
    (hid : r₀.id = id) : r₀ = r := by
  rcases requestOf_some hread with ⟨hmem, hid', -⟩
  exact eq_of_key_eq hr₀ hmem (hid.trans hid'.symm)

variable {w : DeskDb → DeskDb} {call : TripCall}

variable {h : DeskTrace}

theorem TripWrite.coupled {φ : ℕ → Option String} {s : Desk} (hw : TripWrite call h w)
    (hsaw : ∀ l b, .saw l b ∈ h → b = s.db) (hdesk : NotForcedByDesk s (call, φ))
    (hrows : ∀ r ∈ s.db.transportRequests, Coupled s.db r) :
    ∀ r ∈ (w s.db).transportRequests, Coupled (w s.db) r := by
  cases hw with
  | created =>
    intro r hr
    rcases mem_or_eq_of_mem_insert hr with hold | rfl
    · have hrow := hrows r hold
      exact ⟨hrow.requested, hrow.assigned, hrow.inProgress⟩
    · exact ⟨fun _ => ⟨rfl, rfl, rfl⟩, (fun hs => by cases hs), (fun hs => by cases hs)⟩
  | edited => exact coupled_set hrows fun r hr _ => (hrows r hr).same rfl rfl rfl rfl rfl
  | assigned hb hread hstatus hs hstaff hid hprop =>
    obtain rfl := hsaw _ _ hb.saw
    obtain rfl := hsaw _ _ hs
    refine coupled_set hrows fun r hr hrid => ?_
    obtain rfl := row_of_requestOf hread hr hrid
    have hstage := ((hrows r hr).requested hstatus).2.2
    have hprop' := (requestOf_some hread).2.2
    refine ⟨(fun hs => by cases hs), fun _ => ⟨hstage, _, hstaff, ?_, ?_⟩,
      (fun hs => by cases hs)⟩
    · rw [hid]
      rfl
    · rw [hprop]
      exact hprop'.symm
  | moved hb hread hcan =>
    obtain rfl := hsaw _ _ hb.saw
    refine coupled_set hrows fun r hr hrid => ?_
    obtain rfl := row_of_requestOf hread hr hrid
    exact .moved hcan (hdesk r hread)
  | stepped hb hread hpatch =>
    obtain rfl := hsaw _ _ hb.saw
    rcases tripOf_some hread with ⟨hrequest, hdriver⟩
    refine coupled_set hrows fun r hr hrid => ?_
    obtain rfl := row_of_requestOf hrequest hr hrid
    exact .stepped hdriver hpatch
  | removed => exact coupled_set hrows fun r hr _ => (hrows r hr).same rfl rfl rfl rfl rfl

theorem TripWrite.closed_stays (hw : TripWrite call h w) (hsaw : ∀ l b, .saw l b ∈ h → b = db)
    (hr : r ∈ db.transportRequests) (hstatus : r.status = .COMPLETED) :
    ∃ r' ∈ (w db).transportRequests, r'.id = r.id ∧ r'.status = r.status ∧
      r'.driverStage = r.driverStage := by
  have hset : ∀ {id : Id} {patch : TransportRequest → TransportRequest}
      {hkey : ∀ r, (patch r).id = r.id},
      (r.id = id → (patch r).status = r.status ∧ (patch r).driverStage = r.driverStage) →
      ∃ r' ∈ (setRequest id patch hkey db).transportRequests, r'.id = r.id ∧
        r'.status = r.status ∧ r'.driverStage = r.driverStage := by
    intro id patch hkey hpatch
    have hmem : (if r.id = id then patch r else r) ∈
        (setRequest id patch hkey db).transportRequests := mem_setRequest.mpr ⟨r, hr, rfl⟩
    by_cases hid : r.id = id
    · rw [if_pos hid] at hmem
      exact ⟨patch r, hmem, hkey r, hpatch hid⟩
    · rw [if_neg hid] at hmem
      exact ⟨r, hmem, rfl, rfl, rfl⟩
  cases hw with
  | created => exact ⟨r, mem_insert_of_mem hr, rfl, rfl, rfl⟩
  | edited => exact hset fun _ => ⟨rfl, rfl⟩
  | assigned hb hread hopen hs hstaff hid hprop =>
    obtain rfl := hsaw _ _ hb.saw
    refine hset fun hrid => ?_
    rw [row_of_requestOf hread hr hrid, hopen] at hstatus
    cases hstatus
  | moved hb hread hcan =>
    obtain rfl := hsaw _ _ hb.saw
    refine hset fun hrid => ?_
    rw [← row_of_requestOf hread hr hrid, hstatus] at hcan
    cases hcan
  | stepped hb hread hpatch =>
    obtain rfl := hsaw _ _ hb.saw
    refine hset fun hrid => ?_
    have heq := row_of_requestOf (tripOf_some hread).1 hr hrid
    rw [heq] at hstatus
    rcases stepPatch_ok hpatch with ⟨-, hopen, -⟩ | ⟨-, hopen, -⟩ | ⟨-, -, hopen, -⟩
    · rw [hopen] at hstatus
      cases hstatus
    · rw [hopen] at hstatus
      cases hstatus
    · rw [hopen] at hstatus
      cases hstatus
  | removed => exact hset fun _ => ⟨rfl, rfl⟩

theorem mem_completedBy_step {propertyId driverStaffId target : Id} {driverStep : DriverStep}
    {now : ℤ} {db' : DeskDb} :
    id ∈ completedBy (.step propertyId driverStaffId target driverStep now) db db' ↔
      id = target ∧ (db'.transportRequests.find? target).map (·.status) = some .COMPLETED ∧
        (db.transportRequests.find? target).map (·.status) ≠ some .COMPLETED := by
  unfold completedBy
  dsimp only
  constructor
  · intro h
    split at h
    · rename_i hdone
      exact ⟨List.mem_singleton.mp h, hdone⟩
    · cases h
  · rintro ⟨rfl, hdone⟩
    rw [if_pos hdone]
    exact List.mem_singleton_self id

theorem TripWrite.picked_up (hw : TripWrite call h w) (hsaw : ∀ l b, .saw l b ∈ h → b = db) :
    ∀ id ∈ completedBy call db (w db), ∃ r ∈ (w db).transportRequests, r.id = id ∧
      r.status = .COMPLETED ∧ r.driverStage = some .PICKED_UP := by
  intro id hid
  cases hw with
  | @stepped propertyId driverStaffId target driverStep now h b r patch hb hread hpatch =>
    obtain rfl := hsaw _ _ hb.saw
    rcases requestOf_some (tripOf_some hread).1 with ⟨hmem, hkey, -⟩
    rcases mem_completedBy_step.mp hid with ⟨rfl, hdone, -⟩
    have hrow : TransportService.stepped patch now r ∈
        (setRequest id (TransportService.stepped patch now) (fun _ => rfl) b).transportRequests :=
      mem_setRequest.mpr ⟨r, hmem, by rw [if_pos hkey]⟩
    have hfound := Table.find?_eq_some.mpr ⟨hrow, hkey⟩
    rw [hfound] at hdone
    have hstatus : (TransportService.stepped patch now r).status = .COMPLETED :=
      Option.some.inj hdone
    refine ⟨_, hrow, hkey, hstatus, ?_⟩
    rcases stepPatch_ok hpatch with ⟨-, -, -, rfl⟩ | ⟨-, -, hstage, rfl⟩ |
      ⟨-, -, hopen, stage, -, rfl⟩
    · cases hstatus
    · exact hstage
    · cases hopen.symm.trans hstatus
  | _ => cases hid

/-- **The step.** A call that is not forced by the desk keeps all machines coupled. -/
theorem Desk.AllCoupled.next {s s' : Desk} {e : TripCall × (ℕ → Option String)}
    (hs : s.AllCoupled) (hdesk : NotForcedByDesk s e) (hcall : s.call e = some s') :
    s'.AllCoupled := by
  rcases e with ⟨call, φ⟩
  cases hcall
  rcases call.run_cases φ s.db with hsame | ⟨h, w, hw, hsaw, hdb⟩
  · have hnone : completedBy call s.db s.db = [] := by
      unfold completedBy
      split
      · rw [if_neg (fun h => h.2 h.1)]
      · rfl
    refine ⟨?_, ?_⟩
    · show ∀ r ∈ (call.prog.runWith φ s.db).db.transportRequests, _
      rw [hsame]
      exact hs.rows
    · show ∀ id ∈ s.driven ++ completedBy call s.db (call.prog.runWith φ s.db).db,
        ∃ r ∈ (call.prog.runWith φ s.db).db.transportRequests, _
      rw [hsame, hnone, List.append_nil]
      exact hs.driven
  · refine ⟨?_, ?_⟩
    · show ∀ r ∈ (call.prog.runWith φ s.db).db.transportRequests, _
      rw [hdb]
      exact hw.coupled hsaw hdesk hs.rows
    · show ∀ id ∈ s.driven ++ completedBy call s.db (call.prog.runWith φ s.db).db,
        ∃ r ∈ (call.prog.runWith φ s.db).db.transportRequests, _
      rw [hdb]
      intro id hid
      rcases List.mem_append.mp hid with hold | hnew
      · -- completed before, and closed since
        rcases hs.driven id hold with ⟨r, hr, hrid, hstatus, hstage⟩
        rcases hw.closed_stays hsaw hr hstatus with ⟨r', hr', hid', hstatus', hstage'⟩
        exact ⟨r', hr', hid'.trans hrid, hstatus'.trans hstatus, hstage'.trans hstage⟩
      · exact hw.picked_up hsaw id hnew

end Sequential

/-! ## The claim -/

/-- In every state that calls one after another reach, each meeting `G`, the machines of every
request are coupled. -/
def CoupledUnder (G : Desk → TripCall × (ℕ → Option String) → Prop) : Prop :=
  ∀ (s s' : Desk) (es : List (TripCall × (ℕ → Option String))), s.AllCoupled →
    Claims.Guarded Desk.call G s es → Claims.run Desk.call s es = some s' → s'.AllCoupled

/-- In every interleaving whose writes meet `G` each step follows the tables. -/
def WalksUnder (G : TripCall → (DeskDb → DeskDb) → DeskTrace → DeskDb → Prop) : Prop :=
  ∀ (db : DeskDb) (calls : List TripCall) (evs : List Event),
    (Config.start db (calls.map prog)).Throughout (GuardedCalls calls G) evs →
    (Config.start db (calls.map prog)).EveryStep TripsWalk evs

/-- **The machines of a trip are coupled** while the desk moves no request to ASSIGNED and no
assigned one to IN_PROGRESS, and every step follows the tables while the columns that a call sets
are at its write as they were when it read them. -/
theorem machines_coupled (db : DeskDb) (calls : List TripCall) (evs : List Event) (s s' : Desk)
    (es : List (TripCall × (ℕ → Option String))) :
    (s.AllCoupled → Claims.Guarded Desk.call NotForcedByDesk s es →
      Claims.run Desk.call s es = some s' → s'.AllCoupled) ∧
    ((Config.start db (calls.map prog)).Throughout (GuardedCalls calls StillAsRead) evs →
      (Config.start db (calls.map prog)).EveryStep TripsWalk evs) := by
  constructor
  · intro hs hguard hrun
    exact Claims.run_invariant (fun _ _ _ hs hg hn => hs.next hg hn) hs hguard hrun
  · intro hstill
    exact steps_walk db calls evs hstill

/-! ## A desk and a driver -/

instance (r r' : TransportRequest) : Decidable (Walks r r') :=
  decidable_of_iff _ (walks_iff ..).symm

instance (db db' : DeskDb) : Decidable (TripsWalk db db') :=
  inferInstanceAs (Decidable (∀ _ ∈ _, _))

instance (db : DeskDb) (r : TransportRequest) : Decidable (Coupled db r) :=
  decidable_of_iff _ (coupled_iff ..).symm

instance (s : Desk) : Decidable s.AllCoupled :=
  decidable_of_iff _ (Desk.allCoupled_iff ..).symm

/-- A property with the driver 7. -/
def motorPool : DeskDb :=
  { hotelStaff := ⟨[{ id := 7, propertyId := 1, firstName := "Ravi", lastName := "Nair" }],
      by decide⟩ }

/-- A pickup is asked for, and the desk sets it to ASSIGNED. -/
def assignedToNobody : List (TripCall × (ℕ → Option String)) :=
  [(.create 1 { guestName := "Asha", type := .PICKUP, pickupAt := 100 } 7 0, noFaults),
    (.setStatus 1 1 .ASSIGNED 1, noFaults)]

/-- A trip is assigned and driven to its end. -/
def drivenHome : List (TripCall × (ℕ → Option String)) :=
  [(.create 1 { guestName := "Asha", type := .PICKUP, pickupAt := 100 } 7 0, noFaults),
    (.assign 1 1 7 none 1, noFaults), (.step 1 7 1 .accept 2, noFaults),
    (.step 1 7 1 .onTheWay 3, noFaults), (.step 1 7 1 .arrived 4, noFaults),
    (.step 1 7 1 .pickedUp 5, noFaults), (.step 1 7 1 .complete 6, noFaults)]

/-- A trip that is assigned to the driver 7. -/
def forRavi : TransportRequest :=
  { id := 1
    propertyId := 1
    guestName := "Asha"
    type := .PICKUP
    pickupAt := 100
    driverStaffId := some 7
    status := .ASSIGNED }

def assignedTrip : DeskDb := { motorPool with transportRequests := ⟨[forRavi], by decide⟩ }

/-- The driver accepts the trip that the desk cancels. -/
def acceptAndCancel : List TripCall := [.step 1 7 1 .accept 2, .setStatus 1 1 .CANCELLED 2]

/-- The desk cancels after the driver's call has read the trip, and before it writes. -/
def cancelledUnderway : List Event :=
  [.step 0, .step 0, .step 1, .step 1, .step 0, .step 0, .step 0]

/-- The driver's call is done when the desk reads. -/
def cancelledAfter : List Event :=
  [.step 0, .step 0, .step 0, .step 0, .step 0, .step 1, .step 1]

/-- A request is ASSIGNED without a driver, and a cancelled trip is IN_PROGRESS. -/
theorem machines_come_apart :
    ¬CoupledUnder (fun _ _ => True) ∧ ¬WalksUnder (fun _ _ _ _ => True) := by
  constructor
  · intro hlaw
    have hend := hlaw { db := motorPool } _ assignedToNobody (by decide +kernel)
      (by decide +kernel) rfl
    exact absurd hend (by decide +kernel)
  · intro hlaw
    have hsteps := hlaw assignedTrip acceptAndCancel cancelledUnderway (by decide +kernel)
    exact absurd hsteps (by decide +kernel)

/-- A trip driven to its end, and one that is cancelled while it is driven. -/
theorem machines_stay_together :
    (∃ s, Claims.run Desk.call { db := motorPool } drivenHome = some s ∧ s.AllCoupled ∧
      s.driven = [1]) ∧
    (Config.start assignedTrip (acceptAndCancel.map prog)).EveryStep TripsWalk
      cancelledAfter :=
  ⟨⟨_, rfl, (machines_coupled {} [] [] { db := motorPool } _ drivenHome).1 (by decide +kernel)
      (by decide +kernel) rfl, by decide +kernel⟩,
    (machines_coupled assignedTrip acceptAndCancel cancelledAfter { db := motorPool }
      { db := motorPool } []).2 (by decide +kernel)⟩

end Travelo.TravelDesk

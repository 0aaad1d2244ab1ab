import Travelo.ReadCommitted.Recorded
import Travelo.Spa.Appointments

/-!
# A bill belongs to a finished treatment

The unique index keeps the bills of an appointment to one, and a bill is computed from the price
the appointment was booked at. That the treatment stays COMPLETED, that statuses follow the table
and that a therapist moves only what is theirs rests on what `setStatus` reads first:
`bills_finished`, under the condition that it still holds when the move is written.
-/

namespace Travelo.SpaDesk

open ReadCommitted SpaAppointmentsService SpaBillsService
open SpaCall (prog)
open Config (start)

/-! ## The law -/

/-- A bill is of a COMPLETED appointment, by its price. -/
def BillOf (config : Option ℚ) (db : SpaDb) (b : SpaBill) : Prop :=
  ∃ a ∈ db.spaAppointments, a.id = b.appointmentId ∧ a.status = .COMPLETED ∧
    SpaBillTotals.mk b.subtotalPaise b.taxPaise b.totalPaise =
      computeSpaBill a.pricePaiseSnapshot (resolveSpaTaxPercent config)

/-- Each appointment has at most one bill, and a bill belongs to a finished treatment. -/
@[mk_iff] structure BillsFinished (config : Option ℚ) (db : SpaDb) : Prop where
  one : ∀ b ∈ db.spaBills, ∀ b' ∈ db.spaBills, b.appointmentId = b'.appointmentId → b = b'
  finished : ∀ b ∈ db.spaBills, BillOf config db b

/-- Every appointment keeps its price, and its status or one the table allows. -/
def StatusesFollow (db db' : SpaDb) : Prop :=
  ∀ a ∈ db.spaAppointments, ∃ a' ∈ db'.spaAppointments, a'.id = a.id ∧
    a'.pricePaiseSnapshot = a.pricePaiseSnapshot ∧
    (a'.status = a.status ∨ canTransitionAppointment a.status a'.status = true)

/-- What a therapist's call changes is an appointment that is assigned to that therapist. -/
def ByAssignee : SpaCall → SpaDb → SpaDb → Prop
  | .setStatus _ id _ (some me) _, db, db' =>
    db'.spaAppointments.find? id = db.spaAppointments.find? id ∨
      ∃ a ∈ db.spaAppointments.find? id, a.staffId = some me
  | _, _, _ => True

/-- A guard of the calls. -/
abbrev SpaGuard := SpaCall → (SpaDb → SpaDb) → SpaTrace → SpaDb → Prop

/-- The law of the bills, for the calls that interleave under a guard. -/
def BillsLaw (G : SpaGuard) : Prop :=
  ∀ (config : Option ℚ) (db : SpaDb) (calls : List SpaCall) (evs : List Event)
    (c : Config SpaDb SpaRow SpaLook SpaErr Unit),
    BillsFinished config db →
    (start db (calls.map (prog config))).Throughout (GuardedCalls calls G) evs →
    (start db (calls.map (prog config))).run evs = some c →
    BillsFinished config c.db ∧
      ∀ d ∈ (start db (calls.map (prog config))).history evs,
        StatusesFollow d.before d.after ∧
          ∀ call ∈ calls[d.session]?, ByAssignee call d.before d.after

/-- A status is written over the one that was read, or over itself; by a therapist, while the
appointment has the therapist it had. -/
def StatusAsRead : SpaGuard
  | .setStatus propertyId id target myStaffId _, _, h, now =>
    ∀ r ∈ reads h, ∀ before ∈ appointmentOf propertyId id r.2, ∀ a ∈ now.spaAppointments,
      a.id = id → (a.status = before.status ∨ a.status = target) ∧
        (myStaffId.isSome = true → a.staffId = before.staffId)
  | _, _, _, _ => True

/-! ## What a call writes -/

/-- What a call has read of an appointment, in a history. -/
def ReadOf (propertyId id : Id) (h : SpaTrace) (b : SpaDb) (before : SpaAppointment) : Prop :=
  .saw (.appointment id) b ∈ h ∧ appointmentOf propertyId id b = some before

/-- The write of a call, and what it has read before. -/
inductive SpaWrite (config : Option ℚ) : SpaCall → SpaTrace → (SpaDb → SpaDb) → Prop where
  | edited {propertyId id dto now h before} :
    SpaWrite config (.update propertyId id dto now) h
      (setAppointment propertyId id (edited dto before now) fun _ => rfl)
  | assigned {propertyId id staffId now h} :
    SpaWrite config (.assignTherapist propertyId id staffId now) h
      (setAppointment propertyId id (assigned staffId now) fun _ => rfl)
  | moved {propertyId id target myStaffId now h b before}
    (hread : ReadOf propertyId id h b before)
    (howned : assertOwned before myStaffId = .ok ())
    (hcan : canTransitionAppointment before.status target = true) :
    SpaWrite config (.setStatus propertyId id target myStaffId now) h
      (setAppointment propertyId id (SpaAppointmentsService.moved target before now) fun _ => rfl)
  | billed {propertyId id now h b before} (hread : ReadOf propertyId id h b before)
    (hstatus : before.status = .COMPLETED) :
    SpaWrite config (.createForAppointment propertyId id now) h
      (applied (insertBill propertyId id
        (computeSpaBill before.pricePaiseSnapshot (resolveSpaTaxPercent config)) now))

theorem assertAppointmentTransition_ok {source target : SpaAppointmentStatus} :
    assertAppointmentTransition source target = .ok () ↔
      canTransitionAppointment source target = true := by
  unfold assertAppointmentTransition
  split <;> simp_all

theorem SpaCall.publishes (config : Option ℚ) (call : SpaCall) :
    (call.prog config).Publishes (SpaWrite config call) [] := by
  cases call with
  | update propertyId id dto now =>
    refine Prog.Publishes.discard ?_
    simp only [Prog.Publishes, SpaAppointmentsService.update, requireAppointment, updateAppointment,
      wp_simps]
    intro b before _ _
    exact .edited
  | assignTherapist propertyId id staffId now =>
    refine Prog.Publishes.discard ?_
    simp only [Prog.Publishes, SpaAppointmentsService.assignTherapist, requireAppointment,
      requireTherapist, updateAppointment, wp_simps]
    intro b before _ s t _
    exact .assigned
  | setStatus propertyId id target myStaffId now =>
    refine Prog.Publishes.discard (Prog.Publishes.transaction ?_)
    simp only [requireAppointment, updateAppointment, wp_simps]
    intro b before hread _ howned _ hcan b' row _ w hw
    cases hw
    exact .moved ⟨by simp, hread⟩ howned (assertAppointmentTransition_ok.mp hcan)
  | createForAppointment propertyId appointmentId now =>
    refine Prog.Publishes.discard (Prog.Publishes.transaction ?_)
    simp only [wp_simps, wp_tryCatch, wp_throw]
    intro b before hread hbillable b' _ b'' _ _ w hw
    cases hw
    have hstatus : before.status = .COMPLETED := by
      simpa [isBillable] using hbillable
    exact .billed ⟨by simp, hread⟩ hstatus

/-! ## What a write keeps -/

section Kept

variable {config : Option ℚ} {db db' : SpaDb} {propertyId id : Id} {a before : SpaAppointment}
  {patch : SpaAppointment → SpaAppointment} {hkey : ∀ a, (patch a).id = a.id}

theorem appointmentOf_some (h : appointmentOf propertyId id db = some a) :
    a ∈ db.spaAppointments ∧ a.id = id ∧ a.propertyId = propertyId := by
  unfold appointmentOf at h
  rw [Option.filter_eq_some_iff] at h
  obtain ⟨hmem, hid⟩ := Table.find?_eq_some.mp h.1
  exact ⟨hmem, hid, of_decide_eq_true h.2⟩

theorem statusesFollow_refl (db : SpaDb) : StatusesFollow db db :=
  fun a ha => ⟨a, ha, rfl, rfl, .inl rfl⟩

theorem statusesFollow_set
    (hrow : ∀ a ∈ db.spaAppointments, a.id = id → a.propertyId = propertyId →
      (patch a).pricePaiseSnapshot = a.pricePaiseSnapshot ∧
        ((patch a).status = a.status ∨
          canTransitionAppointment a.status (patch a).status = true)) :
    StatusesFollow db (setAppointment propertyId id patch hkey db) := by
  intro a ha
  have hmem : (if a.id = id ∧ a.propertyId = propertyId then patch a else a) ∈
      (setAppointment propertyId id patch hkey db).spaAppointments :=
    List.mem_map.mpr ⟨a, ha, by simp⟩
  by_cases hat : a.id = id ∧ a.propertyId = propertyId
  · rw [if_pos hat] at hmem
    exact ⟨patch a, hmem, hkey a, hrow a ha hat.1 hat.2⟩
  · rw [if_neg hat] at hmem
    exact ⟨a, hmem, rfl, rfl, .inl rfl⟩

theorem completed_stays (h : StatusesFollow db db') (ha : a ∈ db.spaAppointments)
    (hstatus : a.status = .COMPLETED) :
    ∃ a' ∈ db'.spaAppointments, a'.id = a.id ∧ a'.status = .COMPLETED ∧
      a'.pricePaiseSnapshot = a.pricePaiseSnapshot := by
  obtain ⟨a', ha', hid, hprice, hsame | hcan⟩ := h a ha
  · exact ⟨a', ha', hid, hsame.trans hstatus, hprice⟩
  · rw [hstatus] at hcan
    cases hcan

theorem completed_led (h : Relation.ReflTransGen StatusesFollow db db')
    (ha : a ∈ db.spaAppointments) (hstatus : a.status = .COMPLETED) :
    ∃ a' ∈ db'.spaAppointments, a'.id = a.id ∧ a'.status = .COMPLETED ∧
      a'.pricePaiseSnapshot = a.pricePaiseSnapshot := by
  induction h with
  | refl => exact ⟨a, ha, rfl, hstatus, rfl⟩
  | tail _ hstep ih =>
    obtain ⟨a₁, ha₁, hid₁, hstatus₁, hprice₁⟩ := ih
    obtain ⟨a₂, ha₂, hid₂, hstatus₂, hprice₂⟩ := completed_stays hstep ha₁ hstatus₁
    exact ⟨a₂, ha₂, hid₂.trans hid₁, hstatus₂, hprice₂.trans hprice₁⟩

theorem BillsFinished.follow (h : BillsFinished config db) (hfollow : StatusesFollow db db')
    (hbills : db'.spaBills = db.spaBills) : BillsFinished config db' := by
  constructor
  · rw [hbills]
    exact h.one
  · rw [hbills]
    intro b hb
    obtain ⟨a, ha, hid, hstatus, htotals⟩ := h.finished b hb
    obtain ⟨a', ha', hid', hstatus', hprice⟩ := completed_stays hfollow ha hstatus
    exact ⟨a', ha', hid'.trans hid, hstatus', by rw [hprice]; exact htotals⟩

theorem applied_insertBill (propertyId id : Id) (totals : SpaBillTotals) (now : ℤ) (db : SpaDb) :
    applied (insertBill propertyId id totals now) db =
      if billed id db then db
      else { db with spaBills := db.spaBills.insert (newBill propertyId id totals now db) } := by
  unfold applied insertBill
  split_ifs <;> rfl

theorem BillsFinished.insert (propertyId : Id) (now : ℤ) (h : BillsFinished config db)
    (ha : a ∈ db.spaAppointments) (hid : a.id = id) (hstatus : a.status = .COMPLETED) :
    BillsFinished config (applied (insertBill propertyId id
      (computeSpaBill a.pricePaiseSnapshot (resolveSpaTaxPercent config)) now) db) := by
  rw [applied_insertBill]
  split_ifs with hbilled
  · exact h
  have hnone : ∀ b ∈ db.spaBills, b.appointmentId ≠ id := by
    intro b hb hat
    exact hbilled (List.any_eq_true.mpr ⟨b, Table.mem_rows.mpr hb, decide_eq_true hat⟩)
  constructor
  · intro b hb b' hb' hsame
    rcases mem_or_eq_of_mem_insert hb with hb | rfl
    · rcases mem_or_eq_of_mem_insert hb' with hb' | rfl
      · exact h.one b hb b' hb' hsame
      · exact absurd hsame (hnone b hb)
    · rcases mem_or_eq_of_mem_insert hb' with hb' | rfl
      · exact absurd hsame.symm (hnone b' hb')
      · rfl
  · intro b hb
    rcases mem_or_eq_of_mem_insert hb with hb | rfl
    · exact h.finished b hb
    · exact ⟨a, ha, hid, hstatus, rfl⟩

theorem assertOwned_some {me : Id} (h : assertOwned before (some me) = .ok ()) :
    before.staffId = some me := by
  by_contra hother
  have hrefused : assertOwned before (some me) = .error .appointmentNotFound := if_pos hother
  rw [hrefused] at h
  cases h

theorem find?_setAppointment
    (hother : ∀ a ∈ db.spaAppointments.find? id, a.propertyId ≠ propertyId) :
    (setAppointment propertyId id patch hkey db).spaAppointments.find? id =
      db.spaAppointments.find? id := by
  show (db.spaAppointments.update _ patch hkey).find? id = _
  rw [find?_update]
  cases hfind : db.spaAppointments.find? id with
  | none => rfl
  | some a => simp [hother a hfind]

end Kept

theorem SpaWrite.keeps {config : Option ℚ} {call : SpaCall} {h : SpaTrace} {w : SpaDb → SpaDb}
    {now : SpaDb} (hw : SpaWrite config call h w)
    (hseen : ∀ l b, .saw l b ∈ h → Relation.ReflTransGen StatusesFollow b now)
    (hguard : StatusAsRead call w h now) (hI : BillsFinished config now) :
    BillsFinished config (w now) ∧ StatusesFollow now (w now) ∧ ByAssignee call now (w now) := by
  cases hw with
  | edited =>
    refine ⟨hI.follow ?_ rfl, ?_, trivial⟩ <;>
      exact statusesFollow_set fun a _ _ _ => ⟨rfl, .inl rfl⟩
  | assigned =>
    refine ⟨hI.follow ?_ rfl, ?_, trivial⟩ <;>
      exact statusesFollow_set fun a _ _ _ => ⟨rfl, .inl rfl⟩
  | @moved propertyId id target myStaffId now' _ b before hread howned hcan =>
    have hstored := hguard (.appointment id, b) (mem_reads.mpr hread.1) before
      (Option.mem_def.mpr hread.2)
    have hfollow : StatusesFollow now (setAppointment propertyId id
        (SpaAppointmentsService.moved target before now') (fun _ => rfl) now) := by
      refine statusesFollow_set fun a ha hid _ => ⟨rfl, ?_⟩
      rcases (hstored a ha hid).1 with hsame | hthere
      · -- the row that was read is the row that is moved
        exact .inr (by rw [hsame]; exact hcan)
      · exact .inl hthere.symm
    refine ⟨hI.follow hfollow rfl, hfollow, ?_⟩
    cases myStaffId with
    | none => trivial
    | some me =>
      cases hfind : now.spaAppointments.find? id with
      | none =>
        refine .inl (find?_setAppointment fun a ha => ?_)
        rw [hfind] at ha
        cases ha
      | some a =>
        obtain ⟨hmem, hid⟩ := Table.find?_eq_some.mp hfind
        refine .inr ⟨a, hfind, ?_⟩
        exact ((hstored a hmem hid).2 rfl).trans (assertOwned_some howned)
  | @billed propertyId id now' _ b before hread hstatus =>
    obtain ⟨hmem, hid, -⟩ := appointmentOf_some hread.2
    obtain ⟨a, ha, haid, hdone, hprice⟩ := completed_led (hseen _ b hread.1) hmem hstatus
    have hinsert := hI.insert propertyId now' ha (haid.trans hid) hdone
    rw [hprice] at hinsert
    refine ⟨hinsert, ?_, trivial⟩
    rw [applied_insertBill]
    split_ifs <;> exact statusesFollow_refl now

/-- **A spa bill belongs to a finished treatment**, statuses follow the table and a therapist
moves only their own appointments, while each move is written over what it has read. -/
theorem bills_finished (config : Option ℚ) (db : SpaDb) (calls : List SpaCall)
    (evs : List Event) (c : Config SpaDb SpaRow SpaLook SpaErr Unit)
    (hstart : BillsFinished config db)
    (hguard : (start db (calls.map (prog config))).Throughout
      (GuardedCalls calls StatusAsRead) evs)
    (hrun : (start db (calls.map (prog config))).run evs = some c) :
    BillsFinished config c.db ∧
      ∀ d ∈ (start db (calls.map (prog config))).history evs,
        StatusesFollow d.before d.after ∧
          ∀ call ∈ calls[d.session]?, ByAssignee call d.before d.after := by
  have hwp : ∀ call : SpaCall, (call.prog config).wp (SpaWrite config call) (fun _ _ _ => True)
      (fun _ _ _ => True) [] .idle := by
    intro call
    exact wp_mono (fun _ _ h => h) (fun _ _ _ _ => trivial) (fun _ _ _ _ => trivial) _ _ _
      (call.publishes config)
  constructor
  · have hsteps := Config.calls_steps (G := StatusAsRead) (I := BillsFinished config) hwp
      statusesFollow_refl
      (fun call h w now hw hseen hg hI =>
        have hkeeps := hw.keeps (fun l b hb => (hseen l b hb).2) hg hI
        ⟨hkeeps.1, hkeeps.2.1⟩) hstart evs hguard
    exact Config.EveryStep.invariant (fun _ _ h _ => h.1) evs _ hsteps hrun hstart
  · intro d hd
    have hchange := Config.calls_history (Q := ByAssignee) (I := BillsFinished config)
      (R := StatusesFollow) hwp statusesFollow_refl
      (fun call s => by
        unfold ByAssignee
        split
        · exact .inl rfl
        · trivial)
      (fun call h w now hw hseen hg hI => hw.keeps (fun l b hb => (hseen l b hb).2) hg hI)
      hstart evs hguard d hd
    exact hchange.2

/-! ## A treatment that is cancelled while it ends -/

instance (config : Option ℚ) (db : SpaDb) (b : SpaBill) : Decidable (BillOf config db b) :=
  inferInstanceAs (Decidable (∃ a ∈ db.spaAppointments, _))

deriving instance DecidableEq for SpaBill

instance (config : Option ℚ) (db : SpaDb) : Decidable (BillsFinished config db) :=
  decidable_of_iff _ (billsFinished_iff ..).symm

instance : ∀ call db db', Decidable (ByAssignee call db db') := by
  intro call db db'
  unfold ByAssignee
  split <;> infer_instance

instance : ∀ call w h now, Decidable (StatusAsRead call w h now) := by
  intro call w h now
  unfold StatusAsRead
  split <;> infer_instance

/-- A treatment under way, with the therapist 7; the therapist 8 is free. -/
def inTreatment : SpaDb where
  spaAppointments := (∅ : Table SpaAppointment.id).insert
    { id := 1, propertyId := 1, guestName := "Asha", staffId := some 7, startAt := 100
      status := .IN_PROGRESS, serviceNameSnapshot := "Massage", pricePaiseSnapshot := 200000 }
  hotelStaff := ((∅ : Table Therapist.id).insert ⟨7, 1⟩).insert ⟨8, 1⟩

/-- The desk cancels, the therapist completes, and the treatment is billed. -/
def cancelAndBill : List SpaCall :=
  [.setStatus 1 1 .CANCELLED none 10, .setStatus 1 1 .COMPLETED (some 7) 11,
    .createForAppointment 1 1 12]

/-- The desk has read the row before the therapist's call, and writes after the bill. -/
def cancelledLate : List Event :=
  [.step 0, .step 0] ++ List.replicate 4 (.step 1) ++ List.replicate 5 (.step 2) ++
    [.step 0, .step 0]

/-- The desk reads after the bill. -/
def cancelledAfterwards : List Event :=
  List.replicate 4 (.step 1) ++ List.replicate 5 (.step 2) ++ List.replicate 3 (.step 0)

/-- The therapist completes what is given to another. -/
def completeAndReassign : List SpaCall :=
  [.setStatus 1 1 .COMPLETED (some 7) 10, .assignTherapist 1 1 8 11]

/-- The therapist's call has read the row before it is assigned to another. -/
def reassignedUnderway : List Event :=
  [.step 0, .step 0, .step 1, .step 1, .step 1, .step 0, .step 0]

/-- A cancelled treatment has a bill, and a therapist completes what is another's. -/
theorem moves_over_stale_reads :
    ¬BillsLaw (fun _ _ _ _ => True) ∧
      ∃ d ∈ (start inTreatment (completeAndReassign.map (prog none))).history
          reassignedUnderway,
        ∃ call ∈ completeAndReassign[d.session]?, ¬ByAssignee call d.before d.after := by
  constructor
  · intro hlaw
    have hend : ∀ c ∈ (start inTreatment (cancelAndBill.map (prog none))).run
        cancelledLate, BillsFinished none c.db := by
      intro c hrun
      exact (hlaw none inTreatment cancelAndBill cancelledLate c (by decide +kernel)
        (by decide +kernel) hrun).1
    exact absurd hend (by decide +kernel)
  · decide +kernel

/-- The desk comes too late to cancel. -/
theorem bills_finished_in_turn :
    ∃ c, (start inTreatment (cancelAndBill.map (prog none))).run
        cancelledAfterwards = some c ∧
      BillsFinished none c.db ∧
        ∀ d ∈ (start inTreatment (cancelAndBill.map (prog none))).history
            cancelledAfterwards,
          StatusesFollow d.before d.after ∧
            ∀ call ∈ cancelAndBill[d.session]?, ByAssignee call d.before d.after :=
  ⟨_, rfl, bills_finished none inTreatment cancelAndBill cancelledAfterwards _ (by decide +kernel)
    (by decide +kernel) rfl⟩

end Travelo.SpaDesk

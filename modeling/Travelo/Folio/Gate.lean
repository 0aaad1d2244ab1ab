import Travelo.Folio.Account
import Travelo.ReadCommitted.Guarded
import Travelo.Reservations.Writes

/-!
# The gate at the door

Check-out reads the balance of the folio before its transaction begins, and the status
changes when that transaction commits. What the gate has read may have grown in between:
`nobody_leaves_owing` says that a guest who leaves owes nothing when, at the commit, the
charges of the folio are no more and the net paid is no less than in the states the gate
has looked at.
-/

namespace Travelo

open ReadCommitted FolioService ReservationsService
open Folio (balance ancillary lineTax roomGstOf propertyTaxOf roomCharge tax)

/-- Check-out and, at the same time, calls that change folios. -/
def gateCalls (env : Env) (propertyId g : Id) (dto : CheckOutDto) (actorStaffId : Option Id)
    (ops : List FolioOp) : List (Op Unit) :=
  (do let _ ← checkOut env propertyId g dto actorStaffId) :: ops.map FolioOp.prog

/-! ## What is claimed -/

def Departed (g : Id) (db : HotelDb) : Prop :=
  ∃ r ∈ db.reservations.find? g, r.status = .CHECKED_OUT

/-- From one state to the next the guest has left, and owes. -/
def LeavesOwing (g : Id) (db db' : HotelDb) : Prop :=
  ¬Departed g db ∧ Departed g db' ∧ 0 < balance g db'

/-- The lines of a folio with their tax. -/
def lineCharges (g : Id) (db : HotelDb) : ℤ := ancillary g db + lineTax g db

/-- The states in which a session has read a folio since its newest write. -/
def folioReads (g : Id) (h : Trace) : List HotelDb :=
  (readsSinceWrite h).filterMap fun x =>
    match x.1 with
    | .folio g' => if g' = g then some x.2 else none
    | _ => none

/-- Against each state the gate has looked at, a write that lets the guest go finds no more
charges and no less paid. -/
def GateStillHolds (g : Id) (w : HotelDb → HotelDb) (h : Trace) (now : HotelDb) : Prop :=
  ¬Departed g now → Departed g (w now) → ∀ b ∈ folioReads g h,
    lineCharges g now ≤ lineCharges g b ∧ netPaid g b ≤ netPaid g now

instance (g : Id) (db : HotelDb) : Decidable (Departed g db) :=
  decidable_of_iff ((db.reservations.find? g).any fun r => r.status = .CHECKED_OUT) <| by
    simp [Departed, Option.any_eq_true]

instance (g : Id) (db db' : HotelDb) : Decidable (LeavesOwing g db db') :=
  inferInstanceAs (Decidable (¬_ ∧ _ ∧ _))

instance (g : Id) (w : HotelDb → HotelDb) (h : Trace) (now : HotelDb) :
    Decidable (GateStillHolds g w h now) :=
  inferInstanceAs (Decidable (_ → _))

/-! ## What no call here changes -/

/-- What the room charge and its tax are worked out from. -/
def Reservation.bill (r : Reservation) : Id × ℤ × ℤ × ℤ × ℤ × GuestDetails :=
  (r.propertyId, r.totalPaise, r.ratePaise, r.checkIn, r.checkOut, r.guest)

/-- The room costs the same, and so does its tax. -/
structure SameBill (g : Id) (db db' : HotelDb) : Prop where
  stay : (Folio.stay g db').map Reservation.bill = (Folio.stay g db).map Reservation.bill
  taxes : db'.propertyTaxes = db.propertyTaxes

section Bill

variable {g : Id} {db db' b₁ b₄ : HotelDb}

theorem SameBill.refl (g : Id) (db : HotelDb) : SameBill g db db := ⟨rfl, rfl⟩

theorem SameBill.trans {db'' : HotelDb} (h : SameBill g db db') (h' : SameBill g db' db'') :
    SameBill g db db'' :=
  ⟨h'.stay.trans h.stay, h'.taxes.trans h.taxes⟩

theorem SameBill.of_eq (hr : db'.reservations = db.reservations)
    (ht : db'.propertyTaxes = db.propertyTaxes) : SameBill g db db' := by
  refine ⟨?_, ht⟩
  unfold Folio.stay
  rw [hr]

theorem SameBill.of_update {p : Reservation → Bool} {f : Reservation → Reservation}
    (hid : ∀ r, (f r).id = r.id) (hf : ∀ r, (f r).bill = r.bill ∧ (f r).deletedAt = r.deletedAt)
    (hr : db'.reservations = db.reservations.update p f hid)
    (ht : db'.propertyTaxes = db.propertyTaxes) : SameBill g db db' := by
  refine ⟨?_, ht⟩
  unfold Folio.stay
  rw [hr, find?_update]
  cases hfind : db.reservations.find? g with
  | none => rfl
  | some r =>
    obtain ⟨hbill, hlive⟩ := hf r
    by_cases hp : p r <;> by_cases hd : r.deletedAt.isNone <;>
      simp [hp, hd, hbill, hlive, Option.filter]

/-- The tax of a room by the taxes of one state, on a row of another. -/
def roomTaxWith (db : HotelDb) (stay : Option Reservation) : ℤ :=
  (stay.map fun r => roomGstOf r + propertyTaxOf db r).getD 0

theorem roomTaxWith_congr {r r' : Reservation} (hbill : r'.bill = r.bill)
    (ht : db'.propertyTaxes = db.propertyTaxes) :
    roomGstOf r' + propertyTaxOf db' r' =
      roomGstOf r + propertyTaxOf db r := by
  simp only [Reservation.bill, Prod.mk.injEq] at hbill
  obtain ⟨hproperty, htotal, hrate, hin, hout, hguest⟩ := hbill
  unfold roomGstOf propertyTaxOf
  rw [hproperty, htotal, hrate, hin, hout, hguest, ht]

theorem SameBill.roomCharge (h : SameBill g db db') :
    roomCharge g db' = roomCharge g db := by
  have hmap := congrArg (Option.map fun x => x.2.1) h.stay
  simp only [Option.map_map] at hmap
  exact congrArg (Option.getD · 0) hmap

theorem SameBill.roomTax (h : SameBill g db b₁) (h₄ : SameBill g db b₄) :
    roomTaxWith b₄ (Folio.stay g b₁) = Folio.roomTax g db := by
  have hstay := h.stay
  unfold roomTaxWith Folio.roomTax
  cases h₁ : Folio.stay g b₁ with
  | none =>
    rw [h₁] at hstay
    cases hnow : Folio.stay g db with
    | none => rfl
    | some r => simp [hnow] at hstay
  | some r₁ =>
    rw [h₁] at hstay
    cases hnow : Folio.stay g db with
    | none => simp [hnow] at hstay
    | some r =>
      rw [hnow] at hstay
      simp only [Option.map_some, Option.getD_some, Option.some.injEq] at hstay ⊢
      exact roomTaxWith_congr hstay h₄.taxes

end Bill

/-! ## What the gate reads -/

/-- The balance as `balancePaise` works it out: the stay of one state, the lines of another, the
payments and the taxes of yet others. -/
def balanceAcross (g : Id) (stayDb linesDb paymentsDb taxesDb : HotelDb) : ℤ :=
  roomCharge g stayDb + roomTaxWith taxesDb (Folio.stay g stayDb) + lineCharges g linesDb -
    netPaid g paymentsDb

/-- The history contains what the balance `v` was worked out from. -/
def GateRead (g : Id) (h : Trace) (v : ℤ) : Prop :=
  ∃ b₁ b₂ b₃ b₄, (∀ b ∈ [b₁, b₂, b₃, b₄], .saw (.folio g) b ∈ h) ∧ v = balanceAcross g b₁ b₂ b₃ b₄

section Reads

variable {g : Id} {C : Trace → (HotelDb → HotelDb) → Prop} {P : ℤ → Trace → Tx HotelDb → Prop}
  {E : Err → Trace → Tx HotelDb → Prop} {h : Trace}

theorem balanceAcross_self (db : HotelDb) : balanceAcross g db db db db = balance g db := by
  unfold balanceAcross lineCharges balance tax
  have hroom : roomTaxWith db (Folio.stay g db) = Folio.roomTax g db := rfl
  omega

theorem wp_roomTaxOf {P : GstBreakdown × ℤ × Bool → Trace → Tx HotelDb → Prop}
    (stay : Option Reservation) (hE : ∀ e h t, E e h t)
    (hP : ∀ out o b₄, Quiet o → (stay = none ∨ .saw (.folio g) b₄ ∈ o) →
      out.1.taxPaise + out.2.1 = roomTaxWith b₄ stay → P out (o ++ h) .idle) :
    (roomTaxOf stay (.folio g)).wp C P E h .idle := by
  cases stay with
  | none => exact hP _ [] default quiet_nil (.inl rfl) (by simp [computeGst, roundDiv, roomTaxWith])
  | some r =>
    have hgst : ∀ intra, (if 0 < r.totalPaise then
        computeGstForCategory .accommodation r.totalPaise (some r.ratePaise) intra
      else computeGst 0 0 intra "").taxPaise = roomGstOf r := by
      intro intra
      unfold roomGstOf
      by_cases hpos : 0 < r.totalPaise
      · rw [if_pos hpos, if_pos hpos]
        rfl
      · rw [if_neg hpos, if_neg hpos]
        simp [computeGst, roundDiv]
    have hintra : (intraStateFor r.propertyId r.guest.companyGstin (.folio g)).ReadOnly :=
      .ite _ (.pure _) (.bind (.select _ _) fun _ => .pure _)
    simp only [roomTaxOf, roomTax, wp_bind]
    refine hintra.wp_idle _ (fun intra o ho => ?_) fun _ _ _ => hE _ _ _
    simp only [wp_simps, hE]
    intro b₄
    exact hP (_, _, intra) (.saw (.folio g) b₄ :: o) b₄ ho (.inr (by simp))
      (congrArg (· + propertyTaxOf b₄ r) (hgst intra))

/-- The balance a summary answers is worked out from what it has read, whatever others commit
between its reads. -/
theorem wp_balancePaise (hE : ∀ e h t, E e h t)
    (hP : ∀ v o, Quiet o → GateRead g o v → P v (o ++ h) .idle) :
    (balancePaise g).wp C P E h .idle := by
  simp only [balancePaise, summary, wp_bind, wp_select_idle, hE, trivially]
  intro b₁ b₂ b₃
  refine wp_roomTaxOf (Folio.stay g b₁) hE fun out o b₄ ho hb₄ htax => ?_
  simp only [wp_pure]
  have hread : GateRead g (o ++ [.saw (.folio g) b₃, .saw (.folio g) b₂, .saw (.folio g) b₁])
      (balanceAcross g b₁ b₂ b₃ b₄) := by
    rcases hb₄ with hnone | hsaw
    · refine ⟨b₁, b₂, b₃, b₁, by simp, ?_⟩
      unfold balanceAcross
      rw [hnone]
      rfl
    · exact ⟨b₁, b₂, b₃, b₄, by simp [hsaw], rfl⟩
  have hvalue := hP _ _ (quiet_append.mpr ⟨ho, by simp⟩) hread
  have hnet := payments_sub_refunds (b₃.folioPayments.filter fun p => p.reservationId = g)
  convert hvalue using 1
  · show roomCharge g b₁ + ancillary g b₂ +
      (out.1.taxPaise + out.2.1 + lineTax g b₂) - (_ - _) = _
    rw [hnet, balanceAcross, ← htax, lineCharges]
    show _ - netPaid g b₃ = _
    omega
  · simp

end Reads

/-! ## What the calls publish -/

/-- A write leaves the bill of the room alone, and lets nobody go; or it is the commit of a
check-out whose gate has found nothing to pay. -/
inductive GateWrite (g : Id) (h : Trace) (w : HotelDb → HotelDb) : Prop where
  | stays (hbill : ∀ db, SameBill g db (w db)) (hs : ∀ db, Departed g (w db) → Departed g db)
  | departs {v : ℤ} {o h' : Trace} (hbill : ∀ db, SameBill g db (w db))
      (hlines : ∀ db, (w db).folioLineItems = db.folioLineItems)
      (hpaid : ∀ db, (w db).folioPayments = db.folioPayments)
      (hread : GateRead g o v) (hquiet : Quiet o) (hh : h = o ++ h') (hv : v ≤ 0)

section Calls

variable {g : Id} {h : Trace} {w : HotelDb → HotelDb}

theorem Departed.congr {db db' : HotelDb} (hr : db'.reservations = db.reservations)
    (h : Departed g db') : Departed g db := by
  unfold Departed at h ⊢
  rwa [hr] at h

theorem GateWrite.of_eq (hr : ∀ db, (w db).reservations = db.reservations)
    (ht : ∀ db, (w db).propertyTaxes = db.propertyTaxes) : GateWrite g h w :=
  .stays (fun db => .of_eq (hr db) (ht db)) fun db => Departed.congr (hr db)

theorem gateWrite_setPaid (id : Id) (net now : ℤ) : GateWrite g h (setPaid id net now) := by
  have hbill : ∀ db, SameBill g db (setPaid id net now db) := by
    intro db
    refine SameBill.of_update ?_ ?_ rfl rfl
    · exact fun _ => rfl
    · exact fun _ => ⟨rfl, rfl⟩
  refine .stays hbill fun db hd => ?_
  obtain ⟨r, hr, hs⟩ := hd
  unfold setPaid at hr
  rw [Option.mem_def, find?_update] at hr
  obtain ⟨r₀, hr₀, rfl⟩ := Option.map_eq_some_iff.mp hr
  refine ⟨r₀, hr₀, ?_⟩
  split at hs
  · exact hs
  · exact hs

theorem gateWrite_insertPayment (input : RecordPaymentInput) :
    GateWrite g h fun db => (insertPayment input db).1 := by
  refine .of_eq (fun db => ?_) fun db => ?_
  · unfold insertPayment
    cases input.idempotencyKey.bind fun k => findPaymentByKey input.reservationId k db <;> rfl
  · unfold insertPayment
    cases input.idempotencyKey.bind fun k => findPaymentByKey input.reservationId k db <;> rfl

theorem wp_postCharge {P : Option FolioLineItem → Trace → Tx HotelDb → Prop}
    {E : Err → Trace → Tx HotelDb → Prop} (input : PostChargeInput) (id : Id) (now : ℤ)
    (hE : ∀ e h t, E e h t) (hP : ∀ a h, P a h .idle) :
    (postCharge input id now).wp (GateWrite g) P E h .idle := by
  have hinsert : ∀ (row : FolioLineItem) h, GateWrite g h fun db => (insertLine row db).1 := by
    refine fun row h => .of_eq (fun db => ?_) fun db => ?_
    · unfold insertLine
      split <;> rfl
    · unfold insertLine
      split <;> rfl
  simp only [postCharge, wp_bind]
  refine (lineOfSource_readOnly _ _).wp_idle _ (fun existing o _ => ?_) fun _ _ _ => hE _ _ _
  cases existing with
  | some line => exact hP _ _
  | none =>
    simp only [wp_bind]
    refine (intraStateForId_readOnly _).wp_idle _ (fun intra o' _ => ?_) fun _ _ _ => hE _ _ _
    simp only [wp_write_idle, hinsert, hE, trivially]
    intro db
    cases (insertLine (newLine input id intra now) db).2 with
    | some row => exact hP _ _
    | none => exact (lineOfSource_readOnly _ _).wp_idle _ (fun _ _ _ => hP _ _) fun _ _ _ => hE _ _ _

theorem FolioOp.wp_prog (op : FolioOp) :
    op.prog.wp (GateWrite g) (fun _ _ _ => True) (fun _ _ _ => True) [] .idle := by
  have hevent : ∀ (e : FolioEvent) h,
      GateWrite g h fun db => { db with folioEvents := db.folioEvents ++ [e] } :=
    fun _ _ => .of_eq (fun _ => rfl) fun _ => rfl
  cases op with
  | postCharge input id now =>
    simp only [prog, wp_simps]
    exact wp_postCharge input id now (fun _ _ _ => trivial) fun _ _ => trivial
  | applyDiscount input id now =>
    simp only [prog, FolioService.applyDiscount, wp_simps]
    refine wp_postCharge _ id now (fun _ _ _ => trivial) fun posted h => ?_
    simp [logEvent, hevent]
  | voidLine input now =>
    have hvoid : ∀ h, GateWrite g h fun db =>
        updateLines db (VoidLineInput.selects input) (VoidLineInput.void input now) :=
      fun _ => .of_eq (fun _ => rfl) fun _ => rfl
    simp [prog, FolioService.voidLine, logEvent, hevent, hvoid, wp_forSome]
  | setLineTaxExempt input now =>
    simp only [prog, FolioService.setLineTaxExempt, wp_simps]
    intro b
    cases lineOnFolio input.reservationId input.lineId b with
    | none => trivial
    | some line =>
      have hset : ∀ gst h, GateWrite g h fun db =>
          updateLines db (fun l => l.id = line.id) (LineTaxExemptInput.set input gst now) :=
        fun _ _ => .of_eq (fun _ => rfl) fun _ => rfl
      simp only [wp_bind]
      refine (intraStateForId_readOnly _).wp_idle _ (fun intra o _ => ?_) fun _ _ _ => trivial
      simp [logEvent, hevent, hset]
  | recordPayment input now =>
    simp only [prog, wp_simps]
    exact wp_payment input now (fun _ => gateWrite_insertPayment input)
      (fun _ _ => gateWrite_setPaid _ _ _) (fun _ _ _ => trivial) fun _ _ => trivial

/-- A state has the stays, the taxes, the lines and the payments of another. -/
structure FolioKept (db db' : HotelDb) : Prop where
  reservations : db'.reservations = db.reservations
  taxes : db'.propertyTaxes = db.propertyTaxes
  lines : db'.folioLineItems = db.folioLineItems
  payments : db'.folioPayments = db.folioPayments

theorem wp_cleanKept {P : Unit → Trace → Tx HotelDb → Prop} {E : Err → Trace → Tx HotelDb → Prop}
    (propertyId roomId : Id) (actorStaffId : Option Id) (now : ℤ) (hE : ∀ e h t, E e h t)
    (hP : ∀ o v, Quiet o → (∀ db, FolioKept db (v db)) → P () (o ++ h) (.active (v ∘ w))) :
    (createCheckoutCleanForRoom propertyId roomId actorStaffId now).wp (GateWrite g) P E h
      (.active w) := by
  simp only [createCheckoutCleanForRoom, wp_simps, wp_when, hE]
  intro b
  refine ⟨fun _ b' => ?_, fun _ => ?_⟩
  · exact hP [_] _ (by simp) fun db => ⟨rfl, rfl, rfl, rfl⟩
  · exact hP [_] id (by simp) fun db => ⟨rfl, rfl, rfl, rfl⟩

theorem wp_checkOut (env : Env) (propertyId : Id) (dto : CheckOutDto) (actorStaffId : Option Id)
    (hno : dto.allowOutstanding = false) :
    (checkOut env propertyId g dto actorStaffId).wp (GateWrite g) (fun _ _ _ => True)
      (fun _ _ _ => True) [] .idle := by
  have hcollect : ∀ {P : Unit → Trace → Tx HotelDb → Prop} {h : Trace}, (∀ h, P () h .idle) →
      Prog.wp (GateWrite g) P (fun _ _ _ => True) (when (0 < dto.collectedPaise.getD 0) do
        let _ ← recordPayment
          { reservationId := g
            propertyId
            method := dto.paymentMethod.getD .CASH
            amountPaise := dto.collectedPaise.getD 0
            reference := dto.reference
            collectedBy := actorStaffId
            idempotencyKey := dto.idempotencyKey } env.now) h .idle := by
    intro P h hP
    simp only [wp_when, wp_simps]
    exact ⟨fun _ => wp_payment _ _ (fun _ => gateWrite_insertPayment _)
      (fun _ _ => gateWrite_setPaid _ _ _) (fun _ _ _ => trivial) fun _ _ => hP _, fun _ => hP _⟩
  simp only [checkOut, wp_simps, wp_requireReservation, assertTransition_ok]
  intro b before _ _ _
  refine hcollect fun h => ?_
  refine wp_balancePaise (fun _ _ _ => trivial) fun v o ho hread => ?_
  simp only [hno, wp_simps, updateReservation, setRoomStatus, recordEvent, wp_forSome, wp_hydrate]
  intro hv
  -- the commit, with whatever was read since the gate
  have hleave : ∀ (o₁ : Trace) (w : HotelDb → HotelDb), Quiet o₁ →
      (∀ db, (w db).reservations = db.reservations.update (fun r => r.id = g) fun r =>
        { r with status := .CHECKED_OUT, checkedOutAt := some env.now, updatedAt := env.now }) →
      (∀ db, (w db).propertyTaxes = db.propertyTaxes) →
      (∀ db, (w db).folioLineItems = db.folioLineItems) →
      (∀ db, (w db).folioPayments = db.folioPayments) → GateWrite g (o₁ ++ (o ++ h)) w := by
    intro o₁ w ho₁ hres htaxes hlines hpaid
    have hbill : ∀ db, SameBill g db (w db) := by
      intro db
      refine SameBill.of_update ?_ ?_ (hres db) (htaxes db)
      · exact fun _ => rfl
      · exact fun _ => ⟨rfl, rfl⟩
    obtain ⟨b₁, b₂, b₃, b₄, hmem, hv'⟩ := hread
    have hread' : GateRead g (o₁ ++ o) v :=
      ⟨b₁, b₂, b₃, b₄, fun b hb => List.mem_append_right _ (hmem b hb), hv'⟩
    exact .departs hbill hlines hpaid hread' (quiet_append.mpr ⟨ho₁, ho⟩)
      (List.append_assoc _ _ _).symm (not_lt.mp hv)
  intro _
  refine ⟨fun roomId _ _ => ?_, fun _ _ => ?_⟩
  · refine wp_cleanKept propertyId roomId actorStaffId env.now (fun _ _ _ => trivial)
      fun o₁ u ho₁ hu => ?_
    simp only [wp_write_active, trivially]
    refine fun _ => hleave o₁ _ ho₁ (fun db => ?_) (fun db => ?_) (fun db => ?_) fun db => ?_
    · exact (hu _).reservations
    · exact (hu _).taxes
    · exact (hu _).lines
    · exact (hu _).payments
  · exact hleave [] _ quiet_nil (fun _ => rfl) (fun _ => rfl) (fun _ => rfl) fun _ => rfl

end Calls

/-! ## The gate -/

section Gate

variable {g : Id} {db : HotelDb}

theorem mem_readsSinceWrite {h' : Trace} {l : Look} {b : HotelDb} :
    ∀ {o : Trace}, Quiet o → .saw l b ∈ o → (l, b) ∈ readsSinceWrite (o ++ h') := by
  intro o
  induction o with
  | nil =>
    intro _ hm
    cases hm
  | cons x o ih =>
    intro hq hm
    cases x with
    | wrote w => exact absurd hq quiet_wrote
    | saw l' b' =>
      rcases List.mem_cons.mp hm with heq | hold
      · cases heq
        exact List.mem_cons_self
      · exact List.mem_cons_of_mem _ (ih hq hold)

theorem mem_folioReads {o h' : Trace} {b : HotelDb} (hq : Quiet o) (hm : .saw (.folio g) b ∈ o) :
    b ∈ folioReads g (o ++ h') :=
  List.mem_filterMap.mpr ⟨_, mem_readsSinceWrite hq hm, by simp⟩

/-- If what the gate has read still holds, the balance is what the gate has let pass. -/
theorem balance_le_gate {now b₁ b₂ b₃ b₄ : HotelDb} (h₁ : SameBill g now b₁) (h₄ : SameBill g now b₄)
    (hlines : lineCharges g now ≤ lineCharges g b₂) (hpaid : netPaid g b₃ ≤ netPaid g now) :
    balance g now ≤ balanceAcross g b₁ b₂ b₃ b₄ := by
  rw [← balanceAcross_self]
  unfold balanceAcross
  have hroom := h₁.roomCharge
  have htax := h₁.roomTax h₄
  have hself : roomTaxWith now (Folio.stay g now) = Folio.roomTax g now := rfl
  omega

theorem GateWrite.step {db₀ now : HotelDb} {h : Trace} {w : HotelDb → HotelDb}
    (hw : GateWrite g h w) (hseen : ∀ l b, .saw l b ∈ h → SameBill g db₀ b)
    (hgate : GateStillHolds g w h now) (hnow : SameBill g db₀ now) :
    SameBill g db₀ (w now) ∧ ¬LeavesOwing g now (w now) := by
  cases hw with
  | stays hbill hs => exact ⟨hnow.trans (hbill now), fun h => h.1 (hs now h.2.1)⟩
  | @departs v o h' hbill hlines hpaid hread hquiet hh hv =>
    refine ⟨hnow.trans (hbill now), ?_⟩
    rintro ⟨hstayed, hleft, howes⟩
    subst hh
    have hread' := hgate hstayed hleft
    obtain ⟨b₁, b₂, b₃, b₄, hmem, rfl⟩ := hread
    have hsame : ∀ b ∈ [b₁, b₂, b₃, b₄], SameBill g now b := by
      intro b hb
      have hb₀ := hseen _ b (List.mem_append_left _ (hmem b hb))
      exact ⟨hb₀.stay.trans hnow.stay.symm, hb₀.taxes.trans hnow.taxes.symm⟩
    have hle := balance_le_gate (hsame b₁ (by simp)) (hsame b₄ (by simp))
      (hread' b₂ (mem_folioReads hquiet (hmem b₂ (by simp)))).1
      (hread' b₃ (mem_folioReads hquiet (hmem b₃ (by simp)))).2
    -- the commit itself costs nothing
    have hbalance : balance g (w now) = balance g now := by
      have hroom := (hbill now).roomCharge
      have htax := (hbill now).roomTax (hbill now)
      have hself : roomTaxWith (w now) (Folio.stay g (w now)) = Folio.roomTax g (w now) := rfl
      have hcharges : ancillary g (w now) = ancillary g now ∧
          lineTax g (w now) = lineTax g now := by
        unfold ancillary Folio.lineTax Folio.liveLines
        rw [hlines]
        exact ⟨rfl, rfl⟩
      have hnet : netPaid g (w now) = netPaid g now := by
        unfold netPaid
        rw [hpaid]
      unfold balance tax
      omega
    omega

end Gate

/-- While check-out and any number of folio calls are interleaved, the guest owes nothing at
the moment of leaving, if the gate still holds at the commit. -/
theorem nobody_leaves_owing (env : Env) (propertyId g : Id) (dto : CheckOutDto)
    (actorStaffId : Option Id) (hno : dto.allowOutstanding = false) (ops : List FolioOp)
    (db : HotelDb) (evs : List Event)
    (hgate : (Config.start db (gateCalls env propertyId g dto actorStaffId ops)).Throughout
      (Guarded (GateStillHolds g)) evs) :
    (Config.start db (gateCalls env propertyId g dto actorStaffId ops)).EveryStep
      (fun s s' => ¬LeavesOwing g s s') evs := by
  refine Config.throughout_steps (C := fun _ => GateWrite g) (I := SameBill g db) (fun i p hp => ?_)
    (fun s h => h.1 h.2.1) (fun i h w now hw hseen hguard hnow => hw.step hseen hguard hnow)
    (SameBill.refl g db) evs hgate
  cases i with
  | zero =>
    obtain rfl := Option.some.inj hp
    simp only [wp_simps]
    exact wp_checkOut env propertyId dto actorStaffId hno
  | succ i =>
    simp only [gateCalls, List.getElem?_cons_succ, List.getElem?_map, Option.map_eq_some_iff] at hp
    obtain ⟨op, -, rfl⟩ := hp
    exact op.wp_prog

/-! ## A dinner on the room -/

/-- A restaurant bill of ₹50 posted to the room. -/
def dinnerOnRoom : FolioOp :=
  .postCharge
    { reservationId := 1, propertyId := 1, kind := .RESTAURANT, description := "Dinner"
      amountPaise := 5000, taxExempt := true } 1 0

/-- An advance of ₹50. -/
def advance : FolioOp :=
  .recordPayment { reservationId := 1, propertyId := 1, method := .CARD, amountPaise := 5000 } 0

/-- The gate has read all it compares, the other call runs, and check-out goes on. -/
def betweenGateAndCommit (steps : ℕ) : List Event :=
  List.replicate 6 (.step 0) ++ List.replicate steps (.step 1) ++ List.replicate 4 (.step 0)

/-- The guest is gone, and the dinner is not paid. -/
theorem left_owing_dinner :
    ∃ c, (Config.start (oneNight 0) (gateCalls { now := 0 } 1 1 {} none [dinnerOnRoom])).run
        (betweenGateAndCommit 2) = some c ∧
      (∀ s ∈ c.sessions, s.finished) ∧ Departed 1 c.db ∧ balance 1 c.db = 5000 ∧
      ¬(Config.start (oneNight 0) (gateCalls { now := 0 } 1 1 {} none [dinnerOnRoom])).EveryStep
        (fun s s' => ¬LeavesOwing 1 s s') (betweenGateAndCommit 2) :=
  ⟨_, rfl, by decide, by decide, by decide, by decide⟩

/-- A payment between the two does no harm. -/
theorem left_after_advance :
    (Config.start (oneNight 0) (gateCalls { now := 0 } 1 1 {} none [advance])).EveryStep
      (fun s s' => ¬LeavesOwing 1 s s') (betweenGateAndCommit 4) :=
  nobody_leaves_owing { now := 0 } 1 1 {} none rfl [advance] (oneNight 0) (betweenGateAndCommit 4)
    (by decide)

end Travelo

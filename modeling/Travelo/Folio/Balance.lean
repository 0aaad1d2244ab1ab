import Travelo.Reservations.Commit

/-!
# What is still owed

`Folio.balance g db` is what the guest of stay `g` owes in `db`: the room, the lines and
the tax on both, less what was paid. `eval_summary` connects it to `FolioService.summary`
and so to the gate of `checkOut`; `collectPayment` works its own balance out.
-/

namespace Travelo

open ReadCommitted FolioService

namespace Folio

variable (g : Id) (db : HotelDb)

/-- The stay a folio belongs to. -/
def stay : Option Reservation := (db.reservations.find? g).filter fun r => r.deletedAt.isNone

/-- The lines that count. -/
def liveLines : List FolioLineItem :=
  (db.folioLineItems.rows.filter fun l => l.reservationId = g).filter fun l => l.voidedAt.isNone

def roomCharge : ℤ := ((stay g db).map (·.totalPaise)).getD 0

def roomGstOf (r : Reservation) : ℤ :=
  if 0 < r.totalPaise then
    (computeGstForCategory .accommodation r.totalPaise (some r.ratePaise) true).taxPaise
  else 0

/-- The hotel's own taxes and fees on a room. -/
def propertyTaxOf (r : Reservation) : ℤ :=
  (((db.propertyTaxes.filter fun t =>
    t.propertyId = r.propertyId && t.isActive && t.deletedAt.isNone).filter fun t =>
      t.appliesTo = .ROOM || t.appliesTo = .ALL).map fun t =>
        propertyTaxAmount t r.totalPaise (max 1 (nightsBetween r.checkIn r.checkOut))
          (max 1 (r.guest.adults + r.guest.children))).sum

/-- All tax on the room. -/
def roomTax : ℤ := ((stay g db).map fun r => roomGstOf r + propertyTaxOf db r).getD 0

def ancillary : ℤ := ((liveLines g db).map (·.amountPaise)).sum

def lineTax : ℤ := ((liveLines g db).map (·.taxPaise)).sum

/-- All tax on the folio. -/
def tax : ℤ := roomTax g db + lineTax g db

def balance : ℤ := roomCharge g db + ancillary g db + tax g db - netPaid g db

theorem room_congr {db db' : HotelDb} (hres : db'.reservations = db.reservations)
    (htax : db'.propertyTaxes = db.propertyTaxes) :
    roomCharge g db' = roomCharge g db ∧ roomTax g db' = roomTax g db := by
  have hstay : stay g db' = stay g db := by
    unfold stay
    rw [hres]
  unfold roomCharge roomTax propertyTaxOf
  rw [hstay, htax]
  exact ⟨rfl, rfl⟩

end Folio

namespace FolioService

variable {db : HotelDb}

/-! ## The summary -/

theorem payments_sub_refunds (l : List FolioPayment) :
    ((l.filter fun p => p.direction = .PAYMENT).map (·.amountPaise)).sum -
      ((l.filter fun p => p.direction = .REFUND).map (·.amountPaise)).sum =
        (l.map fun p => match p.direction with
          | .REFUND => -p.amountPaise
          | .PAYMENT => p.amountPaise).sum := by
  induction l with
  | nil => rfl
  | cons p l ih =>
    cases hp : p.direction <;> simp [hp] <;> omega

theorem eval_intraStateFor (db : HotelDb) (propertyId : Id) (companyGstin : Option String)
    (look : Look) :
    ∃ b, (intraStateFor propertyId companyGstin look).eval .idle db = (.ok b, .idle, db) := by
  unfold intraStateFor
  split
  · exact ⟨_, rfl⟩
  · exact ⟨_, rfl⟩

theorem eval_roomTax (db : HotelDb) (r : Reservation) (look : Look) :
    ∃ gst intra, (roomTax r look).eval .idle db =
      (.ok (gst, Folio.propertyTaxOf db r, intra), .idle, db) ∧
        gst.taxPaise = Folio.roomGstOf r := by
  obtain ⟨intra, hintra⟩ := eval_intraStateFor db r.propertyId r.guest.companyGstin look
  simp only [roomTax, eval_simps, hintra]
  refine ⟨_, _, rfl, ?_⟩
  unfold Folio.roomGstOf
  by_cases hpos : 0 < r.totalPaise
  · rw [if_pos hpos, if_pos hpos]
    rfl
  · rw [if_neg hpos, if_neg hpos]
    simp [computeGst, roundDiv]

theorem eval_summary (db : HotelDb) (g : Id) : ∃ s, (summary g).eval .idle db = (.ok s, .idle, db) ∧
    s.ancillaryPaise = Folio.ancillary g db ∧ s.taxPaise = Folio.tax g db ∧
      s.netPaidPaise = netPaid g db ∧ s.balancePaise = Folio.balance g db := by
  have hroom : ∃ gst intra tax, (roomTaxOf (Folio.stay g db) (.folio g)).eval .idle db =
      (.ok (gst, tax, intra), .idle, db) ∧ gst.taxPaise + tax = Folio.roomTax g db := by
    unfold Folio.roomTax
    cases hs : Folio.stay g db with
    | none =>
      refine ⟨_, _, _, rfl, ?_⟩
      simp [computeGst, roundDiv]
    | some r =>
      obtain ⟨gst, intra, heval, hgst⟩ := eval_roomTax db r (.folio g)
      exact ⟨gst, intra, _, heval, by simp [hgst]⟩
  obtain ⟨gst, intra, tax, heval, htax⟩ := hroom
  have hnet := payments_sub_refunds (db.folioPayments.filter fun p => p.reservationId = g)
  unfold Folio.stay at heval
  simp only [summary, eval_simps, heval]
  refine ⟨_, rfl, rfl, ?_, ?_, ?_⟩
  · show gst.taxPaise + tax + Folio.lineTax g db = _
    rw [htax]
    rfl
  · exact hnet
  · show Folio.roomCharge g db + Folio.ancillary g db +
      (gst.taxPaise + tax + Folio.lineTax g db) - (_ - _) = _
    rw [hnet, htax]
    rfl

theorem eval_balancePaise (g : Id) :
    (balancePaise g).eval .idle db = (.ok (Folio.balance g db), .idle, db) := by
  obtain ⟨s, heval, -, -, -, hbal⟩ := eval_summary db g
  simp only [balancePaise, eval_simps, heval, hbal]

/-! ## A payment -/

/-- The row a payment inserts. -/
def paymentRow (input : RecordPaymentInput) : FolioPayment :=
  { reservationId := input.reservationId
    propertyId := input.propertyId
    direction := input.direction.getD .PAYMENT
    method := input.method
    amountPaise := input.amountPaise
    reference := input.reference
    note := input.note
    collectedBy := input.collectedBy
    idempotencyKey := input.idempotencyKey }

/-- The unique index on the key refuses the row. -/
def keyTaken (input : RecordPaymentInput) (db : HotelDb) : Bool :=
  (input.idempotencyKey.bind fun k => findPaymentByKey input.reservationId k db).isSome

def addPayment (p : FolioPayment) (db : HotelDb) : HotelDb :=
  { db with folioPayments := db.folioPayments ++ [p] }

/-- What `recordPayment` leaves when it inserts a row. -/
def recorded (input : RecordPaymentInput) (now : ℤ) (db : HotelDb) : HotelDb :=
  let db' := addPayment (paymentRow input) db
  setPaid input.reservationId (netPaid input.reservationId db') now db'

variable {input : RecordPaymentInput}

theorem insertPayment_of_taken (h : keyTaken input db = true) :
    insertPayment input db = (db, none) := by
  unfold keyTaken at h
  unfold insertPayment
  cases hk : input.idempotencyKey.bind fun k => findPaymentByKey input.reservationId k db with
  | none => simp [hk] at h
  | some p => rfl

theorem insertPayment_of_free (h : keyTaken input db = false) :
    insertPayment input db = (addPayment (paymentRow input) db, some (paymentRow input)) := by
  unfold keyTaken at h
  unfold insertPayment
  cases hk : input.idempotencyKey.bind fun k => findPaymentByKey input.reservationId k db with
  | none => rfl
  | some p => simp [hk] at h

theorem keyTaken_of_paymentOf {p : FolioPayment} (h : paymentOf input db = some p) :
    keyTaken input db = true := by
  unfold paymentOf at h
  unfold keyTaken
  cases hk : input.idempotencyKey with
  | none => simp [hk] at h
  | some k =>
    simp only [hk] at h
    split at h
    · cases h
    · simp [h]

theorem paymentOf_of_keyTaken (hkey : ∀ k, input.idempotencyKey = some k → k ≠ "")
    (h : keyTaken input db = true) :
    ∃ p, paymentOf input db = some p := by
  unfold keyTaken at h
  unfold paymentOf
  cases hk : input.idempotencyKey with
  | none => simp [hk] at h
  | some k =>
    simp only [hk, Option.bind_some] at h
    simpa [hkey k hk] using Option.isSome_iff_exists.mp h

/-- A payment on its own: the row its key has, an error when the key is empty and used, or a
new row. -/
theorem eval_recordPayment (db : HotelDb) (input : RecordPaymentInput) (now : ℤ) :
    (recordPayment input now).eval .idle db =
      match paymentOf input db with
      | some p => (.ok (p, netPaid input.reservationId db), .idle, db)
      | none =>
        if keyTaken input db then
          (.error (.internal "Folio payment could not be recorded"), .idle, db)
        else (.ok (paymentRow input, netPaid input.reservationId (recorded input now db)), .idle,
          recorded input now db) := by
  simp only [recordPayment, eval_simps]
  cases hrow : paymentOf input db with
  | some p => rfl
  | none =>
    cases hkey : keyTaken input db with
    | true => simp [insertPayment_of_taken hkey, winnerOf, hrow]
    | false => simp [insertPayment_of_free hkey, winnerOf, recorded, netPaid, setPaid]

/-- A payment that is answered is on the ledger, and its answer carries the net paid. -/
theorem recordPayment_answers {now net : ℤ} {payment : FolioPayment} {t : Tx HotelDb}
    {db' : HotelDb}
    (heval : (recordPayment input now).eval .idle db = (.ok (payment, net), t, db')) :
    net = netPaid input.reservationId db' ∧ t = .idle ∧
      (db' = db ∨ db' = recorded input now db) := by
  rw [eval_recordPayment] at heval
  cases hrow : paymentOf input db with
  | some p =>
    rw [hrow] at heval
    cases heval
    exact ⟨rfl, rfl, .inl rfl⟩
  | none =>
    rw [hrow] at heval
    cases hkey : keyTaken input db with
    | true => simp [hkey] at heval
    | false =>
      simp only [hkey, Bool.false_eq_true, if_false] at heval
      cases heval
      exact ⟨rfl, rfl, .inr rfl⟩

end FolioService

namespace Folio

/-! ## What a payment leaves alone -/

variable {g : Id} {db : HotelDb}

variable (reservationId : Id) (netPaidPaise now : ℤ)

theorem stay_setPaid :
    stay g (setPaid reservationId netPaidPaise now db) = (stay g db).map fun r =>
      if r.id = reservationId then { r with paidPaise := netPaidPaise, updatedAt := now } else r := by
  unfold stay setPaid
  rw [find?_update]
  cases hr : db.reservations.find? g with
  | none => rfl
  | some r =>
    by_cases hid : r.id = reservationId <;> by_cases hl : r.deletedAt = none <;>
      simp [hid, hl, Option.filter]

theorem roomCharge_setPaid :
    roomCharge g (setPaid reservationId netPaidPaise now db) = roomCharge g db := by
  unfold roomCharge
  rw [stay_setPaid, Option.map_map]
  congr 2
  funext r
  simp only [Function.comp_apply]
  split <;> rfl

theorem roomTax_setPaid :
    roomTax g (setPaid reservationId netPaidPaise now db) = roomTax g db := by
  unfold roomTax
  rw [stay_setPaid, Option.map_map]
  congr 2
  funext r
  simp only [Function.comp_apply]
  split <;> rfl

variable (input : RecordPaymentInput)

@[simp] theorem roomCharge_recorded (now : ℤ) :
    roomCharge g (recorded input now db) = roomCharge g db := by
  rw [recorded, roomCharge_setPaid]
  rfl

@[simp] theorem ancillary_recorded (now : ℤ) :
    ancillary g (recorded input now db) = ancillary g db := rfl

@[simp] theorem tax_recorded (now : ℤ) :
    tax g (recorded input now db) = tax g db := by
  unfold tax
  rw [recorded, roomTax_setPaid]
  rfl

end Folio

namespace ReservationsService

theorem reservationOf_setPaid (propertyId id reservationId : Id) (netPaidPaise now : ℤ)
    (db : HotelDb) : reservationOf propertyId id (setPaid reservationId netPaidPaise now db) =
      (reservationOf propertyId id db).map fun r =>
        if r.id = reservationId then { r with paidPaise := netPaidPaise, updatedAt := now }
        else r := by
  unfold reservationOf setPaid
  rw [find?_update]
  cases hr : db.reservations.find? id with
  | none => rfl
  | some r =>
    by_cases hid : r.id = reservationId <;> by_cases hl : r.deletedAt = none <;>
      by_cases hp : r.propertyId = propertyId <;> simp [hid, hl, hp, Option.filter]

variable {env : Env} {propertyId reservationId : Id} {db : HotelDb}

/-! ## The three balances -/

/-- With nothing handed over, the gate of `checkOut` compares `b` with zero: it refuses with
`b`, or lets the guest go with `b`. -/
def GateCompares (propertyId reservationId : Id) (db : HotelDb) (b : ℤ) : Prop :=
  ∀ (env : Env) (dto : CheckOutDto) (actorStaffId : Option Id), dto.collectedPaise.getD 0 ≤ 0 →
    let res := ((checkOut env propertyId reservationId dto actorStaffId).run db).res
    if 0 < b ∧ dto.allowOutstanding = false then res = .error (.balanceOutstanding b)
    else ∃ after, res = .ok (.CHECKED_IN, after, b, decide (0 < b) && dto.allowOutstanding)

/-- `b` is the balance of the folio wherever it is asked for. -/
def OneBalance (propertyId reservationId : Id) (db : HotelDb) (b : ℤ) : Prop :=
  ((summary reservationId).run db).res.map (·.balancePaise) = .ok b ∧
    ∀ r, reservationOf propertyId reservationId db = some r → r.status = .CHECKED_IN →
      GateCompares propertyId reservationId db b

theorem gateCompares_balance {r : Reservation}
    (hread : reservationOf propertyId reservationId db = some r) (hs : r.status = .CHECKED_IN) :
    GateCompares propertyId reservationId db (Folio.balance reservationId db) := by
  intro env dto actorStaffId hnone
  have hfind : db.reservations.find? reservationId = some r :=
    Option.eq_some_of_filter_eq_some hread
  have hclean : ∀ w roomId, ∃ w', (createCheckoutCleanForRoom propertyId roomId actorStaffId
      env.now).eval (.active w) db = (.ok (), .active w', db) := by
    intro w roomId
    simp only [createCheckoutCleanForRoom, eval_simps, eval_when]
    split
    · exact ⟨_, rfl⟩
    · exact ⟨_, rfl⟩
  have hready : canTransition r.status .CHECKED_OUT = true := by
    rw [hs]
    rfl
  simp only [Prog.run_res, checkOut, eval_simps, eval_requireReservation, hread, Option.elim_some,
    assertTransition, hready, if_true, eval_when, eval_balancePaise, if_neg (not_lt.mpr hnone)]
  split
  · rfl
  · cases hroom : r.roomId with
    | none => simp [updateReservation, recordEvent, hfind, hs]
    | some roomId =>
      choose w' hw' using fun w => hclean w roomId
      simp [updateReservation, recordEvent, setRoomStatus, hw', hfind, hs]

theorem eval_folioAncillary (g : Id) :
    (folioAncillary g).eval .idle db = (.ok (Folio.ancillary g db), .idle, db) := by
  obtain ⟨s, heval, hanc, -, -, -⟩ := eval_summary db g
  simp only [folioAncillary, eval_simps, heval, hanc]

/-- What `collectPayment` hands to `recordPayment`. -/
def collectedInput (propertyId reservationId : Id) (input : CollectPaymentInput)
    (actorStaffId : Option Id) : RecordPaymentInput :=
  { reservationId
    propertyId
    method := input.method
    amountPaise := input.amountPaise
    direction := input.direction
    reference := input.reference
    note := input.note
    collectedBy := actorStaffId
    idempotencyKey := input.idempotencyKey }

theorem eval_collectPayment (env : Env) {input : CollectPaymentInput} (actorStaffId : Option Id)
    {before : Reservation} (hread : reservationOf propertyId reservationId db = some before)
    (hkey : ∀ k, input.idempotencyKey = some k → k ≠ "") :
    let row := collectedInput propertyId reservationId input actorStaffId
    ∃ out, (collectPayment env propertyId reservationId input actorStaffId).eval .idle db =
      (.ok out, .idle, if keyTaken row db then db else recorded row env.now db) := by
  intro row
  have hrecord := eval_recordPayment db row env.now
  cases htaken : keyTaken row db with
  | true =>
    obtain ⟨p, hp⟩ := @paymentOf_of_keyTaken db row hkey htaken
    simp only [hp] at hrecord
    simp only [row, collectedInput] at hrecord
    simp only [collectPayment, eval_simps, eval_requireReservation, hread, Option.elim_some,
      hrecord, eval_folioAncillary, if_true]
    exact ⟨_, rfl⟩
  | false =>
    have hnone : paymentOf row db = none := by
      by_contra hsome
      obtain ⟨p, hp⟩ := Option.ne_none_iff_exists'.mp hsome
      rw [keyTaken_of_paymentOf hp] at htaken
      cases htaken
    simp only [hnone, htaken] at hrecord
    simp only [row, collectedInput] at hrecord
    simp only [collectPayment, eval_simps, eval_requireReservation, hread, Option.elim_some,
      hrecord, eval_folioAncillary, Bool.false_eq_true, if_false]
    exact ⟨_, rfl⟩

theorem collectPayment_answers {input : CollectPaymentInput} {actorStaffId : Option Id}
    {payment : FolioPayment} {net b : ℤ}
    (hok : ((collectPayment env propertyId reservationId input actorStaffId).run db).res =
      .ok (payment, net, b)) :
    b = Folio.balance reservationId
        ((collectPayment env propertyId reservationId input actorStaffId).run db).db -
      Folio.tax reservationId db ∧
    Folio.tax reservationId
        ((collectPayment env propertyId reservationId input actorStaffId).run db).db =
      Folio.tax reservationId db := by
  rw [Prog.run_res] at hok
  rw [Prog.run_db]
  simp only [collectPayment, eval_bind, eval_requireReservation] at hok ⊢
  cases hread : reservationOf propertyId reservationId db with
  | none => simp [hread] at hok
  | some before =>
    obtain ⟨hmem, hid, -, hlive⟩ := reservationOf_eq_some.mp hread
    have hcharge : Folio.roomCharge reservationId db = before.totalPaise := by
      have hstay : Folio.stay reservationId db = some before := by
        rw [Folio.stay, Table.find?_eq_some.mpr ⟨hmem, hid⟩]
        simp [hlive]
      rw [Folio.roomCharge, hstay]
      rfl
    simp only [hread, Option.elim_some] at hok ⊢
    split at hok
    · next p t db' heval =>
      obtain ⟨hnet, rfl, hdb⟩ := recordPayment_answers heval
      simp only [eval_folioAncillary, eval_pure, Except.ok.injEq, Prod.mk.injEq]
        at hok ⊢
      obtain ⟨-, -, rfl⟩ := hok
      have hkeep : Folio.roomCharge reservationId db' = Folio.roomCharge reservationId db ∧
          Folio.tax reservationId db' = Folio.tax reservationId db := by
        rcases hdb with rfl | rfl
        · exact ⟨rfl, rfl⟩
        · exact ⟨Folio.roomCharge_recorded _ _, Folio.tax_recorded _ _⟩
      obtain ⟨hroom, htax⟩ := hkeep
      refine ⟨?_, htax⟩
      have hnet' : p.2 = netPaid reservationId db' := hnet
      rw [Folio.balance, hroom, hcharge, htax, hnet']
      omega
    · simp at hok

/-- After a payment the three balances are one exactly when the folio carries no tax. -/
theorem collectPayment_oneBalance_iff (env : Env) (propertyId reservationId : Id)
    (input : CollectPaymentInput) (actorStaffId : Option Id) (db : HotelDb)
    (payment : FolioPayment) (net b : ℤ)
    (hok : ((collectPayment env propertyId reservationId input actorStaffId).run db).res =
      .ok (payment, net, b)) :
    OneBalance propertyId reservationId
        ((collectPayment env propertyId reservationId input actorStaffId).run db).db b ↔
      Folio.tax reservationId db = 0 := by
  obtain ⟨hb, htax⟩ := collectPayment_answers hok
  generalize ((collectPayment env propertyId reservationId input actorStaffId).run db).db = db'
    at hb htax
  obtain ⟨s, heval, -, -, -, hbal⟩ := eval_summary db' reservationId
  have hsummary : ((summary reservationId).run db').res.map (·.balancePaise) =
      .ok (Folio.balance reservationId db') := by
    rw [Prog.run_res, heval, ← hbal]
    rfl
  constructor
  · rintro ⟨hone, -⟩
    rw [hsummary] at hone
    have heq : Folio.balance reservationId db' = b := Except.ok.inj hone
    omega
  · intro hzero
    have heq : Folio.balance reservationId db' = b := by omega
    rw [← heq]
    exact ⟨hsummary, fun r hread hs => gateCompares_balance hread hs⟩

/-! ## Two folios -/

/-- A guest in house for one night. -/
def oneNight (totalPaise : ℤ) : HotelDb :=
  { reservations := (∅ : Table Reservation.id).insert
      { id := 1, propertyId := 1, roomTypeId := 7, roomId := none, reservationNumber := 1
        guest := { guestName := "Asha", guestPhone := "100" }
        checkIn := 10, checkOut := 11, ordered := by decide, status := .CHECKED_IN
        ratePaise := totalPaise, totalPaise } }

/-- A room at ₹1000 is paid in full: the answer is that nothing is owed, while the summary
and the gate ask for the GST of ₹120. -/
theorem settled_but_owing :
    ((collectPayment { now := 0 } 1 1 { method := .CARD, amountPaise := 100000 } none).run
        (oneNight 100000)).res.map (·.2.2) = .ok 0 ∧
      ¬OneBalance 1 1 ((collectPayment { now := 0 } 1 1
        { method := .CARD, amountPaise := 100000 } none).run (oneNight 100000)).db 0 := by
  refine ⟨by decide, fun hone => ?_⟩
  have hsummary : ((summary 1).run ((collectPayment { now := 0 } 1 1
      { method := .CARD, amountPaise := 100000 } none).run (oneNight 100000)).db).res.map
        (·.balancePaise) = .ok 12000 := by decide
  exact absurd (hsummary.symm.trans hone.1) (by decide)

/-- A free room and a payment of ₹50. -/
theorem untaxed_oneBalance :
    OneBalance 1 1 ((collectPayment { now := 0 } 1 1
      { method := .CARD, amountPaise := 5000 } none).run (oneNight 0)).db (-5000) :=
  (collectPayment_oneBalance_iff { now := 0 } 1 1 { method := .CARD, amountPaise := 5000 } none
    (oneNight 0) _ 5000 (-5000) rfl).mpr (by decide)

end ReservationsService

end Travelo

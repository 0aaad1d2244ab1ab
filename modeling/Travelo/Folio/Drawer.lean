import Travelo.Folio.Retry
import Travelo.Reservations.Deeds

/-!
# The drawer

Three endpoints record payments of a folio, and cash that is paid or returned should move
the cash tracker by the same amount. `drawer_matches_iff`: in a run of requests with keys of
their own it does, in every state, exactly when no request returns cash and no check-out
collects any.
-/

namespace Travelo

open ReadCommitted FolioService ReservationsService
open StaffReservationsController (paymentInput)
open CashService (balanceOf)

/-- A request of the staff app. -/
inductive StaffRequest where
  | collectPayment (id : Id) (dto : CollectPaymentDto)
  | refundPayment (id : Id) (dto : CollectPaymentDto)
  | checkOut (id : Id) (dto : CheckOutDto)

structure StaffCall where
  env : Env
  me : AuthenticatedStaff
  request : StaffRequest

def StaffCall.prog (c : StaffCall) : Op Unit :=
  match c.request with
  | .collectPayment id dto => do
    let _ ← StaffReservationsController.collectPayment c.env c.me id dto
  | .refundPayment id dto => do
    let _ ← StaffReservationsController.refundPayment c.env c.me id dto
  | .checkOut id dto => do
    let _ ← StaffReservationsController.checkOut c.env c.me id dto

/-- Requests sent one after another; none of their statements fails by itself. -/
def StaffCall.steps (calls : List StaffCall) : List (StaffCall × (ℕ → Option String)) :=
  calls.map fun c => (c, noFaults)

/-! ## What is compared -/

/-- The cash folio payments of a property, less the cash refunds. -/
def cashTaken (propertyId : Id) (db : HotelDb) : ℤ :=
  ((db.folioPayments.filter fun p => p.propertyId = propertyId && p.method = .CASH).map fun p =>
    match p.direction with
    | .REFUND => -p.amountPaise
    | .PAYMENT => p.amountPaise).sum

/-- From one state to the other, the cash tracker of every property moved by the cash that
was taken. -/
def Tallies (db db' : HotelDb) : Prop :=
  ∀ propertyId, balanceOf propertyId db' - balanceOf propertyId db =
    cashTaken propertyId db' - cashTaken propertyId db

/-! ## What a request records -/

/-- The payment of the money handed over at check-out. -/
def checkOutPayment (propertyId id : Id) (dto : CheckOutDto) (actorStaffId : Option Id) :
    RecordPaymentInput :=
  { reservationId := id
    propertyId
    method := dto.paymentMethod.getD .CASH
    amountPaise := dto.collectedPaise.getD 0
    reference := dto.reference
    collectedBy := actorStaffId
    idempotencyKey := dto.idempotencyKey }

namespace StaffCall

/-- The payment the request is about. -/
def payment (c : StaffCall) : RecordPaymentInput :=
  match c.request with
  | .collectPayment id dto => staffPayment c.me id dto
  | .refundPayment id dto =>
    collectedInput c.me.propertyId id (paymentInput dto .REFUND)
      (some c.me.id)
  | .checkOut id dto => checkOutPayment c.me.propertyId id dto (some c.me.id)

/-- The key of the payment, if it has one, was not used before. -/
def KeyFresh (c : StaffCall) (db : HotelDb) : Prop := keyTaken c.payment db = false

instance (c : StaffCall) (db : HotelDb) : Decidable (c.KeyFresh db) :=
  inferInstanceAs (Decidable (_ = false))

/-- The request gets as far as recording its payment. -/
def Records (c : StaffCall) (db : HotelDb) : Prop :=
  match c.request with
  | .collectPayment id _ => (reservationOf c.me.propertyId id db).isSome
  | .refundPayment id _ => (reservationOf c.me.propertyId id db).isSome
  | .checkOut id dto => 0 < dto.collectedPaise.getD 0 ∧
    (reservationOf c.me.propertyId id db).any fun r => canTransition r.status .CHECKED_OUT

/-- The request neither returns cash nor collects any at check-out, or it is refused first. -/
def Counted (c : StaffCall) (db : HotelDb) : Prop :=
  match c.request with
  | .collectPayment _ _ => True
  | _ => c.payment.method = .CASH → ¬c.Records db

instance : (c : StaffCall) → (db : HotelDb) → Decidable (c.Records db)
  | ⟨_, _, .collectPayment _ _⟩, _ =>
    inferInstanceAs (Decidable (_ = _))
  | ⟨_, _, .refundPayment _ _⟩, _ =>
    inferInstanceAs (Decidable (_ = _))
  | ⟨_, _, .checkOut _ _⟩, _ =>
    inferInstanceAs (Decidable (_ ∧ _))

instance : (c : StaffCall) → (db : HotelDb) → Decidable (c.Counted db)
  | ⟨_, _, .collectPayment _ _⟩, _ => .isTrue trivial
  | ⟨_, _, .refundPayment _ _⟩, _ =>
    inferInstanceAs (Decidable (_ → _))
  | ⟨_, _, .checkOut _ _⟩, _ =>
    inferInstanceAs (Decidable (_ → _))

end StaffCall

section Requests

variable {env : Env} {propertyId id : Id} {db : HotelDb}

theorem eval_recordPayment_fresh {input : RecordPaymentInput} (now : ℤ)
    (hfresh : keyTaken input db = false) : ∃ out, (recordPayment input now).eval .idle db =
      (.ok out, .idle, recorded input now db) := by
  have hnone : paymentOf input db = none := by
    by_contra hsome
    obtain ⟨p, hp⟩ := Option.ne_none_iff_exists'.mp hsome
    rw [keyTaken_of_paymentOf hp] at hfresh
    cases hfresh
  rw [eval_recordPayment, hnone]
  simp only [hfresh, Bool.false_eq_true, if_false]
  exact ⟨_, rfl⟩

theorem ends_clean_ledgers {P : Unit → Tx HotelDb → HotelDb → Prop}
    {E : Err → Tx HotelDb → HotelDb → Prop} {w : HotelDb → HotelDb} (roomId : Id)
    (actorStaffId : Option Id) (now : ℤ) (hE : ∀ e t, E e t db)
    (hP : ∀ v, (∀ s : HotelDb, (v s).ledgers = s.ledgers) → P () (.active (v ∘ w)) db) :
    (createCheckoutCleanForRoom propertyId roomId actorStaffId now).ends P E (.active w) db := by
  simp only [createCheckoutCleanForRoom, ends_simps, ends_when]
  refine ⟨⟨fun _ => ⟨hP _ fun _ => rfl, fun _ => hE _ _⟩, fun _ => ?_⟩, fun _ => hE _ _⟩
  exact hP (fun s => s) fun _ => rfl

theorem checkOut_eq (env : Env) (propertyId id : Id) (dto : CheckOutDto) (actorStaffId : Option Id) :
    ∃ leave : Reservation → Op (ReservationStatus × ReservationDto × ℤ × Bool),
      (∀ r db, (leave r).ends (fun _ _ s => s.ledgers = db.ledgers)
        (fun _ _ s => s.ledgers = db.ledgers) .idle db) ∧
      checkOut env propertyId id dto actorStaffId = (do
        let before ← requireReservation propertyId id
        lift (assertTransition before.status .CHECKED_OUT)
        when (0 < dto.collectedPaise.getD 0) do
          let _ ← recordPayment (checkOutPayment propertyId id dto actorStaffId) env.now
        leave before) := by
  refine ⟨_, fun r db => ?_, rfl⟩
  rw [ends_bind]
  refine (balancePaise_readOnly id).ends_idle (fun balance => ?_) fun _ => rfl
  simp only [updateReservation, setRoomStatus, recordEvent, ends_simps, ends_forSome]
  intro _
  refine ⟨fun roomId _ => ?_, fun _ => ?_⟩
  · refine ends_clean_ledgers roomId actorStaffId env.now (fun _ _ => rfl) fun v hv => ?_
    simp only [ends_write_active, trivially]
    refine ends_hydrate _ ?_
    simp only [Tx.view_active, Function.comp_apply, id_eq]
    exact hv _
  · exact ends_hydrate _ rfl

theorem checkOut_ledgers {dto : CheckOutDto} {actorStaffId : Option Id}
    (hfresh : keyTaken (checkOutPayment propertyId id dto actorStaffId) db = false) :
    ((checkOut env propertyId id dto actorStaffId).eval .idle db).2.2.ledgers =
      if 0 < dto.collectedPaise.getD 0 ∧
        (reservationOf propertyId id db).any fun r => canTransition r.status .CHECKED_OUT
      then (addPayment (paymentRow (checkOutPayment propertyId id dto actorStaffId)) db).ledgers
      else db.ledgers := by
  obtain ⟨leave, hleave, heq⟩ := checkOut_eq env propertyId id dto actorStaffId
  obtain ⟨out, hrecord⟩ := eval_recordPayment_fresh env.now hfresh
  rw [heq]
  cases hread : reservationOf propertyId id db with
  | none => simp [hread]
  | some r =>
    cases ht : canTransition r.status .CHECKED_OUT with
    | false => simp [hread, assertTransition, ht]
    | true =>
      simp only [eval_simps, eval_requireReservation, hread, Option.elim_some, assertTransition, ht,
        if_true, eval_when, Option.any_some]
      by_cases hpos : 0 < dto.collectedPaise.getD 0
      · simp only [hpos, if_true, hrecord, and_self]
        exact Prog.eval_of_ends (hleave r _)
      · simp only [hpos, if_false, false_and]
        exact Prog.eval_of_ends (hleave r db)

end Requests

/-! ## The gap -/

/-- How far the cash tracker is ahead of the cash taken. -/
def drawerGap (db : HotelDb) (propertyId : Id) : ℤ :=
  balanceOf propertyId db - cashTaken propertyId db

variable {db db' : HotelDb}

theorem tallies_iff : Tallies db db' ↔ drawerGap db' = drawerGap db := by
  constructor
  · intro h
    funext propertyId
    have := h propertyId
    unfold drawerGap
    omega
  · intro h propertyId
    have := congrFun h propertyId
    unfold drawerGap at this
    omega

theorem drawerGap_congr (h : db'.ledgers = db.ledgers) :
    drawerGap db' = drawerGap db := by
  have hcash : db'.cashEntries = db.cashEntries := congrArg Ledgers.cash h
  have hpayments : db'.folioPayments = db.folioPayments := congrArg Ledgers.payments h
  funext propertyId
  unfold drawerGap balanceOf cashTaken
  rw [hcash, hpayments]

/-- What a row of the folio counts for. -/
def signedCash (p : FolioPayment) : ℤ :=
  if p.method = .CASH then (match p.direction with
    | .REFUND => -p.amountPaise
    | .PAYMENT => p.amountPaise) else 0

theorem cashTaken_append {propertyId : Id} {p : FolioPayment}
    (h : db'.folioPayments = db.folioPayments ++ [p]) :
    cashTaken propertyId db' =
      cashTaken propertyId db + if p.propertyId = propertyId then signedCash p else 0 := by
  unfold cashTaken signedCash
  rw [h, List.filter_append, List.map_append, List.sum_append]
  congr 1
  by_cases hp : p.propertyId = propertyId <;> by_cases hm : p.method = .CASH <;> simp [hp, hm]

theorem balanceOf_append {propertyId : Id} {e : CashEntry}
    (h : db'.cashEntries = db.cashEntries ++ [e]) (hk : e.kind = .FOLIO_CASH) :
    balanceOf propertyId db' = balanceOf propertyId db +
      if e.propertyId = propertyId then e.amountPaise else 0 := by
  unfold balanceOf
  rw [h, List.filter_append, List.map_append, List.sum_append]
  congr 1
  by_cases hp : e.propertyId = propertyId <;> simp [hp, hk]

theorem drawerGap_addPayment {db : HotelDb} {p : FolioPayment} :
    drawerGap (addPayment p db) = drawerGap db ↔ signedCash p = 0 := by
  have hgap : ∀ propertyId, drawerGap (addPayment p db) propertyId =
      drawerGap db propertyId - if p.propertyId = propertyId then signedCash p else 0 := by
    intro propertyId
    have htaken : cashTaken propertyId (addPayment p db) = _ := cashTaken_append rfl
    unfold drawerGap
    rw [htaken]
    show balanceOf propertyId db - _ = _
    omega
  constructor
  · intro h
    have hp := hgap p.propertyId
    rw [h, if_pos rfl] at hp
    omega
  · intro hzero
    funext propertyId
    rw [hgap, hzero]
    simp

theorem drawerGap_sent {me : AuthenticatedStaff} {id : Id} {dto : CollectPaymentDto}
    (h : Sent me id dto db db') (hfresh : keyTaken (staffPayment me id dto) db = false) :
    drawerGap db' = drawerGap db := by
  have hpayments := h.payments
  have hcash := h.cash
  rw [hfresh, if_neg Bool.false_ne_true] at hpayments
  funext propertyId
  unfold drawerGap
  rw [cashTaken_append hpayments]
  by_cases hm : dto.method = .CASH
  · rw [if_pos hm] at hcash
    obtain ⟨e, he, hrows⟩ := hcash
    rw [balanceOf_append hrows he.kind, he.property, he.amount]
    have hsigned : signedCash (paymentRow (staffPayment me id dto)) = dto.amountPaise := by
      simp [signedCash, paymentRow, staffPayment, collectedInput,
        paymentInput, hm]
    rw [hsigned]
    show _ + (if me.propertyId = propertyId then _ else 0) -
      (_ + if me.propertyId = propertyId then _ else 0) = _
    omega
  · rw [if_neg hm] at hcash
    have hsigned : signedCash (paymentRow (staffPayment me id dto)) = 0 := by
      simp [signedCash, paymentRow, staffPayment, collectedInput,
        paymentInput, hm]
    have hbalance : balanceOf propertyId db' = balanceOf propertyId db := by
      unfold balanceOf
      rw [hcash]
    rw [hsigned, hbalance]
    simp

/-! ## One request, and a run -/

namespace StaffCall

/-- The state a request leaves. -/
def after (c : StaffCall) (db : HotelDb) : HotelDb := (c.prog.runWith noFaults db).db

theorem after_eval (c : StaffCall) (db : HotelDb) :
    c.after db = (c.prog.eval .idle db).2.2 := Prog.run_db c.prog db

variable {c : StaffCall}

theorem after_ledgers {db : HotelDb} (hfresh : c.KeyFresh db)
    (hc : ∀ id dto, c.request ≠ .collectPayment id dto) :
    (c.after db).ledgers =
      if c.Records db then (addPayment (paymentRow c.payment) db).ledgers else db.ledgers := by
  obtain ⟨env, me, request⟩ := c
  rw [after_eval]
  cases request with
  | collectPayment id dto => exact absurd rfl (hc id dto)
  | refundPayment id dto =>
    simp only [prog, Records, eval_discard, StaffReservationsController.refundPayment]
    rcases Option.eq_none_or_eq_some (reservationOf me.propertyId id db) with
      hread | ⟨stay, hread⟩
    · simp [collectPayment, hread]
    · have hkey : ∀ k, (paymentInput dto .REFUND).idempotencyKey =
          some k → k ≠ "" := by
        rintro k hk rfl
        have := (dto.key_length "" hk).1
        simp at this
      obtain ⟨out, heval⟩ := eval_collectPayment env (some me.id) hread hkey
      rw [heval]
      have hrow : keyTaken (collectedInput me.propertyId id
          (paymentInput dto .REFUND) (some me.id)) db = false := hfresh
      have hfound : (reservationOf me.propertyId id db).isSome := by simp [hread]
      simp only [hrow, hfound, Bool.false_eq_true, if_false, if_true]
      rfl
  | checkOut id dto =>
    simp only [prog, eval_discard, StaffReservationsController.checkOut]
    rw [checkOut_ledgers hfresh]
    rfl

theorem drawerGap_collectPayment {env : Env} {me : AuthenticatedStaff} {id : Id}
    {dto : CollectPaymentDto} {db : HotelDb}
    (hfresh : keyTaken (staffPayment me id dto) db = false) :
    drawerGap ((⟨env, me, .collectPayment id dto⟩ : StaffCall).after db) = drawerGap db := by
  have hafter : (⟨env, me, .collectPayment id dto⟩ : StaffCall).after db =
      send me id dto db env := by
    rw [after_eval, send, Prog.run_db]
    exact eval_discard _
  rw [hafter]
  cases hread : reservationOf me.propertyId id db with
  | none => rw [send_notFound env hread]
  | some stay => exact drawerGap_sent (sent_send dto env (by simp [hread])) hfresh

theorem amount_pos {db : HotelDb} (hrecords : c.Records db) :
    0 < c.payment.amountPaise := by
  obtain ⟨env, me, request⟩ := c
  cases request with
  | collectPayment id dto => exact dto.amount_pos
  | refundPayment id dto => exact dto.amount_pos
  | checkOut id dto => exact hrecords.1

theorem drawerGap_after {db : HotelDb} (hfresh : c.KeyFresh db) :
    drawerGap (c.after db) = drawerGap db ↔ c.Counted db := by
  by_cases hc : ∃ id dto, c.request = .collectPayment id dto
  · obtain ⟨id, dto, hrequest⟩ := hc
    obtain ⟨env, me, request⟩ := c
    cases hrequest
    exact ⟨fun _ => trivial, fun _ => drawerGap_collectPayment hfresh⟩
  · have hother : ∀ id dto, c.request ≠ .collectPayment id dto :=
      fun id dto h => hc ⟨id, dto, h⟩
    have hcounted : c.Counted db ↔ (c.payment.method = .CASH → ¬c.Records db) := by
      obtain ⟨env, me, request⟩ := c
      cases request with
      | collectPayment id dto => exact absurd rfl (hother id dto)
      | refundPayment id dto => exact Iff.rfl
      | checkOut id dto => exact Iff.rfl
    have hledgers := after_ledgers hfresh hother
    rw [hcounted]
    by_cases hrecords : c.Records db
    · rw [if_pos hrecords] at hledgers
      rw [drawerGap_congr hledgers, drawerGap_addPayment]
      have hpos := amount_pos hrecords
      constructor
      · intro hzero hcash
        unfold signedCash paymentRow at hzero
        rw [if_pos hcash] at hzero
        dsimp only at hzero
        split at hzero <;> omega
      · intro hcash
        exact if_neg fun hm => hcash hm hrecords
    · rw [if_neg hrecords] at hledgers
      exact ⟨fun _ _ => hrecords, fun _ => drawerGap_congr hledgers⟩

end StaffCall

/-- A guest pays ₹50 in cash and gets it back. -/
def paidBack : List StaffCall :=
  [⟨{ now := 0 }, deskClerk, .collectPayment 1 (tap .CASH)⟩,
    ⟨{ now := 9 }, deskClerk, .refundPayment 1 backInCash⟩]

end Travelo

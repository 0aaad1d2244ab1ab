import Travelo.Folio.Balance
import Travelo.Reservations.StaffPayments

/-!
# Sending a payment again

A staff payment writes up to three ledgers, one after another: the payments of the folio,
the cash tracker and the accounts of companies. Only the first is keyed. `Sent` says what
one request does to the three, and `retryHarmless_iff` when a repeat of it, or its failure,
does no harm.
-/

namespace Travelo

open ReadCommitted FolioService ReservationsService
open StaffReservationsController (paymentInput sideLedger)
open DirectBillingService (accountOf charge requireAccount)

/-- The three ledgers a payment can reach. -/
structure Ledgers where
  payments : List FolioPayment
  cash : List CashEntry
  corporate : List CorporateLedgerEntry

def HotelDb.ledgers (db : HotelDb) : Ledgers :=
  ⟨db.folioPayments, db.cashEntries, db.corporateLedger⟩

section

variable (me : AuthenticatedStaff) (id : Id) (dto : CollectPaymentDto)

/-- The state after the request is sent once, and after it is sent again and again. -/
def send (db : HotelDb) (env : Env) : HotelDb :=
  ((StaffReservationsController.collectPayment env me id dto).run db).db

def sendAll (db : HotelDb) (envs : List Env) : HotelDb := envs.foldl (send me id dto) db

/-- However often it is sent, the request leaves the ledgers as one sending does, and when it
fails it leaves them alone. -/
def RetryHarmless (db : HotelDb) : Prop :=
  (∀ (env : Env) (again : List Env),
    (sendAll me id dto db (env :: again)).ledgers = (send me id dto db env).ledgers) ∧
  ∀ (env : Env) (e : Err),
    ((StaffReservationsController.collectPayment env me id dto).run db).res = .error e →
      (send me id dto db env).ledgers = db.ledgers

/-- The payment as `recordPayment` is given it. -/
def staffPayment : RecordPaymentInput :=
  collectedInput me.propertyId id (paymentInput dto .PAYMENT) (some me.id)

/-- The account of the company that pays for the stay. -/
def companyOf (db : HotelDb) : Option CorporateAccount :=
  (reservationOf me.propertyId id db).bind fun stay =>
    stay.guest.corporateAccountId.bind fun accountId =>
      accountOf me.propertyId accountId db

/-- The request goes to no keyless ledger: the stay is not found, the method is neither cash
nor corporate, or it is corporate without an account and its key is used already. -/
def OnlyKeyed (db : HotelDb) : Prop :=
  reservationOf me.propertyId id db = none ∨
    (dto.method ≠ .CASH ∧ dto.method ≠ .CORPORATE) ∨
    (dto.method = .CORPORATE ∧ companyOf me id db = none ∧
      keyTaken (staffPayment me id dto) db = true)

end

/-! ## One request -/

section Send

variable {me : AuthenticatedStaff} {id : Id} {dto : CollectPaymentDto} {db : HotelDb} {env : Env}

/-- The entry puts the amount into the drawer of the property. -/
structure IntoDrawer (me : AuthenticatedStaff) (dto : CollectPaymentDto) (e : CashEntry) : Prop where
  property : e.propertyId = me.propertyId
  kind : e.kind = .FOLIO_CASH
  amount : e.amountPaise = dto.amountPaise

/-- What a request that finds the stay does to the ledgers, and what it leaves as it was. -/
structure Sent (me : AuthenticatedStaff) (id : Id) (dto : CollectPaymentDto) (db db' : HotelDb) :
    Prop where
  payments : db'.folioPayments =
    if keyTaken (staffPayment me id dto) db then db.folioPayments
    else db.folioPayments ++ [paymentRow (staffPayment me id dto)]
  cash : if dto.method = .CASH then ∃ e, IntoDrawer me dto e ∧ db'.cashEntries = db.cashEntries ++ [e]
    else db'.cashEntries = db.cashEntries
  corporate : if dto.method = .CORPORATE ∧ (companyOf me id db).isSome then
      ∃ e, db'.corporateLedger = db.corporateLedger ++ [e]
    else db'.corporateLedger = db.corporateLedger
  found : (reservationOf me.propertyId id db').isSome
  company : companyOf me id db' = companyOf me id db

/-- The folio's part of a request, in one state or the other. -/
def afterFolio (me : AuthenticatedStaff) (id : Id) (dto : CollectPaymentDto) (db : HotelDb)
    (env : Env) : HotelDb :=
  if keyTaken (staffPayment me id dto) db then db
  else recorded (staffPayment me id dto) env.now db

theorem reservationOf_afterFolio (dto : CollectPaymentDto) (env : Env) {stay : Reservation}
    (hread : reservationOf me.propertyId id db = some stay) :
    ∃ stay', reservationOf me.propertyId id (afterFolio me id dto db env) = some stay' ∧
      stay'.guest = stay.guest := by
  unfold afterFolio
  split
  · exact ⟨stay, hread, rfl⟩
  · rw [recorded, reservationOf_setPaid]
    have hsame : reservationOf me.propertyId id (addPayment (paymentRow (staffPayment me id dto)) db)
        = some stay := hread
    rw [hsame, Option.map_some]
    refine ⟨_, rfl, ?_⟩
    split <;> rfl

theorem companyOf_afterFolio (dto : CollectPaymentDto) (env : Env) :
    companyOf me id (afterFolio me id dto db env) = companyOf me id db := by
  unfold companyOf
  cases hread : reservationOf me.propertyId id db with
  | none =>
    have hnone : reservationOf me.propertyId id (afterFolio me id dto db env) = none := by
      unfold afterFolio
      split
      · exact hread
      · rw [recorded, reservationOf_setPaid]
        have hsame : reservationOf me.propertyId id
            (addPayment (paymentRow (staffPayment me id dto)) db) = none := hread
        rw [hsame]
        rfl
    rw [hnone]
    rfl
  | some stay =>
    obtain ⟨stay', hread', hguest⟩ :=
      reservationOf_afterFolio dto env hread
    have haccounts : (afterFolio me id dto db env).corporateAccounts = db.corporateAccounts := by
      unfold afterFolio
      split <;> rfl
    rw [hread', Option.bind_some, Option.bind_some, hguest]
    unfold accountOf
    rw [haccounts]

theorem eval_sideLedger (dto : CollectPaymentDto)
    (hfound : (reservationOf me.propertyId id db).isSome) :
    ∃ res db', (sideLedger me id dto).eval .idle db =
      (res, .idle, db') ∧
      (res = .ok () ↔ ¬(dto.method = .CORPORATE ∧ companyOf me id db = none)) ∧
      db'.folioPayments = db.folioPayments ∧ db'.reservations = db.reservations ∧
      db'.corporateAccounts = db.corporateAccounts ∧
      (if dto.method = .CASH then
        ∃ e, IntoDrawer me dto e ∧ db'.cashEntries = db.cashEntries ++ [e]
        else db'.cashEntries = db.cashEntries) ∧
      (if dto.method = .CORPORATE ∧ (companyOf me id db).isSome then
        ∃ e, db'.corporateLedger = db.corporateLedger ++ [e]
        else db'.corporateLedger = db.corporateLedger) := by
  have hpos : ¬dto.amountPaise ≤ 0 := by
    have := dto.amount_pos
    omega
  unfold sideLedger
  cases hm : dto.method with
  | CASH =>
    simp only [CashService.record, CashService.shiftOf, CashService.openShiftFor, eval_simps,
      if_neg hpos]
    exact ⟨_, _, rfl, by simp, rfl, rfl, rfl, ⟨_, ⟨rfl, rfl, rfl⟩, rfl⟩, by simp⟩
  | CORPORATE =>
    obtain ⟨stay, hread⟩ := Option.isSome_iff_exists.mp hfound
    simp only [eval_simps, eval_requireReservation, hread, Option.elim_some]
    have hcompany : companyOf me id db = stay.guest.corporateAccountId.bind fun accountId =>
        accountOf me.propertyId accountId db := by
      rw [companyOf, hread, Option.bind_some]
    rw [hcompany]
    cases haccount : stay.guest.corporateAccountId with
    | none => exact ⟨_, _, rfl, by simp, rfl, rfl, rfl, by simp, by simp⟩
    | some accountId =>
      simp only [Option.elim_some, charge, requireAccount, eval_simps, Option.bind_some]
      rcases Option.eq_none_or_eq_some (accountOf me.propertyId accountId db)
        with hnone | ⟨account, hsome⟩
      · simp only [hnone]
        exact ⟨_, _, rfl, by simp, rfl, rfl, rfl, by simp, by simp⟩
      · simp only [hsome, Option.elim_some, eval_simps]
        exact ⟨_, _, rfl, by simp, rfl, rfl, rfl, by simp, by simp⟩
  | CARD => exact ⟨_, _, rfl, by simp, rfl, rfl, rfl, by simp, by simp⟩
  | UPI => exact ⟨_, _, rfl, by simp, rfl, rfl, rfl, by simp, by simp⟩
  | BANK => exact ⟨_, _, rfl, by simp, rfl, rfl, rfl, by simp, by simp⟩
  | ONLINE => exact ⟨_, _, rfl, by simp, rfl, rfl, rfl, by simp, by simp⟩

theorem eval_send (dto : CollectPaymentDto) (env : Env)
    (hfound : (reservationOf me.propertyId id db).isSome) :
    ∃ res db', (StaffReservationsController.collectPayment env me id dto).eval .idle db =
      (res, .idle, db') ∧
      ((∃ e, res = .error e) ↔ dto.method = .CORPORATE ∧ companyOf me id db = none) ∧
      Sent me id dto db db' := by
  obtain ⟨stay, hread⟩ := Option.isSome_iff_exists.mp hfound
  have hkey : ∀ k, (paymentInput dto .PAYMENT).idempotencyKey = some k →
      k ≠ "" := by
    rintro k hk rfl
    have := (dto.key_length "" hk).1
    simp at this
  obtain ⟨out, hfolio⟩ := eval_collectPayment env (some me.id) hread hkey
  obtain ⟨stay', hread', -⟩ :=
    reservationOf_afterFolio dto env hread
  obtain ⟨res, db', hside, hres, hpayments, hreservations, haccounts, hcash, hcorporate⟩ :=
    eval_sideLedger dto (Option.isSome_iff_exists.mpr ⟨stay', hread'⟩)
  have hkeep : (afterFolio me id dto db env).cashEntries = db.cashEntries ∧
      (afterFolio me id dto db env).corporateLedger = db.corporateLedger := by
    unfold afterFolio
    split <;> exact ⟨rfl, rfl⟩
  have hstay : reservationOf me.propertyId id db' =
      reservationOf me.propertyId id (afterFolio me id dto db env) := by
    unfold reservationOf
    rw [hreservations]
  rw [hkeep.1] at hcash
  rw [hkeep.2, companyOf_afterFolio] at hcorporate
  rw [companyOf_afterFolio] at hres
  refine ⟨res.map fun _ => out, db', ?_, ?_, ?_, hcash, hcorporate, ?_, ?_⟩
  · have hfolio' : (collectPayment env me.propertyId id
        (paymentInput dto .PAYMENT) (some me.id)).eval .idle db =
        (.ok out, .idle, afterFolio me id dto db env) := hfolio
    simp only [StaffReservationsController.collectPayment, eval_bind, hfolio', hside]
    cases res <;> rfl
  · cases res with
    | ok _ => simpa [Except.map] using hres
    | error e => simpa [Except.map] using hres
  · rw [hpayments]
    unfold afterFolio
    split <;> rfl
  · rw [hstay, hread']
    rfl
  · refine Eq.trans ?_ (companyOf_afterFolio dto env)
    unfold companyOf accountOf
    rw [hstay, haccounts]

theorem sent_send (dto : CollectPaymentDto) (env : Env)
    (hfound : (reservationOf me.propertyId id db).isSome) :
    Sent me id dto db (send me id dto db env) := by
  obtain ⟨res, db', heval, -, hsent⟩ := eval_send dto env hfound
  rw [send, Prog.run_db, heval]
  exact hsent

theorem send_notFound (env : Env) (hnone : reservationOf me.propertyId id db = none) :
    send me id dto db env = db := by
  simp [send, Prog.run_db, StaffReservationsController.collectPayment, collectPayment, hnone]

theorem Sent.keyTaken {db' : HotelDb} (h : Sent me id dto db db')
    (hkey : dto.idempotencyKey.isSome) :
    FolioService.keyTaken (staffPayment me id dto) db' = true := by
  obtain ⟨k, hk⟩ := Option.isSome_iff_exists.mp hkey
  have hrow : (staffPayment me id dto).idempotencyKey = some k := hk
  have hpayments := h.payments
  cases htaken : FolioService.keyTaken (staffPayment me id dto) db with
  | true =>
    rw [htaken, if_pos rfl] at hpayments
    unfold FolioService.keyTaken findPaymentByKey at htaken ⊢
    rw [hpayments]
    exact htaken
  | false =>
    rw [htaken, if_neg (by simp)] at hpayments
    unfold FolioService.keyTaken findPaymentByKey
    rw [hrow, hpayments, Option.bind_some, List.find?_isSome]
    exact ⟨_, List.mem_append_right _ (List.mem_singleton_self _), by simp [paymentRow, hrow]⟩

/-- The request has nothing left to write. -/
structure Settled (me : AuthenticatedStaff) (id : Id) (dto : CollectPaymentDto) (db : HotelDb) :
    Prop where
  found : (reservationOf me.propertyId id db).isSome
  used : FolioService.keyTaken (staffPayment me id dto) db = true
  notCash : dto.method ≠ .CASH
  notCharged : ¬(dto.method = .CORPORATE ∧ (companyOf me id db).isSome)

theorem Settled.send (h : Settled me id dto db) (hkey : dto.idempotencyKey.isSome) (env : Env) :
    (Travelo.send me id dto db env).ledgers = db.ledgers ∧
      Settled me id dto (Travelo.send me id dto db env) := by
  have hsent := sent_send dto env h.found
  have hpayments := hsent.payments
  have hcash := hsent.cash
  have hcorporate := hsent.corporate
  rw [if_pos h.used] at hpayments
  rw [if_neg h.notCash] at hcash
  rw [if_neg h.notCharged] at hcorporate
  constructor
  · rw [HotelDb.ledgers, HotelDb.ledgers, hpayments, hcash, hcorporate]
  · exact ⟨hsent.found, hsent.keyTaken hkey, h.notCash, hsent.company ▸ h.notCharged⟩

theorem Settled.sendAll (hkey : dto.idempotencyKey.isSome) (envs : List Env) :
    ∀ {db : HotelDb}, Settled me id dto db →
      (Travelo.sendAll me id dto db envs).ledgers = db.ledgers := by
  induction envs with
  | nil => exact fun _ => rfl
  | cons env envs ih =>
    intro db h
    obtain ⟨hledgers, hsettled⟩ := h.send hkey env
    exact (ih hsettled).trans hledgers

end Send

def deskClerk : AuthenticatedStaff := { id := 5, propertyId := 1 }

def tap (method : FolioPaymentMethod) : CollectPaymentDto :=
  { method, amountPaise := 5000, idempotencyKey := some "tap-1" }

def backInCash : CollectPaymentDto := { method := .CASH, amountPaise := 5000 }

end Travelo

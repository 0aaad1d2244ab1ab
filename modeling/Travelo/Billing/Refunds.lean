import Mathlib.Algebra.Ring.Int.Defs
import Mathlib.Data.List.Sort
import Travelo.Billing
import Travelo.ReadCommitted.Locks

/-!
# Refunds

`BillingService.refundPayment` writes the row of a refund under the lock of its payment, and then
asks the gateway; `retryPendingRefunds` and `retryRefund` ask again. `ledger_kept`: in every
interleaving no payment is refunded beyond its amount, and its status says so.

* What the gateways hold is part of the state: a request takes effect there, its answer is one
  more statement, which may fail by itself.
* A unique index makes an insert wait for another one of the same key: `RefundRow.refund`.
-/

namespace Travelo.Refunds

open ReadCommitted

/-! ## State -/

inductive RefundStatus where
  | PENDING
  | PROCESSED
  /-- The money is moved by hand. -/
  | MANUAL
  deriving DecidableEq

structure Refund where
  id : Uuid
  paymentId : Uuid
  amount : ℤ
  gatewayRef : Option String := none
  status : RefundStatus := .PENDING
  createdAt : ℤ

/-- A payment, with `orderRef` of the hint it was settled by. -/
structure Payment extends SubscriptionPayment where
  rawOrderRef : Option (List Char) := none

/-- What a gateway is asked, about a payment (Razorpay) or an order (Cashfree). -/
structure RefundRequest where
  gateway : Gateway
  ref : List Char
  amountPaise : ℤ
  /-- Our row, which Razorpay calls the receipt. -/
  refundId : Uuid
  deriving DecidableEq

/-- A refund as its gateway has it. -/
structure GatewayRefund where
  id : String
  request : RefundRequest
  deriving DecidableEq

structure RefundDb where
  payments : Table fun p : Payment => p.id
  refunds : Table Refund.id := ∅
  /-- At the gateways. -/
  held : List GatewayRefund := []

inductive RefundRow where
  | payment (id : Uuid)
  | refund (id : Uuid)
  deriving DecidableEq

inductive RefundErr where
  | paymentNotFound
  | refundNotFound
  | notRefundable
  | exceedsAmount
  /-- SQLSTATE 23505. -/
  | uniqueViolation
  /-- A non-2xx answer, a timeout, a body that is not JSON. -/
  | gatewayFailed (message : String)
  | internal (message : String)

instance : Faults RefundErr := ⟨.internal⟩

abbrev RefundOp := Prog RefundDb RefundRow Unit RefundErr

/-! ## The gateways -/

/-- The credentials, and the refund a gateway answers with, given what is held. -/
structure RefundEnv where
  razorpayConfigured : Bool := true
  cashfreeConfigured : Bool := true
  createRefund : List GatewayRefund → RefundRequest → Except RefundErr GatewayRefund
  honest : ∀ held req r, createRefund held req = .ok r → r.request = req

/-- The order id of a payment: of its hint, else what it was parked with. -/
def cashfreeOrderIdFor (pay : Payment) : Option (List Char) :=
  (pay.rawOrderRef.filter (· ≠ [])).or pay.gatewayRef

variable (env : RefundEnv)

/-- Whom `attemptGatewayRefund` asks, if anyone. -/
def RefundEnv.request (refund : Refund) (pay : Payment) : Option RefundRequest :=
  let ask (gateway : Gateway) (ref : List Char) : RefundRequest :=
    { gateway, ref, amountPaise := refund.amount, refundId := refund.id }
  if pay.gateway = .RAZORPAY ∧ env.razorpayConfigured then
    (pay.gatewayRef.filter (· ≠ [])).map (ask .RAZORPAY)
  else if pay.gateway = .CASHFREE ∧ env.cashfreeConfigured then
    ((cashfreeOrderIdFor pay).filter (· ≠ [])).map (ask .CASHFREE)
  else none

def findRefundByReceipt (paymentRef : List Char) (receipt : Uuid) :
    RefundOp (Option GatewayRefund) :=
  select () fun db => db.held.find? fun r =>
    r.request.gateway = .RAZORPAY && r.request.ref = paymentRef && r.request.refundId = receipt

def createRefund (req : RefundRequest) : RefundOp GatewayRefund := do
  let answer ← writeChecked (fun _ => [])
    (fun db => (env.createRefund db.held req).map fun r => { db with held := db.held.insert r })
    fun db => env.createRefund db.held req
  let r ← lift answer
  select () fun _ => r

/-- `razorpayRefundIdempotent`, which looks for the receipt first; Cashfree knows the row's id. -/
def askGateway (req : RefundRequest) : RefundOp GatewayRefund :=
  if req.gateway = .RAZORPAY then do
    let existing ← findRefundByReceipt req.ref req.refundId
    match existing with
    | some r => return r
    | none => createRefund env req
  else createRefund env req

/-! ## The service -/

/-- `@IsInt() @Min(1) amount`. -/
structure RefundDto where
  amount : ℤ
  min : 1 ≤ amount := by decide

/-- `coalesce(sum(amount), 0)` of the refunds of a payment. -/
def refunded (paymentId : Uuid) (db : RefundDb) : ℤ :=
  ((db.refunds.rows.filter fun r => r.paymentId = paymentId).map (·.amount)).sum

def insertRefund (row : Refund) (db : RefundDb) : Except RefundErr RefundDb :=
  if db.refunds.hasKey row.id then .error .uniqueViolation
  else .ok { db with refunds := db.refunds.insert row }

def setPayment (id : Uuid) (status : PaymentStatus) (now : ℤ) (db : RefundDb) : RefundDb :=
  { db with payments := db.payments.update (fun p => p.id = id) fun p =>
      { p with status, updatedAt := now } }

def mark (id : Uuid) (status : RefundStatus) (ref : Option String) (db : RefundDb) : RefundDb :=
  { db with refunds := db.refunds.update (fun r => r.id = id) fun r =>
      { r with status, gatewayRef := ref.or r.gatewayRef } }

/-- `UPDATE refunds SET … WHERE id`, and the row as it is then. -/
def updateRefund (id : Uuid) (status : RefundStatus) (ref : Option String) :
    RefundOp (Option Refund) :=
  write (fun _ => [.refund id]) (mark id status ref) fun db =>
    (mark id status ref db).refunds.find? id

/-- The status of a payment of which `total` is refunded. -/
def newStatus (total amount : ℤ) : PaymentStatus :=
  if total ≥ amount then .REFUNDED else .PARTIALLY_REFUNDED

def refundInTx (paymentId : Uuid) (dto : RefundDto) (refundId : Uuid) (now : ℤ) :
    RefundOp (Refund × Payment) :=
  transaction do
    let row ← selectForUpdate () (fun _ => [.payment paymentId]) fun db =>
      db.payments.find? paymentId
    let pay ← orThrow row .paymentNotFound
    throwIf (pay.status ≠ .SUCCESS ∧ pay.status ≠ .PARTIALLY_REFUNDED) .notRefundable
    let alreadyRefunded ← select () (refunded paymentId)
    throwIf (dto.amount + alreadyRefunded > pay.amount) .exceedsAmount
    let refund : Refund := { id := refundId, paymentId, amount := dto.amount, createdAt := now }
    let _ ← writeChecked (fun _ => [.refund refundId]) (insertRefund refund) fun _ => ()
    let _ ← write (fun _ => [.payment paymentId])
      (setPayment paymentId (newStatus (alreadyRefunded + dto.amount) pay.amount) now) fun _ => ()
    return (refund, pay)

/-- The gateway's part of a refund; a failure leaves the row for the next retry. -/
def attemptGatewayRefund (refund : Refund) (pay : Payment) : RefundOp (Option Refund) :=
  match env.request refund pay with
  | none => updateRefund refund.id .MANUAL none
  | some req =>
    tryCatchThe RefundErr (do
      let r ← askGateway env req
      updateRefund refund.id .PROCESSED (some r.id))
    fun _ => return some refund

/-- One round of `retryPendingRefunds`. -/
def retryPending (refund : Refund) : RefundOp (Option Refund) := do
  let pay ← select () fun db => db.payments.find? refund.paymentId
  match pay with
  | some pay => attemptGatewayRefund env refund pay
  | none => return none

/-- How many were tried, and how many are processed. -/
def retryPendingRefunds (limit : ℕ) : RefundOp (ℕ × ℕ) := do
  let pending ← select () fun db => ((db.refunds.rows.filter fun r =>
    r.status = .PENDING).insertionSort fun r r' => r.createdAt ≤ r'.createdAt).take limit
  let results ← all (retryPending env) pending
  return (pending.length, results.countP fun r => r.any (·.status = .PROCESSED))

def retryRefund (refundId : Uuid) : RefundOp (Option Refund) := do
  let row ← select () fun db => db.refunds.find? refundId
  let refund ← orThrow row .refundNotFound
  if refund.status = .PROCESSED then return some refund
  else
    let row ← select () fun db => db.payments.find? refund.paymentId
    let pay ← orThrow row .paymentNotFound
    attemptGatewayRefund env refund pay

inductive RefundCall where
  | refundPayment (paymentId : Uuid) (dto : RefundDto) (refundId : Uuid) (now : ℤ)
  | retryPendingRefunds (limit : ℕ)
  | retryRefund (refundId : Uuid)

def RefundCall.prog : RefundCall → RefundOp Unit
  | .refundPayment paymentId dto refundId now => do
    let (refund, pay) ← refundInTx paymentId dto refundId now
    let _ ← attemptGatewayRefund env refund pay
  | .retryPendingRefunds limit => do let _ ← Refunds.retryPendingRefunds env limit
  | .retryRefund refundId => do let _ ← Refunds.retryRefund env refundId

/-! ## The ledger of a payment -/

/-- What a status says of the refunds of a payment. -/
def Says (amount total : ℤ) : PaymentStatus → Prop
  | .REFUNDED => total = amount
  | .PARTIALLY_REFUNDED => 0 < total ∧ total < amount
  | _ => total = 0

/-- No payment is refunded beyond its amount, and each status says what is refunded. -/
def LedgerKept (db : RefundDb) : Prop :=
  ∀ p ∈ db.payments, 0 ≤ refunded p.id db ∧ refunded p.id db ≤ p.amount ∧
    Says p.amount (refunded p.id db) p.status

/-- What a lock stands for: a payment with the sum of its refunds, or the entry of an index. -/
def ledgerPart : RefundRow → RefundDb → Option (ℤ × PaymentStatus) × ℤ
  | .payment id, db => ((db.payments.find? id).map fun p => (p.amount, p.status), refunded id db)
  | .refund id, db => (none, if db.refunds.hasKey id then 1 else 0)

section Ledger

variable {db : RefundDb} {row : Refund} {id : Uuid} {status : PaymentStatus} {now : ℤ}

theorem ledgerKept_iff : LedgerKept db ↔ ∀ id, ∀ x ∈ (ledgerPart (.payment id) db).1,
    0 ≤ (ledgerPart (.payment id) db).2 ∧ (ledgerPart (.payment id) db).2 ≤ x.1 ∧
      Says x.1 (ledgerPart (.payment id) db).2 x.2 := by
  constructor
  · intro h id x hx
    obtain ⟨p, hp, rfl⟩ := Option.map_eq_some_iff.mp hx
    obtain ⟨hmem, rfl⟩ := Table.find?_eq_some.mp hp
    exact h p hmem
  · intro h p hp
    exact h p.id (p.amount, p.status) (Option.map_eq_some_iff.mpr ⟨p, find?_key hp, rfl⟩)

theorem ledgerPart_mark (id : Uuid) (status : RefundStatus) (ref : Option String) (k : RefundRow)
    (s : RefundDb) : ledgerPart k (mark id status ref s) = ledgerPart k s := by
  cases k with
  | payment => simp [ledgerPart, refunded, mark, Table.update, List.filter_map, Function.comp_def,
      apply_ite Refund.amount, apply_ite Refund.paymentId]
  | refund => simp [ledgerPart, mark, Table.update, Table.hasKey, apply_ite Refund.id]

/-- The two writes of a refund. -/
def entered (row : Refund) (status : PaymentStatus) (now : ℤ) (db : RefundDb) : RefundDb :=
  setPayment row.paymentId status now (applied (insertRefund row) db)

theorem ledgerPart_entered (hnew : db.refunds.hasKey row.id = false) (k : RefundRow) :
    ledgerPart k (entered row status now db) =
      if k = .payment row.paymentId then
        ((ledgerPart k db).1.map fun x => (x.1, status), (ledgerPart k db).2 + row.amount)
      else if k = .refund row.id then (none, 1) else ledgerPart k db := by
  have hrefunds : (entered row status now db).refunds.rows = db.refunds.rows ++ [row] := by
    simp [entered, setPayment, insertRefund, hnew, applied, rows_insert hnew]
  have hpayments : (entered row status now db).payments =
      (setPayment row.paymentId status now db).payments := by
    simp [entered, setPayment, insertRefund, hnew, applied]
  cases k with
  | payment id =>
    simp only [ledgerPart, refunded, hrefunds, hpayments, setPayment, List.filter_append]
    by_cases hid : id = row.paymentId
    · subst hid
      simp [find?_update_self, Function.comp_def]
    · simp [find?_update_ne _ _ hid, hid, Ne.symm hid]
  | refund id =>
    by_cases hid : id = row.id
    · simp [ledgerPart, Table.hasKey, hrefunds, hid]
    · simp [ledgerPart, Table.hasKey, hrefunds, hid, Ne.symm hid]

/-- The refund that is entered is within what was left. -/
theorem ledgerKept_entered {amount total : ℤ} (h : LedgerKept db)
    (hnew : db.refunds.hasKey row.id = false)
    (hpart : ledgerPart (.payment row.paymentId) db = (some (amount, status), total))
    (hmin : 1 ≤ row.amount) (hfits : row.amount + total ≤ amount) :
    LedgerKept (entered row (newStatus (total + row.amount) amount) now db) := by
  rw [ledgerKept_iff] at h ⊢
  intro id x hx
  rw [ledgerPart_entered hnew] at hx ⊢
  by_cases hid : id = row.paymentId
  · subst hid
    have hbefore := (h row.paymentId (amount, status) (by rw [hpart]; rfl)).1
    rw [hpart] at hbefore
    rw [if_pos rfl, hpart] at hx ⊢
    obtain rfl : (amount, newStatus (total + row.amount) amount) = x := by simpa using hx
    dsimp only at hbefore ⊢
    unfold newStatus
    split_ifs with hfull
    · exact ⟨by omega, by omega, by simp only [Says]; omega⟩
    · exact ⟨by omega, by omega, by omega, by omega⟩
  · have hkey : RefundRow.payment id ≠ .payment row.paymentId := by simpa using hid
    rw [if_neg hkey, if_neg (by simp)] at hx ⊢
    exact h id x hx

theorem ledger_refundInTx (paymentId : Uuid) (dto : RefundDto) (refundId : Uuid) (b : RefundDb) :
    (refundInTx paymentId dto refundId now).locks ledgerPart LedgerKept (fun _ _ _ _ => True)
      (fun _ _ _ _ => True) [] .idle b := by
  refine Prog.locks_transaction fun held t b h => ?_
  cases t with
  | idle => exact absurd h id
  | aborted =>
    exact (Prog.locks_bind _ _).mpr (Prog.locks_stmt_aborted (by simp) _ fun _ _ _ => trivial)
  | active w =>
    simp only [Prog.locks_bind, Prog.locks_selectForUpdate_active, Prog.locks_orThrow,
      Prog.locks_throwIf, Prog.locks_select_active, Prog.locks_writeChecked_active,
      Prog.locks_write_active, Prog.locks_pure]
    refine ⟨fun db hI hag => ?_, fun _ => trivial⟩
    -- from here on the payment is locked
    have h₁ := h.later hI hag (List.subset_append_right [.payment paymentId] held)
    refine ⟨fun _ => h₁, fun pay hpay => ⟨fun _ => h₁, fun _ => ?_⟩⟩
    refine ⟨fun db₂ hI₂ hag₂ => ?_, fun _ => trivial⟩
    have h₂ := h₁.later hI₂ hag₂ fun _ hk => hk
    refine ⟨fun _ => h₂, fun hfits => ⟨fun db₃ hI₃ hag₃ => ⟨fun s hs => ?_, fun _ _ => trivial⟩,
      fun _ => trivial⟩⟩
    have hpart : ledgerPart (.payment paymentId) (w db₂) =
        (some (pay.amount, pay.status), refunded paymentId (w db₂)) := by
      have hlocked := ((h₁ db₂ hI₂ hag₂).2 (.payment paymentId)).1 List.mem_cons_self
      have hfirst : (ledgerPart (.payment paymentId) (w db)).1 = some (pay.amount, pay.status) := by
        simp [ledgerPart, hpay]
      exact Prod.ext ((congrArg Prod.fst hlocked).trans hfirst) rfl
    have hnew : (w db₃).refunds.hasKey refundId = false := by
      by_contra hstored
      rw [Bool.not_eq_false] at hstored
      simp [insertRefund, hstored] at hs
    -- and the entry of the new row
    have h₃ := (h₂.known List.mem_cons_self fun s hs hsame =>
      And.intro hs (hsame.trans hpart)).later hI₃ hag₃
        (List.subset_append_right [.refund refundId] _)
    have h₄ := h₃.known (k := .refund refundId) List.mem_cons_self fun s hs hsame =>
      And.intro hs (show s.refunds.hasKey refundId = false by simpa [ledgerPart, hnew] using hsame)
    refine ⟨fun db₄ hI₄ hag₄ => ?_, fun _ => trivial⟩
    refine Tx.Owes.writeKnown (f := entered ⟨refundId, paymentId, dto.amount, none, .PENDING, now⟩ _
      now) (h₄.later hI₄ hag₄ (List.subset_append_right _ _)) hI₄ ?_ ?_ ?_
    · rintro s ⟨⟨hkept, hpart⟩, hnew⟩
      exact ledgerKept_entered hkept hnew hpart dto.min (by simpa using hfits)
    · rintro s ⟨-, hnew⟩ k hk
      rw [ledgerPart_entered hnew, if_neg, if_neg]
      · rintro rfl
        exact hk (by simp)
      · rintro rfl
        exact hk (by simp)
    · rintro s s' ⟨-, hnew⟩ ⟨-, hnew'⟩ k _ hsame
      rw [ledgerPart_entered hnew, ledgerPart_entered hnew', hsame]

end Ledger

/-- A write that leaves the ledger alone. -/
def Beside (w : RefundDb → RefundDb) : Prop := ∀ k s, ledgerPart k (w s) = ledgerPart k s

theorem Beside.kept {w : RefundDb → RefundDb} (hw : Beside w) (db : RefundDb)
    (h : LedgerKept db) : LedgerKept (w db) ∧ ∀ k, ledgerPart k (w db) = ledgerPart k db := by
  refine ⟨?_, fun k => hw k db⟩
  rw [ledgerKept_iff] at h ⊢
  intro id
  rw [hw]
  exact h id

theorem plain_attempt (refund : Refund) (pay : Payment) :
    (attemptGatewayRefund env refund pay).Plain Beside := by
  have hmark : ∀ id status ref, (updateRefund id status ref).Plain Beside :=
    fun id status ref => .write (ledgerPart_mark id status ref)
  have hcreate : ∀ req, (createRefund env req).Plain Beside := by
    refine fun req => .bind (.writeChecked fun k s => ?_) fun _ =>
      .bind (.of_readOnly (.lift _)) fun _ => .of_readOnly (.select _ _)
    simp only [applied, Except.map]
    cases env.createRefund s.held req with
    | error e => rfl
    | ok r => cases k <;> rfl
  unfold attemptGatewayRefund
  cases env.request refund pay with
  | none => exact hmark _ _ _
  | some req =>
    refine .tryCatch (.bind ?_ fun r => hmark _ _ _) fun _ => .ret _
    unfold askGateway
    split_ifs
    · refine .bind (.of_readOnly (.select _ _)) fun existing => ?_
      cases existing with
      | some r => exact .ret _
      | none => exact hcreate req
    · exact hcreate req

theorem RefundCall.ledger (call : RefundCall) (b : RefundDb) :
    (call.prog env).locks ledgerPart LedgerKept (fun _ _ _ _ => True) (fun _ _ _ _ => True) []
      .idle b := by
  cases call with
  | refundPayment paymentId dto refundId now =>
    refine (Prog.locks_bind _ _).mpr (Prog.locks_mono (fun x held t b _ => ?_)
      (fun _ _ _ _ h => h) _ _ _ _ (ledger_refundInTx paymentId dto refundId b))
    exact (Prog.Plain.bind (plain_attempt env x.1 x.2) fun _ => .ret ()).locks
      (fun _ hw => hw.kept) held t b
  | retryPendingRefunds limit =>
    refine Prog.Plain.locks (W := Beside) (.bind (.bind (.of_readOnly (.select _ _)) fun pending =>
      .bind (.all (fun refund => ?_) pending) fun _ => .ret _) fun _ => .ret ())
      (fun _ hw => hw.kept) _ _ _
    refine .bind (.of_readOnly (.select _ _)) fun pay => ?_
    cases pay with
    | some pay => exact plain_attempt env refund pay
    | none => exact .ret _
  | retryRefund refundId =>
    refine Prog.Plain.locks (W := Beside) (.bind (.bind (.of_readOnly (.select _ _)) fun row =>
      .bind (.of_readOnly (.orThrow _ _)) fun refund => ?_) fun _ => .ret ())
      (fun _ hw => hw.kept) _ _ _
    split_ifs
    · exact .ret _
    · exact .bind (.of_readOnly (.select _ _)) fun row => .bind (.of_readOnly (.orThrow _ _))
        fun pay => plain_attempt env refund pay

/-- **No payment is refunded beyond its amount**, and its status says what is refunded, in every
committed state of every interleaving. -/
theorem ledger_kept (calls : List RefundCall) (db : RefundDb) (hdb : LedgerKept db)
    (evs : List Event) (c : Config RefundDb RefundRow Unit RefundErr Unit)
    (hrun : (Config.start db (calls.map (RefundCall.prog env))).run evs = some c) :
    LedgerKept c.db := by
  refine Config.run_locks ledgerPart (fun p hp b => ?_) hdb evs hrun
  obtain ⟨call, -, rfl⟩ := List.mem_map.mp hp
  exact call.ledger env b

/-! ## A payment of ₹10 -/

/-- Razorpay; Cashfree is not configured, and refuses. -/
def razorpayOnly : RefundEnv where
  cashfreeConfigured := false
  createRefund _ req :=
    if req.gateway = .CASHFREE then .error (.gatewayFailed "401") else .ok ⟨"rfnd_1", req⟩
  honest := by
    intro held req r h
    split_ifs at h
    cases h
    rfl

def tenRupees : RefundDb :=
  { payments := ⟨[{ id := 1, ownerId := 7, gateway := .RAZORPAY, gatewayRef := some ['p', 'a', 'y'],
                    amount := 1000, status := .SUCCESS, updatedAt := 0 }], by decide⟩ }

/-- Two refunds of ₹6 at once: the second waits for the lock, and is refused. -/
theorem ledger_kept_at_once :
    let calls : List RefundCall := [.refundPayment 1 { amount := 600 } 10 0,
      .refundPayment 1 { amount := 600 } 11 0]
    let evs : List Event := .step 1 :: List.replicate 6 (.step 0) ++ List.replicate 3 (.step 1)
    ∃ c, (Config.start tenRupees (calls.map (RefundCall.prog razorpayOnly))).run evs = some c ∧
      refunded 1 c.db = 600 ∧ LedgerKept c.db := by
  intro calls evs
  have hdb : LedgerKept tenRupees := by
    intro p hp
    obtain rfl := List.mem_singleton.mp hp
    exact ⟨by decide, by decide, rfl⟩
  have hrun : ((Config.start tenRupees (calls.map (RefundCall.prog razorpayOnly))).run evs).map
      (fun c => refunded 1 c.db) = some 600 := by decide +kernel
  obtain ⟨c, hc, hsum⟩ := Option.map_eq_some_iff.mp hrun
  exact ⟨c, hc, hsum, ledger_kept razorpayOnly calls tenRupees hdb evs c hc⟩

end Travelo.Refunds

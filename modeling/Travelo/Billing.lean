import Travelo.ReadCommitted.Alone
import Travelo.ReadCommitted.Table
import Mathlib.Data.Int.Notation

/-!
# Subscriptions and payments

`SubscriptionLifecycleWorker`, and of `BillingService` the orders it creates at a gateway and
the look-up of the payment a webhook is about.

* A uuid is a 128-bit value; `Uuid.text` is what it is printed as.
* What a gateway holds is part of the state: a request to it is a statement that takes
  effect there, its answer one more statement, which may fail by itself.
-/

namespace Travelo

open ReadCommitted

/-! ## Uuids -/

abbrev Uuid := BitVec 128

namespace Uuid

/-- The last `k` digits of a number in base 16, most significant first. -/
def hexDigits : ℕ → ℕ → List Char
  | 0, _ => []
  | k + 1, n => hexDigits k (n / 16) ++ [Nat.digitChar (n % 16)]

/-- `xxxxxxxx-xxxx-xxxx-xxxx-xxxxxxxxxxxx`. -/
def text (u : Uuid) : List Char :=
  let d := hexDigits 32 u.toNat
  d.take 8 ++ '-' :: (d.drop 8).take 4 ++ '-' :: (d.drop 12).take 4 ++
    '-' :: (d.drop 16).take 4 ++ '-' :: d.drop 20

end Uuid

/-! ## The tables -/

inductive SubscriptionStatus where
  | TRIAL
  | ACTIVE
  | EXPIRING
  | GRACE_PERIOD
  | EXPIRED
  | SUSPENDED
  | CANCELLED
  deriving DecidableEq, Repr

inductive PaymentStatus where
  | PENDING
  | SUCCESS
  | FAILED
  | REFUNDED
  | PARTIALLY_REFUNDED
  | CANCELLED
  deriving DecidableEq, Repr

inductive Gateway where
  | RAZORPAY
  | CASHFREE
  | MANUAL
  | STRIPE
  deriving DecidableEq

structure SubscriptionPlan where
  id : Uuid
  monthlyPrice : ℤ
  durationMonths : ℤ
  currency : String := "INR"

structure Subscription where
  id : Uuid
  ownerId : Uuid
  planId : Uuid
  status : SubscriptionStatus := .TRIAL
  currentPeriodEnd : ℤ
  priceOverride : Option ℤ := none

structure SubscriptionPayment where
  id : Uuid
  ownerId : Uuid
  subscriptionId : Option Uuid := none
  gateway : Gateway
  gatewayRef : Option (List Char) := none
  amount : ℤ
  currency : String := "INR"
  status : PaymentStatus := .PENDING
  updatedAt : ℤ

/-! ## What the gateways hold -/

/-- An order as it is sent to Cashfree. -/
structure CashfreeOrderInput where
  amountPaise : ℤ
  currency : String
  orderId : List Char
  customerId : Uuid

/-- An order as it is sent to Razorpay. -/
structure RazorpayOrderInput where
  amountPaise : ℤ
  currency : String
  receipt : List Char

structure BillingDb where
  plans : Table SubscriptionPlan.id := ∅
  subscriptions : Table Subscription.id := ∅
  payments : Table SubscriptionPayment.id := ∅
  cashfreeOrders : List CashfreeOrderInput := []
  razorpayOrders : List RazorpayOrderInput := []

inductive BillingRow where
  | subscription (id : Uuid)
  | payment (id : Uuid)

/-- What a statement looks at. -/
inductive BillingLook where
  | subscription (id : Uuid)
  | payment (id : Uuid)
  | pendingByRef (ref : List Char)

inductive BillingErr where
  | subscriptionNotFound
  | subscriptionNotOwned
  | gatewayNotConfigured (gateway : Gateway)
  /-- A non-2xx answer, a timeout, a body that is not JSON. -/
  | gatewayFailed (message : String)
  | internal (message : String)

instance : Faults BillingErr := ⟨.internal⟩

abbrev BillingOp := Prog BillingDb BillingRow BillingLook BillingErr

/-! ## The life of a subscription -/

namespace SubscriptionLifecycleWorker

/-- A day, in milliseconds. -/
def day : ℤ := 86400000

/-- `EXISTS (SELECT 1 FROM payments …)`: it has ever been paid. -/
def everPaid (db : BillingDb) (id : Uuid) : Bool :=
  db.payments.rows.any fun p => p.subscriptionId = some id && p.status = .SUCCESS

def setStatus (p : BillingDb → Subscription → Bool) (status : SubscriptionStatus)
    (db : BillingDb) : BillingDb :=
  { db with subscriptions := db.subscriptions.update (p db) fun s => { s with status } }

/-- `UPDATE subscriptions SET status = … WHERE …`. -/
def updateStatus (p : BillingDb → Subscription → Bool) (status : SubscriptionStatus) :
    BillingOp Unit :=
  write (fun db => (db.subscriptions.rows.filter (p db)).map fun s => .subscription s.id)
    (setStatus p status) fun _ => ()

/-- The status moves of a run; telling the owners comes after them. -/
def run (now : ℤ) : BillingOp Unit := do
  updateStatus (fun _ s => s.status = .TRIAL && s.currentPeriodEnd ≤ now) .EXPIRED
  updateStatus (fun _ s => s.status = .ACTIVE && s.currentPeriodEnd ≤ now + 7 * day &&
    now < s.currentPeriodEnd) .EXPIRING
  updateStatus (fun _ s => (s.status = .ACTIVE || s.status = .EXPIRING) &&
    s.currentPeriodEnd ≤ now) .EXPIRED
  -- only a subscription that has ever been paid earns a grace period
  updateStatus (fun db s => s.status = .EXPIRED && now - 7 * day < s.currentPeriodEnd &&
    everPaid db s.id) .GRACE_PERIOD
  updateStatus (fun _ s => s.status = .GRACE_PERIOD && s.currentPeriodEnd ≤ now - 14 * day)
    .SUSPENDED

end SubscriptionLifecycleWorker

/-! ## Orders -/

namespace BillingService

structure CreateGatewayOrderDto where
  ownerId : Uuid
  subscriptionId : Uuid
  gateway : Option Gateway := none

/-- Cashfree's answer: our order id, echoed back, and the session of its checkout. -/
structure CashfreeOrder where
  order_id : List Char
  payment_session_id : String

structure RazorpayOrder where
  id : List Char

/-- The credentials, and what the gateways answer. -/
structure Gateways where
  razorpayConfigured : Bool := true
  cashfreeConfigured : Bool := true
  createRazorpayOrder : RazorpayOrderInput → Except BillingErr RazorpayOrder :=
    fun _ => .error (.gatewayFailed "")
  createCashfreeOrder : CashfreeOrderInput → Except BillingErr CashfreeOrder :=
    fun _ => .error (.gatewayFailed "")

/-- `parkPendingOrder`: the payment an order waits on. -/
def parkPendingOrder (dto : CreateGatewayOrderDto) (gateway : Gateway) (gatewayRef : List Char)
    (amount : ℤ) (currency : String) (paymentId : Uuid) (now : ℤ) :
    BillingOp SubscriptionPayment :=
  let row : SubscriptionPayment :=
    { id := paymentId
      ownerId := dto.ownerId
      subscriptionId := some dto.subscriptionId
      gateway
      gatewayRef := some gatewayRef
      amount
      currency
      updatedAt := now }
  write (fun _ => [.payment paymentId])
    (fun db => { db with payments := db.payments.insert row }) fun _ => row

/-- A gateway-unique order id the webhook can resolve back to the row. -/
def cashfreeOrderId (subscriptionId : Uuid) (now : ℕ) : List Char :=
  (['s', 'u', 'b', '-'] ++ subscriptionId.text ++ '-' :: Nat.toDigits 10 now).take 45

/-- Razorpay caps receipts at 40 characters. -/
def razorpayReceipt (subscriptionId : Uuid) : List Char :=
  (['s', 'u', 'b', '-'] ++ subscriptionId.text).take 40

def createCashfreeOrder (gateways : Gateways) (dto : CreateGatewayOrderDto) (amountPaise : ℤ)
    (currency : String) (paymentId : Uuid) (now : ℕ) : BillingOp SubscriptionPayment := do
  throwIf (gateways.cashfreeConfigured = false) (.gatewayNotConfigured .CASHFREE)
  let input : CashfreeOrderInput :=
    { amountPaise, currency, orderId := cashfreeOrderId dto.subscriptionId now,
      customerId := dto.ownerId }
  let _ ← write (fun _ => [])
    (fun db => { db with cashfreeOrders := db.cashfreeOrders ++ [input] }) fun _ => ()
  let order ← lift (gateways.createCashfreeOrder input)
  parkPendingOrder dto .CASHFREE order.order_id amountPaise currency paymentId now

def createRazorpayOrder (gateways : Gateways) (dto : CreateGatewayOrderDto) (amountPaise : ℤ)
    (currency : String) (paymentId : Uuid) (now : ℕ) : BillingOp SubscriptionPayment := do
  throwIf (gateways.razorpayConfigured = false) (.gatewayNotConfigured .RAZORPAY)
  let input : RazorpayOrderInput :=
    { amountPaise, currency, receipt := razorpayReceipt dto.subscriptionId }
  let _ ← write (fun _ => [])
    (fun db => { db with razorpayOrders := db.razorpayOrders ++ [input] }) fun _ => ()
  let order ← lift (gateways.createRazorpayOrder input)
  parkPendingOrder dto .RAZORPAY order.id amountPaise currency paymentId now

/-- The subscription with its plan. -/
def subscriptionAndPlan (id : Uuid) (db : BillingDb) : Option (Subscription × SubscriptionPlan) :=
  (db.subscriptions.find? id).bind fun s => (db.plans.find? s.planId).map fun p => (s, p)

/-- Create an order for the next period of a subscription. -/
def createGatewayOrder (gateways : Gateways) (dto : CreateGatewayOrderDto) (paymentId : Uuid)
    (now : ℕ) : BillingOp SubscriptionPayment := do
  let row ← select (.subscription dto.subscriptionId) (subscriptionAndPlan dto.subscriptionId)
  let (s, p) ← orThrow row .subscriptionNotFound
  throwIf (s.ownerId ≠ dto.ownerId) .subscriptionNotOwned
  let amountPaise := s.priceOverride.getD (p.monthlyPrice * p.durationMonths)
  if dto.gateway.getD .RAZORPAY = .CASHFREE then
    createCashfreeOrder gateways dto amountPaise p.currency paymentId now
  else createRazorpayOrder gateways dto amountPaise p.currency paymentId now

/-! ## Webhooks -/

/-- What a webhook that means captured money says. -/
structure SettlementHint where
  orderRef : Option (List Char) := none
  paymentRef : Option (List Char) := none
  amountPaise : Option ℤ := none

/-- `refs.filter(Boolean)`. -/
def SettlementHint.refs (hint : SettlementHint) : List (List Char) :=
  ([hint.orderRef, hint.paymentRef].filterMap id).filter fun ref => ref ≠ []

/-- `WHERE gateway_ref = ref AND status = 'PENDING'`. -/
def pendingByRef (ref : List Char) (p : SubscriptionPayment) : Bool :=
  p.gatewayRef = some ref && p.status = .PENDING

/-- The first reference that finds a payment. -/
def pendingPayment : List (List Char) → BillingOp (Option SubscriptionPayment)
  | [] => pure none
  | ref :: refs => do
    let found ← select (.pendingByRef ref) fun db => db.payments.rows.find? (pendingByRef ref)
    match found with
    | some p => return some p
    | none => pendingPayment refs

/-- The payment a webhook settles: `dispatchWebhook` up to the settlement. -/
def webhookPayment (hint : SettlementHint) : BillingOp (Option SubscriptionPayment) := do
  let pending ← pendingPayment hint.refs
  return pending.filter fun p => hint.amountPaise.all fun amount => amount = p.amount

end BillingService

end Travelo

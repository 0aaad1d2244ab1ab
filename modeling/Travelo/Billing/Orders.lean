import Mathlib.Algebra.Group.Nat.Defs
import Travelo.Billing

/-!
# The ids of Cashfree orders

An order id is cut to 45 characters: the prefix and the uuid of the subscription take 41 of
them, so of the moment only its first four digits are left. `orders_apart_iff` says for which
two orders that is enough to tell them, and their webhooks, apart.
-/

namespace Travelo

open ReadCommitted

namespace Uuid

@[simp] theorem length_hexDigits (k n : ℕ) : (hexDigits k n).length = k := by
  induction k generalizing n with
  | zero => rfl
  | succ k ih => simp [hexDigits, ih]

theorem digitChar_injective : ∀ d < 16, ∀ e < 16, Nat.digitChar d = Nat.digitChar e → d = e := by
  decide

theorem hexDigits_injective {k n m : ℕ} (hn : n < 16 ^ k) (hm : m < 16 ^ k)
    (h : hexDigits k n = hexDigits k m) : n = m := by
  induction k generalizing n m with
  | zero => omega
  | succ k ih =>
    rcases List.append_inj' h rfl with ⟨hfront, hlast⟩
    have hrest : n / 16 = m / 16 := by
      apply ih _ _ hfront
      · rw [Nat.pow_succ] at hn
        omega
      · rw [Nat.pow_succ] at hm
        omega
    have hdigit : n % 16 = m % 16 :=
      digitChar_injective _ (Nat.mod_lt _ (by decide)) _ (Nat.mod_lt _ (by decide))
        (List.singleton_inj.mp hlast)
    omega

@[simp] theorem length_text (u : Uuid) : u.text.length = 36 := by
  simp [text]

/-- Two lists agree from `i` on if they agree on `k` elements there and after them. -/
theorem drop_eq_of_block {d e : List Char} {i k : ℕ} (hblock : (d.drop i).take k = (e.drop i).take k)
    (hrest : d.drop (i + k) = e.drop (i + k)) : d.drop i = e.drop i := by
  rw [← List.take_append_drop k (d.drop i), ← List.take_append_drop k (e.drop i), List.drop_drop,
    List.drop_drop, hblock, hrest]

theorem text_injective {u v : Uuid} (h : u.text = v.text) : u = v := by
  -- the blocks between the hyphens, from the last to the first
  rcases List.append_inj' h (by simp) with ⟨h, h₅⟩
  rcases List.append_inj' h (by simp) with ⟨h, h₄⟩
  rcases List.append_inj' h (by simp) with ⟨h, h₃⟩
  rcases List.append_inj' h (by simp) with ⟨h₁, h₂⟩
  have h16 := drop_eq_of_block (List.cons_inj_right '-' |>.mp h₄) (List.cons_inj_right '-' |>.mp h₅)
  have h12 := drop_eq_of_block (List.cons_inj_right '-' |>.mp h₃) h16
  have h8 := drop_eq_of_block (List.cons_inj_right '-' |>.mp h₂) h12
  have hdigits : hexDigits 32 u.toNat = hexDigits 32 v.toNat := by
    rw [← List.take_append_drop 8 (hexDigits 32 u.toNat), h₁, h8, List.take_append_drop]
  exact BitVec.eq_of_toNat_eq (hexDigits_injective u.isLt v.isLt hdigits)

end Uuid

namespace BillingService

/-! ## What is left of an id after the cut -/

theorem cashfreeOrderId_eq (subscriptionId : Uuid) (now : ℕ) :
    cashfreeOrderId subscriptionId now =
      ['s', 'u', 'b', '-'] ++ subscriptionId.text ++ '-' :: (Nat.toDigits 10 now).take 4 := by
  have hlength : (['s', 'u', 'b', '-'] ++ subscriptionId.text).length = 40 := by simp
  rw [cashfreeOrderId, List.take_append, hlength, List.take_of_length_le (by omega)]
  rfl

theorem cashfreeOrderId_eq_iff {id id' : Uuid} {now now' : ℕ} :
    cashfreeOrderId id now = cashfreeOrderId id' now' ↔
      id = id' ∧ (Nat.toDigits 10 now).take 4 = (Nat.toDigits 10 now').take 4 := by
  rw [cashfreeOrderId_eq, cashfreeOrderId_eq]
  constructor
  · intro h
    rcases List.append_inj h (by simp) with ⟨hid, hnow⟩
    exact ⟨Uuid.text_injective (List.append_cancel_left hid), List.cons_inj_right '-' |>.mp hnow⟩
  · rintro ⟨rfl, hnow⟩
    rw [hnow]

/-! ## Two orders -/

/-- What `createCashfreeOrder` is called with, and its clock. -/
structure OrderCall where
  dto : CreateGatewayOrderDto
  amountPaise : ℤ
  currency : String := "INR"
  paymentId : Uuid
  now : ℕ

namespace OrderCall

variable (gateways : Gateways) (call : OrderCall)

def prog : BillingOp SubscriptionPayment :=
  createCashfreeOrder gateways call.dto call.amountPaise call.currency call.paymentId call.now

def input : CashfreeOrderInput where
  amountPaise := call.amountPaise
  currency := call.currency
  orderId := cashfreeOrderId call.dto.subscriptionId call.now
  customerId := call.dto.ownerId

/-- The first digits of its moment, in milliseconds. -/
def leadingDigits : List Char := (Nat.toDigits 10 call.now).take 4

end OrderCall

/-- Cashfree answers with our order id. -/
def Echoes (gateways : Gateways) : Prop :=
  ∀ input order, gateways.createCashfreeOrder input = .ok order → order.order_id = input.orderId

/-- The id of the order sent last. -/
def sentOrderId (db : BillingDb) : Option (List Char) :=
  (db.cashfreeOrders.getLast?).map (·.orderId)

/-- A webhook for the order `ref` can settle the payment `p`. -/
def CanSettle (ref : List Char) (p : SubscriptionPayment) : Prop :=
  ∃ hint db, hint.orderRef = some ref ∧ hint.paymentRef ≠ p.gatewayRef ∧
    ((webhookPayment hint).run db).res = .ok (some p)

/-- Two orders, and the webhooks about them, do not get in each other's way. -/
structure Apart (ref ref' : Option (List Char)) (p p' : SubscriptionPayment) : Prop where
  sent : ref ≠ ref'
  stored : p.gatewayRef ≠ p'.gatewayRef
  first : ∀ r ∈ ref, ¬CanSettle r p'
  second : ∀ r ∈ ref', ¬CanSettle r p

/-- A call that returns has sent one order and parked a payment with what Cashfree echoed. -/
theorem OrderCall.prog_ok {gateways : Gateways} {call : OrderCall} (hecho : Echoes gateways)
    {db : BillingDb} {p : SubscriptionPayment} (h : ((call.prog gateways).run db).res = .ok p) :
    sentOrderId ((call.prog gateways).run db).db = some call.input.orderId ∧
      p.gatewayRef = some call.input.orderId ∧ p.status = .PENDING := by
  rw [Prog.run_res] at h
  rw [Prog.run_db]
  simp only [prog, createCashfreeOrder] at h ⊢
  cases hc : gateways.cashfreeConfigured with
  | false => simp [hc] at h
  | true =>
    cases horder : gateways.createCashfreeOrder call.input with
    | error e =>
      rw [input] at horder
      simp [hc, horder] at h
    | ok order =>
      have hid := hecho _ _ horder
      rw [input] at horder
      simp [hc, horder, parkPendingOrder] at h ⊢
      rcases h with rfl
      exact ⟨by simp [sentOrderId, input], congrArg some hid, rfl⟩

theorem pendingPayment_ref {refs : List (List Char)} {db : BillingDb} {p : SubscriptionPayment}
    (h : ((pendingPayment refs).eval .idle db).1 = .ok (some p)) :
    ∃ ref ∈ refs, p.gatewayRef = some ref := by
  induction refs with
  | nil => simp [pendingPayment] at h
  | cons ref refs ih =>
    simp only [pendingPayment, eval_simps] at h
    cases hfind : db.payments.rows.find? (pendingByRef ref) with
    | none =>
      rw [hfind] at h
      rcases ih h with ⟨r, hr, hp⟩
      exact ⟨r, List.mem_cons_of_mem _ hr, hp⟩
    | some found =>
      rw [hfind] at h
      simp only [eval_pure, Except.ok.injEq, Option.some.injEq] at h
      subst h
      have hp := List.find?_some hfind
      simp only [pendingByRef, and_decide_eq] at hp
      exact ⟨ref, List.mem_cons_self .., hp.1⟩

/-- A webhook for an order can settle a pending payment exactly when that carries its id. -/
theorem canSettle_iff {ref : List Char} {p : SubscriptionPayment} (hne : ref ≠ [])
    (hpending : p.status = .PENDING) : CanSettle ref p ↔ p.gatewayRef = some ref := by
  constructor
  · rintro ⟨hint, db, href, hother, hres⟩
    have hfound : ((pendingPayment hint.refs).eval .idle db).1 = .ok (some p) := by
      rw [Prog.run_res, webhookPayment, eval_bind] at hres
      rcases hend : (pendingPayment hint.refs).eval .idle db with ⟨res, t, db'⟩
      rw [hend] at hres
      cases res with
      | error e => simp at hres
      | ok found =>
        have hfilter := Option.filter_eq_some_iff.mp (Except.ok.inj hres)
        simp [hfilter.1]
    rcases pendingPayment_ref hfound with ⟨r, hr, hp⟩
    simp only [SettlementHint.refs, href, List.mem_filter, List.mem_filterMap, id_eq,
      List.mem_cons, List.not_mem_nil, or_false] at hr
    rcases hr with ⟨⟨_, rfl | rfl, hr⟩, _⟩
    · rw [hp, ← hr]
    · exact absurd (hr.trans hp.symm) hother
  · intro hp
    refine ⟨{ orderRef := some ref }, { payments := Table.insert ∅ p }, rfl, ?_, ?_⟩
    · rw [hp]
      simp
    · have hrefs : SettlementHint.refs { orderRef := some ref } = [ref] := by
        simp [SettlementHint.refs, hne]
      have hrow : (Table.insert ∅ p : Table SubscriptionPayment.id).rows.find?
          (pendingByRef ref) = some p := by
        have hmatches : pendingByRef ref p = true := by simp [pendingByRef, hp, hpending]
        simp [Table.insert, Table.hasKey, hmatches]
      rw [Prog.run_res, webhookPayment, hrefs]
      simp [pendingPayment, hrow]

/-- Two orders are kept apart, at the gateway, on the parked payments and by their webhooks,
exactly when they are for different subscriptions or their moments begin with different
digits. -/
theorem orders_apart_iff {gateways : Gateways} (hecho : Echoes gateways) {call call' : OrderCall}
    {db db' : BillingDb} {p p' : SubscriptionPayment}
    (hcall : ((call.prog gateways).run db).res = .ok p)
    (hcall' : ((call'.prog gateways).run db').res = .ok p') :
    Apart (sentOrderId ((call.prog gateways).run db).db)
        (sentOrderId ((call'.prog gateways).run db').db) p p' ↔
      call.dto.subscriptionId ≠ call'.dto.subscriptionId ∨
        call.leadingDigits ≠ call'.leadingDigits := by
  rcases OrderCall.prog_ok hecho hcall with ⟨hsent, hstored, hpending⟩
  rcases OrderCall.prog_ok hecho hcall' with ⟨hsent', hstored', hpending'⟩
  rw [hsent, hsent']
  have hids : call.input.orderId = call'.input.orderId ↔
      call.dto.subscriptionId = call'.dto.subscriptionId ∧
        call.leadingDigits = call'.leadingDigits := cashfreeOrderId_eq_iff
  have hne : ∀ c : OrderCall, c.input.orderId ≠ [] := by
    intro c
    rw [OrderCall.input, cashfreeOrderId_eq]
    simp
  constructor
  · intro h
    by_contra hc
    rw [not_or, not_not, not_not] at hc
    exact h.sent (congrArg some (hids.mpr hc))
  · intro hc
    have hdiff : call.input.orderId ≠ call'.input.orderId := by
      intro heq
      rcases hids.mp heq with ⟨hsub, hdigits⟩
      rcases hc with hc | hc
      · exact hc hsub
      · exact hc hdigits
    constructor
    · exact fun h => hdiff (Option.some.inj h)
    · rw [hstored, hstored']
      exact fun h => hdiff (Option.some.inj h)
    · rintro r hr hsettle
      rw [← Option.some.inj hr, canSettle_iff (hne call) hpending', hstored'] at hsettle
      exact hdiff (Option.some.inj hsettle).symm
    · rintro r hr hsettle
      rw [← Option.some.inj hr, canSettle_iff (hne call') hpending, hstored] at hsettle
      exact hdiff (Option.some.inj hsettle)

/-- Cashfree, answering every order with its id. -/
def echoing : Gateways where
  createCashfreeOrder := fun input => .ok { order_id := input.orderId, payment_session_id := "s" }

theorem echoing_echoes : Echoes echoing := by
  intro input order h
  cases h
  rfl

/-- An order for a renewal, and another for the same one `delay` milliseconds later. -/
def firstOrder : OrderCall where
  dto := { ownerId := 7, subscriptionId := 0x550e8400e29b41d4a716446655440000 }
  amountPaise := 99900
  paymentId := 1
  now := 1700000000000

def laterOrder (delay : ℕ) : OrderCall :=
  { firstOrder with paymentId := 2, now := firstOrder.now + delay }

/-- Both orders of one day have one id, and the webhook of the second settles the payment of
the first. -/
theorem orders_clash :
    let afterFirst := ((firstOrder.prog echoing).run {}).db
    let afterSecond := (((laterOrder 86400000).prog echoing).run afterFirst).db
    sentOrderId afterFirst = sentOrderId afterSecond ∧
      (((webhookPayment { orderRef := sentOrderId afterSecond, amountPaise := some 99900 }).run
        afterSecond).res.toOption.bind id).map (·.id) = some firstOrder.paymentId ∧
      (laterOrder 86400000).now ≠ firstOrder.now := by
  decide +kernel

/-- Two weeks apart they differ. -/
theorem orders_apart_fortnight :
    let p (call : OrderCall) : SubscriptionPayment :=
      { id := call.paymentId
        ownerId := call.dto.ownerId
        subscriptionId := some call.dto.subscriptionId
        gateway := .CASHFREE
        gatewayRef := some call.input.orderId
        amount := call.amountPaise
        updatedAt := call.now }
    Apart (sentOrderId ((firstOrder.prog echoing).run {}).db)
      (sentOrderId (((laterOrder 1209600000).prog echoing).run {}).db)
      (p firstOrder) (p (laterOrder 1209600000)) :=
  (orders_apart_iff echoing_echoes rfl rfl).mpr (.inr (by decide +kernel))

end BillingService

end Travelo

import Travelo.Restaurant.Orders

/-!
# Settling an order

`settle` reads the order, inserts a payment and stores the sum of what it has read and of the
payment; `applyDiscount` stores a new total over payments already taken, and no status. Nothing
is locked in between. `settlement_exact`: when each settlement meets the status, the total and
the paid sum it has read, and a discount leaves a bill above what is paid, the payments of an
order are its paid sum, which never exceeds the total and has reached it when the order is
PAID, and only then.
-/

namespace Travelo

open ReadCommitted OrdersService

/-- A payment or a discount, with the clock and the uuids it is given. -/
inductive SettlementCall where
  | settle (propertyId orderId : Id) (dto : SettleOrderDto) (settledBy : Option Id) (now : ℤ)
      (uuid : ℕ → Id)
  | applyDiscount (propertyId orderId : Id) (dto : OrderDiscountDto) (now : ℤ)

def SettlementCall.prog (taxSetting : Option ℚ) : SettlementCall → Op Unit
  | .settle propertyId orderId dto settledBy now uuid => do
    let _ ← OrdersService.settle { now, uuid, taxSetting } propertyId orderId dto settledBy
  | .applyDiscount propertyId orderId dto now => do
    let _ ← OrdersService.applyDiscount { now, taxSetting } propertyId orderId dto

/-! ## Exact settlements -/

/-- What was paid for an order. -/
def paymentsFor (orderId : Id) (db : HotelDb) : ℤ :=
  ((db.restaurantOrderPayments.filter fun p => p.orderId = orderId).map (·.amountPaise)).sum

/-- The payments are the paid sum, it is within the total, and a billed order is PAID when the
sum covers the total and only then. -/
@[mk_iff] structure SettledExactly (db : HotelDb) (o : RestaurantOrder) : Prop where
  payments : paymentsFor o.id db = o.paidPaise
  within : o.paidPaise ≤ o.totalPaise
  paid : o.status = .PAID ↔ Billed o ∧ o.totalPaise ≤ o.paidPaise

instance (db : HotelDb) (o : RestaurantOrder) : Decidable (SettledExactly db o) :=
  decidable_of_iff _ (settledExactly_iff ..).symm

/-- Every order is settled exactly. -/
def AllSettled (db : HotelDb) : Prop := ∀ o ∈ db.restaurantOrders, SettledExactly db o

instance (db : HotelDb) : Decidable (AllSettled db) :=
  inferInstanceAs (Decidable (∀ _ ∈ _, _))

/-- A settlement meets the order it has read; a discount on a bill leaves more to pay than is
paid. -/
def BillAsRead (taxPercent : ℚ) : SettlementCall → (HotelDb → HotelDb) → Trace → HotelDb → Prop
  | .settle propertyId orderId _ _ _ _, _, h, now =>
    ∀ b ∈ (statesRead h)[0]?, ∀ r ∈ orderOf propertyId orderId b,
      ∀ o ∈ now.restaurantOrders.find? orderId,
        o.status = r.status ∧ o.totalPaise = r.totalPaise ∧ o.paidPaise = r.paidPaise
  | .applyDiscount propertyId orderId dto _, _, h, now =>
    ∀ b ∈ (statesRead h)[0]?, ∀ r ∈ orderOf propertyId orderId b, r.status = .BILLED →
      ∀ b₂ ∈ (statesRead h)[1]?, ∀ b₃ ∈ (statesRead h)[2]?,
        ∀ o ∈ now.restaurantOrders.find? orderId,
          o.status = .BILLED ∧ o.paidPaise < (computeBill (linesOf orderId b₂) taxPercent
            dto.amountPaise (serviceChargeOf propertyId b₃)).totalPaise

instance (taxPercent : ℚ) : ∀ call w h now, Decidable (BillAsRead taxPercent call w h now) := by
  intro call w h now
  cases call <;> unfold BillAsRead <;> infer_instance

/-! ## The writes -/

section Writes

variable {db db' db'' : HotelDb} {orderId : Id}

theorem paymentsFor_add (payment : RestaurantOrderPayment) (db : HotelDb) (id : Id) :
    paymentsFor id (addPayment payment db) =
      paymentsFor id db + if payment.orderId = id then payment.amountPaise else 0 := by
  unfold paymentsFor addPayment
  by_cases hid : payment.orderId = id
  · simp [List.filter_append, hid]
  · simp [List.filter_append, hid]

/-- Columns of one order are set: with the payments there are then, it must be settled. -/
theorem allSettled_set {f : RestaurantOrder → RestaurantOrder} {hf : ∀ o, (f o).id = o.id}
    (hbook : SameBook (setOrder orderId f hf db') db'') (hdb : AllSettled db)
    (horders : db'.restaurantOrders = db.restaurantOrders)
    (hothers : ∀ id, id ≠ orderId → paymentsFor id db' = paymentsFor id db)
    (hrow : ∀ o, db.restaurantOrders.find? orderId = some o → SettledExactly db o →
      SettledExactly db' (f o)) :
    AllSettled db'' := by
  intro o' ho'
  have hpayments : ∀ id, paymentsFor id db'' = paymentsFor id db' := by
    intro id
    unfold paymentsFor
    rw [hbook.payments]
    rfl
  have hset : o' ∈ (setOrder orderId f hf db').restaurantOrders := by
    rw [← hbook.orders]
    exact ho'
  obtain ⟨o, ho, heq⟩ := mem_setOrder.mp hset
  rw [horders] at ho
  by_cases hid : o.id = orderId
  · rw [if_pos hid] at heq
    have hfind : db.restaurantOrders.find? orderId = some o := by
      rw [← hid]
      exact find?_key ho
    obtain ⟨hpaid, hwithin, hiff⟩ := hrow o hfind (hdb o ho)
    subst heq
    exact ⟨by rw [hpayments, hpaid], hwithin, hiff⟩
  · rw [if_neg hid] at heq
    subst heq
    obtain ⟨hpaid, hwithin, hiff⟩ := hdb o' ho
    exact ⟨by rw [hpayments, hothers o'.id hid, hpaid], hwithin, hiff⟩

theorem SettleWrite.settles {propertyId : Id} {dto : SettleOrderDto} {settledBy : Option Id}
    {time : ℤ} {h : Trace} {w : HotelDb → HotelDb} {now : HotelDb}
    (hw : SettleWrite propertyId orderId dto settledBy time h w)
    (hread : ∀ b ∈ (statesRead h)[0]?, ∀ r ∈ orderOf propertyId orderId b,
      ∀ o ∈ now.restaurantOrders.find? orderId,
        o.status = r.status ∧ o.totalPaise = r.totalPaise ∧ o.paidPaise = r.paidPaise)
    (hnow : AllSettled now) : AllSettled (w now) := by
  cases hw with
  | @mk b rest r _ p hstates hfound hbilled hpaid hw =>
    rw [hstates] at hread
    refine allSettled_set (hw now) hnow rfl (fun id hid => ?_) fun o ho hsettled => ?_
    · have hne : orderId ≠ id := Ne.symm hid
      rw [paymentsFor_add]
      simp [newPayment, hne]
    · obtain ⟨hstatus, htotal, hsum⟩ := hread b rfl r hfound o ho
      have hkey : o.id = orderId := key_of_find? ho
      constructor
      · show paymentsFor o.id (addPayment _ now) = r.paidPaise + p.amount
        rw [paymentsFor_add, hsettled.payments, hsum]
        simp [newPayment, hkey]
      · show r.paidPaise + p.amount ≤ o.totalPaise
        have hwithin := hsettled.within
        omega
      · show (if r.totalPaise ≤ r.paidPaise + p.amount then _ else _) = _ ↔
          Billed _ ∧ o.totalPaise ≤ r.paidPaise + p.amount
        unfold Billed
        simp only [settledOrder]
        rw [htotal]
        by_cases hcovers : r.totalPaise ≤ r.paidPaise + p.amount
        · simp [hcovers]
        · simp [hcovers]

theorem DiscountWrite.settles {taxPercent : ℚ} {propertyId : Id} {dto : OrderDiscountDto}
    {time : ℤ} {h : Trace} {w : HotelDb → HotelDb} {now : HotelDb}
    (hw : DiscountWrite taxPercent propertyId orderId dto time h w)
    (hguard : ∀ b ∈ (statesRead h)[0]?, ∀ r ∈ orderOf propertyId orderId b, r.status = .BILLED →
      ∀ b₂ ∈ (statesRead h)[1]?, ∀ b₃ ∈ (statesRead h)[2]?,
        ∀ o ∈ now.restaurantOrders.find? orderId,
          o.status = .BILLED ∧ o.paidPaise < (computeBill (linesOf orderId b₂) taxPercent
            dto.amountPaise (serviceChargeOf propertyId b₃)).totalPaise)
    (hnow : AllSettled now) : AllSettled (w now) := by
  cases hw with
  | @onOpen b rest r _ hread hfound hopen hw =>
    refine allSettled_set (hw now) hnow rfl (fun _ _ => rfl) fun o _ hsettled => ?_
    exact ⟨hsettled.payments, hsettled.within, hsettled.paid⟩
  | @onBilled b b₂ b₃ rest r totals _ hread hfound hbilled htotals hw =>
    rw [hread] at hguard
    refine allSettled_set (hw now) hnow rfl (fun _ _ => rfl) fun o ho hsettled => ?_
    obtain ⟨hstatus, hmore⟩ := hguard b rfl r hfound hbilled b₂ rfl b₃ rfl o ho
    rw [← htotals] at hmore
    refine ⟨hsettled.payments, Int.le_of_lt hmore, ?_⟩
    -- it is BILLED, and the new total is not covered
    show o.status = .PAID ↔ _ ∧ totals.totalPaise ≤ o.paidPaise
    constructor
    · intro hpaid
      rw [hstatus] at hpaid
      cases hpaid
    · rintro ⟨-, hcovers⟩
      omega

end Writes

/-! ## All calls -/

/-- What a call publishes. -/
def SettlementCall.Publishes (taxPercent : ℚ) :
    SettlementCall → Trace → (HotelDb → HotelDb) → Prop
  | .settle propertyId orderId dto settledBy now _ =>
    SettleWrite propertyId orderId dto settledBy now
  | .applyDiscount propertyId orderId dto now => DiscountWrite taxPercent propertyId orderId dto now

theorem SettlementCall.wp_prog (taxSetting : Option ℚ) (call : SettlementCall) :
    (call.prog taxSetting).wp (call.Publishes (resolveTaxPercent taxSetting)) (fun _ _ _ => True)
      (fun _ _ _ => True) [] .idle := by
  cases call with
  | settle propertyId orderId dto settledBy now uuid =>
    exact (settle_writes { now, uuid, taxSetting } propertyId orderId dto settledBy).discard
  | applyDiscount propertyId orderId dto now =>
    exact (applyDiscount_writes { now, taxSetting } propertyId orderId dto).discard

/-- In every interleaving in which settlements meet the order they have read and discounts leave
more to pay than is paid, every order is settled exactly. -/
theorem settlement_exact (taxSetting : Option ℚ) (calls : List SettlementCall) (db : HotelDb)
    (hdb : AllSettled db) (evs : List Event) (c : Config HotelDb RowKey Look Err Unit)
    (hrun : (Config.start db (calls.map (SettlementCall.prog taxSetting))).run evs = some c)
    (hread : (Config.start db (calls.map (SettlementCall.prog taxSetting))).Throughout
      (GuardedCalls calls (BillAsRead (resolveTaxPercent taxSetting))) evs) : AllSettled c.db := by
  refine Config.calls_invariant (R := fun _ _ => True) (SettlementCall.wp_prog taxSetting)
    (fun _ => trivial) (fun _ _ _ _ _ => trivial) ?_ hdb evs hread hrun
  intro call h w now hw _ hg hnow
  refine ⟨?_, trivial⟩
  cases call with
  | settle propertyId orderId dto settledBy now uuid => exact SettleWrite.settles hw hg hnow
  | applyDiscount propertyId orderId dto now => exact DiscountWrite.settles hw hg hnow

/-! ## Settlements that are not -/

/-- A bill of ₹105: a dish at ₹100 with 5 % tax. -/
def dinnerBill : HotelDb :=
  { restaurantOrders := ⟨[{ id := 1, propertyId := 1, orderNumber := 1, status := .BILLED,
                            subtotalPaise := 10000, taxPaise := 500, totalPaise := 10500 }],
      by decide⟩
    orderItems := thali }

/-- The balance, by card. -/
def byCard : SettleOrderDto := { method := .CARD, positive := SettleOrderDto.whole }

/-- ₹100 of it, in cash. -/
def inCash : SettleOrderDto := { method := .CASH, amountPaise := some 10000 }

/-- ₹50 off. -/
def halfOff : OrderDiscountDto := { amountPaise := 5000, reason := "late" }

/-- Two waiters take the balance. -/
def settlingTwice : List SettlementCall :=
  [.settle 1 1 byCard none 0 id, .settle 1 1 byCard none 0 id]

/-- Both have read the bill before either has paid it. -/
def settledTogether : List Event :=
  [.step 0, .step 0] ++ List.replicate 2 (.step 1) ++ List.replicate 6 (.step 0) ++
    List.replicate 6 (.step 1)

/-- ₹100 are paid, and ₹50 taken off. -/
def payingAndDiscount : List SettlementCall :=
  [.settle 1 1 inCash none 0 id, .applyDiscount 1 1 halfOff 0]

/-- In this order. -/
def discountedAfterPayment : List Event := List.replicate 8 (.step 0) ++ List.replicate 8 (.step 1)

/-- ₹50 are taken off, ₹20 paid in cash and the rest by card. -/
def payingInParts : List SettlementCall :=
  [.applyDiscount 1 1 halfOff 0,
    .settle 1 1 { method := .CASH, amountPaise := some 2000 } none 0 id,
    .settle 1 1 byCard none 0 id]

/-- One after the other. -/
def paidInTurns : List Event :=
  List.replicate 8 (.step 0) ++ List.replicate 8 (.step 1) ++ List.replicate 8 (.step 2)

/-- Two payments of ₹105 and a paid sum of ₹105; ₹100 paid on a total of ₹52.50, and not PAID. -/
theorem settlement_not_exact :
    AllSettled dinnerBill ∧
      (∃ c, (Config.start dinnerBill (settlingTwice.map (SettlementCall.prog none))).run
          settledTogether = some c ∧
        paymentsFor 1 c.db = 21000 ∧
        c.db.restaurantOrders.rows.map (·.paidPaise) = [10500] ∧ ¬AllSettled c.db) ∧
      ∃ c, (Config.start dinnerBill (payingAndDiscount.map (SettlementCall.prog none))).run
          discountedAfterPayment = some c ∧
        (c.db.restaurantOrders.rows.map fun o => (o.status, o.paidPaise, o.totalPaise)) =
          [(.BILLED, 10000, 5250)] ∧ ¬AllSettled c.db :=
  ⟨by decide, ⟨_, rfl, by decide, by decide, by decide⟩, _, rfl, by decide, by decide⟩

/-- The discount, a part and the rest. -/
theorem settlement_exact_in_turns :
    ∃ c, (Config.start dinnerBill (payingInParts.map (SettlementCall.prog none))).run
        paidInTurns = some c ∧
      (c.db.restaurantOrders.rows.map fun o => (o.status, o.paidPaise, o.totalPaise)) =
        [(.PAID, 5250, 5250)] ∧ AllSettled c.db :=
  ⟨_, rfl, by decide, settlement_exact none payingInParts dinnerBill (by decide) paidInTurns _ rfl
    (by decide)⟩

end Travelo

import Travelo.Restaurant.Orders

/-!
# Bills and their orders

A bill is a copy: `bill` stores the totals of the lines it has read, and what comes to the
lines or to the discount afterwards changes them or does not. The calls on a line and on a
discount check the status of the order in one statement and write in another, with no lock in
between. `bills_describe`: when each call meets the order as it has read it, and no discount on
a bill exceeds the lines, every stored bill is that of its order.
-/

namespace Travelo

open ReadCommitted OrdersService

/-- A call on an order, with the clock and the uuids it is given. -/
inductive BillCall where
  | addItems (propertyId orderId : Id) (items : List AddOrderItemDto) (now : ℤ) (uuid : ℕ → Id)
  | setKotStatus (propertyId orderId itemId : Id) (toStatus : KotStatus) (role : KotRole) (now : ℤ)
  | cancelItem (propertyId orderId itemId : Id) (now : ℤ)
  | bill (propertyId orderId : Id) (now : ℤ)
  | applyDiscount (propertyId orderId : Id) (dto : OrderDiscountDto) (now : ℤ)
  | settle (propertyId orderId : Id) (dto : SettleOrderDto) (settledBy : Option Id) (now : ℤ)
      (uuid : ℕ → Id)

/-- All calls are made under one `RESTAURANT_TAX_PERCENT`. -/
def BillCall.prog (taxSetting : Option ℚ) : BillCall → Op Unit
  | .addItems propertyId orderId items now uuid => do
    let _ ← OrdersService.addItems { now, uuid, taxSetting } propertyId orderId items
  | .setKotStatus propertyId orderId itemId toStatus role now => do
    let _ ← OrdersService.setKotStatus { now, taxSetting } propertyId orderId itemId toStatus role
  | .cancelItem propertyId orderId itemId now => do
    let _ ← OrdersService.cancelItem { now, taxSetting } propertyId orderId itemId
  | .bill propertyId orderId now => do
    let _ ← OrdersService.bill { now, taxSetting } propertyId orderId
  | .applyDiscount propertyId orderId dto now => do
    let _ ← OrdersService.applyDiscount { now, taxSetting } propertyId orderId dto
  | .settle propertyId orderId dto settledBy now uuid => do
    let _ ← OrdersService.settle { now, uuid, taxSetting } propertyId orderId dto settledBy

/-! ## Bills that describe their orders -/

/-- The stored bill. -/
def totalsOf (o : RestaurantOrder) : BillTotals where
  subtotalPaise := o.subtotalPaise
  discountPaise := o.discountPaise
  serviceChargePaise := o.serviceChargePaise
  taxPaise := o.taxPaise
  totalPaise := o.totalPaise

/-- The stored bill is that of the lines and the stored discount, and the discount is between
nothing and what the lines come to. -/
@[mk_iff] structure BillDescribes (taxPercent : ℚ) (db : HotelDb) (o : RestaurantOrder) : Prop where
  totals : totalsOf o = computeBill (linesOf o.id db) taxPercent o.discountPaise
    (serviceChargeOf o.propertyId db)
  discount : 0 ≤ o.discountPaise ∧ o.discountPaise ≤ grossOf (linesOf o.id db)

instance (taxPercent : ℚ) (db : HotelDb) (o : RestaurantOrder) :
    Decidable (BillDescribes taxPercent db o) :=
  decidable_of_iff _ (billDescribes_iff ..).symm

/-- Every bill describes its order. -/
def BillsDescribe (taxPercent : ℚ) (db : HotelDb) : Prop :=
  ∀ o ∈ db.restaurantOrders, Billed o → BillDescribes taxPercent db o

instance (taxPercent : ℚ) (db : HotelDb) : Decidable (BillsDescribe taxPercent db) :=
  inferInstanceAs (Decidable (∀ _ ∈ _, _))

/-- The order is as the call has read it: a line is not added to, moved on or taken off a bill,
the lines come to what was read, and a discount on a bill found the bill and does not exceed
the lines. -/
def OrderAsRead : BillCall → (HotelDb → HotelDb) → Trace → HotelDb → Prop
  | .addItems _ orderId _ _ _, _, _, now => ∀ o ∈ now.restaurantOrders.find? orderId, ¬Billed o
  | .setKotStatus _ orderId _ _ _ _, _, _, now =>
    ∀ o ∈ now.restaurantOrders.find? orderId, ¬Billed o
  | .cancelItem _ orderId _ _, _, _, now => ∀ o ∈ now.restaurantOrders.find? orderId, ¬Billed o
  | .bill _ orderId _, _, h, now =>
    ∀ b ∈ (statesRead h)[1]?, grossOf (linesOf orderId now) = grossOf (linesOf orderId b)
  | .applyDiscount propertyId orderId dto _, _, h, now =>
    ∀ o ∈ now.restaurantOrders.find? orderId, Billed o →
      (∀ b ∈ (statesRead h)[0]?, ∀ r ∈ orderOf propertyId orderId b, r.status = .BILLED) ∧
      (∀ b ∈ (statesRead h)[1]?, grossOf (linesOf orderId now) = grossOf (linesOf orderId b)) ∧
      dto.amountPaise ≤ grossOf (linesOf orderId now)
  | .settle _ _ _ _ _ _, _, _, _ => True

instance : ∀ call w h now, Decidable (OrderAsRead call w h now) := by
  intro call w h now
  cases call <;> unfold OrderAsRead <;> infer_instance

/-- Settings and the places of lines and orders stay, and a bill is not taken back. -/
structure BillStep (db db' : HotelDb) : Prop where
  settings : db'.propertySettings = db.propertySettings
  places : PlacesKept db db'
  orders : ∀ o ∈ db.restaurantOrders, ∃ o' ∈ db'.restaurantOrders, o'.id = o.id ∧
    o'.propertyId = o.propertyId ∧ (Billed o → Billed o')

theorem BillStep.refl (db : HotelDb) : BillStep db db :=
  ⟨rfl, .refl db, fun o ho => ⟨o, ho, rfl, rfl, id⟩⟩

theorem BillStep.trans (db db' db'' : HotelDb) (h : BillStep db db') (h' : BillStep db' db'') :
    BillStep db db'' := by
  refine ⟨h'.settings.trans h.settings, h.places.trans h'.places, fun o ho => ?_⟩
  obtain ⟨o', ho', hid, hprop, hbilled⟩ := h.orders o ho
  obtain ⟨o'', ho'', hid', hprop', hbilled'⟩ := h'.orders o' ho'
  exact ⟨o'', ho'', hid'.trans hid, hprop'.trans hprop, fun hb => hbilled' (hbilled hb)⟩

/-! ## The arithmetic of a bill -/

section Arithmetic

variable {taxPercent : ℚ} {lines lines' : List OrderItem} {discount bp : ℤ}

theorem grossOf_nonneg (lines : List OrderItem) : 0 ≤ grossOf lines := by
  unfold grossOf
  induction lines.filter fun l => countsTowardsBill l.kotStatus with
  | nil => exact Int.le_refl 0
  | cons l ls ih =>
    have hline : 0 ≤ l.pricePaiseSnapshot * l.qty :=
      Int.mul_nonneg l.counted.1 (Int.le_trans (by decide) l.counted.2)
    rw [List.map_cons, List.sum_cons]
    omega

theorem computeBill_congr (h : grossOf lines = grossOf lines') :
    computeBill lines taxPercent discount bp = computeBill lines' taxPercent discount bp := by
  unfold computeBill
  rw [h]

theorem computeBill_discount : (computeBill lines taxPercent discount bp).discountPaise =
    min (max 0 discount) (grossOf lines) := rfl

theorem computeBill_again : computeBill lines taxPercent
      (computeBill lines taxPercent discount bp).discountPaise bp =
    computeBill lines taxPercent discount bp := by
  have hgross := grossOf_nonneg lines
  have hclamp : min (max 0 (min (max 0 discount) (grossOf lines))) (grossOf lines) =
      min (max 0 discount) (grossOf lines) := by omega
  unfold computeBill
  simp only [hclamp]

end Arithmetic

/-! ## Writes that keep bills -/

section Writes

variable {taxPercent : ℚ} {db db' : HotelDb} {o o' : RestaurantOrder} {orderId : Id}

theorem BillDescribes.congr (h : BillDescribes taxPercent db o) (hid : o'.id = o.id)
    (htotals : totalsOf o' = totalsOf o) (hprop : o'.propertyId = o.propertyId)
    (hlines : linesOf o.id db' = linesOf o.id db)
    (hsettings : db'.propertySettings = db.propertySettings) : BillDescribes taxPercent db' o' := by
  have hdiscount : o'.discountPaise = o.discountPaise := congrArg BillTotals.discountPaise htotals
  have hbp : serviceChargeOf o.propertyId db' = serviceChargeOf o.propertyId db := by
    unfold serviceChargeOf
    rw [hsettings]
  constructor
  · rw [htotals, hid, hprop, hdiscount, hlines, hbp]
    exact h.totals
  · rw [hid, hdiscount, hlines]
    exact h.discount

theorem same_of_touched (h : touched 0 o' = touched 0 o) : o'.id = o.id ∧
    o'.propertyId = o.propertyId ∧ totalsOf o' = totalsOf o ∧ (Billed o' ↔ Billed o) := by
  have hfield : ∀ {α : Type} (g : RestaurantOrder → α), g (touched 0 o') = g (touched 0 o) :=
    fun g => congrArg g h
  have hstatus : o'.status = o.status := hfield RestaurantOrder.status
  refine ⟨hfield RestaurantOrder.id, hfield RestaurantOrder.propertyId, hfield totalsOf, ?_⟩
  unfold Billed
  rw [hstatus]

theorem LineStep.keepsBills (h : LineStep orderId db db') (hdb : BillsDescribe taxPercent db)
    (hopen : ∀ o ∈ db.restaurantOrders.find? orderId, ¬Billed o) :
    BillsDescribe taxPercent db' ∧ BillStep db db' := by
  constructor
  · intro o' ho' hbilled
    obtain ⟨o, hfind, hsame⟩ := h.before (find?_key ho')
    obtain ⟨hid, hprop, htotals, hiff⟩ := same_of_touched hsame
    -- the lines of a bill are those of another order
    have hother : o.id ≠ orderId := by
      intro heq
      rw [hid, heq] at hfind
      exact hopen o hfind (hiff.mp hbilled)
    exact (hdb o (mem_of_find? hfind) (hiff.mp hbilled)).congr hid htotals hprop
      (h.lines o.id hother) h.settings
  · refine ⟨h.settings, h.places, fun o ho => ?_⟩
    obtain ⟨o', hfind', hsame⟩ := h.after (find?_key ho)
    obtain ⟨hid, hprop, -, hiff⟩ := same_of_touched hsame
    exact ⟨o', mem_of_find? hfind', hid, hprop, hiff.mpr⟩

theorem keepsBills_set {f : RestaurantOrder → RestaurantOrder} {hf : ∀ o, (f o).id = o.id}
    (hbook : SameBook (setOrder orderId f hf db) db') (hdb : BillsDescribe taxPercent db)
    (hprop : ∀ o, (f o).propertyId = o.propertyId)
    (hrow : ∀ o ∈ db.restaurantOrders, o.id = orderId →
      (Billed o → Billed (f o)) ∧ (Billed (f o) → BillDescribes taxPercent db (f o))) :
    BillsDescribe taxPercent db' ∧ BillStep db db' := by
  constructor
  · intro o' ho' hbilled
    have hset : o' ∈ (setOrder orderId f hf db).restaurantOrders := by
      rw [← hbook.orders]
      exact ho'
    obtain ⟨o, ho, heq⟩ := mem_setOrder.mp hset
    have hdescribes : BillDescribes taxPercent db o' := by
      by_cases hid : o.id = orderId
      · rw [if_pos hid] at heq
        subst heq
        exact (hrow o ho hid).2 hbilled
      · rw [if_neg hid] at heq
        subst heq
        exact hdb o' ho hbilled
    exact hdescribes.congr rfl rfl rfl (hbook.linesOf o'.id) hbook.settings
  · refine ⟨hbook.settings, ?_, fun o ho => ?_⟩
    · intro i hi
      rw [hbook.items]
      exact ⟨i, hi, rfl, rfl⟩
    · rw [hbook.orders]
      refine ⟨if o.id = orderId then f o else o, mem_setOrder.mpr ⟨o, ho, rfl⟩, ?_⟩
      by_cases hid : o.id = orderId
      · rw [if_pos hid]
        exact ⟨hf o, hprop o, (hrow o ho hid).1⟩
      · rw [if_neg hid]
        exact ⟨rfl, rfl, fun h => h⟩

end Writes

/-! ## One call -/

/-- What a call publishes. -/
def BillCall.Publishes (taxPercent : ℚ) : BillCall → Trace → (HotelDb → HotelDb) → Prop
  | .addItems propertyId orderId _ _ _ => LinesWrite propertyId orderId
  | .setKotStatus propertyId orderId _ _ _ _ => LinesWrite propertyId orderId
  | .cancelItem propertyId orderId _ _ => LinesWrite propertyId orderId
  | .bill propertyId orderId now => BillWrite taxPercent propertyId orderId now
  | .applyDiscount propertyId orderId dto now => DiscountWrite taxPercent propertyId orderId dto now
  | .settle propertyId orderId dto settledBy now _ =>
    SettleWrite propertyId orderId dto settledBy now

theorem BillCall.wp_prog (taxSetting : Option ℚ) (call : BillCall) :
    (call.prog taxSetting).wp (call.Publishes (resolveTaxPercent taxSetting)) (fun _ _ _ => True)
      (fun _ _ _ => True) [] .idle := by
  cases call with
  | addItems propertyId orderId items now uuid =>
    exact (addItems_writes { now, uuid, taxSetting } propertyId orderId items).discard
  | setKotStatus propertyId orderId itemId toStatus role now =>
    exact (setKotStatus_writes { now, taxSetting } propertyId orderId itemId toStatus role).discard
  | cancelItem propertyId orderId itemId now =>
    exact (cancelItem_writes { now, taxSetting } propertyId orderId itemId).discard
  | bill propertyId orderId now =>
    exact (bill_writes { now, taxSetting } propertyId orderId).discard
  | applyDiscount propertyId orderId dto now =>
    exact (applyDiscount_writes { now, taxSetting } propertyId orderId dto).discard
  | settle propertyId orderId dto settledBy now uuid =>
    exact (settle_writes { now, uuid, taxSetting } propertyId orderId dto settledBy).discard

section Call

variable {taxPercent : ℚ} {propertyId orderId : Id} {h : Trace} {w : HotelDb → HotelDb}
  {now : HotelDb}

theorem LinesWrite.keeps (hw : LinesWrite propertyId orderId h w)
    (hseen : ∀ b ∈ statesRead h, BillStep b now)
    (hopen : ∀ o ∈ now.restaurantOrders.find? orderId, ¬Billed o)
    (hnow : BillsDescribe taxPercent now) :
    BillsDescribe taxPercent (w now) ∧ BillStep now (w now) := by
  cases hw with
  | mk hread hfound hstatus hw =>
    exact (hw now fun b hb => (hseen b hb).places).keepsBills hnow hopen

theorem serviceChargeOf_now {b b' : HotelDb} {o r : RestaurantOrder} (hb : BillStep b now)
    (hb' : BillStep b' now) (hfound : orderOf propertyId orderId b = some r)
    (ho : o ∈ now.restaurantOrders) (hid : o.id = orderId) :
    serviceChargeOf propertyId b' = serviceChargeOf o.propertyId now := by
  obtain ⟨hfind, hprop⟩ := orderOf_some hfound
  obtain ⟨hmem, hkey⟩ := Table.find?_eq_some.mp hfind
  obtain ⟨o', ho', hid', hprop', -⟩ := hb.orders r hmem
  have heq : o' = o := eq_of_key_eq ho' ho (hid'.trans (hkey.trans hid.symm))
  unfold serviceChargeOf
  rw [← hb'.settings, ← heq, hprop', hprop]

theorem BillWrite.keeps {time : ℤ} (hw : BillWrite taxPercent propertyId orderId time h w)
    (hseen : ∀ b ∈ statesRead h, BillStep b now)
    (hlines : ∀ b ∈ (statesRead h)[1]?, grossOf (linesOf orderId now) = grossOf (linesOf orderId b))
    (hnow : BillsDescribe taxPercent now) :
    BillsDescribe taxPercent (w now) ∧ BillStep now (w now) := by
  cases hw with
  | @mk b b₂ b₃ rest r totals _ hread hfound hstatus htotals hw =>
    rw [hread] at hseen hlines
    refine keepsBills_set (hw now) hnow (fun _ => rfl) fun o ho hid => ⟨fun _ => .inl rfl, ?_⟩
    intro _
    -- the lines and the rate are those that were read
    have hgross := hlines b₂ rfl
    have hbp := serviceChargeOf_now (hseen b (by simp)) (hseen b₃ (by simp)) hfound ho hid
    have hsame : totals = computeBill (linesOf orderId now) taxPercent r.discountPaise
        (serviceChargeOf o.propertyId now) := by
      rw [htotals, hbp]
      exact computeBill_congr hgross.symm
    constructor
    · show totals = computeBill (linesOf o.id now) taxPercent totals.discountPaise _
      rw [hid, hsame]
      exact computeBill_again.symm
    · show 0 ≤ totals.discountPaise ∧ totals.discountPaise ≤ grossOf (linesOf o.id now)
      have hnonneg := grossOf_nonneg (linesOf orderId now)
      rw [hid, hsame, computeBill_discount]
      omega

theorem DiscountWrite.keeps {dto : OrderDiscountDto} {time : ℤ}
    (hw : DiscountWrite taxPercent propertyId orderId dto time h w)
    (hseen : ∀ b ∈ statesRead h, BillStep b now)
    (hguard : ∀ o ∈ now.restaurantOrders.find? orderId, Billed o →
      (∀ b ∈ (statesRead h)[0]?, ∀ r ∈ orderOf propertyId orderId b, r.status = .BILLED) ∧
      (∀ b ∈ (statesRead h)[1]?, grossOf (linesOf orderId now) = grossOf (linesOf orderId b)) ∧
      dto.amountPaise ≤ grossOf (linesOf orderId now))
    (hnow : BillsDescribe taxPercent now) :
    BillsDescribe taxPercent (w now) ∧ BillStep now (w now) := by
  have hrow : ∀ o ∈ now.restaurantOrders, o.id = orderId →
      now.restaurantOrders.find? orderId = some o := by
    intro o ho hid
    rw [← hid]
    exact find?_key ho
  cases hw with
  | @onOpen b rest r _ hread hfound hopen hw =>
    rw [hread] at hguard
    refine keepsBills_set (hw now) hnow (fun _ => rfl) fun o ho hid => ⟨fun hb => hb, ?_⟩
    -- a bill would have been read as one
    intro hbilled
    have hread' := (hguard o (hrow o ho hid) hbilled).1 b rfl r hfound
    rw [hopen] at hread'
    cases hread'
  | @onBilled b b₂ b₃ rest r totals _ hread hfound hstatus htotals hw =>
    rw [hread] at hseen hguard
    refine keepsBills_set (hw now) hnow (fun _ => rfl) fun o ho hid => ⟨fun hb => hb, ?_⟩
    intro hbilled
    obtain ⟨-, hlines, hamount⟩ := hguard o (hrow o ho hid) hbilled
    have hgross := hlines b₂ rfl
    have hbp := serviceChargeOf_now (hseen b (by simp)) (hseen b₃ (by simp)) hfound ho hid
    have hsame : totals = computeBill (linesOf orderId now) taxPercent dto.amountPaise
        (serviceChargeOf o.propertyId now) := by
      rw [htotals, hbp]
      exact computeBill_congr hgross.symm
    have hdiscount : totals.discountPaise = dto.amountPaise := by
      have hnonneg := dto.nonneg
      rw [hsame, computeBill_discount]
      omega
    constructor
    · show BillTotals.mk _ dto.amountPaise _ _ _ =
        computeBill (linesOf o.id now) taxPercent dto.amountPaise _
      rw [hid, ← hdiscount]
      exact hsame.trans (by rw [hdiscount]; rfl)
    · show 0 ≤ dto.amountPaise ∧ dto.amountPaise ≤ grossOf (linesOf o.id now)
      rw [hid]
      exact ⟨dto.nonneg, hamount⟩

theorem SettleWrite.keeps {dto : SettleOrderDto} {settledBy : Option Id} {time : ℤ}
    (hw : SettleWrite propertyId orderId dto settledBy time h w)
    (hseen : ∀ b ∈ statesRead h, BillStep b now) (hnow : BillsDescribe taxPercent now) :
    BillsDescribe taxPercent (w now) ∧ BillStep now (w now) := by
  cases hw with
  | @mk b rest r _ p hread hfound hbilled hpaid hw =>
    rw [hread] at hseen
    have hpaidNow : BillsDescribe taxPercent
        (addPayment (newPayment propertyId orderId dto p.amount settledBy) now) :=
      fun o ho hb => (hnow o ho hb).congr rfl rfl rfl rfl rfl
    have hkept := keepsBills_set (hw now) hpaidNow (fun _ => rfl) fun o ho hid => by
      -- it was billed when it was read, and a bill is not taken back
      obtain ⟨hmem, hkey⟩ := Table.find?_eq_some.mp (orderOf_some hfound).1
      obtain ⟨o', ho', hid', -, hkeep⟩ := (hseen b List.mem_cons_self).orders r hmem
      obtain rfl : o' = o := eq_of_key_eq ho' ho (hid'.trans (hkey.trans hid.symm))
      refine ⟨fun _ => ?_, fun _ => ?_⟩
      · unfold Billed
        simp only [settledOrder]
        by_cases hcovers : r.totalPaise ≤ r.paidPaise + p.amount
        · exact .inr (if_pos hcovers)
        · exact .inl (if_neg hcovers)
      · exact (hpaidNow o' ho' (hkeep (.inl hbilled))).congr rfl rfl rfl rfl rfl
    exact ⟨hkept.1, hkept.2.settings, hkept.2.places, hkept.2.orders⟩

end Call

theorem BillCall.keeps {taxPercent : ℚ} (call : BillCall) {h : Trace} {w : HotelDb → HotelDb}
    {now : HotelDb} (hw : call.Publishes taxPercent h w)
    (hseen : ∀ l b, .saw l b ∈ h → BillsDescribe taxPercent b ∧ BillStep b now)
    (hg : OrderAsRead call w h now) (hnow : BillsDescribe taxPercent now) :
    BillsDescribe taxPercent (w now) ∧ BillStep now (w now) := by
  have hled : ∀ b ∈ statesRead h, BillStep b now := by
    intro b hb
    obtain ⟨l, hl⟩ := mem_statesRead.mp hb
    exact (hseen l b hl).2
  cases call with
  | addItems propertyId orderId items now uuid => exact LinesWrite.keeps hw hled hg hnow
  | setKotStatus propertyId orderId itemId toStatus role now =>
    exact LinesWrite.keeps hw hled hg hnow
  | cancelItem propertyId orderId itemId now => exact LinesWrite.keeps hw hled hg hnow
  | bill propertyId orderId now => exact BillWrite.keeps hw hled hg hnow
  | applyDiscount propertyId orderId dto now => exact DiscountWrite.keeps hw hled hg hnow
  | settle propertyId orderId dto settledBy now uuid => exact SettleWrite.keeps hw hled hnow

/-! ## All calls -/

/-- In every interleaving in which each call meets the order as it has read it, and no discount
on a bill exceeds the lines, every bill is that of its order. Such a discount is at most the
stored subtotal, which is what it leaves, when it is at most half of the lines. -/
theorem bills_describe (taxSetting : Option ℚ) (calls : List BillCall) (db : HotelDb)
    (hdb : BillsDescribe (resolveTaxPercent taxSetting) db) (evs : List Event)
    (c : Config HotelDb RowKey Look Err Unit)
    (hrun : (Config.start db (calls.map (BillCall.prog taxSetting))).run evs = some c)
    (hread : (Config.start db (calls.map (BillCall.prog taxSetting))).Throughout
      (GuardedCalls calls OrderAsRead) evs) :
    BillsDescribe (resolveTaxPercent taxSetting) c.db ∧
      ∀ o ∈ c.db.restaurantOrders, Billed o →
        (o.discountPaise ≤ o.subtotalPaise ↔
          2 * o.discountPaise ≤ grossOf (linesOf o.id c.db)) := by
  have hbills : BillsDescribe (resolveTaxPercent taxSetting) c.db :=
    Config.calls_invariant (BillCall.wp_prog taxSetting) BillStep.refl BillStep.trans
      (fun call _ _ _ hw hseen hg hnow => call.keeps hw hseen hg hnow) hdb evs hread hrun
  refine ⟨hbills, fun o ho hbilled => ?_⟩
  obtain ⟨htotals, hdiscount⟩ := hbills o ho hbilled
  have hsub : o.subtotalPaise = grossOf (linesOf o.id c.db) -
      min (max 0 o.discountPaise) (grossOf (linesOf o.id c.db)) :=
    congrArg BillTotals.subtotalPaise htotals
  omega

/-! ## Bills that do not -/

/-- A takeaway of one dish at ₹100, and tea at ₹20 on the menu. -/
def takeaway : HotelDb :=
  { menuItems := ⟨[{ id := 5, propertyId := 1, name := "Tea", pricePaise := 2000 }], by decide⟩
    restaurantOrders := ⟨[{ id := 1, propertyId := 1, orderNumber := 1 }], by decide⟩
    orderItems := thali }

/-- Tea is added while the bill is made. -/
def addingAndBilling : List BillCall := [.addItems 1 1 tea 0 (fun n => n + 2), .bill 1 1 0]

/-- `addItems` has found the order OPEN and writes once it is BILLED. -/
def addedAfterBill : List Event :=
  List.replicate 2 (.step 0) ++ List.replicate 8 (.step 1) ++ List.replicate 6 (.step 0)

/-- `bill` has read the lines, and another comes before it writes. -/
def addedUnderBill : List Event :=
  List.replicate 3 (.step 1) ++ List.replicate 8 (.step 0) ++ List.replicate 5 (.step 1)

/-- The lines, and then the bill. -/
def addedBeforeBill : List Event := List.replicate 8 (.step 0) ++ List.replicate 8 (.step 1)

/-- ₹200 off. -/
def generous : OrderDiscountDto := { amountPaise := 20000, reason := "regular" }

/-- The bill is made, and ₹200 are taken off. -/
def billingAndDiscount : List BillCall := [.bill 1 1 0, .applyDiscount 1 1 generous 0]

/-- In this order. -/
def discountedAfterBill : List Event := List.replicate 8 (.step 0) ++ List.replicate 8 (.step 1)

/-- The discount has found the order OPEN, and leaves the totals of the bill alone. -/
def discountedUnderBill : List Event :=
  List.replicate 2 (.step 1) ++ List.replicate 8 (.step 0) ++ List.replicate 4 (.step 1)

/-- A discount above the lines is stored as it is; a line comes to an order that is billed
meanwhile; a bill is made of fewer lines than there are; a discount comes without its totals. -/
theorem bill_does_not_describe :
    BillsDescribe 5 takeaway ∧
      (∃ c, (Config.start takeaway (billingAndDiscount.map (BillCall.prog none))).run
          discountedAfterBill = some c ∧
        c.db.restaurantOrders.rows.map totalsOf = [⟨0, 20000, 0, 0, 0⟩] ∧
        ¬BillsDescribe 5 c.db) ∧
      (∃ c, (Config.start takeaway (addingAndBilling.map (BillCall.prog none))).run
          addedAfterBill = some c ∧ ¬BillsDescribe 5 c.db) ∧
      (∃ c, (Config.start takeaway (addingAndBilling.map (BillCall.prog none))).run
          addedUnderBill = some c ∧ ¬BillsDescribe 5 c.db) ∧
      ∃ c, (Config.start takeaway (billingAndDiscount.map (BillCall.prog none))).run
          discountedUnderBill = some c ∧ ¬BillsDescribe 5 c.db :=
  ⟨by decide, ⟨_, rfl, by decide, by decide⟩, ⟨_, rfl, by decide⟩, ⟨_, rfl, by decide⟩, _, rfl,
    by decide⟩

/-- The tea is on the bill. -/
theorem bill_describes_tea :
    ∃ c, (Config.start takeaway (addingAndBilling.map (BillCall.prog none))).run
        addedBeforeBill = some c ∧
      c.db.restaurantOrders.rows.map totalsOf = [⟨12000, 0, 0, 600, 12600⟩] ∧
      BillsDescribe 5 c.db :=
  ⟨_, rfl, by decide, (bills_describe none addingAndBilling takeaway (by decide) addedBeforeBill _
    rfl (by decide)).1⟩

end Travelo

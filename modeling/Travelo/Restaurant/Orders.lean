import Travelo.ReadCommitted.Fragments
import Travelo.ReadCommitted.Guarded
import Travelo.Restaurant

/-!
# What the order calls publish

Each call on an order is one transaction that reads the order first and writes at the end. The
lemmas here say what is published, and from which reads it was computed; the writes are given
up to what bills and settlements are about, the `orderBook`.
-/

namespace Travelo

open ReadCommitted OrdersService

/-! ## The order book -/

/-- The orders, their lines and payments, and the settings of the properties. -/
structure OrderBook where
  orders : Table RestaurantOrder.id
  items : Table OrderItem.id
  payments : List RestaurantOrderPayment
  settings : Table PropertySettings.propertyId

def orderBook (db : HotelDb) : OrderBook where
  orders := db.restaurantOrders
  items := db.orderItems
  payments := db.restaurantOrderPayments
  settings := db.propertySettings

/-- The order has a bill. -/
def Billed (o : RestaurantOrder) : Prop := o.status = .BILLED ∨ o.status = .PAID

instance (o : RestaurantOrder) : Decidable (Billed o) :=
  inferInstanceAs (Decidable (_ ∨ _))

/-- The order book stays. -/
def SameBook (db db' : HotelDb) : Prop := orderBook db' = orderBook db

theorem SameBook.refl (db : HotelDb) : SameBook db db := rfl

theorem SameBook.trans (db db' db'' : HotelDb) (h : SameBook db db') (h' : SameBook db' db'') :
    SameBook db db'' :=
  Eq.trans h' h

/-- The order book and the tables stay. -/
structure SameFloor (db db' : HotelDb) : Prop where
  book : SameBook db db'
  tables : db'.restaurantTables = db.restaurantTables

theorem SameFloor.refl (db : HotelDb) : SameFloor db db := ⟨rfl, rfl⟩

theorem SameFloor.trans (db db' db'' : HotelDb) (h : SameFloor db db') (h' : SameFloor db' db'') :
    SameFloor db db'' :=
  ⟨h.book.trans _ _ _ h'.book, h'.tables.trans h.tables⟩

section Book

variable {id id' : Id} {db db' : HotelDb} {o : RestaurantOrder}

theorem find?_setOrder_self (id : Id) (f : RestaurantOrder → RestaurantOrder)
    (hf : ∀ o, (f o).id = o.id) (db : HotelDb) :
    (setOrder id f hf db).restaurantOrders.find? id = (db.restaurantOrders.find? id).map f :=
  find?_update_self f hf id

theorem find?_setOrder_ne (h : id' ≠ id) (f : RestaurantOrder → RestaurantOrder)
    (hf : ∀ o, (f o).id = o.id) (db : HotelDb) :
    (setOrder id f hf db).restaurantOrders.find? id' = db.restaurantOrders.find? id' :=
  find?_update_ne f hf h

theorem mem_setOrder {f : RestaurantOrder → RestaurantOrder} {hf : ∀ o, (f o).id = o.id} :
    o ∈ (setOrder id f hf db).restaurantOrders ↔
      ∃ r ∈ db.restaurantOrders, o = if r.id = id then f r else r := by
  show o ∈ db.restaurantOrders.update (fun o => o.id = id) f hf ↔ _
  rw [mem_update]
  simp

theorem orderOf_some {propertyId : Id} (h : orderOf propertyId id db = some o) :
    db.restaurantOrders.find? id = some o ∧ o.propertyId = propertyId := by
  have hfound := Option.filter_eq_some_iff.mp h
  exact ⟨hfound.1, by simpa using hfound.2⟩

theorem SameBook.orders (h : SameBook db db') : db'.restaurantOrders = db.restaurantOrders :=
  congrArg OrderBook.orders h

theorem SameBook.items (h : SameBook db db') : db'.orderItems = db.orderItems :=
  congrArg OrderBook.items h

theorem SameBook.payments (h : SameBook db db') :
    db'.restaurantOrderPayments = db.restaurantOrderPayments :=
  congrArg OrderBook.payments h

theorem SameBook.settings (h : SameBook db db') : db'.propertySettings = db.propertySettings :=
  congrArg OrderBook.settings h

theorem SameBook.linesOf (h : SameBook db db') (id : Id) : linesOf id db' = linesOf id db := by
  unfold OrdersService.linesOf
  rw [h.items]

end Book

/-- Lines stay with their orders. -/
def PlacesKept (db db' : HotelDb) : Prop :=
  ∀ i ∈ db.orderItems, ∃ i' ∈ db'.orderItems, i'.id = i.id ∧ i'.orderId = i.orderId

theorem PlacesKept.refl (db : HotelDb) : PlacesKept db db := fun i hi => ⟨i, hi, rfl, rfl⟩

theorem PlacesKept.trans {db db' db'' : HotelDb} (h : PlacesKept db db')
    (h' : PlacesKept db' db'') : PlacesKept db db'' := by
  intro i hi
  obtain ⟨i', hi', hid, hplace⟩ := h i hi
  obtain ⟨i'', hi'', hid', hplace'⟩ := h' i' hi'
  exact ⟨i'', hi'', hid'.trans hid, hplace'.trans hplace⟩

/-- A step at the lines of one open order: orders stay but for `updatedAt`, and so do the lines
of other orders. -/
structure LineStep (orderId : Id) (db db' : HotelDb) : Prop where
  orders : ∀ id, (db'.restaurantOrders.find? id).map (touched 0) =
    (db.restaurantOrders.find? id).map (touched 0)
  lines : ∀ id, id ≠ orderId → linesOf id db' = linesOf id db
  places : PlacesKept db db'
  settings : db'.propertySettings = db.propertySettings

theorem LineStep.refl (orderId : Id) (db : HotelDb) : LineStep orderId db db :=
  ⟨fun _ => rfl, fun _ _ => rfl, .refl db, rfl⟩

theorem LineStep.trans {orderId : Id} (db db' db'' : HotelDb) (h : LineStep orderId db db')
    (h' : LineStep orderId db' db'') : LineStep orderId db db'' where
  orders id := (h'.orders id).trans (h.orders id)
  lines id hid := (h'.lines id hid).trans (h.lines id hid)
  places := h.places.trans h'.places
  settings := h'.settings.trans h.settings

theorem LineStep.before {orderId id : Id} {db db' : HotelDb} {o' : RestaurantOrder}
    (h : LineStep orderId db db') (ho' : db'.restaurantOrders.find? id = some o') :
    ∃ o, db.restaurantOrders.find? id = some o ∧ touched 0 o' = touched 0 o := by
  have heq := h.orders id
  rw [ho'] at heq
  obtain ⟨o, ho, hsame⟩ := Option.map_eq_some_iff.mp heq.symm
  exact ⟨o, ho, hsame.symm⟩

theorem LineStep.after {orderId id : Id} {db db' : HotelDb} {o : RestaurantOrder}
    (h : LineStep orderId db db') (ho : db.restaurantOrders.find? id = some o) :
    ∃ o', db'.restaurantOrders.find? id = some o' ∧ touched 0 o' = touched 0 o := by
  have heq := h.orders id
  rw [ho] at heq
  exact Option.map_eq_some_iff.mp heq

theorem LineStep.sameBook {orderId : Id} {db db' db'' : HotelDb} (h : LineStep orderId db db')
    (hbook : SameBook db' db'') : LineStep orderId db db'' where
  orders id := by rw [hbook.orders, h.orders]
  lines id hid := by rw [hbook.linesOf, h.lines id hid]
  places := by
    intro i hi
    rw [hbook.items]
    exact h.places i hi
  settings := hbook.settings.trans h.settings

/-! ## Parts that leave it alone -/

section Keeps

variable {R : HotelDb → HotelDb → Prop}

theorem requireOrder_keeps (propertyId id : Id) : (requireOrder propertyId id).Keeps R :=
  .bind (.select _ _) fun _ => .orThrow _ _

theorem hydrate_keeps (o : RestaurantOrder) : (OrdersService.hydrate o).Keeps R := by
  refine .bind (.select _ _) fun items => .bind ?_ fun table => .pure _
  cases o.tableId with
  | none => exact .pure _
  | some tableId => exact .select _ _

theorem refreshed_keeps (propertyId id : Id) : (refreshed propertyId id).Keeps R :=
  .bind (requireOrder_keeps propertyId id) fun o => hydrate_keeps o

theorem setTableStatus_keeps (hR : ∀ db tables, R db { db with restaurantTables := tables })
    (o : RestaurantOrder) (status : RestaurantTableStatus) (now : ℤ) :
    (setTableStatus o status now).Keeps R :=
  .forSome _ fun _ => .write _ _ fun _ => hR _ _

theorem applyMovement_keeps
    (hR : ∀ db items movements,
      R db { db with inventoryItems := items, stockMovements := movements })
    (input : ApplyMovementInput) (now : ℤ) : (ItemsService.applyMovement input now).Keeps R := by
  refine .bind (.selectForUpdate _ _ _) fun found => .bind (.orThrow _ _) fun item => ?_
  refine .bind (.throwIf _ _) fun _ => .bind (.throwIf _ _) fun _ => ?_
  refine .bind (.write _ _ fun _ => hR _ _ _) fun updated => ?_
  exact .bind (.write _ _ fun _ => hR _ _ _) fun _ => .pure _

theorem depleteStock_keeps
    (hR : ∀ db items movements,
      R db { db with inventoryItems := items, stockMovements := movements })
    (propertyId orderId : Id) (settledBy : Option Id) (now : ℤ) :
    (depleteStock propertyId orderId settledBy now).Keeps R := by
  refine .bind (.select _ _) fun lines => .when _ (.bind (.select _ _) fun recipes => ?_)
  refine .bind (.all (fun c => ?_) _) fun _ => .pure _
  exact .tryCatch (.bind (applyMovement_keeps hR _ _) fun _ => .pure _) fun _ => .pure _

theorem postCharge_keeps (input : PostChargeInput) (id : Id) (now : ℤ) :
    (FolioService.postCharge input id now).Keeps SameFloor := by
  have hline : ∀ look, (FolioService.lineOfSource look input.source).Keeps SameFloor :=
    fun look => .of_readOnly (FolioService.lineOfSource_readOnly look _)
  refine .bind (hline _) fun existing => ?_
  cases existing with
  | some line => exact .pure _
  | none =>
    refine .bind (.of_readOnly (FolioService.intraStateForId_readOnly _)) fun intraState => ?_
    refine .bind (.write _ _ fun db => ?_) fun inserted => ?_
    · -- the line is new or it was there
      unfold FolioService.insertLine
      split <;> exact ⟨rfl, rfl⟩
    · cases inserted with
      | some row => exact .pure _
      | none => exact hline _

theorem charge_keeps (e : CorporateCharge) : (DirectBillingService.charge e).Keeps SameFloor :=
  .bind (.bind (.select _ _) fun _ => .orThrow _ _) fun _ => .write _ _ fun _ => ⟨rfl, rfl⟩

theorem record_keeps (e : CashMovement) : (CashService.record e).Keeps SameFloor := by
  refine .bind (.throwIf _ _) fun _ => .bind ?_ fun shift => .write _ _ fun _ => ⟨rfl, rfl⟩
  cases e.recordedBy with
  | none => exact .pure _
  | some staffId => exact .select _ _

theorem postPayment_keeps (env : RestaurantEnv) (propertyId : Id) (order : RestaurantOrder)
    (dto : SettleOrderDto) (p : Payment) (settledBy : Option Id) :
    (postPayment env propertyId order dto p settledBy).Keeps SameFloor := by
  unfold postPayment
  cases dto.method with
  | ROOM_CHARGE => exact .forSome _ fun _ => .bind (postCharge_keeps _ _ _) fun _ => .pure _
  | CORPORATE => exact .forSome _ fun _ => .bind (charge_keeps _) fun _ => .pure _
  | CASH => exact .bind (record_keeps _) fun _ => .pure _
  | _ => exact .pure _

theorem paymentOf_keeps (propertyId : Id) (o : RestaurantOrder) (dto : SettleOrderDto)
    (remaining : ℤ) : (paymentOf propertyId o dto remaining).Keeps R := by
  unfold paymentOf
  cases dto.method with
  | ROOM_CHARGE =>
    exact .bind (.orThrow _ _) fun _ => .bind (.select _ _) fun _ => .bind (.orThrow _ _) fun _ =>
      .pure _
  | CORPORATE => exact .bind (.orThrow _ _) fun _ => .pure _
  | _ => exact .pure _

end Keeps

/-! ## What is published -/

/-- What a call at the lines of an open order publishes. -/
inductive LinesWrite (propertyId orderId : Id) : Trace → (HotelDb → HotelDb) → Prop where
  | mk {h b rest o w} (hread : statesRead h = b :: rest)
      (hfound : orderOf propertyId orderId b = some o) (hopen : o.status = .OPEN)
      (hw : ∀ s, (∀ b ∈ statesRead h, PlacesKept b s) → LineStep orderId s (w s)) :
      LinesWrite propertyId orderId h w

/-- What `bill` publishes: totals of the lines and the rate it has read. -/
inductive BillWrite (taxPercent : ℚ) (propertyId orderId : Id) (now : ℤ) :
    Trace → (HotelDb → HotelDb) → Prop where
  | mk {h b b₂ b₃ rest o totals w} (hread : statesRead h = b :: b₂ :: b₃ :: rest)
      (hfound : orderOf propertyId orderId b = some o) (hopen : o.status = .OPEN)
      (htotals : totals = computeBill (linesOf orderId b₂) taxPercent o.discountPaise
        (serviceChargeOf propertyId b₃))
      (hw : ∀ s, SameBook (setOrder orderId (billed totals now) (billed_id totals now) s) (w s)) :
      BillWrite taxPercent propertyId orderId now h w

/-- What `applyDiscount` publishes, on an open order and on a billed one. -/
inductive DiscountWrite (taxPercent : ℚ) (propertyId orderId : Id) (dto : OrderDiscountDto)
    (now : ℤ) : Trace → (HotelDb → HotelDb) → Prop where
  | onOpen {h b rest o w} (hread : statesRead h = b :: rest)
      (hfound : orderOf propertyId orderId b = some o) (hopen : o.status = .OPEN)
      (hw : ∀ s, SameBook (setOrder orderId (discounted dto now) (discounted_id dto now) s)
        (w s)) : DiscountWrite taxPercent propertyId orderId dto now h w
  | onBilled {h b b₂ b₃ rest o totals w} (hread : statesRead h = b :: b₂ :: b₃ :: rest)
      (hfound : orderOf propertyId orderId b = some o) (hbilled : o.status = .BILLED)
      (htotals : totals = computeBill (linesOf orderId b₂) taxPercent dto.amountPaise
        (serviceChargeOf propertyId b₃))
      (hw : ∀ s, SameBook (setOrder orderId (rebilled dto totals now) (rebilled_id dto totals now)
        s) (w s)) : DiscountWrite taxPercent propertyId orderId dto now h w

/-- What `settle` publishes: one payment, and the order with it. -/
inductive SettleWrite (propertyId orderId : Id) (dto : SettleOrderDto) (settledBy : Option Id)
    (now : ℤ) : Trace → (HotelDb → HotelDb) → Prop where
  | mk {h b rest o w} {p : Payment} (hread : statesRead h = b :: rest)
      (hfound : orderOf propertyId orderId b = some o) (hbilled : o.status = .BILLED)
      (hpaid : 0 ≤ p.amount ∧ p.amount ≤ max 0 (o.totalPaise - o.paidPaise))
      (hw : ∀ s, SameBook (setOrder orderId
        (settledOrder o dto p (o.paidPaise + p.amount) settledBy now)
        (settledOrder_id o dto p (o.paidPaise + p.amount) settledBy now)
        (addPayment (newPayment propertyId orderId dto p.amount settledBy) s)) (w s)) :
      SettleWrite propertyId orderId dto settledBy now h w

/-! ## The calls -/

section Calls

variable (env : RestaurantEnv) (propertyId orderId : Id)

theorem wp_requireOrder {C : Trace → (HotelDb → HotelDb) → Prop} {id : Id}
    {P : RestaurantOrder → Trace → Tx HotelDb → Prop} {h : Trace} {w : HotelDb → HotelDb}
    (hP : ∀ b o, orderOf propertyId id (w b) = some o → P o (.saw (.order id) b :: h) (.active w)) :
    (requireOrder propertyId id).wp C P (fun _ _ _ => True) h (.active w) := by
  simp only [requireOrder, wp_simps]
  exact hP

theorem applyDiscount_writes (dto : OrderDiscountDto) :
    (applyDiscount env propertyId orderId dto).WritesUnder
      (DiscountWrite env.taxPercent propertyId orderId dto env.now) := by
  refine Prog.writesUnder_transaction ?_
  rw [wp_bind]
  refine wp_requireOrder _ fun b o hfound => ?_
  simp only [wp_simps, discountOrder, wp_ite]
  intro hstatus
  constructor
  · intro hbilled
    simp only [itemsFor, serviceChargeBp, updateOrder, wp_simps]
    intro b₂ b₃ b₄
    refine (refreshed_keeps _ _).wp_rest SameBook.refl SameBook.trans fun q w' _ hw => ?_
    exact .onBilled (by rw [statesRead_append]; rfl) hfound hbilled rfl hw
  · intro hnot
    have hopen : o.status = .OPEN := by
      cases hs : o.status <;> simp [hs] at hstatus hnot ⊢
    simp only [updateOrder, wp_write_active, trivially]
    intro _
    refine (refreshed_keeps _ _).wp_rest SameBook.refl SameBook.trans fun q w' _ hw => ?_
    exact .onOpen (by rw [statesRead_append]; rfl) hfound hopen hw

theorem bill_writes : (bill env propertyId orderId).WritesUnder
    (BillWrite env.taxPercent propertyId orderId env.now) := by
  refine Prog.writesUnder_transaction ?_
  rw [wp_bind]
  refine wp_requireOrder _ fun b o hfound => ?_
  simp only [wp_simps, itemsFor, serviceChargeBp, updateOrder]
  intro _ hallowed b₂ _ b₃ _
  have hopen : o.status = .OPEN := by
    cases hs : o.status <;>
      simp [hs, assertOrderTransition, canTransitionOrder, ORDER_TRANSITIONS] at hallowed ⊢
  rw [← wp_bind]
  refine ((setTableStatus_keeps (fun _ _ => rfl) _ _ _).bind
    fun _ => refreshed_keeps _ _).wp_rest SameBook.refl SameBook.trans fun q w' _ hw => ?_
  exact .mk (by rw [statesRead_append]; rfl) hfound hopen rfl hw

theorem lineStep_insert {row : OrderItem} (hrow : row.orderId = orderId) (db : HotelDb) :
    LineStep orderId db (insertLine row db) := by
  refine ⟨fun _ => rfl, fun id hid => ?_, fun i hi => ?_, rfl⟩
  · show ((db.orderItems.insert row).rows.filter fun i => i.orderId = id) =
      db.orderItems.rows.filter fun i => i.orderId = id
    have hne : orderId ≠ id := Ne.symm hid
    cases hkey : db.orderItems.hasKey row.id with
    | false => rw [rows_insert hkey, List.filter_append]; simp [hrow, hne]
    | true => simp [Table.insert, hkey]
  · exact ⟨i, mem_insert_of_mem hi, rfl, rfl⟩

theorem mem_setLine {id : Id} {f : OrderItem → OrderItem} {hf : ∀ i, (f i).id = i.id}
    {db : HotelDb} {i : OrderItem} : i ∈ (setLine id f hf db).orderItems ↔
      ∃ r ∈ db.orderItems, i = if r.id = id then f r else r := by
  show i ∈ db.orderItems.update (fun i => i.id = id) f hf ↔ _
  rw [mem_update]
  simp

theorem lineStep_kot {itemId : Id} (status : KotStatus) (now : ℤ) {db : HotelDb}
    (hitem : ∀ i ∈ db.orderItems, i.id = itemId → i.orderId = orderId) :
    LineStep orderId db (setLine itemId (withKot status now) (withKot_id status now) db) := by
  refine ⟨fun _ => rfl, fun id hid => ?_, fun i hi => ?_, rfl⟩
  · refine Table.filter_update (withKot_id status now) fun i hi hkey => ?_
    have hplace := hitem i hi (by simpa using hkey)
    have hne : i.orderId ≠ id := fun heq => hid (heq.symm.trans hplace)
    exact ⟨decide_eq_false hne, decide_eq_false hne⟩
  · refine ⟨if i.id = itemId then withKot status now i else i, ?_, ?_, ?_⟩
    · exact mem_setLine.mpr ⟨i, hi, rfl⟩
    · split <;> rfl
    · split <;> rfl

theorem lineStep_touched (db : HotelDb) (now : ℤ) :
    LineStep orderId db (setOrder orderId (touched now) (touched_id now) db) := by
  refine ⟨fun id => ?_, fun _ _ => rfl, fun i hi => ⟨i, hi, rfl, rfl⟩, rfl⟩
  by_cases hid : id = orderId
  · subst hid
    rw [find?_setOrder_self, Option.map_map]
    rfl
  · rw [find?_setOrder_ne hid]

theorem menuItemFor_keeps {R : HotelDb → HotelDb → Prop} (menu : List MenuItem)
    (line : AddOrderItemDto) : (menuItemFor menu line).Keeps R :=
  .bind (.orThrow _ _) fun _ => .bind (.throwIf _ _) fun _ => .pure _

theorem addItems_writes (items : List AddOrderItemDto) :
    (addItems env propertyId orderId items).WritesUnder (LinesWrite propertyId orderId) := by
  refine Prog.writesUnder_transaction ?_
  rw [wp_bind]
  refine wp_requireOrder _ fun b o hfound => ?_
  simp only [wp_bind, wp_throwIf, implies_true, true_and]
  intro hopen
  simp only [← wp_bind]
  refine Prog.Keeps.wp_rest (LineStep.refl orderId) LineStep.trans ?_ fun q w' _ hw => ?_
  · refine .bind (.select _ _) fun menu => .bind (.all (menuItemFor_keeps menu) _) fun resolved => ?_
    refine .bind (.all (fun e => .write _ _ fun db => lineStep_insert orderId rfl db) _) fun _ => ?_
    exact .bind (.write _ _ fun db => lineStep_touched orderId db _) fun _ => refreshed_keeps _ _
  · exact .mk (by rw [statesRead_append]; rfl) hfound (by simpa using hopen) fun s _ => hw s

theorem wp_updateKot {b : HotelDb} {o : RestaurantOrder} {item : OrderItem} {itemId : Id}
    (hfound : orderOf propertyId orderId b = some o) (hopen : o.status = .OPEN) {b₂ : HotelDb}
    (hitem : lineOf orderId itemId b₂ = some item) (status : KotStatus) (now : ℤ) :
    (updateKot itemId status now >>= fun _ => refreshed propertyId orderId).wp
      (LinesWrite propertyId orderId)
      (fun _ h t => ∀ w, t = Tx.active w → LinesWrite propertyId orderId h w) (fun _ _ _ => True)
      [.saw (.order orderId) b₂, .saw (.order orderId) b] (.active id) := by
  simp only [updateKot, wp_simps]
  intro _
  refine (refreshed_keeps _ _).wp_rest SameBook.refl SameBook.trans fun q w' _ hw => ?_
  refine .mk (by rw [statesRead_append]; rfl) hfound hopen fun s hplaces => ?_
  obtain ⟨hmem, hplace⟩ := Option.filter_eq_some_iff.mp hitem
  refine (lineStep_kot orderId status now fun i hi hid => ?_).sameBook (hw s)
  -- the line is where it was when it was read
  obtain ⟨i', hi', hid', hplace'⟩ := hplaces b₂ (by simp [statesRead_append]) item
    (mem_of_find? hmem)
  have heq : i' = i := eq_of_key_eq hi' hi (by
    rw [hid', hid, key_of_find? hmem])
  rw [← heq, hplace']
  simpa using hplace

theorem setKotStatus_writes (itemId : Id) (toStatus : KotStatus) (role : KotRole) :
    (setKotStatus env propertyId orderId itemId toStatus role).WritesUnder
      (LinesWrite propertyId orderId) := by
  refine Prog.writesUnder_transaction ?_
  simp only [requireOrderItem, wp_bind]
  refine wp_requireOrder _ fun b o hfound => ?_
  simp only [wp_simps]
  intro b₂ item hitem hopen _ _ _
  rw [← wp_bind]
  exact wp_updateKot propertyId orderId hfound (by simpa using hopen) hitem toStatus env.now

theorem cancelItem_writes (itemId : Id) : (cancelItem env propertyId orderId itemId).WritesUnder
    (LinesWrite propertyId orderId) := by
  refine Prog.writesUnder_transaction ?_
  simp only [requireOrderItem, wp_bind]
  refine wp_requireOrder _ fun b o hfound => ?_
  simp only [wp_simps]
  intro b₂ item hitem hopen _
  rw [← wp_bind]
  exact wp_updateKot propertyId orderId hfound (by simpa using hopen) hitem .CANCELLED env.now

theorem wp_paymentOf {C : Trace → (HotelDb → HotelDb) → Prop} {o : RestaurantOrder}
    {dto : SettleOrderDto} {remaining : ℤ} (hremaining : 0 ≤ remaining)
    {P : Payment → Trace → Tx HotelDb → Prop} {h : Trace} {w : HotelDb → HotelDb}
    (hP : ∀ p q, Quiet q → 0 ≤ p.amount ∧ p.amount ≤ remaining → P p (q ++ h) (.active w)) :
    (paymentOf propertyId o dto remaining).wp C P (fun _ _ _ => True) h (.active w) := by
  have hpart : 0 ≤ min (dto.amountPaise.getD remaining) remaining ∧
      min (dto.amountPaise.getD remaining) remaining ≤ remaining := by
    have hpos : 0 ≤ dto.amountPaise.getD remaining := by
      cases hamount : dto.amountPaise with
      | none => exact hremaining
      | some a =>
        have := dto.positive a hamount
        exact Int.le_trans (by decide) this
    omega
  unfold paymentOf
  cases dto.method with
  | ROOM_CHARGE =>
    simp only [wp_simps]
    exact fun id _ b res _ => hP _ [_] (by simp) ⟨hremaining, Int.le_refl remaining⟩
  | CORPORATE =>
    simp only [wp_simps]
    exact fun id _ => hP _ [] quiet_nil ⟨hremaining, Int.le_refl remaining⟩
  | _ => exact hP _ [] quiet_nil hpart

theorem settle_writes (dto : SettleOrderDto) (settledBy : Option Id) :
    (settle env propertyId orderId dto settledBy).WritesUnder
      (SettleWrite propertyId orderId dto settledBy env.now) := by
  refine Prog.writesUnder_transaction ?_
  rw [wp_bind]
  refine wp_requireOrder _ fun b o hfound => ?_
  simp only [wp_simps]
  intro hbilled
  refine wp_paymentOf _ (Int.le_max_left 0 _) fun p q _ hpaid => ?_
  simp only [updateOrder, wp_write_active, trivially]
  intro _ _
  simp only [← wp_bind]
  refine Prog.Keeps.wp_rest SameBook.refl SameBook.trans ?_ fun q' w' _ hw => ?_
  · have hbook : ∀ s s', SameFloor s s' → SameBook s s' := fun _ _ h => h.book
    refine .bind ((postPayment_keeps _ _ _ _ _ _).mono hbook) fun _ => .bind (.when _ ?_) fun _ =>
      refreshed_keeps _ _
    exact .bind (depleteStock_keeps (fun _ _ _ => rfl) _ _ _ _) fun _ =>
      setTableStatus_keeps (fun _ _ => rfl) _ _ _
  · refine .mk (by rw [statesRead_append, statesRead_append]; rfl) hfound (by simpa using hbilled)
      hpaid hw

end Calls

/-- A dish at ₹100, ordered once. -/
def thali : Table OrderItem.id :=
  ⟨[{ id := 1, orderId := 1, menuItemId := none, nameSnapshot := "Thali",
      pricePaiseSnapshot := 10000 }], by decide⟩

/-- Tea, once. -/
def tea : List AddOrderItemDto := [{ menuItemId := 5, qty := 1 }]

end Travelo

import Travelo.ReadCommitted.Locks
import Travelo.Restaurant

/-!
# The stock ledger

Movements, receipts and sales reach one counter. Each goes through `applyMovement`, which
locks the item before it reads the balance; the item and its movements are what the lock
stands for. `stock_kept`: in every interleaving the quantity on hand is the opening quantity
and the sum of the movements, is never negative, and each movement carries the balance of the
one before it and its own.
-/

namespace Travelo

open ReadCommitted

/-! ## The ledger of an item -/

/-- The movements of an item, in the order they were committed. -/
def movementsOf (itemId : Id) (db : HotelDb) : List StockMovement :=
  db.stockMovements.filter fun m => m.itemId = itemId

/-- Each balance is the one before it and the movement's own delta. -/
def Chained : ℤ → List StockMovement → Prop
  | _, [] => True
  | balance, m :: ms => m.balanceAfter = balance + m.qtyDelta ∧ Chained m.balanceAfter ms

instance decidableChained : (balance : ℤ) → (ms : List StockMovement) →
    Decidable (Chained balance ms)
  | _, [] => .isTrue trivial
  | _, m :: ms =>
    have := decidableChained m.balanceAfter ms
    inferInstanceAs (Decidable (_ ∧ _))

/-- A quantity on hand and its movements, from what there was at the opening. -/
@[mk_iff] structure Balanced (opening qty : ℤ) (ms : List StockMovement) : Prop where
  sum : qty = opening + (ms.map (·.qtyDelta)).sum
  nonneg : 0 ≤ qty
  chained : Chained opening ms

instance (opening qty : ℤ) (ms : List StockMovement) : Decidable (Balanced opening qty ms) :=
  decidable_of_iff _ (balanced_iff ..).symm

/-- The ledger of every item is balanced. -/
def StockKept (opening : Id → ℤ) (db : HotelDb) : Prop :=
  ∀ i ∈ db.inventoryItems, Balanced (opening i.id) i.currentQty (movementsOf i.id db)

instance (opening : Id → ℤ) (db : HotelDb) : Decidable (StockKept opening db) :=
  inferInstanceAs (Decidable (∀ i ∈ db.inventoryItems, _))

theorem chained_concat {m : StockMovement} : ∀ {balance : ℤ} {ms : List StockMovement},
    Chained balance ms → m.balanceAfter = balance + (ms.map (·.qtyDelta)).sum + m.qtyDelta →
      Chained balance (ms ++ [m])
  | balance, [], _, hm => ⟨by simpa using hm, trivial⟩
  | balance, m' :: ms, ⟨hfirst, hrest⟩, hm => by
    refine ⟨hfirst, chained_concat hrest ?_⟩
    rw [hm, hfirst, List.map_cons, List.sum_cons]
    omega

theorem Balanced.move {opening qty : ℤ} {ms : List StockMovement} (h : Balanced opening qty ms)
    {m : StockMovement} (hstays : 0 ≤ qty + m.qtyDelta)
    (hm : m.balanceAfter = qty + m.qtyDelta) :
    Balanced opening (qty + m.qtyDelta) (ms ++ [m]) := by
  refine ⟨?_, hstays, chained_concat h.chained ?_⟩
  · rw [List.map_append, List.sum_append, h.sum]
    simp only [List.map_cons, List.map_nil, List.sum_singleton]
    omega
  · rw [hm, h.sum]

/-! ## What the lock of an item stands for -/

/-- The quantity of an item and its movements. -/
def stockPart : RowKey → HotelDb → Option ℤ × List StockMovement
  | .inventoryItem id, db => ((db.inventoryItems.find? id).map (·.currentQty), movementsOf id db)
  | _, _ => (none, [])

section Parts

variable {opening : Id → ℤ} {db : HotelDb}

theorem stockKept_iff : StockKept opening db ↔ ∀ id, ∀ qty ∈ (stockPart (.inventoryItem id) db).1,
    Balanced (opening id) qty (stockPart (.inventoryItem id) db).2 := by
  constructor
  · intro h id qty hqty
    obtain ⟨i, hi, rfl⟩ := Option.map_eq_some_iff.mp hqty
    obtain ⟨hmem, rfl⟩ := Table.find?_eq_some.mp hi
    exact h i hmem
  · intro h i hi
    exact h i.id i.currentQty (Option.map_eq_some_iff.mpr ⟨i, find?_key hi, rfl⟩)

theorem stockKept_congr {f : HotelDb → HotelDb} (h : ∀ k s, stockPart k (f s) = stockPart k s)
    (s : HotelDb) (hs : StockKept opening s) : StockKept opening (f s) := by
  rw [stockKept_iff] at hs ⊢
  intro id
  rw [h]
  exact hs id

theorem stockPart_stocked (id : Id) (qty now : ℤ) (s : HotelDb) :
    stockPart (.inventoryItem id)
        (ItemsService.setItem id (ItemsService.stocked qty now)
          (ItemsService.stocked_id qty now) s) =
      ((stockPart (.inventoryItem id) s).1.map fun _ => qty,
        (stockPart (.inventoryItem id) s).2) := by
  refine Prod.ext ?_ rfl
  simp only [stockPart, ItemsService.find?_setItem_self, Option.map_map]
  rfl

theorem stockPart_setItem {k : RowKey} {id : Id} (h : k ≠ .inventoryItem id)
    (f : InventoryItem → InventoryItem) (hf : ∀ i, (f i).id = i.id) (s : HotelDb) :
    stockPart k (ItemsService.setItem id f hf s) = stockPart k s := by
  cases k with
  | inventoryItem id' =>
    have hid : id' ≠ id := fun heq => h (congrArg RowKey.inventoryItem heq)
    refine Prod.ext ?_ rfl
    simp only [stockPart, ItemsService.find?_setItem_ne hid]
  | _ => rfl

theorem stockPart_withCost (k : RowKey) (id : Id) (price now : ℤ) (s : HotelDb) :
    stockPart k (ItemsService.setItem id (PurchaseOrdersService.withCost price now)
      (PurchaseOrdersService.withCost_id price now) s) = stockPart k s := by
  by_cases hk : k = .inventoryItem id
  · subst hk
    refine Prod.ext ?_ rfl
    simp only [stockPart, ItemsService.find?_setItem_self, Option.map_map]
    rfl
  · exact stockPart_setItem hk _ _ s

theorem stockPart_addMovement (m : StockMovement) (s : HotelDb) :
    stockPart (.inventoryItem m.itemId) (ItemsService.addMovement m s) =
      ((stockPart (.inventoryItem m.itemId) s).1,
        (stockPart (.inventoryItem m.itemId) s).2 ++ [m]) := by
  simp [stockPart, ItemsService.addMovement, movementsOf, List.filter_append]

theorem stockPart_addMovement_ne {k : RowKey} {m : StockMovement}
    (h : k ≠ .inventoryItem m.itemId) (s : HotelDb) :
    stockPart k (ItemsService.addMovement m s) = stockPart k s := by
  cases k with
  | inventoryItem id =>
    have hid : m.itemId ≠ id := fun heq => h (congrArg RowKey.inventoryItem heq.symm)
    simp [stockPart, ItemsService.addMovement, movementsOf, List.filter_append, hid]
  | _ => rfl

theorem stockPart_move (m : StockMovement) (qty now : ℤ) (s : HotelDb) :
    stockPart (.inventoryItem m.itemId) (ItemsService.addMovement m (ItemsService.setItem m.itemId
        (ItemsService.stocked qty now) (ItemsService.stocked_id qty now) s)) =
      ((stockPart (.inventoryItem m.itemId) s).1.map fun _ => qty,
        (stockPart (.inventoryItem m.itemId) s).2 ++ [m]) := by
  rw [stockPart_addMovement, stockPart_stocked]

theorem stockPart_move_ne {k : RowKey} {m : StockMovement} (h : k ≠ .inventoryItem m.itemId)
    (qty now : ℤ) (s : HotelDb) :
    stockPart k (ItemsService.addMovement m (ItemsService.setItem m.itemId
      (ItemsService.stocked qty now) (ItemsService.stocked_id qty now) s)) = stockPart k s := by
  rw [stockPart_addMovement_ne h, stockPart_setItem h]

/-- So balanced ledgers stay balanced, when the quantity is the one that was read. -/
theorem stockKept_move {m : StockMovement} {qty now : ℤ} (h : StockKept opening db)
    (hqty : (stockPart (.inventoryItem m.itemId) db).1 = some qty)
    (hstays : 0 ≤ qty + m.qtyDelta) (hm : m.balanceAfter = qty + m.qtyDelta) :
    StockKept opening (ItemsService.addMovement m (ItemsService.setItem m.itemId
      (ItemsService.stocked (qty + m.qtyDelta) now) (ItemsService.stocked_id _ now) db)) := by
  rw [stockKept_iff] at h ⊢
  intro id q hq
  by_cases hid : id = m.itemId
  · subst hid
    rw [stockPart_move] at hq ⊢
    obtain rfl : qty + m.qtyDelta = q := by simpa [hqty] using hq
    exact (h m.itemId qty hqty).move hstays hm
  · have hkey : (RowKey.inventoryItem id) ≠ .inventoryItem m.itemId := by simpa using hid
    rw [stockPart_move_ne hkey] at hq ⊢
    exact h id q hq

end Parts

/-! ## Bodies that keep the ledger -/

/-- A body that keeps the ledger: see `Prog.Owned`. -/
abbrev KeepsStock {α : Type} (opening : Id → ℤ) (p : Op α) : Prop :=
  p.Owned stockPart (StockKept opening)

section Bodies

variable {opening : Id → ℤ}

theorem keepsStock_write {α : Type} (rows : HotelDb → List RowKey) {f : HotelDb → HotelDb}
    (q : HotelDb → α) (h : ∀ k s, stockPart k (f s) = stockPart k s) :
    KeepsStock opening (write rows f q) :=
  .write rows q (stockKept_congr h) h

open ItemsService in
/-- The choke point. Between its two writes the quantity is already new and its movement is
missing; nothing is committed there. -/
theorem keepsStock_applyMovement (input : ApplyMovementInput) (now : ℤ) :
    KeepsStock opening (applyMovement input now) := by
  intro held t b h
  cases t with
  | idle => exact absurd h id
  | aborted =>
    exact (Prog.locks_bind _ _).mpr (Prog.locks_stmt_aborted (by simp) _ fun _ _ _ => trivial)
  | active w =>
    simp only [applyMovement, Prog.locks_bind, Prog.locks_selectForUpdate_active,
      Prog.locks_orThrow, Prog.locks_throwIf, Prog.locks_write_active, Prog.locks_pure]
    refine ⟨fun db hI hag => ⟨fun _ => ?_, fun item hfound => ?_⟩, fun _ => trivial⟩
    · exact h.later hI hag (List.subset_append_right _ _)
    have hqty : (stockPart (.inventoryItem item.id) (w db)).1 = some item.currentQty := by
      have hfind := (Option.filter_eq_some_iff.mp hfound).1
      rw [← key_of_find? hfind] at hfind
      simp [stockPart, hfind]
    -- from here on the item is locked
    have h₁ : (Tx.active w).Owes stockPart (StockKept opening) (StockKept opening)
        (RowKey.inventoryItem item.id :: held) db :=
      h.later hI hag (List.subset_cons_self _ _)
    have hknown : (Tx.active w).Owes stockPart (StockKept opening)
        (fun s => StockKept opening s ∧
          (stockPart (.inventoryItem item.id) s).1 = some item.currentQty)
        (RowKey.inventoryItem item.id :: held) db :=
      h₁.known List.mem_cons_self fun s hs hpart => ⟨hs, by rw [hpart, hqty]⟩
    rw [hfound]
    refine ⟨fun _ => h₁, fun _ => ⟨fun _ => h₁, fun hstays => ⟨fun db₂ hI₂ hag₂ =>
      ⟨fun db₃ hI₃ hag₃ => ?_, fun _ => trivial⟩, fun _ => trivial⟩⟩⟩
    have hlater := (hknown.later hI₂ hag₂ (List.subset_cons_self _ _)).later hI₃ hag₃
      (List.subset_append_right [] _)
    have hnonneg : 0 ≤ item.currentQty + stockDelta input.type input.qty := by
      simpa [stockStaysNonNegative] using hstays
    refine Tx.Owes.write (f := fun s => addMovement _ (setItem item.id (stocked _ now) _ s))
      hlater ?_ ?_ ?_
    · rintro s ⟨hs, hpart⟩
      exact stockKept_move hs hpart hnonneg rfl
    · intro s k hk
      refine stockPart_move_ne ?_ _ now s
      rintro rfl
      exact hk (by simp [newMovement])
    · intro s s' k _ hs
      by_cases hkey : k = .inventoryItem item.id
      · subst hkey
        refine (stockPart_move _ _ now s).trans (Eq.trans ?_ (stockPart_move _ _ now s').symm)
        show (Option.map _ (stockPart (.inventoryItem item.id) s).1,
          (stockPart (.inventoryItem item.id) s).2 ++ [_]) = _
        rw [hs]
        rfl
      · exact (stockPart_move_ne hkey _ now s).trans
          (hs.trans (stockPart_move_ne hkey _ now s').symm)

theorem keepsStock_receive (propertyId id : Id) (receivedBy : Option Id) (now b) :
    (PurchaseOrdersService.receive propertyId id receivedBy now).locks stockPart
      (StockKept opening) (fun _ _ _ _ => True) (fun _ _ _ _ => True) [] .idle b := by
  refine Prog.locks_transaction (.bind (.bind (.select _ _) fun _ => .orThrow _ _) fun before => ?_)
  refine .bind (.throwIf _ _) fun _ => .bind (.lift _) fun _ => .bind (.all (fun line => ?_) _)
    fun _ => .bind (keepsStock_write _ _ fun k s => ?_) fun _ => .pure _
  · exact .bind (keepsStock_applyMovement _ now) fun _ =>
      keepsStock_write _ _ fun k s => stockPart_withCost k _ _ now s
  · cases k <;> rfl

theorem keepsStock_updateOrder (id : Id) (f : RestaurantOrder → RestaurantOrder)
    (hf : ∀ o, (f o).id = o.id) : KeepsStock opening (OrdersService.updateOrder id f hf) :=
  keepsStock_write _ _ fun k _ => by cases k <;> rfl

theorem keepsStock_setTableStatus (o : RestaurantOrder) (status : RestaurantTableStatus)
    (now : ℤ) : KeepsStock opening (OrdersService.setTableStatus o status now) :=
  .forSome _ fun _ => keepsStock_write _ _ fun k _ => by cases k <;> rfl

theorem keepsStock_refreshed (propertyId orderId : Id) :
    KeepsStock opening (OrdersService.refreshed propertyId orderId) := by
  refine .bind (.bind (.select _ _) fun _ => .orThrow _ _) fun o => .bind (.select _ _) fun _ =>
    .bind ?_ fun _ => .pure _
  cases o.tableId with
  | none => exact .pure _
  | some tableId => exact .select _ _

theorem keepsStock_postCharge (input : PostChargeInput) (id : Id) (now : ℤ) :
    KeepsStock opening (FolioService.postCharge input id now) := by
  have hsource : ∀ look source, KeepsStock opening (FolioService.lineOfSource look source) := by
    intro look source
    cases source with
    | none => exact .pure _
    | some p => exact .select _ _
  refine .bind (hsource _ _) fun existing => ?_
  cases existing with
  | some line => exact .pure _
  | none =>
    refine .bind ?_ fun intraState => .bind (keepsStock_write _ _ fun k s => ?_) fun row => ?_
    · refine .bind (.select _ _) fun row => ?_
      cases row with
      | none => exact .pure _
      | some r => exact .ite _ (.pure _) (.bind (.select _ _) fun _ => .pure _)
    · unfold FolioService.insertLine
      split
      · rfl
      · cases k <;> rfl
    · cases row with
      | none => exact hsource _ _
      | some line => exact .pure _

theorem keepsStock_depleteStock (propertyId orderId : Id) (settledBy : Option Id) (now : ℤ) :
    KeepsStock opening (OrdersService.depleteStock propertyId orderId settledBy now) := by
  refine .bind (.select _ _) fun lines => .when _ (.bind (.select _ _) fun recipes =>
    .bind (.all (fun c => ?_) _) fun _ => .pure _)
  -- a movement that is refused is skipped
  exact .tryCatch (.bind (keepsStock_applyMovement _ now) fun _ => .pure _) fun _ => .pure _

theorem keepsStock_postPayment (env : RestaurantEnv) (propertyId : Id) (order : RestaurantOrder)
    (dto : SettleOrderDto) (p : OrdersService.Payment) (settledBy : Option Id) :
    KeepsStock opening (OrdersService.postPayment env propertyId order dto p settledBy) := by
  unfold OrdersService.postPayment
  cases dto.method with
  | ROOM_CHARGE =>
    exact .forSome _ fun _ => .bind (keepsStock_postCharge _ _ _) fun _ => .pure _
  | CORPORATE =>
    refine .forSome _ fun accountId => .bind (.bind (.bind (.select _ _) fun _ => .orThrow _ _)
      fun _ => keepsStock_write _ _ fun k _ => ?_) fun _ => .pure _
    cases k <;> rfl
  | CASH =>
    refine .bind (.bind (.throwIf _ _) fun _ => .bind ?_ fun shift =>
      keepsStock_write _ _ fun k _ => ?_) fun _ => .pure _
    · cases settledBy with
      | none => exact .pure _
      | some staffId => exact .select _ _
    · cases k <;> rfl
  | CARD => exact .pure _
  | UPI => exact .pure _

theorem keepsStock_paymentOf (propertyId : Id) (order : RestaurantOrder) (dto : SettleOrderDto)
    (remaining : ℤ) :
    KeepsStock opening (OrdersService.paymentOf propertyId order dto remaining) := by
  unfold OrdersService.paymentOf
  cases dto.method with
  | ROOM_CHARGE =>
    exact .bind (.orThrow _ _) fun _ => .bind (.select _ _) fun _ => .bind (.orThrow _ _)
      fun _ => .pure _
  | CORPORATE => exact .bind (.orThrow _ _) fun _ => .pure _
  | CASH => exact .pure _
  | CARD => exact .pure _
  | UPI => exact .pure _

theorem keepsStock_settle (env : RestaurantEnv) (propertyId orderId : Id) (dto : SettleOrderDto)
    (settledBy : Option Id) (b : HotelDb) :
    (OrdersService.settle env propertyId orderId dto settledBy).locks stockPart
      (StockKept opening) (fun _ _ _ _ => True) (fun _ _ _ _ => True) [] .idle b := by
  refine Prog.locks_transaction (.bind (.bind (.select _ _) fun _ => .orThrow _ _) fun order => ?_)
  refine .bind (.throwIf _ _) fun _ => .bind (keepsStock_paymentOf _ _ _ _) fun p =>
    .bind (keepsStock_write _ _ fun k _ => ?_) fun _ => .bind (keepsStock_updateOrder _ _ _)
    fun _ => .bind (keepsStock_postPayment _ _ _ _ _ _) fun _ => .bind (.when _ ?_)
    fun _ => keepsStock_refreshed _ _
  · cases k <;> rfl
  · exact .bind (keepsStock_depleteStock _ _ _ _) fun _ => keepsStock_setTableStatus _ _ _

end Bodies

/-! ## All calls -/

/-- A call that reaches the store. -/
inductive StockCall where
  | recordMovement (propertyId itemId : Id) (dto : CreateMovementInput) (now : ℤ)
  | receive (propertyId id : Id) (receivedBy : Option Id) (now : ℤ)
  | settle (env : RestaurantEnv) (propertyId orderId : Id) (dto : SettleOrderDto)
      (settledBy : Option Id)

def StockCall.prog : StockCall → Op Unit
  | .recordMovement propertyId itemId dto now => do
    let _ ← ItemsService.recordMovement propertyId itemId dto now
  | .receive propertyId id receivedBy now => do
    let _ ← PurchaseOrdersService.receive propertyId id receivedBy now
  | .settle env propertyId orderId dto settledBy => do
    let _ ← OrdersService.settle env propertyId orderId dto settledBy

/-- In every committed state of every interleaving the ledger of every item is balanced, from
the opening quantities. -/
theorem stock_kept (opening : Id → ℤ) (calls : List StockCall) (db : HotelDb)
    (hdb : StockKept opening db) (evs : List Event) (c : Config HotelDb RowKey Look Err Unit)
    (hrun : (Config.start db (calls.map StockCall.prog)).run evs = some c) :
    StockKept opening c.db := by
  refine Config.run_locks stockPart (fun p hp b => ?_) hdb evs hrun
  obtain ⟨call, -, rfl⟩ := List.mem_map.mp hp
  cases call with
  | recordMovement propertyId itemId dto now =>
    exact locks_discard (Prog.locks_transaction (keepsStock_applyMovement _ now))
  | receive propertyId id receivedBy now =>
    exact locks_discard (keepsStock_receive propertyId id receivedBy now b)
  | settle env propertyId orderId dto settledBy =>
    exact locks_discard (keepsStock_settle env propertyId orderId dto settledBy b)

/-! ## A delivery, a sale and spoilage at once -/

/-- Five eggs are ordered. -/
def eggsSent : Table PurchaseOrder.id :=
  ⟨[{ id := 1, propertyId := 1, poNumber := 1, status := .SENT
      lines := [⟨1, "Eggs", "pcs", 5, 700, 3500, by decide⟩] }], by decide⟩

/-- Ten of an item on hand; five more are delivered, and a billed dish takes four. -/
def storeRoom : HotelDb :=
  { inventoryItems := ⟨[{ id := 1, propertyId := 1, name := "Eggs", sku := "EGG"
                          currentQty := 10 }], by decide⟩
    purchaseOrders := eggsSent
    menuItemRecipes := [⟨1, 1, 1, 2⟩]
    restaurantOrders := ⟨[{ id := 1, propertyId := 1, orderNumber := 1, status := .BILLED
                            subtotalPaise := 30000, totalPaise := 30000 }], by decide⟩
    orderItems := ⟨[{ id := 1, orderId := 1, menuItemId := some 1, nameSnapshot := "Omelette"
                      pricePaiseSnapshot := 15000, qty := 2 }], by decide⟩ }

/-- Three are spoilt while the delivery is received and the dish is paid. -/
def threeWrites : List StockCall :=
  [.recordMovement 1 1 { type := .WASTAGE, qty := 3 } 0, .receive 1 1 none 0,
    .settle {} 1 1 { method := .CASH } none]

/-- Each waits for the lock of the item. -/
def takingTurns : List Event :=
  List.replicate 2 (.step 0) ++ List.replicate 2 (.step 1) ++ List.replicate 7 (.step 2) ++
    List.replicate 3 (.step 0) ++ List.replicate 6 (.step 2) ++ List.replicate 6 (.step 1)

/-- The balances follow each other in the order of the commits. -/
theorem stock_kept_in_turns :
    ∃ c, (Config.start storeRoom (threeWrites.map StockCall.prog)).run takingTurns = some c ∧
      (movementsOf 1 c.db).map (·.balanceAfter) = [7, 3, 8] ∧ StockKept (fun _ => 10) c.db :=
  ⟨_, rfl, by decide, stock_kept (fun _ => 10) threeWrites storeRoom (by decide) takingTurns _ rfl⟩

end Travelo

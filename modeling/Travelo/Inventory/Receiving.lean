import Travelo.Inventory.Stock

/-!
# Receiving a purchase order

`receive` checks the status of the order, adds its lines to the stock and writes the status,
and only the items are locked: two receipts of one delivery can both find the order SENT.
`received_once`: when the status each call has read is still that of the order as it writes,
the lines are added once, as they were at the receipt, and the status follows
`PO_TRANSITIONS`.
-/

namespace Travelo

open ReadCommitted PurchaseOrdersService

/-- A call on a purchase order. -/
inductive PoCall where
  | update (propertyId id : Id) (dto : UpdatePoDto) (now : ℤ)
  | setStatus (propertyId id : Id) (toStatus : PoStatusDto) (now : ℤ)
  | receive (propertyId id : Id) (receivedBy : Option Id) (now : ℤ)

def PoCall.prog : PoCall → Op Unit
  | .update propertyId id dto now => do
    let _ ← PurchaseOrdersService.update propertyId id dto now
  | .setStatus propertyId id toStatus now => do
    let _ ← PurchaseOrdersService.setStatus propertyId id toStatus now
  | .receive propertyId id receivedBy now => do
    let _ ← PurchaseOrdersService.receive propertyId id receivedBy now

/-- The order a call is about. -/
def PoCall.order : PoCall → Id × Id
  | .update propertyId id _ _ => (propertyId, id)
  | .setStatus propertyId id _ _ => (propertyId, id)
  | .receive propertyId id _ _ => (propertyId, id)

/-! ## What was delivered -/

/-- The quantities an order has added to the stock. -/
def deliveredOf (id : Id) (db : HotelDb) : List (Id × ℤ) :=
  (db.stockMovements.filter fun m => m.purchaseOrderId = some id).map fun m =>
    (m.itemId, m.qtyDelta)

/-- The quantities its lines ask for. -/
def orderedOf (lines : List PurchaseOrderLine) : List (Id × ℤ) :=
  lines.map fun l => (l.itemId, l.qty)

/-- A received order has added each of its lines, and any other none. -/
def DeliveredOnce (id : Id) (db : HotelDb) : Prop :=
  ∀ po ∈ db.purchaseOrders.find? id,
    deliveredOf id db = if po.status = .RECEIVED then orderedOf po.lines else []

instance (id : Id) (db : HotelDb) : Decidable (DeliveredOnce id db) :=
  inferInstanceAs (Decidable (∀ _ ∈ _, _))

/-- The status stays or follows the map, and lines are edited in a draft only. -/
def PoStep (id : Id) (db db' : HotelDb) : Prop :=
  ∀ po ∈ db.purchaseOrders.find? id, ∃ po' ∈ db'.purchaseOrders.find? id,
    (po'.status = po.status ∨ canTransitionPo po.status po'.status = true) ∧
      (po.status ≠ .DRAFT → po'.lines = po.lines)

/-- The states in which a call read its order. -/
def poReads (h : Trace) : List HotelDb :=
  h.filterMap fun
    | .saw (.purchaseOrder _) b => some b
    | _ => none

/-- The order has the status the call has read. -/
def StatusAsRead (call : PoCall) (_ : HotelDb → HotelDb) (h : Trace) (now : HotelDb) : Prop :=
  ∀ b ∈ poReads h, (poOf call.order.1 call.order.2 b).map (·.status) =
    (now.purchaseOrders.find? call.order.2).map (·.status)

instance (call : PoCall) (w : HotelDb → HotelDb) (h : Trace) (now : HotelDb) :
    Decidable (StatusAsRead call w h now) :=
  inferInstanceAs (Decidable (∀ b ∈ poReads h, _))

section Orders

variable {id id' : Id} {db db' : HotelDb} {po : PurchaseOrder}

theorem find?_setPo_self (id : Id) (f : PurchaseOrder → PurchaseOrder)
    (hf : ∀ p, (f p).id = p.id) (db : HotelDb) :
    (setPo id f hf db).purchaseOrders.find? id = (db.purchaseOrders.find? id).map f :=
  find?_update_self f hf id

theorem find?_setPo_ne (h : id' ≠ id) (f : PurchaseOrder → PurchaseOrder)
    (hf : ∀ p, (f p).id = p.id) (db : HotelDb) :
    (setPo id f hf db).purchaseOrders.find? id' = db.purchaseOrders.find? id' :=
  find?_update_ne f hf h

theorem poOf_some {propertyId : Id} (h : poOf propertyId id db = some po) :
    db.purchaseOrders.find? id = some po :=
  (Option.filter_eq_some_iff.mp h).1

theorem poStep_refl (db : HotelDb) : PoStep id db db :=
  fun po hpo => ⟨po, hpo, .inl rfl, fun _ => rfl⟩

theorem poStep_of_eq (h : db'.purchaseOrders.find? id = db.purchaseOrders.find? id) :
    PoStep id db db' :=
  fun po hpo => ⟨po, h ▸ hpo, .inl rfl, fun _ => rfl⟩

theorem poStep_set {f : PurchaseOrder → PurchaseOrder}
    (h : db'.purchaseOrders.find? id = (db.purchaseOrders.find? id).map f)
    (hstatus : ∀ po ∈ db.purchaseOrders.find? id,
      (f po).status = po.status ∨ canTransitionPo po.status (f po).status = true)
    (hlines : ∀ po ∈ db.purchaseOrders.find? id, po.status ≠ .DRAFT → (f po).lines = po.lines) :
    PoStep id db db' := by
  intro po hpo
  refine ⟨f po, ?_, hstatus po hpo, hlines po hpo⟩
  rw [h, Option.mem_def.mp hpo]
  rfl

theorem lines_of_sent {po' : PurchaseOrder} (hsteps : Relation.ReflTransGen (PoStep id) db db')
    (hpo : db.purchaseOrders.find? id = some po) (hsent : po.status = .SENT)
    (hpo' : db'.purchaseOrders.find? id = some po') (hsent' : po'.status = .SENT) :
    po'.lines = po.lines := by
  -- from SENT on, the order is SENT with these lines, or it has ended
  have hall : ∃ p ∈ db'.purchaseOrders.find? id,
      (p.status = .SENT ∧ p.lines = po.lines) ∨ p.status = .RECEIVED ∨ p.status = .CANCELLED := by
    clear hpo' hsent'
    induction hsteps with
    | refl => exact ⟨po, hpo, .inl ⟨hsent, rfl⟩⟩
    | tail _ hlast ih =>
      obtain ⟨p, hp, hcase⟩ := ih
      obtain ⟨p', hp', hstatus, hlines⟩ := hlast p hp
      refine ⟨p', hp', ?_⟩
      rcases hcase with ⟨hs, hl⟩ | hs | hs
      · have hkeep : p'.lines = po.lines := (hlines (by simp [hs])).trans hl
        rcases hstatus with h | h
        · exact .inl ⟨h.trans hs, hkeep⟩
        · rw [hs] at h
          exact .inr (by simpa [canTransitionPo, PO_TRANSITIONS] using h)
      · rcases hstatus with h | h
        · exact .inr (.inl (h.trans hs))
        · simp [hs, canTransitionPo, PO_TRANSITIONS] at h
      · rcases hstatus with h | h
        · exact .inr (.inr (h.trans hs))
        · simp [hs, canTransitionPo, PO_TRANSITIONS] at h
  obtain ⟨p, hp, hcase⟩ := hall
  obtain rfl : p = po' := Option.some.inj (hp.symm.trans hpo')
  rcases hcase with ⟨-, hl⟩ | h | h
  · exact hl
  · rw [h] at hsent'
    cases hsent'
  · rw [h] at hsent'
    cases hsent'

end Orders

/-! ## One call -/

/-- A transaction whose writes have added the lines of an order to those of `w`. -/
structure Delivers (id : Id) (lines : List PurchaseOrderLine) (w w' : HotelDb → HotelDb) :
    Prop where
  orders : ∀ s, (w' s).purchaseOrders = (w s).purchaseOrders
  added : ∀ s, deliveredOf id (w' s) = deliveredOf id (w s) ++ orderedOf lines
  others : ∀ s id', id' ≠ id → deliveredOf id' (w' s) = deliveredOf id' (w s)

theorem delivers_nil (id : Id) (w : HotelDb → HotelDb) : Delivers id [] w w :=
  ⟨fun _ => rfl, fun s => (List.append_nil (deliveredOf id (w s))).symm, fun _ _ _ => rfl⟩

theorem Delivers.cons {id : Id} {line : PurchaseOrderLine} {lines : List PurchaseOrderLine}
    {w w' w'' : HotelDb → HotelDb} (h : Delivers id [line] w w') (h' : Delivers id lines w' w'') :
    Delivers id (line :: lines) w w'' := by
  refine ⟨fun s => (h'.orders s).trans (h.orders s), fun s => ?_, fun s id' hid => ?_⟩
  · rw [h'.added, h.added, List.append_assoc]
    rfl
  · exact (h'.others s id' hid).trans (h.others s id' hid)

theorem delivers_line (po : PurchaseOrder) (propertyId : Id) (receivedBy : Option Id)
    (line : PurchaseOrderLine) (balanceAfter now : ℤ) (w : HotelDb → HotelDb) :
    Delivers po.id [line] w fun s =>
      ItemsService.setItem line.itemId (withCost line.unitPricePaise now)
        (withCost_id line.unitPricePaise now)
        (ItemsService.addMovement
          (ItemsService.newMovement (lineMovement po propertyId receivedBy line) line.itemId
            (stockDelta .IN line.qty) balanceAfter)
          (ItemsService.setItem line.itemId (ItemsService.stocked balanceAfter now)
            (ItemsService.stocked_id balanceAfter now) (w s))) := by
  have hqty : stockDelta .IN line.qty = line.qty := by
    have hpos := line.positive
    simp only [stockDelta]
    omega
  refine ⟨fun _ => rfl, fun s => ?_, fun s id' hid => ?_⟩
  · simp [deliveredOf, ItemsService.setItem, ItemsService.addMovement, ItemsService.newMovement,
      lineMovement, List.filter_append, orderedOf, hqty]
  · have hne : po.id ≠ id' := Ne.symm hid
    simp [deliveredOf, ItemsService.setItem, ItemsService.addMovement, ItemsService.newMovement,
      lineMovement, List.filter_append, hne]

section Calls

variable {C : Trace → (HotelDb → HotelDb) → Prop}

variable {w : HotelDb → HotelDb}

open ItemsService in
/-- The choke point in a transaction: it reads the item and writes the quantity and the
movement. -/
theorem wp_applyMovement {input : ApplyMovementInput} {now : ℤ} {h : Trace}
    {P : Option InventoryItem × StockMovement → Trace → Tx HotelDb → Prop}
    (hP : ∀ b answer balanceAfter, P answer (.saw (.inventoryItem input.itemId) b :: h)
      (.active fun s =>
        addMovement
          (newMovement input input.itemId (stockDelta input.type input.qty) balanceAfter)
          (setItem input.itemId (stocked balanceAfter now) (stocked_id balanceAfter now)
            (w s)))) :
    (applyMovement input now).wp C P (fun _ _ _ => True) h (.active w) := by
  simp only [applyMovement, wp_simps, Prog.wp_selectForUpdate_active]
  intro b item hfound _ _ b₂
  have hid : item.id = input.itemId :=
    key_of_find? (Option.filter_eq_some_iff.mp hfound).1
  rw [hid]
  exact fun _ => hP b _ _

theorem wp_receiveLines (po : PurchaseOrder) (propertyId : Id) (receivedBy : Option Id) (now : ℤ)
    {P : List Unit → Trace → Tx HotelDb → Prop} :
    ∀ (lines : List PurchaseOrderLine) (h : Trace) (w : HotelDb → HotelDb),
      (∀ answer h' w', poReads h' = poReads h → Delivers po.id lines w w' →
        P answer h' (.active w')) →
      (all (receiveLine po propertyId receivedBy now) lines).wp C P (fun _ _ _ => True) h
        (.active w) := by
  intro lines
  induction lines generalizing P with
  | nil => exact fun h w hP => hP [] h w rfl (delivers_nil po.id w)
  | cons line lines ih =>
    intro h w hP
    show ((receiveLine po propertyId receivedBy now line).bind _).wp C P _ h (.active w)
    rw [wp_bind']
    simp only [receiveLine, wp_bind]
    refine wp_applyMovement fun b answer balanceAfter => ?_
    simp only [wp_write_active, trivially]
    intro _
    rw [wp_bind']
    refine ih _ _ fun answer' h' w' hreads hdel => ?_
    refine hP _ h' w' hreads (Delivers.cons ?_ hdel)
    exact delivers_line po propertyId receivedBy line balanceAfter now w

theorem wp_resolveLines (propertyId : Id) {P : List PoLineInput → Trace → Tx HotelDb → Prop} :
    ∀ (lines : List PoLineDto) (h : Trace),
      (∀ answer h', poReads h' = poReads h → P answer h' (.active w)) →
      (resolveLines propertyId lines).wp C P (fun _ _ _ => True) h (.active w) := by
  intro lines
  induction lines generalizing P with
  | nil => exact fun h hP => hP [] h rfl
  | cons line lines ih =>
    intro h hP
    show ((resolveLine propertyId line).bind _).wp C P _ h (.active w)
    rw [wp_bind']
    simp only [resolveLine, ItemsService.requireItem, wp_simps]
    intro b item _
    rw [wp_bind']
    exact ih _ fun answer h' hreads => hP _ h' hreads

theorem wp_supplierPatch (propertyId : Id) (dto : UpdatePoDto) {h : Trace}
    {P : Option (Option Id × Option String) → Trace → Tx HotelDb → Prop}
    (hP : ∀ answer h', poReads h' = poReads h → P answer h' (.active w)) :
    (supplierPatch propertyId dto).wp C P (fun _ _ _ => True) h (.active w) := by
  simp only [supplierPatch, wp_ite, wp_simps]
  refine ⟨fun _ => ?_, fun _ => hP none h rfl⟩
  cases dto.supplierId with
  | none => exact hP _ h rfl
  | some supplierId =>
    simp only [resolveSupplierName, wp_simps]
    exact fun b supplier _ => hP _ _ rfl

theorem wp_linesPatch (propertyId : Id) (lines : Option (List PoLineDto)) {h : Trace}
    {P : Option (List PurchaseOrderLine × ℤ) → Trace → Tx HotelDb → Prop}
    (hP : ∀ answer h', poReads h' = poReads h → P answer h' (.active w)) :
    (linesPatch propertyId lines).wp C P (fun _ _ _ => True) h (.active w) := by
  cases lines with
  | none => exact hP none h rfl
  | some lines =>
    simp only [linesPatch, wp_simps]
    exact fun _ => wp_resolveLines propertyId lines h fun answer h' hreads => hP _ h' hreads

/-- What a call publishes, and what it has read of its order. -/
inductive PoWrite : PoCall → Trace → (HotelDb → HotelDb) → Prop where
  | update {propertyId id dto now h b before} {patch : PoPatch} (hread : b ∈ poReads h)
      (hbefore : poOf propertyId id b = some before) (hdraft : before.status = .DRAFT) :
      PoWrite (.update propertyId id dto now) h
        (setPo id (patch.apply now) (patch.apply_id now))
  | setStatus {propertyId id toStatus now h b before} (hread : b ∈ poReads h)
      (hbefore : poOf propertyId id b = some before)
      (hallowed : canTransitionPo before.status (PoStatusDto.status toStatus) = true) :
      PoWrite (.setStatus propertyId id toStatus now) h
        (setPo id (withStatus toStatus.status now) (withStatus_id toStatus.status now))
  | receive {propertyId id receivedBy now h b before w}
      (hread : b ∈ poReads h)
      (hbefore : poOf propertyId id b = some before) (hsent : before.status = .SENT)
      (hdel : Delivers id before.lines (fun s => s) w) :
      PoWrite (.receive propertyId id receivedBy now) h fun s =>
        setPo id (received now) (received_id now) (w s)

theorem PoCall.wp_prog (call : PoCall) :
    call.prog.wp (PoWrite call) (fun _ _ _ => True) (fun _ _ _ => True) [] .idle := by
  cases call with
  | update propertyId id dto now =>
    simp only [prog, PurchaseOrdersService.update, requirePo, wp_simps]
    intro b before hbefore hedit
    refine wp_supplierPatch propertyId dto fun supplier h hreads => ?_
    refine wp_linesPatch propertyId dto.lines fun lines h' hreads' => ?_
    simp only [wp_write_active, trivially]
    intro _
    refine .update (b := b) ?_ hbefore (by simpa [poIsEditable] using hedit)
    rw [hreads', hreads]
    exact List.mem_cons_self
  | setStatus propertyId id toStatus now =>
    simp only [prog, PurchaseOrdersService.setStatus, requirePo, wp_simps]
    intro b before hbefore _ hallowed
    refine .setStatus (b := b) (by simp [poReads]) hbefore ?_
    by_contra hno
    simp [assertPoTransition, hno] at hallowed
  | receive propertyId id receivedBy now =>
    simp only [prog, PurchaseOrdersService.receive, requirePo, wp_simps]
    intro b before hbefore hsent _ _
    refine wp_receiveLines before propertyId receivedBy now _ _ _ fun _ h w hreads hdel => ?_
    simp only [wp_write_active, trivially]
    intro _
    have hid : before.id = id := key_of_find? (poOf_some hbefore)
    refine .receive (b := b) ?_ hbefore (by simpa using hsent) (hid ▸ hdel)
    rw [hreads]
    exact List.mem_cons_self

end Calls

/-! ## All calls -/

section Keeps

variable {id : Id} {call : PoCall} {h : Trace} {w : HotelDb → HotelDb} {now : HotelDb}

theorem mem_of_poReads {b : HotelDb} (hb : b ∈ poReads h) : ∃ l, .saw l b ∈ h := by
  obtain ⟨o, ho, heq⟩ := List.mem_filterMap.mp hb
  split at heq
  · cases heq
    exact ⟨_, ho⟩
  · cases heq

theorem StatusAsRead.row {b : HotelDb} {before : PurchaseOrder} (hg : StatusAsRead call w h now)
    (hb : b ∈ poReads h) (hbefore : poOf call.order.1 call.order.2 b = some before) :
    ∃ po, now.purchaseOrders.find? call.order.2 = some po ∧ po.status = before.status := by
  have hsame := hg b hb
  rw [hbefore] at hsame
  exact Option.map_eq_some_iff.mp hsame.symm

/-- An order that is set to columns other than RECEIVED, from a status other than RECEIVED. -/
theorem deliveredOnce_set {f : PurchaseOrder → PurchaseOrder} {po : PurchaseOrder}
    (hf : ∀ p, (f p).id = p.id) (hnow : DeliveredOnce id now)
    (hpo : now.purchaseOrders.find? id = some po) (hold : po.status ≠ .RECEIVED)
    (hnew : (f po).status ≠ .RECEIVED) : DeliveredOnce id (setPo id f hf now) := by
  intro p hp
  rw [find?_setPo_self, hpo] at hp
  obtain rfl : f po = p := Option.some.inj hp
  have hnone := hnow po hpo
  rw [if_neg hold] at hnone
  rw [if_neg hnew]
  exact hnone

theorem deliveredOnce_set_ne {id' : Id} (hne : id ≠ id') (f : PurchaseOrder → PurchaseOrder)
    (hf : ∀ p, (f p).id = p.id) (hnow : DeliveredOnce id now) :
    DeliveredOnce id (setPo id' f hf now) ∧ PoStep id now (setPo id' f hf now) := by
  have hsame := find?_setPo_ne hne f hf now
  refine ⟨fun po hpo => ?_, poStep_of_eq hsame⟩
  rw [hsame] at hpo
  exact hnow po hpo

theorem PoWrite.keeps (hw : PoWrite call h w)
    (hseen : ∀ l b, .saw l b ∈ h → DeliveredOnce id b ∧ Relation.ReflTransGen (PoStep id) b now)
    (hg : StatusAsRead call w h now) (hnow : DeliveredOnce id now) :
    DeliveredOnce id (w now) ∧ PoStep id now (w now) := by
  cases hw with
  | @update propertyId id' dto time h b before patch hread hbefore hdraft =>
    by_cases hid : id = id'
    · subst hid
      obtain ⟨po, hpo, hstatus⟩ := hg.row hread hbefore
      have hnew : po.status = .DRAFT := hstatus.trans hdraft
      refine ⟨deliveredOnce_set _ hnow hpo (by simp [hnew]) (by simp [PoPatch.apply, hnew]),
        poStep_set (find?_setPo_self _ _ _ _) (fun _ _ => .inl rfl) fun p hp hno => ?_⟩
      obtain rfl : po = p := Option.some.inj (hpo.symm.trans hp)
      exact absurd hnew hno
    · exact deliveredOnce_set_ne hid _ _ hnow
  | @setStatus propertyId id' toStatus time h b before hread hbefore hallowed =>
    by_cases hid : id = id'
    · subst hid
      obtain ⟨po, hpo, hstatus⟩ := hg.row hread hbefore
      rw [← hstatus] at hallowed
      have hold : po.status ≠ .RECEIVED := by
        intro hreceived
        simp [hreceived, canTransitionPo, PO_TRANSITIONS] at hallowed
      have hnew : toStatus.status ≠ .RECEIVED := by cases toStatus <;> simp [PoStatusDto.status]
      refine ⟨deliveredOnce_set _ hnow hpo hold hnew,
        poStep_set (find?_setPo_self _ _ _ _) (fun p hp => ?_) fun _ _ _ => rfl⟩
      obtain rfl : po = p := Option.some.inj (hpo.symm.trans hp)
      exact .inr hallowed
    · exact deliveredOnce_set_ne hid _ _ hnow
  | @receive propertyId id' receivedBy time h b before w hread hbefore hsent hdel =>
    have horders : (w now).purchaseOrders = now.purchaseOrders := hdel.orders now
    by_cases hid : id = id'
    · subst hid
      obtain ⟨po, hpo, hstatus⟩ := hg.row hread hbefore
      have hnew : po.status = .SENT := hstatus.trans hsent
      have hpo' : (w now).purchaseOrders.find? id = some po := by rwa [horders]
      -- the lines that were added are those of the order as it is now
      have hlines : po.lines = before.lines := by
        obtain ⟨l, hsaw⟩ := mem_of_poReads hread
        exact lines_of_sent (hseen l b hsaw).2 (poOf_some hbefore) hsent hpo hnew
      constructor
      · intro p hp
        rw [find?_setPo_self, hpo'] at hp
        obtain rfl : received time po = p := Option.some.inj hp
        have hnone := hnow po hpo
        rw [hnew] at hnone
        have hadded := hdel.added now
        rw [hnone] at hadded
        exact hadded.trans (by rw [← hlines]; rfl)
      · have hrow : (setPo id (received time) (received_id time) (w now)).purchaseOrders.find? id =
            (now.purchaseOrders.find? id).map (received time) := by
          rw [find?_setPo_self, horders]
        refine poStep_set hrow (fun p hp => ?_) fun _ _ _ => rfl
        obtain rfl : po = p := Option.some.inj (hpo.symm.trans hp)
        right
        rw [hnew]
        rfl
    · have hsame : (setPo id' (received time) (received_id time) (w now)).purchaseOrders.find? id =
          now.purchaseOrders.find? id := by rw [find?_setPo_ne hid, horders]
      refine ⟨fun po hpo => ?_, poStep_of_eq hsame⟩
      rw [hsame] at hpo
      exact (hdel.others now id hid).trans (hnow po hpo)

end Keeps

/-- In every interleaving in which the status a call has read is still that of its order as it
writes, each order has added its lines once if it is RECEIVED and none otherwise, and its status
follows the map. -/
theorem received_once (id : Id) (calls : List PoCall) (db : HotelDb) (hdb : DeliveredOnce id db)
    (evs : List Event) (c : Config HotelDb RowKey Look Err Unit)
    (hrun : (Config.start db (calls.map PoCall.prog)).run evs = some c)
    (hread : (Config.start db (calls.map PoCall.prog)).Throughout
      (GuardedCalls calls StatusAsRead) evs) :
    DeliveredOnce id c.db ∧ (Config.start db (calls.map PoCall.prog)).EveryStep (PoStep id) evs := by
  have hsteps := Config.calls_steps (fun call => call.wp_prog) poStep_refl
    (fun _ _ _ _ hw hseen hg hnow => PoWrite.keeps hw hseen hg hnow) hdb evs hread
  exact ⟨Config.EveryStep.invariant (fun _ _ h _ => h.1) evs _ hsteps hrun hdb,
    hsteps.mono fun _ _ h => h.2⟩

/-! ## One delivery, received twice -/

/-- Five eggs are ordered and sent for. -/
def sentOrder : HotelDb :=
  { inventoryItems := ⟨[{ id := 1, propertyId := 1, name := "Eggs", sku := "EGG" }], by decide⟩
    purchaseOrders := eggsSent }

/-- Two receipts and a cancellation. -/
def twoReceipts : List PoCall :=
  [.receive 1 1 none 0, .receive 1 1 none 0, .setStatus 1 1 .CANCELLED 0]

/-- All three have read the order while it is SENT; the second receipt waits for the items. -/
def readTogether : List Event :=
  [.step 2] ++ List.replicate 2 (.step 0) ++ List.replicate 2 (.step 1) ++
    List.replicate 6 (.step 0) ++ List.replicate 6 (.step 1) ++ [.step 2]

/-- One receipt after the other; the second is refused. -/
def readInTurn : List Event := List.replicate 8 (.step 0) ++ List.replicate 3 (.step 1)

/-- The order ends CANCELLED, and its five eggs are there twice. -/
theorem delivery_received_twice :
    DeliveredOnce 1 sentOrder ∧
      ∃ c, (Config.start sentOrder (twoReceipts.map PoCall.prog)).run readTogether = some c ∧
        deliveredOf 1 c.db = [(1, 5), (1, 5)] ∧
        c.db.inventoryItems.rows.map (·.currentQty) = [10] ∧
        c.db.purchaseOrders.rows.map (·.status) = [.CANCELLED] ∧ ¬DeliveredOnce 1 c.db :=
  ⟨by decide, _, rfl, by decide, by decide, by decide, by decide⟩

/-- Received in turn, they are there once. -/
theorem delivery_received_once :
    ∃ c, (Config.start sentOrder (twoReceipts.map PoCall.prog)).run readInTurn = some c ∧
      deliveredOf 1 c.db = [(1, 5)] ∧ DeliveredOnce 1 c.db ∧
      (Config.start sentOrder (twoReceipts.map PoCall.prog)).EveryStep (PoStep 1) readInTurn :=
  ⟨_, rfl, by decide,
    received_once 1 twoReceipts sentOrder (by decide) readInTurn _ rfl (by decide)⟩

end Travelo
